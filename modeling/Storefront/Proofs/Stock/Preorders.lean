import Storefront.Proofs.Stock.Supply

/-!
# Preorders stay within their thresholds

A variant that is sold ahead may have two limits: one on its preorders in each channel, and one on
those in all channels together. Demands for a variant count together against both, so that what is
allocated on any listings of the variant is never more than what has been checked.

* `Tables.PreordersWithin`: both limits.
* `Tables.preorderShortages_eq_nil`: what is compared with the thresholds.
* `PreorderAllocation.Within.append_preorders`: demands that were compared with one threshold keep
  to it.
* `allocatePreorders_within`: allocating preorders keeps both limits.
-/

namespace Storefront

/-! ## The limits -/

namespace PreorderAllocation

/-- What has been preordered on some listings. -/
def onListings (rows : List PreorderAllocation) (listings : List VariantListingId) : Nat :=
  Quantity.total ((rows.filter fun r => listings.contains r.listingId).map (·.quantity))

/-- What has been preordered on some listings does not go beyond a threshold, if there is one. -/
def Within (rows : List PreorderAllocation) (threshold : Option Nat)
    (listings : List VariantListingId) : Prop :=
  ∀ most ∈ threshold, onListings rows listings ≤ most

theorem onListings_append (a b : List PreorderAllocation) (listings : List VariantListingId) :
    onListings (a ++ b) listings = onListings a listings + onListings b listings := by
  simp [onListings]

theorem onListings_cons (r : PreorderAllocation) (rest : List PreorderAllocation)
    (listings : List VariantListingId) :
    onListings (r :: rest) listings =
      (if listings.contains r.listingId then r.quantity else 0) + onListings rest listings :=
  Quantity.total_filter_cons _ _ r rest

end PreorderAllocation

/-- The preorders of a store are within the thresholds of each listing and of each variant. -/
structure Tables.PreordersWithin (t : Tables) : Prop where
  channel : ∀ l ∈ t.variantListings,
    PreorderAllocation.Within t.preorderAllocations l.preorderQuantityThreshold [l.id]
  variant : ∀ v, t.variant? v.id = some v →
    PreorderAllocation.Within t.preorderAllocations v.preorderGlobalThreshold
      ((t.listingsOf v.id).map (·.id))

/-- The demand carries the row of its variant and a listing of that. -/
structure Demand.Stored (t : Tables) (d : Demand) : Prop where
  variant : t.variant? d.variant.id = some d.variant
  listing : d.listing ∈ t.listingsOf d.variant.id

/-- Demands that carry rows of the store, with sums in range. -/
structure Demand.Proper (t : Tables) (demands : List Demand) : Prop where
  stored : ∀ d ∈ demands, d.Stored t
  inRange : InRange demands

namespace Demand

variable {t : Tables} {d : Demand} {demands : List Demand}

/-- A demand on a listing of the store has this listing, and the variant of it. -/
theorem Stored.listing_eq (h : d.Stored t) (hids : (t.variantListings.map (·.id)).Nodup)
    {l : VariantListing} (hl : l ∈ t.variantListings) (hid : d.listing.id = l.id) :
    d.listing = l ∧ d.variant.id = l.variantId := by
  obtain ⟨hmem, hvariant⟩ := List.mem_filter.1 h.listing
  obtain rfl := List.inj_on_of_nodup_map hids hmem hl hid
  exact ⟨rfl, (of_decide_eq_true hvariant).symm⟩

theorem Proper.sublist {part whole : List Demand} (h : Proper t whole)
    (hsub : part.Sublist whole) : Proper t part :=
  ⟨fun d hd => h.stored d (hsub.subset hd), h.inRange.sublist hsub⟩

theorem Proper.requested_eq (h : Proper t demands) (hd : d ∈ demands) :
    requested demands d.variant.id = asked demands d.variant.id := by
  rw [Demand.requested_eq, Nat.min_eq_left (h.inRange d hd)]

end Demand

/-! ## One threshold -/

namespace Demand

variable {listings : List VariantListingId} {variant : VariantId}

/-- A demand adds its quantity to the preorders on its listing, if it has an order line. -/
theorem onListings_preorders_cons_le (d : Demand) (rest : List Demand) :
    PreorderAllocation.onListings (preorders (d :: rest)) listings ≤
      (if d.listing.id ∈ listings then d.quantity else 0) +
        PreorderAllocation.onListings (preorders rest) listings := by
  cases hline : d.orderLineId with
  | none =>
    have hskip : preorders (d :: rest) = preorders rest := by simp [preorders, hline]
    rw [hskip]
    exact Nat.le_add_left _ _
  | some line =>
    have hrow : preorders (d :: rest) = ⟨line, d.listing.id, d.quantity⟩ :: preorders rest := by
      simp [preorders, hline]
    rw [hrow, PreorderAllocation.onListings_cons]
    simp

/-- The preorders on listings of one variant are not more than the demands on these listings ask for
of the variant. -/
theorem onListings_preorders_le {demands : List Demand}
    (hown : ∀ d ∈ demands, d.listing.id ∈ listings → d.variant.id = variant) :
    PreorderAllocation.onListings (preorders demands) listings ≤
      asked (demands.filter (·.listing.id ∈ listings)) variant := by
  induction demands with
  | nil => exact Nat.zero_le _
  | cons d rest ih =>
    obtain ⟨hd, hrest⟩ := List.forall_mem_cons.1 hown
    have hle := Nat.le_trans (onListings_preorders_cons_le d rest)
      (Nat.add_le_add_left (ih hrest) _)
    by_cases hlisting : d.listing.id ∈ listings
    · rw [if_pos hlisting] at hle
      rw [List.filter_cons_of_pos (by simpa using hlisting), asked_cons, if_pos (hd hlisting)]
      exact hle
    · rw [if_neg hlisting, Nat.zero_add] at hle
      rw [List.filter_cons_of_neg (by simpa using hlisting)]
      exact hle

end Demand

/-- **Demands that were compared with a threshold keep to it**, where the threshold is for listings
of one variant and all that they ask for of the variant is no more than was left. -/
theorem PreorderAllocation.Within.append_preorders {rows : List PreorderAllocation}
    {threshold : Option Nat} {listings : List VariantListingId} {demands : List Demand}
    {variant : VariantId} (h : Within rows threshold listings)
    (hown : ∀ d ∈ demands, d.listing.id ∈ listings → d.variant.id = variant)
    (hleft : ∀ d ∈ demands, d.listing.id ∈ listings →
      ∀ most ∈ threshold, Demand.asked demands variant ≤ most - onListings rows listings) :
    Within (rows ++ Demand.preorders demands) threshold listings := by
  intro most hmost
  have hbefore : onListings rows listings ≤ most := h most hmost
  have hnew : onListings (Demand.preorders demands) listings ≤
      Demand.asked (demands.filter (·.listing.id ∈ listings)) variant :=
    Demand.onListings_preorders_le hown
  rw [onListings_append]
  by_cases hsome : ∃ d ∈ demands, d.listing.id ∈ listings
  · obtain ⟨d, hd, hlisting⟩ := hsome
    have hall : Demand.asked (demands.filter (·.listing.id ∈ listings)) variant ≤
        Demand.asked demands variant :=
      Demand.asked_le_of_sublist List.filter_sublist variant
    have hfits := hleft d hd hlisting most hmost
    omega
  · have hnone : demands.filter (·.listing.id ∈ listings) = [] :=
      List.filter_eq_nil_iff.2 fun d hd => by simpa using fun hlisting => hsome ⟨d, hd, hlisting⟩
    rw [hnone] at hnew
    exact Nat.le_trans (Nat.add_le_add_left hnew _) hbefore

/-! ## Both thresholds -/

namespace Tables

variable {t : Tables} {demands : List Demand}

/-- No demand is short where all that is asked for of its variant is left of both thresholds. -/
theorem preorderShortages_eq_nil :
    t.preorderShortages demands = [] ↔ ∀ d ∈ demands,
      (∀ left ∈ t.channelPreordersLeft? d, Demand.requested demands d.variant.id ≤ left) ∧
      ∀ left ∈ t.globalPreordersLeft? d, Demand.requested demands d.variant.id ≤ left := by
  have hshort (left? : Option Nat) (requested : Nat) :
      left?.filter (· < requested) = none ↔ ∀ left ∈ left?, requested ≤ left := by
    cases left? <;> simp [Option.filter]
  rw [preorderShortages, List.filterMap_eq_nil_iff]
  refine forall_congr' fun d => forall_congr' fun _ => ?_
  rw [Option.map_eq_none_iff, Option.orElse_eq_or, Option.or_eq_none_iff, hshort, hshort]

/-- **Preorders that are not short keep both limits.** -/
theorem PreordersWithin.allocate (h : t.PreordersWithin)
    (hids : (t.variantListings.map (·.id)).Nodup) (hproper : Demand.Proper t demands)
    (hchecked : t.preorderShortages demands = []) :
    { t with preorderAllocations :=
        t.preorderAllocations ++ Demand.preorders demands : Tables }.PreordersWithin := by
  have hleft := preorderShortages_eq_nil.1 hchecked
  constructor
  · intro l hl
    have hown : ∀ d ∈ demands, d.listing.id ∈ [l.id] → d.listing = l ∧ d.variant.id = l.variantId :=
      fun d hd hid => (hproper.stored d hd).listing_eq hids hl (List.mem_singleton.1 hid)
    refine (h.channel l hl).append_preorders (fun d hd hid => (hown d hd hid).2) ?_
    intro d hd hid most hmost
    obtain ⟨rfl, hvariant⟩ := hown d hd hid
    rw [← hvariant, ← hproper.requested_eq hd]
    exact (hleft d hd).1 _ (Option.mem_map_of_mem _ hmost)
  · intro v (hv : t.variant? v.id = some v)
    have hown : ∀ d ∈ demands, d.listing.id ∈ (t.listingsOf v.id).map (·.id) →
        d.variant = v := by
      intro d hd hid
      obtain ⟨l, hl, hid⟩ := List.mem_map.1 hid
      obtain ⟨hl, hlisted⟩ := List.mem_filter.1 hl
      have hstored := hproper.stored d hd
      have hvariant : d.variant.id = v.id :=
        (hstored.listing_eq hids hl hid.symm).2.trans (of_decide_eq_true hlisted)
      exact Option.some.inj (hstored.variant.symm.trans (hvariant ▸ hv))
    refine (h.variant v hv).append_preorders (fun d hd hid => congrArg _ (hown d hd hid)) ?_
    intro d hd hid most hmost
    obtain rfl := hown d hd hid
    rw [← hproper.requested_eq hd]
    exact (hleft d hd).2 _ (Option.mem_map_of_mem _ hmost)

end Tables

/-! ## The transaction -/

/-- **Allocating preorders keeps both limits**, however many of the demands are for one variant. -/
theorem allocatePreorders_within {s s' : Session} {demands : List Demand} {now : Moment}
    {allocations : List PreorderAllocation}
    (h : (allocatePreorders demands now).run s = (.ok allocations, s'))
    (hwithin : s.tables.PreordersWithin) (hids : (s.tables.variantListings.map (·.id)).Nodup)
    (hproper : Demand.Proper s.tables demands) : s'.tables.PreordersWithin := by
  obtain ⟨hchecked, rfl, rfl⟩ := allocatePreorders_ok h
  exact hwithin.allocate hids (hproper.sublist List.filter_sublist) hchecked

end Storefront
