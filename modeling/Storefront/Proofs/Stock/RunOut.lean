import Storefront.Proofs.Stock.Lines

/-!
# Stocks that run out

While demands are served, the stocks that are announced as empty are those that had something left
before and have nothing left afterwards, each of them once.

* `Shelf.available_untouched_serve`: what a shelf had left is what it has left and what was taken.
* `Tables.emptied_perm`: the stocks announced, compared with the store before and after.
-/

namespace Storefront

/-- The stocks that have run out between two states of a store, as they are in the second. -/
def Stock.ranOut (before after : List Stock) : List Stock :=
  after.filter fun s => s.available = 0 ∧ ∃ r ∈ before, r.id = s.id ∧ 0 < r.available

namespace Shelf

variable {only : Option WarehouseId} {shelves : List Shelf} {before stocks : List Stock}
  {new : List Allocation}

/-- What taking an available quantity keeps true of a shelf stays true of all shelves. -/
theorem forall_serve {Q : Shelf → Prop} (demands : List Demand) (hshelves : ∀ s ∈ shelves, Q s)
    (htake : ∀ s quantity, quantity ≤ s.stock.available → Q s → Q (s.take quantity)) :
    ∀ s ∈ (serve only shelves demands).shelves, Q s := by
  refine List.foldlRecOn (motive := fun state : Serving => ∀ s ∈ state.shelves, Q s) demands
    (serveOne only) hshelves fun state hstate d _ => ?_
  unfold serveOne
  split
  · exact hstate
  · exact (draws_draw _ _ _ _).forall_mem hstate htake

/-- **Nothing gets lost from a shelf.** -/
theorem available_untouched_serve (demands : List Demand) (h : ∀ s ∈ shelves, s.taken = 0) :
    ∀ s ∈ (serve only shelves demands).shelves,
      s.untouched.available = s.stock.available + s.taken := by
  refine forall_serve demands (fun s hs => ?_) fun s quantity hquantity hs => ?_
  · simp [untouched, h s hs]
  · have hleft : (s.take quantity).stock.available = s.stock.available - quantity :=
      available_take s quantity
    have htaken : (s.take quantity).taken = s.taken + quantity := rfl
    rw [untouched_take, hs, hleft, htaken]
    omega

/-- **The stocks of which the last was taken are those that have run out.** -/
theorem Takings.emptied_perm (h : Takings before shelves new) (hsub : before.Subperm stocks)
    (hids : (stocks.map (·.id)).Nodup)
    (hleft : ∀ s ∈ shelves, s.untouched.available = s.stock.available + s.taken) :
    (emptied shelves).Perm (Stock.ranOut stocks (putBack stocks shelves)) := by
  have hbefore : (before.map (·.id)).Nodup := nodup_of_subperm hsub hids
  have hkeys := h.stock_id_mem hsub
  have hemptied : (emptied shelves).Nodup := by
    refine List.Nodup.of_map (·.id) ?_
    rw [emptied, List.map_map]
    exact (h.map_id ▸ hbefore).sublist (List.filter_sublist.map _)
  have hranOut : (Stock.ranOut stocks (putBack stocks shelves)).Nodup :=
    (List.Nodup.of_map (·.id) (map_id_putBack hkeys ▸ hids)).filter _
  refine (List.perm_ext_iff_of_nodup hemptied hranOut).2 fun r => ?_
  simp only [emptied, Stock.ranOut, List.mem_map, List.mem_filter, decide_eq_true_eq]
  constructor
  · rintro ⟨s, ⟨hs, htaken, hempty⟩, rfl⟩
    have hold := hsub.subset (h.untouched_mem hs)
    have hpositive : 0 < s.untouched.available := by
      rw [hleft s hs]
      omega
    refine ⟨?_, hempty, s.untouched, hold, rfl, hpositive⟩
    rw [h.putBack_eq hsub hids, ← h.allocate_untouched hbefore hs]
    exact List.mem_map_of_mem hold
  · rintro ⟨hr, hempty, r₀, hr₀, hid, hpositive⟩
    rcases mem_putBack hids hkeys hr with ⟨s, hs, htaken, rfl⟩ | ⟨hold, -⟩
    · exact ⟨s, ⟨hs, htaken, hempty⟩, rfl⟩
    · -- a stock that nothing was taken of has as much left as before
      obtain rfl := List.inj_on_of_nodup_map hids hr₀ hold hid
      omega

end Shelf

/-- The stocks of a store that are announced as empty when demands are served. -/
theorem Tables.emptied_perm {t : Tables} {demands : List Demand} {country : String}
    {channel : Channel} {only : Option WarehouseId} {now : Moment}
    (hids : (t.stocks.map (·.id)).Nodup) :
    (Shelf.emptied (t.stockServing demands country channel only now).shelves).Perm
      (Stock.ranOut t.stocks
        (Shelf.putBack t.stocks (t.stockServing demands country channel only now).shelves)) := by
  obtain ⟨before, hsub, htakings⟩ :=
    t.serve_takings (demands.filter (·.isStocked now)) country channel only
  exact htakings.emptied_perm hsub hids
    (Shelf.available_untouched_serve _ fun _ => Shelf.taken_arrange)

end Storefront
