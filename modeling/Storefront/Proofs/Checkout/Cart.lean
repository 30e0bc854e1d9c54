import Mathlib.Data.List.Induction
import Mathlib.Data.List.Nodup
import Storefront.Checkout

/-!
# What a cart says about what has been put into it

A cart that items are put into, one addition after the other, keeps the sum of the items of each
variant and the order in which the variants came, and nothing else about the additions.

* `Checkout.tally`: the lines that additions come to.
* `Checkout.addToLines_tally`: one more addition makes the lines of all additions from those of the
  ones before.
* `Checkout.addAll_tallies`: the cart after any additions.
-/

namespace Storefront

namespace Checkout

/-! ## Additions -/

/-- The checkout after items of variants have been put into the cart, one after the other. -/
def addAll (c : Checkout) (additions : List (VariantId × Nat)) : Checkout :=
  additions.foldl (fun c a => c.add a.1 a.2) c

/-- How many items of a variant are put in, all in all. -/
def added (additions : List (VariantId × Nat)) (v : VariantId) : Nat :=
  Quantity.total ((additions.filter (·.1 = v)).map (·.2))

/-- The variants of which items are put in, in the order of the first additions that are not
empty. -/
def addedVariants (additions : List (VariantId × Nat)) : List VariantId :=
  ((additions.filter (0 < ·.2)).map (·.1)).eraseDups

/-- One line for each variant of which items are put in, with all of them. -/
def tally (additions : List (VariantId × Nat)) : List CartLine :=
  (addedVariants additions).map fun v => ⟨v, added additions v⟩

variable {additions : List (VariantId × Nat)} {v : VariantId} {q : Nat}

theorem addAll_concat (c : Checkout) (additions : List (VariantId × Nat)) (v : VariantId)
    (q : Nat) : c.addAll (additions ++ [(v, q)]) = (c.addAll additions).add v q :=
  List.foldl_concat ..

theorem added_concat (additions : List (VariantId × Nat)) (v : VariantId) (q : Nat)
    (w : VariantId) :
    added (additions ++ [(v, q)]) w = added additions w + if v = w then q else 0 := by
  unfold added
  by_cases hv : v = w <;> simp [hv]

theorem added_of_not_mem (h : v ∉ additions.map (·.1)) : added additions v = 0 := by
  have hnone : additions.filter (·.1 = v) = [] := by
    rw [List.filter_eq_nil_iff]
    exact fun a ha hv => h (List.mem_map.2 ⟨a, ha, of_decide_eq_true hv⟩)
  rw [added, hnone]
  rfl

theorem addedVariants_concat (additions : List (VariantId × Nat)) (v : VariantId) (q : Nat) :
    addedVariants (additions ++ [(v, q)]) = addedVariants additions ++
      if 0 < q ∧ v ∉ addedVariants additions then [v] else [] := by
  unfold addedVariants
  rw [List.filter_append, List.map_append, List.eraseDups_append]
  simp only [List.mem_eraseDups]
  by_cases hq : 0 < q <;>
    by_cases hv : v ∈ (additions.filter (0 < ·.2)).map (·.1) <;>
    simp [List.removeAll, List.eraseDups_cons, hq, hv]

/-- The variants are those of which there are items. -/
theorem mem_addedVariants : v ∈ addedVariants additions ↔ 0 < added additions v := by
  induction additions using List.reverseRecOn with
  | nil => simp [addedVariants, added]
  | append_singleton additions a ih =>
    obtain ⟨w, q⟩ := a
    rw [addedVariants_concat, added_concat, List.mem_append, ih]
    by_cases hw : w = v
    · subst hw
      rw [if_pos rfl]
      split
      · rename_i h
        exact iff_of_true (.inr (List.mem_singleton_self w)) (Nat.add_pos_right _ h.1)
      · rename_i h
        rw [ih] at h
        rw [or_iff_left List.not_mem_nil]
        omega
    · rw [if_neg hw, Nat.add_zero, or_iff_left]
      split
      · exact fun h => hw (List.mem_singleton.1 h).symm
      · exact List.not_mem_nil

theorem nodup_addedVariants (additions : List (VariantId × Nat)) :
    (addedVariants additions).Nodup := by
  induction additions using List.reverseRecOn with
  | nil => exact List.nodup_nil
  | append_singleton additions a ih =>
    rw [addedVariants_concat]
    split
    · rename_i h
      exact List.nodup_append'.2 ⟨ih, List.nodup_singleton _, List.disjoint_singleton.2 h.2⟩
    · rwa [List.append_nil]

/-! ## One addition -/

theorem addToLines_of_not_mem {lines : List CartLine} (h : ∀ l ∈ lines, l.variantId ≠ v) :
    addToLines v q lines = lines ++ [⟨v, q⟩] := by
  induction lines with
  | nil => rfl
  | cons l rest ih =>
    obtain ⟨hl, hrest⟩ := List.forall_mem_cons.1 h
    rw [addToLines, if_neg hl, ih hrest, List.cons_append]

/-- Where each variant has one line, items are added to the line of their variant. -/
theorem addToLines_of_mem {variants : List VariantId} (quantity : VariantId → Nat)
    (hdistinct : variants.Nodup) (hv : v ∈ variants) :
    addToLines v q (variants.map fun w => ⟨w, quantity w⟩) =
      variants.map fun w => ⟨w, quantity w + if v = w then q else 0⟩ := by
  induction variants with
  | nil => cases hv
  | cons w rest ih =>
    obtain ⟨hw, hrest⟩ := List.nodup_cons.1 hdistinct
    rw [List.map_cons, List.map_cons, addToLines]
    by_cases heq : w = v
    · subst heq
      rw [if_pos rfl, if_pos rfl]
      refine congrArg _ (List.map_congr_left fun u hu => ?_)
      rw [if_neg (ne_of_mem_of_not_mem hu hw).symm, Nat.add_zero]
    · have hv : v ∈ rest := (List.mem_cons.1 hv).resolve_left (Ne.symm heq)
      rw [if_neg heq, if_neg (Ne.symm heq), Nat.add_zero, ih hrest hv]

theorem pos_of_mem_tally {l : CartLine} (h : l ∈ tally additions) : 0 < l.quantity := by
  obtain ⟨v, hv, rfl⟩ := List.mem_map.1 h
  exact mem_addedVariants.1 hv

/-- **One more addition** makes the lines of all additions from those of the ones before. -/
theorem addToLines_tally (additions : List (VariantId × Nat)) (v : VariantId) (q : Nat) :
    (addToLines v q (tally additions)).filter (0 < ·.quantity) =
      tally (additions ++ [(v, q)]) := by
  have hlines (variants : List VariantId) :
      (variants.map fun w => (⟨w, added (additions ++ [(v, q)]) w⟩ : CartLine)) =
        variants.map fun w => ⟨w, added additions w + if v = w then q else 0⟩ := by
    simp only [added_concat]
  by_cases hv : v ∈ addedVariants additions
  · -- the variant has its line, which stays in its place
    rw [tally, addToLines_of_mem _ (nodup_addedVariants _) hv, tally, addedVariants_concat,
      if_neg fun h => h.2 hv, List.append_nil, hlines, List.filter_eq_self]
    intro l hl
    obtain ⟨w, hw, rfl⟩ := List.mem_map.1 hl
    exact decide_eq_true (Nat.add_pos_left (mem_addedVariants.1 hw) _)
  · -- its line is put behind the others, and goes away again if it is empty
    have hnone : added additions v = 0 := by
      rwa [mem_addedVariants, Nat.not_lt, Nat.le_zero] at hv
    have hother : ∀ w ∈ addedVariants additions, v ≠ w := fun w hw h => hv (h ▸ hw)
    have hsame : (addedVariants additions).map (fun w =>
        (⟨w, added additions w + if v = w then q else 0⟩ : CartLine)) = tally additions :=
      List.map_congr_left fun w hw => by rw [if_neg (hother w hw), Nat.add_zero]
    have hold : (tally additions).filter (0 < ·.quantity) = tally additions :=
      List.filter_eq_self.2 fun l hl => decide_eq_true (pos_of_mem_tally hl)
    rw [addToLines_of_not_mem, List.filter_append, hold, tally.eq_def (additions ++ _), hlines,
      addedVariants_concat, List.map_append, hsame]
    · by_cases hq : 0 < q <;> simp [hq, hv, hnone]
    · intro l hl
      obtain ⟨w, hw, rfl⟩ := List.mem_map.1 hl
      exact (hother w hw).symm

theorem total_addToLines (lines : List CartLine) (v : VariantId) (q : Nat) :
    Quantity.total ((addToLines v q lines).map (·.quantity)) =
      Quantity.total (lines.map (·.quantity)) + q := by
  induction lines with
  | nil => simp [addToLines]
  | cons l rest ih =>
    rw [addToLines]
    split
    · simp only [List.map_cons, Quantity.total_cons]
      omega
    · simp only [List.map_cons, Quantity.total_cons, ih]
      omega

theorem total_filter_pos (lines : List CartLine) :
    Quantity.total ((lines.filter (0 < ·.quantity)).map (·.quantity)) =
      Quantity.total (lines.map (·.quantity)) := by
  induction lines with
  | nil => rfl
  | cons l rest ih =>
    by_cases hl : 0 < l.quantity
    · simp [hl, ih]
    · simp [Nat.le_zero.1 (Nat.not_lt.1 hl), ih]

/-- Items that are put in are in the cart. -/
theorem quantity_add (c : Checkout) (v : VariantId) (q : Nat) :
    (c.add v q).quantity = c.quantity + q := by
  rw [quantity, add, total_filter_pos, total_addToLines, quantity]

/-! ## All additions -/

theorem lines_addAll (token : CheckoutToken) (channel : Channel)
    (additions : List (VariantId × Nat)) :
    ((new token channel).addAll additions).lines = tally additions := by
  induction additions using List.reverseRecOn with
  | nil => rfl
  | append_singleton additions a ih =>
    rw [addAll_concat, add, ih, addToLines_tally]

theorem quantity_addAll (c : Checkout) (additions : List (VariantId × Nat)) :
    (c.addAll additions).quantity = c.quantity + Quantity.total (additions.map (·.2)) := by
  induction additions using List.reverseRecOn with
  | nil => rfl
  | append_singleton additions a ih =>
    rw [addAll_concat, quantity_add, ih, List.map_append, Quantity.total_append, ← Nat.add_assoc]
    rfl

/-- Nothing but the lines changes. -/
theorem addAll_eq (c : Checkout) (additions : List (VariantId × Nat)) :
    c.addAll additions = { c with lines := (c.addAll additions).lines } := by
  induction additions using List.reverseRecOn with
  | nil => rfl
  | append_singleton additions a ih =>
    rw [addAll_concat, add, ih]

/-- The lines are in normal form, and they are those of the additions. -/
structure Tallies (lines : List CartLine) (additions : List (VariantId × Nat)) : Prop where
  distinct : (lines.map (·.variantId)).Nodup
  positive : ∀ l ∈ lines, 0 < l.quantity
  sums : ∀ l ∈ lines, l.quantity = added additions l.variantId
  /-- A variant has a line exactly where items of it have been put in. -/
  present : ∀ v, (∃ l ∈ lines, l.variantId = v) ↔ 0 < added additions v
  ordered : lines.map (·.variantId) = addedVariants additions

theorem tallies_tally (additions : List (VariantId × Nat)) :
    Tallies (tally additions) additions := by
  have hordered : (tally additions).map (·.variantId) = addedVariants additions := by
    rw [tally, List.map_map]
    exact List.map_id _
  exact {
    distinct := hordered ▸ nodup_addedVariants additions
    positive := fun _ => pos_of_mem_tally
    sums := fun l hl => by
      obtain ⟨v, -, rfl⟩ := List.mem_map.1 hl
      rfl
    present := fun v => by
      rw [← mem_addedVariants, ← hordered, List.mem_map]
    ordered := hordered }

/-- **A cart in normal form.** After any additions to an empty cart, each variant has at most one
line, with all of its items, and the lines are in the order in which the variants came. The cart has
as many items as have been put in, the rest of the checkout is as it was, and additions that agree
in the sums and in the order of the variants come to the same lines. -/
theorem addAll_tallies (token : CheckoutToken) (channel : Channel)
    (additions : List (VariantId × Nat)) :
    Tallies ((new token channel).addAll additions).lines additions ∧
      ((new token channel).addAll additions).quantity = Quantity.total (additions.map (·.2)) ∧
      (new token channel).addAll additions =
        { new token channel with lines := ((new token channel).addAll additions).lines } ∧
      ∀ token' channel' additions', (∀ v, added additions' v = added additions v) →
        addedVariants additions' = addedVariants additions →
        ((new token' channel').addAll additions').lines =
          ((new token channel).addAll additions).lines := by
  refine ⟨?_, ?_, addAll_eq .., fun token' channel' additions' hsums horder => ?_⟩
  · rw [lines_addAll]
    exact tallies_tally additions
  · rw [quantity_addAll]
    exact Nat.zero_add _
  · rw [lines_addAll, lines_addAll, tally, tally, horder]
    exact List.map_congr_left fun v _ => by rw [hsums]

end Checkout

namespace Bookshop

/-- Three novels and an atlas, put in with hesitation. -/
def hesitantAdditions : List (VariantId × Nat) :=
  [(⟨⟨1⟩⟩, 2), (⟨⟨2⟩⟩, 0), (⟨⟨2⟩⟩, 1), (⟨⟨1⟩⟩, 1)]

/-- The same books, after a look at another one. -/
def briskAdditions : List (VariantId × Nat) := [(⟨⟨3⟩⟩, 0), (⟨⟨1⟩⟩, 3), (⟨⟨2⟩⟩, 1)]

end Bookshop

namespace Checkout

/-- The same books make the same lines. -/
theorem addAll_tallies_bookshop :
    (∀ v, added Bookshop.briskAdditions v = added Bookshop.hesitantAdditions v) ∧
      addedVariants Bookshop.briskAdditions = addedVariants Bookshop.hesitantAdditions ∧
      ((new ⟨⟨5⟩⟩ default).addAll Bookshop.briskAdditions).lines =
        ((new ⟨⟨4⟩⟩ default).addAll Bookshop.hesitantAdditions).lines := by
  have hnamed : ∀ v ∈ [(⟨⟨1⟩⟩ : VariantId), ⟨⟨2⟩⟩, ⟨⟨3⟩⟩],
      added Bookshop.briskAdditions v = added Bookshop.hesitantAdditions v := by
    decide +kernel
  have hbrisk : Bookshop.briskAdditions.map (·.1) ⊆ [⟨⟨1⟩⟩, ⟨⟨2⟩⟩, ⟨⟨3⟩⟩] := by decide
  have hhesitant : Bookshop.hesitantAdditions.map (·.1) ⊆ [⟨⟨1⟩⟩, ⟨⟨2⟩⟩, ⟨⟨3⟩⟩] := by decide
  have hsums (v : VariantId) :
      added Bookshop.briskAdditions v = added Bookshop.hesitantAdditions v := by
    by_cases hv : v ∈ [(⟨⟨1⟩⟩ : VariantId), ⟨⟨2⟩⟩, ⟨⟨3⟩⟩]
    · exact hnamed v hv
    · rw [added_of_not_mem fun h => hv (hbrisk h), added_of_not_mem fun h => hv (hhesitant h)]
  have hordered : addedVariants Bookshop.briskAdditions =
      addedVariants Bookshop.hesitantAdditions := by
    decide +kernel
  obtain ⟨-, -, -, hsame⟩ := addAll_tallies ⟨⟨4⟩⟩ default Bookshop.hesitantAdditions
  exact ⟨hsums, hordered, hsame ⟨⟨5⟩⟩ default _ hsums hordered⟩

end Checkout

end Storefront
