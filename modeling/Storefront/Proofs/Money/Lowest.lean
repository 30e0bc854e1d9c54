import Storefront.Money

/-!
# The first of the lowest prices

Where several prices are offered the lowest one counts, and the first of those that are equal. Not
every item of a list has to offer a price.

* `Money.IsLowest`: the item of a list that offers the lowest price first.
* `Money.IsLowest.concat`, `Money.IsLowest.last`: one more item at the end of the list.
* `Money.IsLowest.unique`, `Money.IsLowest.mono`: the place is determined by the list, and a longer
  list has no higher price.
-/

namespace Storefront.Money

variable {α : Type} {offer : α → Option Money} {items : List α} {i : Nat} {price : Money} {x : α}

/-- `IsLowest offer items i price`: of the prices that the items of a list offer, that of the item
at place `i` is the lowest, and none before it is as low. -/
structure IsLowest (offer : α → Option Money) (items : List α) (i : Nat) (price : Money) :
    Prop where
  offered : items[i]?.bind offer = some price
  least : ∀ x ∈ items, ∀ other ∈ offer x, price.amount ≤ other.amount
  first : ∀ j < i, ∀ other ∈ items[j]?.bind offer, price.amount < other.amount

namespace IsLowest

theorem exists_item (h : IsLowest offer items i price) :
    ∃ x, items[i]? = some x ∧ offer x = some price :=
  Option.bind_eq_some_iff.1 h.offered

theorem lt_length (h : IsLowest offer items i price) : i < items.length := by
  obtain ⟨x, hx, -⟩ := h.exists_item
  exact (List.getElem?_eq_some_iff.1 hx).1

/-- One more item changes nothing if it offers no lower price. -/
theorem concat (h : IsLowest offer items i price)
    (hx : ∀ other ∈ offer x, price.amount ≤ other.amount) :
    IsLowest offer (items ++ [x]) i price where
  offered := by
    rw [List.getElem?_append_left h.lt_length]
    exact h.offered
  least := List.forall_mem_append.2 ⟨h.least, List.forall_mem_singleton.2 hx⟩
  first j hj := by
    rw [List.getElem?_append_left (Nat.lt_trans hj h.lt_length)]
    exact h.first j hj

/-- One more item counts if all others offer higher prices. -/
theorem last (hx : offer x = some price)
    (hall : ∀ y ∈ items, ∀ other ∈ offer y, price.amount < other.amount) :
    IsLowest offer (items ++ [x]) items.length price where
  offered := by
    rw [List.getElem?_concat_length]
    exact hx
  least := by
    refine List.forall_mem_append.2 ⟨fun y hy other hother => ?_, ?_⟩
    · exact Int.le_of_lt (hall y hy other hother)
    · rw [List.forall_mem_singleton, hx]
      rintro _ ⟨⟩
      exact Int.le_refl _
  first j hj other hother := by
    rw [List.getElem?_append_left hj] at hother
    obtain ⟨y, hy, hoffer⟩ := Option.bind_eq_some_iff.1 hother
    exact hall y (List.mem_of_getElem? hy) other hoffer

/-- One more item counts if it offers less than the lowest price so far. -/
theorem concat_lt {lower : Money} (h : IsLowest offer items i price) (hx : offer x = some lower)
    (hlt : lower.amount < price.amount) :
    IsLowest offer (items ++ [x]) items.length lower :=
  last hx fun y hy other hother => Int.lt_of_lt_of_le hlt (h.least y hy other hother)

/-- What the items have besides the prices that they offer does not matter. -/
theorem map_iff {f : α → α} (hf : ∀ x, offer (f x) = offer x) :
    IsLowest offer (items.map f) i price ↔ IsLowest offer items i price := by
  have hplace (j : Nat) : (items.map f)[j]?.bind offer = items[j]?.bind offer := by
    rw [List.getElem?_map, Option.bind_map]
    exact congrArg _ (funext hf)
  have hleast : (∀ x ∈ items.map f, ∀ other ∈ offer x, price.amount ≤ other.amount) ↔
      ∀ x ∈ items, ∀ other ∈ offer x, price.amount ≤ other.amount := by
    simp only [List.forall_mem_map, hf]
  constructor
  · rintro ⟨hoffered, hall, hfirst⟩
    simp only [hplace] at hoffered hfirst
    exact ⟨hoffered, hleast.1 hall, hfirst⟩
  · rintro ⟨hoffered, hall, hfirst⟩
    simp only [← hplace] at hoffered hfirst
    exact ⟨hoffered, hleast.2 hall, hfirst⟩

/-- **There is one place** with the first of the lowest prices. -/
theorem unique {j : Nat} {price' : Money} (h : IsLowest offer items i price)
    (h' : IsLowest offer items j price') : i = j ∧ price = price' := by
  have hplace : ∀ {i j : Nat} {price price' : Money}, IsLowest offer items i price →
      IsLowest offer items j price' → ¬ i < j := by
    intro i j price price' h h' hlt
    obtain ⟨x, hx, hoffer⟩ := h'.exists_item
    exact Int.not_le.2 (h'.first i hlt price h.offered)
      (h.least x (List.mem_of_getElem? hx) price' hoffer)
  obtain rfl : i = j := Nat.le_antisymm (Nat.not_lt.1 (hplace h' h)) (Nat.not_lt.1 (hplace h h'))
  exact ⟨rfl, Option.some.inj (h.offered.symm.trans h'.offered)⟩

/-- **More items offer no higher price.** -/
theorem mono {items' : List α} {j : Nat} {price' : Money} (h : IsLowest offer items i price)
    (h' : IsLowest offer items' j price') (hsub : items' ⊆ items) :
    price.amount ≤ price'.amount := by
  obtain ⟨x, hx, hoffer⟩ := h'.exists_item
  exact h.least x (hsub (List.mem_of_getElem? hx)) price' hoffer

end IsLowest

end Storefront.Money
