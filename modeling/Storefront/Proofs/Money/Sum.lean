import Mathlib.Algebra.Ring.Int.Defs
import Storefront.Money.Arithmetic
import Storefront.Proofs.Decimal.Order

/-!
# Sums of amounts

Adding amounts up stops where a sum is not a decimal any more or the currency changes. Where it
comes to an end, and each of the sums on the way is a decimal, nothing has been rounded.

* `Money.units_sum`: the sum of amounts, one for each item, in units of decimals.
* `Money.sum_filter_le`: a sum of larger amounts is larger, even where both have been rounded.
-/

namespace Storefront.Money

theorem foldlM_cons_ok {acc m total : Money} {rest : List Money}
    (h : (m :: rest).foldlM add acc = .ok total) :
    ∃ next, acc.add m = .ok next ∧ rest.foldlM add next = .ok total := by
  rw [List.foldlM_cons] at h
  cases hm : acc.add m with
  | error e =>
    rw [hm] at h
    cases h
  | ok next =>
    rw [hm] at h
    exact ⟨next, rfl, h⟩

theorem currency_foldlM_add {acc total : Money} {amounts : List Money}
    (h : amounts.foldlM add acc = .ok total) : total.currency = acc.currency := by
  induction amounts generalizing acc with
  | nil =>
    cases h
    rfl
  | cons m rest ih =>
    obtain ⟨next, hnext, h⟩ := foldlM_cons_ok h
    exact (ih h).trans (add_ok hnext).2.1

/-- A sum has the currency that is asked for. -/
theorem currency_sum {currency : Currency} {amounts : List Money} {total : Money}
    (h : sum currency amounts = .ok total) : total.currency = currency := currency_foldlM_add h

/-- A sum of amounts is exact if all the sums on the way are decimals. -/
theorem units_foldlM_add {acc total : Money} {amounts : List Money}
    (h : amounts.foldlM add acc = .ok total)
    (hfits : ∀ front, front <+: amounts →
      Decimal.Fits (acc.amount.units + (front.map (·.amount.units)).sum)) :
    total.amount.units = acc.amount.units + (amounts.map (·.amount.units)).sum := by
  induction amounts generalizing acc with
  | nil =>
    cases h
    exact (Int.add_zero _).symm
  | cons m rest ih =>
    obtain ⟨first, hm, h⟩ := foldlM_cons_ok h
    have hfirst : first.amount.units = acc.amount.units + m.amount.units :=
      units_add hm (by simpa using hfits [m] ⟨rest, rfl⟩)
    rw [List.map_cons, List.sum_cons, ← Int.add_assoc, ← hfirst]
    refine ih h fun front hfront => ?_
    have hfits := hfits (m :: front) (List.cons_prefix_cons.2 ⟨rfl, hfront⟩)
    rwa [List.map_cons, List.sum_cons, ← Int.add_assoc, ← hfirst] at hfits

/-- A sum of amounts, one for each item, is exact if all the sums on the way are decimals. -/
theorem units_sum {α : Type} {f : α → Money} {items : List α} {currency : Currency}
    {total : Money} (h : sum currency (items.map f) = .ok total)
    (hfits : ∀ front, front <+: items → Decimal.Fits (front.map fun a => (f a).amount.units).sum) :
    total.amount.units = (items.map fun a => (f a).amount.units).sum := by
  have hunits (front : List α) :
      ((front.map f).map (·.amount.units)).sum = (front.map fun a => (f a).amount.units).sum := by
    rw [List.map_map]
    rfl
  have hsum := units_foldlM_add h fun front hfront => by
    rw [List.prefix_iff_eq_take.1 hfront, ← List.map_take, hunits]
    simpa [zero] using hfits _ (List.take_prefix ..)
  rw [hunits] at hsum
  simpa [zero] using hsum

/-! ## Comparing sums -/

/-- A sum is not rounded to less than a decimal that it reaches. -/
theorem le_add {a b c : Money} {amount : Decimal} (h : a.add b = .ok c)
    (hle : amount.units ≤ a.amount.units + b.amount.units) : amount ≤ c.amount := by
  have hself : amount.add? 0 = some amount := Decimal.add?_of_units (Int.add_zero _)
  exact Decimal.add?_mono (by rwa [Decimal.units_zero, Int.add_zero]) hself (add_ok h).2.2

/-- Adding what is not negative does not make less. -/
theorem le_foldlM_add {acc total : Money} {amounts : List Money}
    (hall : ∀ m ∈ amounts, 0 ≤ m.amount) (h : amounts.foldlM add acc = .ok total) :
    acc.amount ≤ total.amount := by
  induction amounts generalizing acc with
  | nil =>
    cases h
    exact Int.le_refl _
  | cons m rest ih =>
    obtain ⟨hm, hrest⟩ := List.forall_mem_cons.1 hall
    obtain ⟨next, hnext, h⟩ := foldlM_cons_ok h
    exact Int.le_trans (le_add hnext (Int.le_add_of_nonneg_right hm)) (ih hrest h)

theorem foldlM_filter_le {α : Type} {f g : α → Money} {keep : α → Bool} {items : List α}
    (hkept : ∀ x ∈ items, keep x = true → (f x).amount ≤ (g x).amount)
    (hrest : ∀ x ∈ items, keep x = false → 0 ≤ (g x).amount) {acc acc' less more : Money}
    (hacc : acc.amount ≤ acc'.amount)
    (hless : ((items.filter keep).map f).foldlM add acc = .ok less)
    (hmore : (items.map g).foldlM add acc' = .ok more) : less.amount ≤ more.amount := by
  induction items generalizing acc acc' with
  | nil =>
    cases hless
    cases hmore
    exact hacc
  | cons x rest ih =>
    obtain ⟨hx, hothers⟩ := List.forall_mem_cons.1 hkept
    obtain ⟨hx', hothers'⟩ := List.forall_mem_cons.1 hrest
    obtain ⟨next', hnext', hmore⟩ := foldlM_cons_ok hmore
    cases hkeep : keep x with
    | true =>
      rw [List.filter_cons_of_pos hkeep] at hless
      obtain ⟨next, hnext, hless⟩ := foldlM_cons_ok hless
      refine ih hothers hothers' ?_ hless hmore
      have hle := Int.add_le_add hacc (hx hkeep)
      exact Decimal.add?_mono hle (add_ok hnext).2.2 (add_ok hnext').2.2
    | false =>
      rw [List.filter_cons_of_neg (by simp [hkeep])] at hless
      have hle := Int.add_le_add hacc (hx' hkeep)
      rw [Decimal.units_zero, Int.add_zero] at hle
      exact ih hothers hothers' (le_add hnext' hle) hless hmore

/-- **A sum of larger amounts is larger**, and amounts that are not negative may be added to it. No
sum needs to be exact. -/
theorem sum_filter_le {α : Type} {f g : α → Money} {keep : α → Bool} {items : List α}
    (hkept : ∀ x ∈ items, keep x = true → (f x).amount ≤ (g x).amount)
    (hrest : ∀ x ∈ items, keep x = false → 0 ≤ (g x).amount) {currency currency' : Currency}
    {less more : Money} (hless : sum currency ((items.filter keep).map f) = .ok less)
    (hmore : sum currency' (items.map g) = .ok more) : less.amount ≤ more.amount :=
  have hzero : (zero currency).amount ≤ (zero currency').amount := Int.le_refl _
  foldlM_filter_le hkept hrest hzero hless hmore

end Storefront.Money
