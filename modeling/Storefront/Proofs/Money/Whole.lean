import Mathlib.Algebra.BigOperators.Ring.List
import Mathlib.Algebra.GroupWithZero.Nat
import Mathlib.Algebra.Order.BigOperators.Group.List
import Mathlib.Algebra.Order.Group.Nat
import Storefront.Proofs.Money.Sum

/-!
# Amounts in minor units

An amount is in minor units if rounding it to the minor unit does not change it. Sums and
differences of such amounts are in minor units as well, also where they have been rounded because
they are large.

* `Money.quantize_iff`: amounts in minor units are the multiples of the minor unit.
* `Money.quantize_sub`, `Money.quantize_foldlM_add`: differences and sums.
* `Money.sub_min`: what a discount leaves of a price is the same if it is no larger than the price.
* `Money.sum_add_of_foldlM`: amounts that are not too large come to the same in both orders.
-/

namespace Storefront.Money

open Decimal (Fits maxPlaces mantissaBound)

/-! ## Minor units -/

/-- **Amounts in minor units are the multiples of the minor unit.** -/
theorem quantize_iff {m : Money} :
    m.quantize = m ↔ (pow10 (maxPlaces - m.currency.places) : Int) ∣ m.amount.units := by
  refine ⟨fun h => ?_, fun h => ?_⟩
  · rw [← h]
    exact Int.dvd_mul_left ..
  · rw [quantize, Decimal.round_of_dvd _ h]

variable {a b c : Money}

theorem quantize_add (ha : a.quantize = a) (hb : b.quantize = b) (h : a.add b = .ok c) :
    c.quantize = c := by
  obtain ⟨hsame, hcurrency, hadd⟩ := add_ok h
  rw [quantize_iff] at ha hb ⊢
  rw [hcurrency]
  exact Decimal.dvd_of_nearest? (Int.dvd_add ha (hsame ▸ hb)) hadd

theorem quantize_sub (ha : a.quantize = a) (hb : b.quantize = b) (h : a.sub b = .ok c) :
    c.quantize = c := by
  obtain ⟨hsame, hcurrency, hsub⟩ := sub_ok h
  rw [quantize_iff] at ha hb ⊢
  rw [hcurrency]
  exact Decimal.dvd_of_nearest? (Int.dvd_sub ha (hsame ▸ hb)) hsub

theorem quantize_foldlM_add {acc total : Money} {amounts : List Money}
    (hacc : acc.quantize = acc) (hall : ∀ m ∈ amounts, m.quantize = m)
    (h : amounts.foldlM add acc = .ok total) : total.quantize = total := by
  induction amounts generalizing acc with
  | nil =>
    cases h
    exact hacc
  | cons m rest ih =>
    obtain ⟨hm, hrest⟩ := List.forall_mem_cons.1 hall
    obtain ⟨next, hnext, h⟩ := foldlM_cons_ok h
    exact ih (quantize_add hacc hm hnext) hrest h

theorem floorAtZero_floorAtZero (m : Money) : m.floorAtZero.floorAtZero = m.floorAtZero := by
  unfold floorAtZero
  split <;> rfl

theorem quantize_floorAtZero (h : a.quantize = a) : a.floorAtZero.quantize = a.floorAtZero := by
  unfold floorAtZero
  split
  · exact quantize_zero _
  · exact h

/-! ## Discounts -/

theorem sub_of_units {d : Decimal} (hcurrency : a.currency = b.currency)
    (h : a.amount.units - b.amount.units = d.units) : a.sub b = .ok ⟨d, a.currency⟩ := by
  rw [sub, combine, if_pos hcurrency, Decimal.sub?_of_units h]
  rfl

theorem sub_zero {currency : Currency} (h : a.currency = currency) :
    a.sub (zero currency) = .ok a :=
  sub_of_units h (Int.sub_zero _)

theorem eq_of_sub_zero {currency : Currency} (h : a.sub (zero currency) = .ok c) : c = a := by
  have hcurrency : a.currency = currency := (sub_ok h).1
  rw [sub_zero hcurrency] at h
  exact (Except.ok.inj h).symm

theorem floorAtZero_of_nonneg (h : 0 ≤ a.amount) : a.floorAtZero = a :=
  if_neg fun hneg => Int.not_lt.2 h (of_decide_eq_true hneg)

theorem floorAtZero_of_le (h : a.amount ≤ 0) : a.floorAtZero = zero a.currency := by
  have hle : a.amount.units ≤ 0 := h
  unfold floorAtZero
  split
  · rfl
  · rename_i hneg
    have hzero : a.amount = 0 := Decimal.ext (Int.le_antisymm hle (Int.not_lt.1 fun hlt =>
      hneg (decide_eq_true hlt)))
    rw [zero, ← hzero]

/-- **What a discount leaves of a price** is the same if it is no larger than the price. -/
theorem sub_min {price discount left : Money} (h : price.sub discount = .ok left) :
    ∃ rest, price.sub (discount.min price) = .ok rest ∧ rest.floorAtZero = left.floorAtZero := by
  obtain ⟨hsame, hcurrency, hsub⟩ := sub_ok h
  unfold min
  split
  · rename_i hlt
    refine ⟨⟨0, price.currency⟩, sub_of_units rfl (Int.sub_self _), ?_⟩
    rw [floorAtZero_of_le (Int.le_refl 0), floorAtZero_of_le ?_, hcurrency]
    exact Decimal.sub?_mono (Int.sub_le_sub_left (Int.le_of_lt hlt) _) hsub
      (Decimal.sub?_of_units (Int.sub_self _))
  · exact ⟨left, h, rfl⟩

/-! ## Both orders -/

/-- Amounts of a currency that are together below the bound of the mantissas in minor units. -/
def InRange (currency : Currency) (amounts : List Money) : Prop :=
  (amounts.map (·.amount.units.natAbs)).sum < mantissaBound * pow10 (maxPlaces - currency.places)

instance (currency : Currency) (amounts : List Money) : Decidable (InRange currency amounts) :=
  inferInstanceAs (Decidable (_ < _))

theorem inRange_of_nonneg {currency : Currency} {amounts : List Money}
    (hnonneg : ∀ m ∈ amounts, 0 ≤ m.amount)
    (hbound : (amounts.map (·.amount.units)).sum <
      (mantissaBound * pow10 (maxPlaces - currency.places) : Nat)) : InRange currency amounts := by
  have hsum : (((amounts.map (·.amount.units.natAbs)).sum : Nat) : Int) =
      (amounts.map (·.amount.units)).sum := by
    clear hbound
    induction amounts with
    | nil => rfl
    | cons m rest ih =>
      obtain ⟨hm, hrest⟩ := List.forall_mem_cons.1 hnonneg
      rw [List.map_cons, List.map_cons, List.sum_cons, List.sum_cons, Int.natCast_add, ih hrest,
        Int.natAbs_of_nonneg hm]
  unfold InRange
  omega

theorem add_of_units {d : Decimal} (hcurrency : a.currency = b.currency)
    (h : a.amount.units + b.amount.units = d.units) : a.add b = .ok ⟨d, a.currency⟩ := by
  rw [add, combine, if_pos hcurrency, Decimal.add?_of_units h]
  rfl

theorem currency_of_foldlM_add {acc total : Money} {amounts : List Money}
    (h : amounts.foldlM add acc = .ok total) : ∀ m ∈ amounts, m.currency = acc.currency := by
  induction amounts generalizing acc with
  | nil => simp
  | cons m rest ih =>
    obtain ⟨next, hnext, h⟩ := foldlM_cons_ok h
    obtain ⟨hsame, hcurrency, -⟩ := add_ok hnext
    exact List.forall_mem_cons.2 ⟨hsame.symm, fun x hx => (ih h x hx).trans hcurrency⟩

/-- Amounts of one currency can be added up if all the sums on the way are decimals. -/
theorem foldlM_add_of_fits (acc : Money) {amounts : List Money}
    (hcurrency : ∀ m ∈ amounts, m.currency = acc.currency)
    (hfits : ∀ front, front <+: amounts →
      Fits (acc.amount.units + (front.map (·.amount.units)).sum)) :
    ∃ total, amounts.foldlM add acc = .ok total := by
  induction amounts generalizing acc with
  | nil => exact ⟨acc, rfl⟩
  | cons m rest ih =>
    obtain ⟨hm, hrest⟩ := List.forall_mem_cons.1 hcurrency
    have hfirst : Fits (acc.amount.units + m.amount.units) := by
      simpa using hfits [m] ⟨rest, rfl⟩
    obtain ⟨total, htotal⟩ := ih ⟨⟨_, hfirst⟩, acc.currency⟩ hrest fun front hfront => by
      have hfits := hfits (m :: front) (List.cons_prefix_cons.2 ⟨rfl, hfront⟩)
      rwa [List.map_cons, List.sum_cons, ← Int.add_assoc] at hfits
    refine ⟨total, ?_⟩
    rw [List.foldlM_cons, add_of_units (d := ⟨_, hfirst⟩) hm.symm rfl]
    exact htotal

theorem natAbs_sum_le (units : List Int) : units.sum.natAbs ≤ (units.map Int.natAbs).sum := by
  induction units with
  | nil => exact Nat.le_refl 0
  | cons n rest ih =>
    rw [List.sum_cons, List.map_cons, List.sum_cons]
    exact Nat.le_trans (Int.natAbs_add_le ..) (Nat.add_le_add_left ih _)

/-- The sum of some of the amounts is a decimal. -/
theorem InRange.fits {currency : Currency} {amounts some : List Money}
    (h : InRange currency amounts) (hsome : some.Sublist amounts)
    (hwhole : ∀ m ∈ some, m.currency = currency ∧ m.quantize = m) :
    Fits (some.map (·.amount.units)).sum := by
  have hplaces : currency.places ≤ maxPlaces := currency.places_le_four.trans (by decide)
  refine Decimal.fits_of_dvd hplaces (List.dvd_sum fun units hunits => ?_) ?_
  · obtain ⟨m, hm, rfl⟩ := List.mem_map.1 hunits
    obtain ⟨rfl, hquantize⟩ := hwhole m hm
    exact quantize_iff.1 hquantize
  · have habs : ((some.map (·.amount.units)).map Int.natAbs).sum ≤
        (amounts.map (·.amount.units.natAbs)).sum := by
      rw [List.map_map]
      exact (hsome.map _).sum_le_sum fun n _ => Nat.zero_le n
    exact Nat.lt_of_le_of_lt (Nat.le_trans (natAbs_sum_le _) habs) h

/-- The sums on the way to the sum of all amounts are decimals. -/
theorem InRange.fits_prefix {first : Money} {amounts front : List Money}
    (h : InRange first.currency (first :: amounts))
    (hwhole : ∀ m ∈ first :: amounts, m.currency = first.currency ∧ m.quantize = m)
    (hfront : front <+: amounts) : Fits (first.amount.units + (front.map (·.amount.units)).sum) :=
  h.fits (hfront.sublist.cons_cons first) fun m hm =>
    hwhole m (List.cons_subset_cons first hfront.subset hm)

/-- **Amounts that are not too large come to the same in both orders**, whether the first one is
added last or not. -/
theorem sum_add_of_foldlM {first total : Money} {amounts : List Money}
    (h : amounts.foldlM add first = .ok total)
    (hwhole : ∀ m ∈ first :: amounts, m.quantize = m)
    (hrange : InRange first.currency (first :: amounts)) :
    ∃ rest, sum first.currency amounts = .ok rest ∧ rest.add first = .ok total := by
  have hcurrency := currency_of_foldlM_add h
  obtain ⟨hfirst, hrest⟩ := List.forall_mem_cons.1 hwhole
  have hsome : ∀ m ∈ amounts, m.currency = first.currency ∧ m.quantize = m := fun m hm =>
    ⟨hcurrency m hm, hrest m hm⟩
  have hall : ∀ m ∈ first :: amounts, m.currency = first.currency ∧ m.quantize = m :=
    List.forall_mem_cons.2 ⟨⟨rfl, hfirst⟩, hsome⟩
  have hfront (front : List Money) (hfront : front <+: amounts) :
      Fits ((zero first.currency).amount.units + (front.map (·.amount.units)).sum) := by
    rw [zero, Decimal.units_zero, Int.zero_add]
    exact hrange.fits (hfront.sublist.trans (List.sublist_cons_self ..)) fun m hm =>
      hsome m (hfront.subset hm)
  obtain ⟨rest, hrest⟩ := foldlM_add_of_fits (zero first.currency) hcurrency hfront
  refine ⟨rest, hrest, ?_⟩
  have hunits := units_foldlM_add hrest hfront
  have htotal := units_foldlM_add h fun _ => hrange.fits_prefix hall
  rw [zero, Decimal.units_zero, Int.zero_add] at hunits
  rw [add_of_units (d := total.amount) (currency_sum hrest) (by omega), currency_sum hrest,
    ← currency_foldlM_add h]

end Storefront.Money
