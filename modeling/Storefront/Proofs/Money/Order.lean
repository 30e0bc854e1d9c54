import Mathlib.Data.List.Forall2
import Storefront.Proofs.Money.Sum

/-!
# The order of amounts

Rounding, adding up and multiplying keep the order of amounts, and the sign of those that are not
negative. None of it asks for exact results.

* `Currency.round_mono`, `Currency.round_half`: rounding to the minor unit.
* `Money.add_of_le`: what can be computed for larger amounts can be computed.
* `Money.le_times`, `Money.le_quantize_times`: multiples.
* `Money.foldlM_add_forall₂_le`, `Money.le_sum`: sums.
-/

namespace Storefront

open Decimal (Fits maxPlaces)

theorem orFail_ok {α : Type} {e : Error} {x : Option α} {a : α} (h : orFail e x = .ok a) :
    x = some a := by
  cases x <;> cases h
  rfl

/-! ## Rounding -/

/-- A number of units rounded to the minor unit of a currency, a half going away from zero. -/
def Currency.round (c : Currency) (units : Int) : Int :=
  Rounding.halfAwayFromZero.quotientInt units (pow10 (maxPlaces - c.places)) *
    (pow10 (maxPlaces - c.places) : Int)

theorem Currency.round_nonneg (c : Currency) {units : Int} (h : 0 ≤ units) : 0 ≤ c.round units :=
  Int.mul_nonneg (Int.mul_nonneg (Int.sign_nonneg_iff.2 h) (Int.natCast_nonneg _))
    (Int.natCast_nonneg _)

/-- The minor unit of a currency, in units of decimals. -/
def Currency.minor (c : Currency) : Nat := pow10 (maxPlaces - c.places)

theorem Currency.minor_pos (c : Currency) : 0 < c.minor := pow10_pos _

/-- What holds of the minor units with at most four places holds of those of all currencies. -/
theorem Currency.forall_minor (c : Currency) {P : Nat → Prop}
    (h : ∀ places ≤ 4, P (pow10 (maxPlaces - places))) : P c.minor := h _ c.places_le_four

theorem Currency.half_minor_pos (c : Currency) : 0 < c.minor / 2 :=
  c.forall_minor (P := fun minor => 0 < minor / 2) (by decide)

theorem Currency.round_natCast (c : Currency) (n : Nat) :
    c.round n = ((2 * n + c.minor) / (2 * c.minor) * c.minor : Nat) := by
  show Rounding.halfAwayFromZero.quotientInt n c.minor * (c.minor : Int) = _
  rw [Rounding.quotientInt_natCast _ _ c.minor_pos,
    Rounding.quotient_halfAwayFromZero _ c.minor_pos, Int.natCast_mul]

theorem Currency.round_of_dvd (c : Currency) {units : Int} (h : (c.minor : Int) ∣ units) :
    c.round units = units := by
  obtain ⟨n, rfl⟩ := h
  show Rounding.halfAwayFromZero.quotientInt (c.minor * n) c.minor * (c.minor : Int) = _
  rw [Int.mul_comm (c.minor : Int) n, Rounding.quotientInt_mul _ _ c.minor_pos]

theorem Currency.round_mono (c : Currency) {a b : Int} (ha : 0 ≤ a) (h : a ≤ b) :
    c.round a ≤ c.round b := by
  obtain ⟨a, rfl⟩ := Int.eq_ofNat_of_zero_le ha
  obtain ⟨b, rfl⟩ := Int.eq_ofNat_of_zero_le (Int.le_trans ha h)
  rw [c.round_natCast, c.round_natCast, Int.ofNat_le]
  exact Nat.mul_le_mul_right _ (Nat.div_le_div_right (by omega))

/-- A rounded amount is within half a minor unit of the exact one, and closer if it is lower. -/
theorem Currency.round_half (c : Currency) {units : Int} (hunits : 0 ≤ units) :
    2 * c.round units ≤ 2 * units + c.minor ∧ 2 * units < 2 * c.round units + c.minor := by
  obtain ⟨n, rfl⟩ := Int.eq_ofNat_of_zero_le hunits
  have hpos : 0 < 2 * c.minor := Nat.mul_pos (by decide) c.minor_pos
  have hlow : (2 * n + c.minor) / (2 * c.minor) * (2 * c.minor) ≤ 2 * n + c.minor :=
    Nat.div_mul_le_self ..
  have hhigh : 2 * n + c.minor < (2 * n + c.minor) / (2 * c.minor) * (2 * c.minor) +
      2 * c.minor := Nat.lt_div_mul_add hpos
  rw [Nat.mul_left_comm] at hlow hhigh
  rw [c.round_natCast]
  omega

theorem Money.units_quantize (m : Money) :
    m.quantize.amount.units = m.currency.round m.amount.units := rfl

namespace Money

variable {a b c : Money}

theorem eq_of_units (hcurrency : a.currency = b.currency)
    (h : a.amount.units = b.amount.units) : a = b := by
  cases a
  cases b
  cases hcurrency
  obtain rfl := Decimal.ext h
  rfl

/-! ## Sums, differences and multiples -/

theorem add_nonneg (ha : 0 ≤ a.amount) (hb : 0 ≤ b.amount) (h : a.add b = .ok c) :
    0 ≤ c.amount :=
  le_add h (Int.add_nonneg ha hb)

/-- Amounts that are not negative can be subtracted. -/
theorem sub_of_nonneg (hcurrency : a.currency = b.currency) (ha : 0 ≤ a.amount)
    (hb : 0 ≤ b.amount) : ∃ c, a.sub b = .ok c := by
  obtain ⟨difference, hdifference⟩ := Decimal.sub?_of_nonneg ha hb
  exact ⟨⟨difference, a.currency⟩, by rw [sub, combine, if_pos hcurrency, hdifference]; rfl⟩

/-- A sum that is no larger than one that can be computed can be computed. -/
theorem add_of_le {a' b' c' : Money} (hcurrency : a.currency = b.currency)
    (hnonneg : 0 ≤ a.amount.units + b.amount.units)
    (hle : a.amount.units + b.amount.units ≤ a'.amount.units + b'.amount.units)
    (hc' : a'.add b' = .ok c') : ∃ c, a.add b = .ok c := by
  obtain ⟨sum, hsum⟩ := Decimal.add?_of_le hnonneg hle (add_ok hc').2.2
  exact ⟨⟨sum, a.currency⟩, by rw [add, combine, if_pos hcurrency, hsum]; rfl⟩

theorem times_ok {quantity : Nat} (h : a.times quantity = .ok c) :
    c.currency = a.currency ∧ a.amount.mulNat? quantity = some c.amount := by
  unfold times at h
  cases hproduct : a.amount.mulNat? quantity with
  | none =>
    rw [hproduct] at h
    cases h
  | some product =>
    rw [hproduct] at h
    cases h
    exact ⟨rfl, rfl⟩

/-- A multiple is not rounded to less than a decimal that it reaches. -/
theorem le_times {quantity : Nat} {amount : Decimal} (h : a.times quantity = .ok c)
    (hle : amount.units ≤ a.amount.units * quantity) : amount ≤ c.amount := by
  have hself : Decimal.nearest? amount.units Decimal.unitsPerOne = some amount :=
    Decimal.nearest?_of_fits Decimal.unitsPerOne_pos rfl
  exact Decimal.nearest?_mono Decimal.unitsPerOne_pos hle hself (times_ok h).2

theorem times_nonneg {quantity : Nat} (ha : 0 ≤ a.amount) (h : a.times quantity = .ok c) :
    0 ≤ c.amount :=
  le_times h (Int.mul_nonneg ha (Int.natCast_nonneg _))

theorem floorAtZero_nonneg (m : Money) : 0 ≤ m.floorAtZero.amount := by
  rw [Decimal.le_def, units_floorAtZero]
  exact Int.le_max_left _ _

theorem quantize_nonneg (h : 0 ≤ a.amount) : 0 ≤ a.quantize.amount :=
  a.currency.round_nonneg h

theorem sum_nonneg {currency : Currency} {amounts : List Money} {total : Money}
    (hall : ∀ m ∈ amounts, 0 ≤ m.amount) (h : sum currency amounts = .ok total) :
    0 ≤ total.amount :=
  le_foldlM_add hall h

/-! ## Upper bounds

What does not exceed a decimal is not rounded above it. -/

theorem add_le {units : Int} (hfits : Fits units) (hle : a.amount.units + b.amount.units ≤ units)
    (h : a.add b = .ok c) : c.amount.units ≤ units :=
  have hself : Decimal.nearest? units Decimal.unitsPerOne = some ⟨units, hfits⟩ :=
    Decimal.nearest?_of_fits Decimal.unitsPerOne_pos rfl
  Decimal.nearest?_mono Decimal.unitsPerOne_pos hle (add_ok h).2.2 hself

theorem times_le {quantity : Nat} {units : Int} (hfits : Fits (units * quantity))
    (hle : a.amount.units ≤ units) (h : a.times quantity = .ok c) :
    c.amount.units ≤ units * quantity :=
  have hself : Decimal.nearest? (units * quantity) Decimal.unitsPerOne = some ⟨_, hfits⟩ :=
    Decimal.nearest?_of_fits Decimal.unitsPerOne_pos rfl
  Decimal.nearest?_mono Decimal.unitsPerOne_pos
    (Int.mul_le_mul_of_nonneg_right hle (Int.natCast_nonneg _)) (times_ok h).2 hself

theorem quantize_le {units : Int} (hnonneg : 0 ≤ a.amount) (hdvd : (a.currency.minor : Int) ∣ units)
    (hle : a.amount.units ≤ units) : a.quantize.amount.units ≤ units := by
  rw [units_quantize, ← a.currency.round_of_dvd hdvd]
  exact Currency.round_mono _ hnonneg hle

/-! ## Sums of many amounts -/

theorem foldlM_add_forall₂_le {acc acc' less more : Money} {amounts amounts' : List Money}
    (hall : List.Forall₂ (fun m m' => m.amount ≤ m'.amount) amounts amounts')
    (hacc : acc.amount ≤ acc'.amount) (hless : amounts.foldlM add acc = .ok less)
    (hmore : amounts'.foldlM add acc' = .ok more) : less.amount ≤ more.amount := by
  induction hall generalizing acc acc' with
  | nil =>
    cases hless
    cases hmore
    exact hacc
  | cons hm _ ih =>
    obtain ⟨next, hnext, hless⟩ := foldlM_cons_ok hless
    obtain ⟨next', hnext', hmore⟩ := foldlM_cons_ok hmore
    have hle := Int.add_le_add hacc hm
    exact ih (Decimal.add?_mono hle (add_ok hnext).2.2 (add_ok hnext').2.2) hless hmore

/-- **No amount is larger than a sum that it is part of.** -/
theorem le_sum {currency : Currency} {amounts : List Money} {m total : Money}
    (hall : ∀ m ∈ amounts, 0 ≤ m.amount) (h : sum currency amounts = .ok total)
    (hm : m ∈ amounts) : m.amount ≤ total.amount := by
  have hzero : 0 ≤ (zero currency).amount := Int.le_refl 0
  unfold sum at h
  generalize zero currency = acc at h hzero
  induction amounts generalizing acc with
  | nil => cases hm
  | cons x rest ih =>
    obtain ⟨hx, hrest⟩ := List.forall_mem_cons.1 hall
    obtain ⟨next, hnext, hsum⟩ := foldlM_cons_ok h
    rcases List.mem_cons.1 hm with rfl | hm
    · have hle : m.amount ≤ next.amount :=
        le_add hnext (Int.le_add_of_nonneg_left hzero)
      exact Int.le_trans hle (le_foldlM_add hrest hsum)
    · exact ih hrest hm next hsum (add_nonneg hzero hx hnext)

/-- A multiple is not rounded to less than minor units that it reaches. -/
theorem le_quantize_times {a c : Money} {quantity : Nat} {units : Int}
    (h : a.times quantity = .ok c) (hfits : Fits units) (hnonneg : 0 ≤ units)
    (hdvd : (a.currency.minor : Int) ∣ units) (hle : units ≤ a.amount.units * quantity) :
    units ≤ c.quantize.amount.units := by
  have hreached : (⟨units, hfits⟩ : Decimal) ≤ c.amount := le_times h hle
  rw [units_quantize, (times_ok h).1, ← a.currency.round_of_dvd hdvd]
  exact Currency.round_mono _ hnonneg hreached

end Money

end Storefront
