import Storefront.Proofs.Checkout.Undiscounted

/-!
# Tax rates of few places

A taxed price is rounded twice: the exact quotient to a decimal, and the decimal to the minor unit.
Where the quotient is a little less than half a minor unit above an amount, the first rounding could
take it to the half, and the second one up. At a rate of few places it does not: such a quotient is
a fraction with a small denominator, so that what is below a half is below it by more than the first
rounding adds.

* `Decimal.exists_div?`, `Decimal.exists_mul?`: quotients and products that are decimals.
* `Decimal.IsTaxRate`: the rates from nothing to ten times the price, with some places.
* `TaxRatio.le_of_lt_half`: what is below a half is below it by a decimal step.
* `TaxRatio.Covers`, `Taxed.covers_ofRate`: a taxed price is at most half a minor unit too high.
* `Taxed.part_le_of_lt_half`, `Taxed.le_part_of_covers`: what this says of two taxed prices.
* `Taxed.exists_ofRate`: prices that are not too large can be taxed.
-/

namespace Storefront

open Decimal (Fits maxPlaces mantissaBound unitsPerOne)

/-! ## Quotients and products -/

namespace Decimal

variable {a b : Decimal} {n : Nat}

/-- What is not too large can be divided by one or more. -/
theorem exists_div? (ha : 0 ≤ a) (hle : a.units ≤ n * unitsPerOne) (hn : n < mantissaBound)
    (hb : (unitsPerOne : Int) ≤ b.units) : ∃ quotient, a.div? b = some quotient := by
  have hone := unitsPerOne_pos
  have hmost : nearest? (n * b.units) b.units.natAbs = some (.ofInt n (by omega)) := by
    refine nearest?_of_fits (by omega) ?_
    show (n * b.units * unitsPerOne : Int) = n * unitsPerOne * _
    rw [Int.natAbs_of_nonneg (by omega), Int.mul_right_comm]
  have hless : a.units ≤ n * b.units :=
    Int.le_trans hle (Int.mul_le_mul_of_nonneg_left hb (Int.natCast_nonneg _))
  obtain ⟨quotient, hquotient, -⟩ := nearest?_of_le (by omega) ha hless hmost
  refine ⟨quotient, ?_⟩
  rw [div?, if_neg (by omega), Int.sign_eq_one_of_pos (by omega), Int.mul_one, hquotient]

/-- What is not too large can be multiplied by a small factor. -/
theorem exists_mul? {factor : Nat} (ha : 0 ≤ a) (hle : a.units ≤ n * unitsPerOne) (hb : 0 ≤ b)
    (hfactor : b.units ≤ factor * unitsPerOne) (hn : factor * n < mantissaBound) :
    ∃ product, a.mul? b = some product := by
  have hpos : 0 < unitsPerOne * unitsPerOne := by decide
  have hmost : nearest? (factor * n * unitsPerOne * unitsPerOne) (unitsPerOne * unitsPerOne) =
      some (.ofInt (factor * n : Nat) (by omega)) := by
    refine nearest?_of_fits hpos ?_
    show (_ : Int) = (factor * n : Nat) * unitsPerOne * (unitsPerOne * unitsPerOne : Nat)
    push_cast
    ring
  have hless : a.units * b.units ≤ factor * n * unitsPerOne * unitsPerOne := by
    calc a.units * b.units ≤ a.units * (factor * unitsPerOne) :=
          Int.mul_le_mul_of_nonneg_left hfactor ha
      _ ≤ n * unitsPerOne * (factor * unitsPerOne) :=
          Int.mul_le_mul_of_nonneg_right hle
            (Int.mul_nonneg (Int.natCast_nonneg _) (Int.natCast_nonneg _))
      _ = factor * n * unitsPerOne * unitsPerOne := by ring
  obtain ⟨product, hproduct, -⟩ := nearest?_of_le hpos (Int.mul_nonneg ha hb) hless hmost
  exact ⟨product, hproduct⟩

end Decimal

/-! ## Steps between exact prices -/

/-- A rate from nothing to ten times the price, with at most some places. -/
structure Decimal.IsTaxRate (rate : Decimal) (places : Nat) : Prop where
  nonneg : 0 ≤ rate
  le_ten : rate ≤ .ofInt 10
  dvd : (pow10 (maxPlaces - places) : Int) ∣ rate.units

variable {rate : Decimal} {places : Nat} {entryIncludesTax gross : Bool}

namespace Decimal.IsTaxRate

instance (rate : Decimal) (places : Nat) : Decidable (rate.IsTaxRate places) :=
  decidable_of_iff (0 ≤ rate ∧ rate.units ≤ 10 * unitsPerOne ∧
      (pow10 (maxPlaces - places) : Int) ∣ rate.units)
    ⟨fun ⟨hnonneg, hten, hdvd⟩ => ⟨hnonneg, hten, hdvd⟩, fun h => ⟨h.nonneg, h.le_ten, h.dvd⟩⟩

/-- One more than the rate is a decimal. -/
theorem exists_factor (h : rate.IsTaxRate places) (hplaces : places ≤ 22) :
    ∃ factor, Decimal.add? 1 rate = some factor ∧ factor.units = unitsPerOne + rate.units := by
  have hnonneg : 0 ≤ rate.units := h.nonneg
  have hten : rate.units ≤ 10 * unitsPerOne := h.le_ten
  have hpow : pow10 6 ≤ pow10 (maxPlaces - places) :=
    pow10_le_pow10 (Nat.le_sub_of_add_le (by unfold maxPlaces; omega))
  have hfits : Fits (unitsPerOne + rate.units) := by
    refine Decimal.fits_of_dvd (Nat.le_trans hplaces (by decide)) (Int.dvd_add ?_ h.dvd) ?_
    · exact Int.natCast_dvd_natCast.2 (Nat.pow_dvd_pow 10 (Nat.sub_le ..))
    · have hroom : 11 * unitsPerOne < mantissaBound * pow10 6 := by decide
      have hmore : mantissaBound * pow10 6 ≤ mantissaBound * pow10 (maxPlaces - places) :=
        Nat.mul_le_mul_left _ hpow
      omega
  exact ⟨⟨_, hfits⟩, Decimal.add?_of_units rfl, rfl⟩

/-- The factor of a rate is between one and eleven, and a whole number of the last place. -/
theorem factor (h : rate.IsTaxRate places) (hplaces : places ≤ 22) :
    ∃ steps, ((Decimal.add? 1 rate).getD 1).units.toNat = pow10 (maxPlaces - places) * steps ∧
      steps ≤ 11 * pow10 places := by
  obtain ⟨factor, hfactor, hunits⟩ := h.exists_factor hplaces
  have hnonneg : 0 ≤ rate.units := h.nonneg
  have hten : rate.units ≤ 10 * unitsPerOne := h.le_ten
  obtain ⟨k, hk⟩ := Int.eq_ofNat_of_zero_le hnonneg
  obtain ⟨steps, rfl⟩ : pow10 (maxPlaces - places) ∣ k :=
    Int.natCast_dvd_natCast.1 (hk ▸ h.dvd)
  have hone : unitsPerOne = pow10 (maxPlaces - places) * pow10 places := by
    rw [unitsPerOne, ← pow10_add, Nat.sub_add_cancel (Nat.le_trans hplaces (by decide))]
  refine ⟨pow10 places + steps, ?_, ?_⟩
  · rw [hfactor, Option.getD_some, hunits, hk, Nat.mul_add, ← hone]
    omega
  · have hsteps : steps ≤ 10 * pow10 places := by
      refine Nat.le_of_mul_le_mul_left ?_ (pow10_pos (maxPlaces - places))
      rw [Nat.mul_left_comm, ← hone]
      omega
    omega

end Decimal.IsTaxRate

namespace TaxRatio

/-- At a rate of few places the ratio is that of whole numbers, of which the lower one is small. -/
theorem exists_grain (h : rate.IsTaxRate places) (hplaces : places ≤ 22)
    (entryIncludesTax gross : Bool) :
    ∃ grain num den : Nat, 0 < grain ∧ den ≤ 11 * pow10 places ∧
      (of rate entryIncludesTax gross).num * unitsPerOne = grain * num ∧
      (of rate entryIncludesTax gross).den = grain * den := by
  obtain ⟨steps, hsteps, hfew⟩ := h.factor hplaces
  have hone : unitsPerOne = pow10 (maxPlaces - places) * pow10 places := by
    rw [unitsPerOne, ← pow10_add, Nat.sub_add_cancel (Nat.le_trans hplaces (by decide))]
  have hpos := pow10_pos (maxPlaces - places)
  have hplace := pow10_pos places
  unfold of
  dsimp only
  rw [hsteps]
  split
  · exact ⟨unitsPerOne, 1, 1, Decimal.unitsPerOne_pos, by omega, Nat.mul_comm .., by simp⟩
  · split
    · refine ⟨pow10 (maxPlaces - places) * unitsPerOne, steps, pow10 places,
        Nat.mul_pos hpos Decimal.unitsPerOne_pos, by omega, Nat.mul_right_comm .., ?_⟩
      show unitsPerOne * unitsPerOne = _
      rw [Nat.mul_right_comm, ← hone]
    · exact ⟨pow10 (maxPlaces - places), pow10 places, steps, hpos, hfew, by simp [hone], rfl⟩

/-- All the steps that a small denominator needs are less than half a minor unit. -/
theorem steps_le_half (c : Currency) {den : Nat} (hplaces : places ≤ 22)
    (hden : den ≤ 11 * pow10 places) : pow10 (22 - places) * den ≤ c.minor / 2 := by
  have hsplit : pow10 (22 - places) * pow10 places = pow10 22 := by
    rw [← pow10_add, Nat.sub_add_cancel hplaces]
  have hsmall : 11 * pow10 22 ≤ c.minor / 2 :=
    c.forall_minor (P := fun minor => 11 * pow10 22 ≤ minor / 2) (by decide)
  calc pow10 (22 - places) * den ≤ pow10 (22 - places) * (11 * pow10 places) :=
        Nat.mul_le_mul_left _ hden
    _ = 11 * pow10 22 := by rw [Nat.mul_left_comm, hsplit]
    _ ≤ c.minor / 2 := hsmall

/-- **What is below a half is below it by a decimal step.** -/
theorem le_of_lt_half {c : Currency} {price amount : Int} (h : rate.IsTaxRate places)
    (hplaces : places ≤ 22) (hprice : (c.minor : Int) ∣ price) (hamount : (c.minor : Int) ∣ amount)
    (hlt : price * (of rate entryIncludesTax gross).num * unitsPerOne <
      (amount - (c.minor / 2 : Nat)) * (of rate entryIncludesTax gross).den) :
    price * (of rate entryIncludesTax gross).num * unitsPerOne ≤
      (amount - (c.minor / 2 : Nat) - pow10 (22 - places)) *
        (of rate entryIncludesTax gross).den := by
  obtain ⟨grain, num, den, hgrain, hden, hnumEq, hdenEq⟩ :=
    exists_grain h hplaces entryIncludesTax gross
  obtain ⟨a, rfl⟩ := hprice
  obtain ⟨b, rfl⟩ := hamount
  have hpos := c.half_minor_pos
  have hminor : (c.minor : Int) = 2 * (c.minor / 2 : Nat) := by
    have := c.two_mul_half
    omega
  have hsteps := steps_le_half c hplaces hden
  rw [Int.mul_assoc, ← Int.natCast_mul, hnumEq, hdenEq, hminor] at hlt ⊢
  generalize c.minor / 2 = half at hpos hlt hsteps ⊢
  generalize pow10 (22 - places) = step at hsteps ⊢
  have hsteps : (step * den : Nat) ≤ (half : Int) := Int.ofNat_le.2 hsteps
  push_cast at hlt hsteps ⊢
  have hscale : (0 : Int) < half * grain :=
    Int.mul_pos (Int.natCast_pos.2 hpos) (Int.natCast_pos.2 hgrain)
  have hwhole : 2 * a * num < (2 * b - 1) * den := by
    refine lt_of_mul_lt_mul_left ?_ (Int.le_of_lt hscale)
    linarith
  have hnext : (half * grain : Int) * (2 * a * num + 1) ≤ half * grain * ((2 * b - 1) * den) :=
    Int.mul_le_mul_of_nonneg_left hwhole (Int.le_of_lt hscale)
  have hroom : (grain : Int) * (step * den) ≤ grain * half :=
    Int.mul_le_mul_of_nonneg_left hsteps (Int.natCast_nonneg _)
  linarith

/-- At most eleven times the price comes of it. -/
theorem num_le (h : rate.IsTaxRate places) (hplaces : places ≤ 22)
    (entryIncludesTax gross : Bool) :
    (of rate entryIncludesTax gross).num * unitsPerOne ≤
      11 * (of rate entryIncludesTax gross).den := by
  obtain ⟨factor, hfactor, hunits⟩ := h.exists_factor hplaces
  have hnonneg : 0 ≤ rate.units := h.nonneg
  have hten : rate.units ≤ 10 * unitsPerOne := h.le_ten
  unfold of
  dsimp only
  rw [hfactor, Option.getD_some, hunits]
  split
  · show 1 * unitsPerOne ≤ 11 * unitsPerOne
    omega
  · split
    · show (unitsPerOne + rate.units).toNat * unitsPerOne ≤ 11 * (unitsPerOne * unitsPerOne)
      rw [← Nat.mul_assoc]
      exact Nat.mul_le_mul_right _ (by omega)
    · show 1 * unitsPerOne ≤ 11 * (unitsPerOne + rate.units).toNat
      omega

end TaxRatio

/-! ## Prices that are too high -/

/-- Amounts that leave room for the steps of decimals leave room for halves of minor units. -/
theorem Currency.room_for_halves (c : Currency) {units : Int}
    (hbound : units ≤ (mantissaBound * pow10 (22 - places) : Nat)) :
    10 * (units + c.minor) < (mantissaBound * c.minor : Nat) := by
  have hstep : mantissaBound * pow10 (22 - places) ≤ mantissaBound * pow10 22 :=
    Nat.mul_le_mul_left _ (pow10_le_pow10 (Nat.sub_le ..))
  have hroom : 10 * (mantissaBound * pow10 22 + c.minor) < mantissaBound * c.minor :=
    c.forall_minor (P := fun minor =>
      10 * (mantissaBound * pow10 22 + minor) < mantissaBound * minor) (by decide)
  omega

/-- Amounts up to `10^24` are within the bounds of every currency. -/
theorem Currency.unitsPerOne_lt (c : Currency) :
    1000000000000000000000000 * unitsPerOne < mantissaBound * c.minor :=
  c.forall_minor (P := fun minor =>
    1000000000000000000000000 * unitsPerOne < mantissaBound * minor) (by decide)

/-- A decimal step below a half is a decimal. -/
theorem Currency.fits_sub_half (c : Currency) {amount : Int} (hplaces : places ≤ 22)
    (hdvd : (c.minor : Int) ∣ amount)
    (hnonneg : 0 ≤ amount - (c.minor / 2 : Nat) - pow10 (22 - places))
    (hbound : amount ≤ (mantissaBound * pow10 (22 - places) : Nat)) :
    Fits (amount - (c.minor / 2 : Nat) - pow10 (22 - places)) := by
  have hfew := c.places_le_four
  have hlast : maxPlaces - (places + 6) = 22 - places := by
    unfold maxPlaces
    omega
  have hpower : pow10 (22 - places) ∣ pow10 (maxPlaces - (c.places + 1)) :=
    Nat.pow_dvd_pow 10 (by unfold maxPlaces; omega)
  have hminor : pow10 (22 - places) ∣ c.minor :=
    c.minor_eq ▸ Nat.dvd_trans hpower (Nat.dvd_mul_right ..)
  have hhalf : pow10 (22 - places) ∣ c.minor / 2 := by
    have hfive : c.minor / 2 = pow10 (maxPlaces - (c.places + 1)) * 5 := by
      rw [c.minor_eq]
      omega
    exact hfive ▸ Nat.dvd_trans hpower (Nat.dvd_mul_right ..)
  have hpos := pow10_pos (22 - places)
  have hmore : places + 6 ≤ maxPlaces := by
    unfold maxPlaces
    omega
  refine Decimal.fits_of_dvd hmore ?_ ?_
  · rw [hlast]
    exact Int.dvd_sub (Int.dvd_sub (Int.dvd_trans (Int.natCast_dvd_natCast.2 hminor) hdvd)
      (Int.natCast_dvd_natCast.2 hhalf)) (Int.dvd_refl _)
  · rw [hlast]
    omega

namespace TaxRatio

/-- `r.Covers c price amount halves`: an amount is no more than what a price comes to, with some
halves of a minor unit. -/
def Covers (r : TaxRatio) (c : Currency) (price amount : Int) (halves : Nat) : Prop :=
  amount * r.den ≤ price * r.num * unitsPerOne + (halves * (c.minor / 2) : Nat) * r.den

namespace Covers

variable {r : TaxRatio} {c : Currency} {price price' amount amount' : Int} {halves halves' : Nat}

theorem add (h : r.Covers c price amount halves) (h' : r.Covers c price' amount' halves') :
    r.Covers c (price + price') (amount + amount') (halves + halves') := by
  have hsum := Int.add_le_add h h'
  unfold Covers at *
  push_cast at hsum ⊢
  linarith

theorem sum {α : Type} {price amount : α → Int} {halves : α → Nat} {items : List α}
    (h : ∀ x ∈ items, r.Covers c (price x) (amount x) (halves x)) :
    r.Covers c (items.map price).sum (items.map amount).sum (items.map halves).sum := by
  induction items with
  | nil => simp [Covers]
  | cons x rest ih =>
    obtain ⟨hx, hrest⟩ := List.forall_mem_cons.1 h
    simpa using hx.add (ih hrest)

end Covers

end TaxRatio

namespace Taxed

variable {price : Money} {p : Taxed}

/-- **A taxed price is at most half a minor unit too high.** -/
theorem covers_ofRate (hrate : rate.IsTaxRate places) (hplaces : places ≤ 22)
    (hprice : 0 ≤ price.amount) (hwhole : price.quantize = price)
    (h : ofRate price rate entryIncludesTax = .ok p) (gross : Bool)
    (hbound : (p.part gross).amount.units ≤ (mantissaBound * pow10 (22 - places) : Nat)) :
    (TaxRatio.of rate entryIncludesTax gross).Covers price.currency price.amount.units
      (p.part gross).amount.units 1 := by
  have hpartWhole := Money.quantize_iff.1 (quantize_ofRate h gross)
  rw [currency_ofRate hrate.nonneg h gross] at hpartWhole
  obtain ⟨amount, hamount, hpart⟩ := ofRate_part hrate.nonneg h gross
  have hden := TaxRatio.den_pos hrate.nonneg entryIncludesTax gross
  have hexact : 0 ≤ amount.units :=
    Decimal.nearest?_nonneg hden (Int.mul_nonneg hprice (Int.natCast_nonneg _)) hamount
  unfold TaxRatio.Covers
  rw [Nat.one_mul]
  refine Int.not_lt.1 fun hlt => ?_
  have hstep := TaxRatio.le_of_lt_half hrate hplaces (Money.quantize_iff.1 hwhole) hpartWhole
    (by rw [Int.sub_mul]; exact Int.lt_sub_right_of_add_lt hlt)
  have hnonneg := nonneg_of_mul_nonneg_left (Int.le_trans (Int.mul_nonneg (Int.mul_nonneg hprice
    (Int.natCast_nonneg _)) (Int.natCast_nonneg _)) hstep) (Int.natCast_pos.2 hden)
  have hfits := price.currency.fits_sub_half hplaces hpartWhole hnonneg hbound
  have hbelow : amount.units ≤ _ := Decimal.nearest?_le hden hamount (t := ⟨_, hfits⟩) hstep
  have hround : 2 * (p.part gross).amount.units ≤ 2 * amount.units + price.currency.minor := by
    rw [hpart]
    exact (price.currency.round_half hexact).1
  have hhalf := price.currency.two_mul_half
  have hpos := pow10_pos (22 - places)
  dsimp only at hbelow
  omega

/-- What comes to less than half a minor unit above an amount is not taxed with more. -/
theorem part_le_of_lt_half {amount : Int} (hrate : rate.IsTaxRate places) (hplaces : places ≤ 22)
    (hprice : 0 ≤ price.amount) (hwhole : price.quantize = price)
    (h : ofRate price rate entryIncludesTax = .ok p) (gross : Bool)
    (hbound : (p.part gross).amount.units ≤ (mantissaBound * pow10 (22 - places) : Nat))
    (hdvd : (price.currency.minor : Int) ∣ amount)
    (hlt : price.amount.units * (TaxRatio.of rate entryIncludesTax gross).num * unitsPerOne <
      (amount + (price.currency.minor / 2 : Nat)) *
        (TaxRatio.of rate entryIncludesTax gross).den) :
    (p.part gross).amount.units ≤ amount := by
  have hcovers := covers_ofRate hrate hplaces hprice hwhole h gross hbound
  have hpartWhole := Money.quantize_iff.1 (quantize_ofRate h gross)
  rw [currency_ofRate hrate.nonneg h gross] at hpartWhole
  have hhalf := price.currency.two_mul_half
  unfold TaxRatio.Covers at hcovers
  have hclose : (p.part gross).amount.units < amount + 2 * (price.currency.minor / 2 : Nat) := by
    refine lt_of_mul_lt_mul_right ?_
      (Int.natCast_nonneg (TaxRatio.of rate entryIncludesTax gross).den)
    rw [Nat.one_mul] at hcovers
    linarith
  refine Int.not_lt.1 fun hmore => ?_
  have hminor := Int.le_of_dvd (Int.sub_pos.2 hmore) (Int.dvd_sub hpartWhole hdvd)
  change (price.currency.minor : Int) ≤ _ at hminor
  omega

/-- **A price is taxed with no less than what it covers**, but for half of the halves. -/
theorem le_part_of_covers {amount : Int} {halves : Nat} (hrate : 0 ≤ rate)
    (hprice : 0 ≤ price.amount) (h : ofRate price rate entryIncludesTax = .ok p) (gross : Bool)
    (hbound : 10 * ((p.part gross).amount.units + price.currency.minor) <
      (mantissaBound * price.currency.minor : Nat))
    (hcovers : (TaxRatio.of rate entryIncludesTax gross).Covers price.currency
      price.amount.units amount halves)
    (hdvd : (price.currency.minor : Int) ∣ amount) :
    amount ≤ (p.part gross).amount.units + (halves / 2 * price.currency.minor : Nat) := by
  have hexact := lt_part_add_half hrate hprice h gross hbound
  have hpartWhole := Money.quantize_iff.1 (quantize_ofRate h gross)
  rw [currency_ofRate hrate h gross] at hpartWhole
  unfold TaxRatio.Covers at hcovers
  have hclose : amount < (p.part gross).amount.units +
      ((halves + 1) * (price.currency.minor / 2) : Nat) := by
    refine lt_of_mul_lt_mul_right ?_
      (Int.natCast_nonneg (TaxRatio.of rate entryIncludesTax gross).den)
    rw [Nat.add_mul, Nat.one_mul]
    push_cast at hexact hcovers ⊢
    linarith
  refine Int.not_lt.1 fun hmore => ?_
  have hminor : (price.currency.minor : Int) ≤ _ :=
    Int.le_of_dvd (Int.sub_pos.2 hmore) (Int.dvd_sub hdvd (Int.dvd_add hpartWhole
      (Int.natCast_dvd_natCast.2 (Nat.dvd_mul_left ..))))
  have hhalves : (halves + 1) * (price.currency.minor / 2) ≤
      halves / 2 * price.currency.minor + price.currency.minor := by
    calc (halves + 1) * (price.currency.minor / 2)
        ≤ 2 * (halves / 2 + 1) * (price.currency.minor / 2) :=
          Nat.mul_le_mul_right _ (by omega)
      _ = (halves / 2 + 1) * price.currency.minor := by
          rw [Nat.mul_right_comm, price.currency.two_mul_half, Nat.mul_comm]
      _ = _ := by rw [Nat.add_mul, Nat.one_mul]
  omega

/-! ## Prices that can be taxed -/

/-- At most eleven times the price comes of it. -/
theorem part_le_eleven (hrate : rate.IsTaxRate places) (hplaces : places ≤ 22)
    (hprice : 0 ≤ price.amount) (hwhole : price.quantize = price)
    (hlt : 11 * price.amount.units < (mantissaBound * price.currency.minor : Nat))
    (h : ofRate price rate entryIncludesTax = .ok p) (gross : Bool) :
    (p.part gross).amount.units ≤ 11 * price.amount.units := by
  have hden := TaxRatio.den_pos hrate.nonneg entryIncludesTax gross
  have hratio := Int.ofNat_le.2 (TaxRatio.num_le hrate hplaces entryIncludesTax gross)
  have hdvd : (price.currency.minor : Int) ∣ 11 * price.amount.units :=
    Int.dvd_mul_of_dvd_right (Money.quantize_iff.1 hwhole)
  have hfits : Fits (11 * price.amount.units) :=
    price.currency.fits_of_dvd (Int.mul_nonneg (by decide) hprice) hdvd hlt
  obtain ⟨amount, hamount, hpart⟩ := ofRate_part hrate.nonneg h gross
  have hmost : amount ≤ ⟨_, hfits⟩ := by
    refine Decimal.nearest?_le hden hamount ?_
    push_cast at hratio
    calc price.amount.units * (TaxRatio.of rate entryIncludesTax gross).num * unitsPerOne
        = price.amount.units * ((TaxRatio.of rate entryIncludesTax gross).num * unitsPerOne) :=
          Int.mul_assoc ..
      _ ≤ price.amount.units * (11 * (TaxRatio.of rate entryIncludesTax gross).den) :=
          Int.mul_le_mul_of_nonneg_left hratio hprice
      _ = 11 * price.amount.units * (TaxRatio.of rate entryIncludesTax gross).den := by ring
  have hnonneg : 0 ≤ amount :=
    Decimal.nearest?_nonneg hden (Int.mul_nonneg hprice (Int.natCast_nonneg _)) hamount
  rw [hpart]
  exact Money.quantize_le (a := ⟨amount, price.currency⟩) hnonneg hdvd hmost

/-- **Prices that are not too large can be taxed.** -/
theorem exists_ofRate {n : Nat} (hrate : rate.IsTaxRate places) (hplaces : places ≤ 22)
    (hprice : 0 ≤ price.amount) (hle : price.amount.units ≤ n * unitsPerOne)
    (hn : 11 * n < mantissaBound) (entryIncludesTax : Bool) :
    ∃ p, ofRate price rate entryIncludesTax = .ok p := by
  obtain ⟨factor, hfactor, hunits⟩ := hrate.exists_factor hplaces
  have hnonneg : 0 ≤ rate.units := hrate.nonneg
  have hten : rate.units ≤ 10 * unitsPerOne := hrate.le_ten
  have hone := Decimal.unitsPerOne_pos
  rw [ofRate, hfactor]
  cases entryIncludesTax with
  | true =>
    have hzero : factor.isZero = false := decide_eq_false (by omega)
    obtain ⟨net, hnet⟩ := Decimal.exists_div? (b := factor) hprice hle (by omega) (by omega)
    refine ⟨⟨Money.quantize ⟨net, price.currency⟩, price.quantize⟩, ?_⟩
    show (if factor.isZero = true then _ else
      (orFail .outOfRange (price.amount.div? factor) >>= fun net => _)) = _
    rw [if_neg (ne_true_of_eq_false hzero), hnet]
    rfl
  | false =>
    have hnonnegFactor : 0 ≤ factor.units := by omega
    obtain ⟨gross, hgross⟩ := Decimal.exists_mul? hprice hle hnonnegFactor (by omega) hn
    refine ⟨⟨price.quantize, Money.quantize ⟨gross, price.currency⟩⟩, ?_⟩
    show (price.scale factor >>= fun gross => _) = _
    rw [Money.scale, hgross]
    rfl

end Taxed

end Storefront
