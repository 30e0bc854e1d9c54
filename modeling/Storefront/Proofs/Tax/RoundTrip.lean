import Storefront.Proofs.Tax.Precision

/-!
# Net prices and gross prices

A shop enters its prices without tax or with it. The gross amount that comes of a net one, entered
as a price with tax, has to lead back to that net amount: rounding takes less than half a minor unit
from either of them, and the way back divides what it took by the factor of the rate.

* `TaxRatio.covers_net`, `TaxRatio.lt_net`: the bounds of a gross amount, read backwards.
* `Taxed.net_ofRate_gross`: the way back.
* `Taxed.IsPriceIn`: a net amount and a gross one in minor units.
* `Taxed.ofRate_roundTrip`: **net and gross prices lead to each other**.
-/

namespace Storefront

open Decimal (maxPlaces mantissaBound unitsPerOne)

variable {rate : Decimal} {places : Nat}

/-! ## The way back -/

namespace TaxRatio

/-- How the ratios of the way there and of the way back are related. -/
theorem exists_factor (hrate : 0 ≤ rate) :
    ∃ factor : Nat, unitsPerOne ≤ factor ∧
      of rate false true = ⟨factor, unitsPerOne * unitsPerOne⟩ ∧
      of rate true false = ⟨1, factor⟩ :=
  ⟨((Decimal.add? 1 rate).getD 1).units.toNat, by have := unitsPerOne_le_factor hrate; omega,
    rfl, rfl⟩

variable {c : Currency} {net gross : Int} {halves : Nat}

/-- What reaches the gross amount covers the net one. -/
theorem covers_net (hrate : 0 ≤ rate) (h : (of rate false true).Reaches c net gross halves) :
    (of rate true false).Covers c gross net halves := by
  obtain ⟨factor, hfactor, hthere, hback⟩ := exists_factor hrate
  rw [hthere] at h
  rw [hback]
  unfold Reaches at h
  unfold Covers
  generalize halves * (c.minor / 2) = off at h ⊢
  have hone : (0 : Int) < unitsPerOne := Int.natCast_pos.2 Decimal.unitsPerOne_pos
  push_cast at h ⊢
  have hreduced : net * factor ≤ (gross + off) * unitsPerOne := by
    refine le_of_mul_le_mul_right ?_ hone
    linarith
  have hoff : (off : Int) * unitsPerOne ≤ off * factor :=
    Int.mul_le_mul_of_nonneg_left (Int.ofNat_le.2 hfactor) (Int.natCast_nonneg _)
  linarith

/-- What covers the gross amount is less than half a minor unit above the net one. -/
theorem lt_net (hfactor : unitsPerOne < (of rate true false).den) (hrate : 0 ≤ rate)
    (h : (of rate false true).Covers c net gross 1) :
    gross * (of rate true false).num * unitsPerOne <
      (net + (c.minor / 2 : Nat)) * (of rate true false).den := by
  obtain ⟨factor, -, hthere, hback⟩ := exists_factor hrate
  rw [hthere] at h
  rw [hback] at hfactor ⊢
  unfold Covers at h
  have hone : (0 : Int) < unitsPerOne := Int.natCast_pos.2 Decimal.unitsPerOne_pos
  have hpos := c.half_minor_pos
  generalize c.minor / 2 = off at hpos h ⊢
  push_cast at h ⊢
  have hreduced : gross * unitsPerOne ≤ net * factor + off * unitsPerOne := by
    refine le_of_mul_le_mul_right ?_ hone
    linarith
  have hoff : (off : Int) * unitsPerOne < off * factor :=
    Int.mul_lt_mul_of_pos_left (Int.ofNat_lt.2 hfactor) (Int.natCast_pos.2 hpos)
  linarith

end TaxRatio

/-! ## Prices -/

namespace Taxed

variable {price : Money} {p back : Taxed} {entryIncludesTax : Bool}

/-- **The gross amount of a price leads back to its net amount.** -/
theorem net_ofRate_gross (hrate : rate.IsTaxRate places) (hplaces : places ≤ 22)
    (hprice : 0 ≤ price.amount) (hwhole : price.quantize = price)
    (hthere : ofRate price rate false = .ok p) (hback : ofRate p.gross rate true = .ok back)
    (hbound : p.gross.amount.units ≤ (mantissaBound * pow10 (22 - places) : Nat)) :
    back.net = price := by
  have hgross : 0 ≤ p.gross.amount := ofRate_nonneg hrate.nonneg hprice hthere true
  have hgrossWhole : p.gross.quantize = p.gross := quantize_ofRate hthere true
  have hcurrency : p.gross.currency = price.currency := currency_ofRate hrate.nonneg hthere true
  have hnet : (back.part false).amount.units ≤ (mantissaBound * pow10 (22 - places) : Nat) := by
    refine Int.le_trans (part_isPartOf_gross hrate.nonneg hgross hback false).le ?_
    have hsame : back.gross = p.gross := (ofRate_rounded hback).1.trans hgrossWhole
    rwa [hsame]
  have hdvd : (p.gross.currency.minor : Int) ∣ price.amount.units :=
    hcurrency ▸ Money.quantize_iff.1 hwhole
  by_cases hzero : rate = 0
  · subst hzero
    rw [ofRate_zero, hwhole] at hthere
    obtain rfl := Except.ok.inj hthere
    rw [ofRate_zero] at hback
    obtain rfl := Except.ok.inj hback
    exact hwhole
  · have hreaches := reaches_ofRate_one hrate.nonneg hprice hthere true
      (price.currency.room_for_halves hbound)
    have hcovers := covers_ofRate hrate hplaces hprice hwhole hthere true hbound
    rw [← hcurrency] at hreaches hcovers
    refine Money.eq_of_units ((currency_ofRate hrate.nonneg hback false).trans hcurrency)
      (Int.le_antisymm ?_ ?_)
    · refine part_le_of_lt_half hrate hplaces hgross hgrossWhole hback false hnet hdvd
        (TaxRatio.lt_net ?_ hrate.nonneg hcovers)
      -- a rate that is not zero makes the way back shorter
      obtain ⟨factor, hfactor, hunits⟩ := hrate.exists_factor hplaces
      have hpos : rate.units ≠ 0 := fun h => hzero (Decimal.ext h)
      have hnonneg : 0 ≤ rate.units := hrate.nonneg
      show unitsPerOne < ((Decimal.add? 1 rate).getD 1).units.toNat
      rw [hfactor, Option.getD_some]
      omega
    · have hlow := le_part_of_covers hrate.nonneg hgross hback false
        (p.gross.currency.room_for_halves hnet) (TaxRatio.covers_net hrate.nonneg hreaches) hdvd
      rwa [show 1 / 2 = 0 from rfl, Nat.zero_mul, Int.natCast_zero, Int.add_zero] at hlow

/-- A net amount and a gross one that is no smaller, both of them whole minor units. -/
structure IsPriceIn (p : Taxed) (c : Currency) : Prop where
  net_currency : p.net.currency = c
  gross_currency : p.gross.currency = c
  net_nonneg : 0 ≤ p.net.amount
  net_le_gross : p.net.amount ≤ p.gross.amount
  net_whole : (c.minor : Int) ∣ p.net.amount.units
  gross_whole : (c.minor : Int) ∣ p.gross.amount.units

theorem isPriceIn_ofRate (hrate : 0 ≤ rate) (hprice : 0 ≤ price.amount)
    (h : ofRate price rate entryIncludesTax = .ok p) : p.IsPriceIn price.currency where
  net_currency := currency_ofRate hrate h false
  gross_currency := currency_ofRate hrate h true
  net_nonneg := ofRate_nonneg hrate hprice h false
  net_le_gross := (part_isPartOf_gross hrate hprice h false).le
  net_whole := by
    rw [← currency_ofRate hrate h false]
    exact Money.quantize_iff.1 (quantize_ofRate h false)
  gross_whole := by
    rw [← currency_ofRate hrate h true]
    exact Money.quantize_iff.1 (quantize_ofRate h true)

/-- **Net and gross prices lead to each other.** A rate of at most six places makes a price of every
amount in minor units, entered without tax or with it. Entered without tax it is the net amount, and
the gross amount that comes of it, entered with tax, has the same net amount again. -/
theorem ofRate_roundTrip (hrate : rate.IsTaxRate 6) (hnonneg : 0 ≤ price.amount)
    (hlarge : price.amount < .ofInt 1000000000000000)
    (hwhole : (price.currency.minor : Int) ∣ price.amount.units) :
    (∃ p back, ofRate price rate false = .ok p ∧ p.net = price ∧
      ofRate p.gross rate true = .ok back ∧ back.net = price) ∧
    ∀ entryIncludesTax, ∃ p, ofRate price rate entryIncludesTax = .ok p ∧
      p.IsPriceIn price.currency ∧ (entryIncludesTax = true → p.gross = price) := by
  have hquantize : price.quantize = price := Money.quantize_iff.2 hwhole
  have hle : price.amount.units ≤ (1000000000000000 : Nat) * unitsPerOne := Int.le_of_lt hlarge
  have hprices (entryIncludesTax : Bool) :=
    exists_ofRate hrate (by decide) hnonneg hle (by decide) entryIncludesTax
  refine ⟨?_, fun entryIncludesTax => ?_⟩
  · obtain ⟨p, hthere⟩ := hprices false
    have hroom := price.currency.unitsPerOne_lt
    have hgross : p.gross.amount.units ≤ (11000000000000000 : Nat) * unitsPerOne := by
      have heleven : p.gross.amount.units ≤ 11 * price.amount.units :=
        part_le_eleven hrate (by decide) hnonneg hquantize (by omega) hthere true
      omega
    obtain ⟨back, hback⟩ : ∃ back, ofRate p.gross rate true = .ok back :=
      exists_ofRate hrate (by decide) (ofRate_nonneg hrate.nonneg hnonneg hthere true) hgross
        (by decide) true
    have hbound : p.gross.amount.units ≤ (mantissaBound * pow10 (22 - 6) : Nat) :=
      Int.le_trans hgross (by decide)
    exact ⟨p, back, hthere, (ofRate_rounded hthere).1.trans hquantize, hback,
      net_ofRate_gross hrate (by decide) hnonneg hquantize hthere hback hbound⟩
  · obtain ⟨p, hp⟩ := hprices entryIncludesTax
    refine ⟨p, hp, isPriceIn_ofRate hrate.nonneg hnonneg hp, ?_⟩
    rintro rfl
    exact (ofRate_rounded hp).1.trans hquantize

/-- Three yen and half of them as tax are five, of which three and a third are the net amount. -/
theorem ofRate_roundTrip_yen :
    let price : Money := ⟨.ofInt 3, .jpy⟩
    let half : Decimal := (Decimal.ofMantissa? 5 1).getD 0
    half.IsTaxRate 6 ∧ 0 ≤ price.amount ∧ price.amount < .ofInt 1000000000000000 ∧
      (price.currency.minor : Int) ∣ price.amount.units ∧
      ∃ p back, ofRate price half false = .ok p ∧ p.gross = ⟨.ofInt 5, .jpy⟩ ∧
        ofRate p.gross half true = .ok back ∧ back.net = price := by
  intro price half
  have hrate : half.IsTaxRate 6 := by decide +kernel
  have hnonneg : 0 ≤ price.amount := by decide
  have hwhole : (price.currency.minor : Int) ∣ price.amount.units := by decide +kernel
  obtain ⟨⟨p, back, hthere, -, hback, hnet⟩, -⟩ :=
    ofRate_roundTrip hrate hnonneg (by decide) hwhole
  have hfive : ofRate price half false = .ok ⟨price, ⟨.ofInt 5, .jpy⟩⟩ := by decide +kernel
  have hgross : p.gross = ⟨.ofInt 5, .jpy⟩ := by rw [Except.ok.inj (hthere.symm.trans hfive)]
  exact ⟨hrate, hnonneg, by decide, hwhole, p, back, hthere, hgross, hback, hnet⟩

end Taxed

end Storefront
