import Mathlib.Tactic.Linarith
import Mathlib.Tactic.Positivity
import Storefront.Proofs.Money.Part
import Storefront.Proofs.Money.Whole
import Storefront.Proofs.Store.Run
import Storefront.Taxed

/-!
# Rounding taxed prices

A tax rate turns an amount that is entered into a net and a gross one, and both are rounded to the
minor unit. How much rounding takes off is stated without division: an amount with some halves of a
minor unit added reaches the exact one. This can be added up and multiplied, so that the price of
many items, taxed together, is compared with the sum of their prices, taxed one by one.

* `TaxRatio.of`: what an entered amount is multiplied by, and divided by.
* `Taxed.ofRate_part`: each of the two amounts is a rounded quotient.
* `Taxed.ofRate_isPartOf`, `Taxed.part_isPartOf_gross`: the order of taxed prices.
* `TaxRatio.Reaches`: an amount reaches the exact one, but for some halves of a minor unit.
* `Taxed.lt_part_add_half`: a taxed price is not too low by half a minor unit.
* `Taxed.reaches_ofRate`: a taxed price does, with one half at most.
* `Taxed.part_le_of_reaches`: a price is taxed with no more than what reaches it, and half of the
  halves.
-/

namespace Storefront

open Decimal (Fits maxPlaces mantissaBound unitsPerOne)

/-! ## Halves of a minor unit -/

namespace Currency

variable {units : Int}

/-- Halves of a minor unit have one place more. -/
theorem minor_eq (c : Currency) : c.minor = pow10 (maxPlaces - (c.places + 1)) * 10 := by
  have hplaces : maxPlaces - c.places = maxPlaces - (c.places + 1) + 1 := by
    have := c.places_le_four
    unfold maxPlaces
    omega
  rw [minor, hplaces, pow10_succ]

theorem two_mul_half (c : Currency) : 2 * (c.minor / 2) = c.minor := by
  have := c.minor_eq
  omega

/-- Halves are rounded up to whole minor units. -/
theorem round_add_halves (c : Currency) (hunits : 0 ≤ units) (hdvd : (c.minor : Int) ∣ units)
    (halves : Nat) :
    c.round (units + (halves * (c.minor / 2) : Nat)) =
      units + ((halves + 1) / 2 * c.minor : Nat) := by
  obtain ⟨n, rfl⟩ := Int.eq_ofNat_of_zero_le hunits
  obtain ⟨k, rfl⟩ := Int.natCast_dvd_natCast.1 hdvd
  have hhalf : 2 * (halves * (c.minor / 2)) = halves * c.minor := by
    rw [Nat.mul_left_comm, c.two_mul_half]
  have htwice : 2 * (c.minor * k + halves * (c.minor / 2)) + c.minor =
      (2 * k + halves + 1) * c.minor := by
    rw [Nat.mul_add, hhalf, Nat.add_mul, Nat.add_mul, Nat.one_mul, Nat.mul_comm c.minor k,
      Nat.mul_assoc]
  rw [← Int.natCast_add, c.round_natCast, ← Int.natCast_add, htwice,
    Nat.mul_div_mul_right _ _ c.minor_pos, Nat.mul_comm c.minor k, ← Nat.add_mul]
  congr 2
  omega

/-- Amounts with halves of a minor unit are decimals if ten times the amount is within bounds. -/
theorem fits_add_halves (c : Currency) (hunits : 0 ≤ units) (hdvd : (c.minor : Int) ∣ units)
    (halves : Nat)
    (hbound : 10 * (units + (halves * c.minor : Nat)) < (mantissaBound * c.minor : Nat)) :
    Fits (units + (halves * (c.minor / 2) : Nat)) := by
  have hplaces : c.places + 1 ≤ maxPlaces :=
    Nat.le_trans (Nat.succ_le_succ c.places_le_four) (by decide)
  have hhalf : c.minor / 2 = pow10 (maxPlaces - (c.places + 1)) * 5 := by
    rw [c.minor_eq]
    omega
  refine Decimal.fits_of_dvd hplaces (Int.dvd_add (Int.dvd_trans ?_ hdvd) ?_) ?_
  · rw [c.minor_eq, Int.natCast_mul]
    exact Int.dvd_mul_right ..
  · rw [hhalf, Nat.mul_left_comm]
    exact Int.natCast_dvd_natCast.2 (Nat.dvd_mul_right ..)
  · have hle : halves * (c.minor / 2) ≤ halves * c.minor :=
      Nat.mul_le_mul_left _ (Nat.div_le_self ..)
    have hten : mantissaBound * c.minor =
        10 * (mantissaBound * pow10 (maxPlaces - (c.places + 1))) := by
      rw [c.minor_eq, ← Nat.mul_assoc, Nat.mul_comm]
    omega

end Currency

/-! ## The two amounts of a price -/

namespace Taxed

variable {p q r : Taxed}

/-- The gross amount of a price, or the net one. -/
def part (p : Taxed) (gross : Bool) : Money := if gross then p.gross else p.net

theorem add_part (h : p.add q = .ok r) (gross : Bool) :
    (p.part gross).add (q.part gross) = .ok (r.part gross) := by
  obtain ⟨net, hnet, h⟩ := bind_ok h
  obtain ⟨all, hall, h⟩ := bind_ok h
  cases h
  cases gross <;> assumption

theorem foldlM_add_part {α : Type} {price : α → Taxed} {items : List α} {first total : Taxed}
    (h : items.foldlM (fun sum x => sum.add (price x)) first = .ok total) (gross : Bool) :
    (items.map fun x => (price x).part gross).foldlM Money.add (first.part gross) =
      .ok (total.part gross) := by
  induction items generalizing first with
  | nil =>
    cases h
    rfl
  | cons x rest ih =>
    obtain ⟨next, hnext, h⟩ := bind_ok h
    rw [List.map_cons, List.foldlM_cons, add_part hnext gross]
    exact ih h

theorem times_part {quantity : Nat} (h : p.times quantity = .ok r) (gross : Bool) :
    (p.part gross).times quantity = .ok (r.part gross) := by
  obtain ⟨net, hnet, h⟩ := bind_ok h
  obtain ⟨all, hall, h⟩ := bind_ok h
  cases h
  cases gross <;> assumption

theorem subAmount_part {amount : Money} (h : p.subAmount amount = .ok r) (gross : Bool) :
    (p.part gross).sub amount = .ok (r.part gross) := by
  obtain ⟨net, hnet, h⟩ := bind_ok h
  obtain ⟨all, hall, h⟩ := bind_ok h
  cases h
  cases gross <;> assumption

@[simp] theorem part_untaxed (m : Money) (gross : Bool) : (untaxed m).part gross = m := by
  cases gross <;> rfl

@[simp] theorem part_quantize (p : Taxed) (gross : Bool) :
    p.quantize.part gross = (p.part gross).quantize := by
  cases gross <;> rfl

@[simp] theorem part_floorAtZero (p : Taxed) (gross : Bool) :
    p.floorAtZero.part gross = (p.part gross).floorAtZero := by
  cases gross <;> rfl

end Taxed

/-! ## Rates -/

/-- What an entered amount in units is multiplied by, and divided by. -/
structure TaxRatio where
  num : Nat
  den : Nat

/-- The ratio of the gross amount, or of the net one, at a rate. What is entered stays as it is. -/
def TaxRatio.of (rate : Decimal) (entryIncludesTax gross : Bool) : TaxRatio :=
  let factor := ((Decimal.add? 1 rate).getD 1).units.toNat
  if entryIncludesTax = gross then ⟨1, unitsPerOne⟩
  else if gross then ⟨factor, unitsPerOne * unitsPerOne⟩
  else ⟨1, factor⟩

section

variable {rate : Decimal} {entryIncludesTax : Bool}

/-- A rate that is not negative does not make less. -/
theorem unitsPerOne_le_factor (hrate : 0 ≤ rate) :
    (unitsPerOne : Int) ≤ ((Decimal.add? 1 rate).getD 1).units := by
  cases hfactor : Decimal.add? 1 rate with
  | none => exact Int.le_refl _
  | some factor =>
    have hone : Decimal.add? 1 0 = some 1 := Decimal.add?_of_units (Int.add_zero _)
    exact Decimal.add?_mono (Int.add_le_add_left hrate _) hone hfactor

theorem TaxRatio.den_pos (hrate : 0 ≤ rate) (entryIncludesTax gross : Bool) :
    0 < (TaxRatio.of rate entryIncludesTax gross).den := by
  have hfactor := unitsPerOne_le_factor hrate
  have hone := Decimal.unitsPerOne_pos
  unfold of
  split
  · exact hone
  · split
    · exact Nat.mul_pos hone hone
    · show 0 < Int.toNat _
      omega

/-- The ratio of the net amount is no larger than that of the gross one. -/
theorem TaxRatio.net_le_gross (hrate : 0 ≤ rate) (entryIncludesTax : Bool) :
    (TaxRatio.of rate entryIncludesTax false).num * (TaxRatio.of rate entryIncludesTax true).den ≤
      (TaxRatio.of rate entryIncludesTax true).num *
        (TaxRatio.of rate entryIncludesTax false).den := by
  have hfactor : unitsPerOne ≤ ((Decimal.add? 1 rate).getD 1).units.toNat := by
    have := unitsPerOne_le_factor hrate
    omega
  cases entryIncludesTax with
  | true => exact Nat.mul_le_mul_left 1 hfactor
  | false =>
    show 1 * (unitsPerOne * unitsPerOne) ≤ _ * unitsPerOne
    rw [Nat.one_mul]
    exact Nat.mul_le_mul_right _ hfactor

/-- What is entered is multiplied by one, and so is what is not taxed. -/
theorem TaxRatio.num_eq {gross : Bool} (h : gross = entryIncludesTax ∨ rate = 0) :
    (TaxRatio.of rate entryIncludesTax gross).num * unitsPerOne =
      (TaxRatio.of rate entryIncludesTax gross).den := by
  rcases h with rfl | rfl
  · simp [TaxRatio.of]
  · cases entryIncludesTax <;> cases gross <;> rfl

namespace Taxed

variable {price : Money} {p : Taxed}

/-- **Each amount of a taxed price is a rounded quotient.** -/
theorem ofRate_part (hrate : 0 ≤ rate) (h : ofRate price rate entryIncludesTax = .ok p)
    (gross : Bool) :
    ∃ amount, Decimal.nearest?
        (price.amount.units * (TaxRatio.of rate entryIncludesTax gross).num)
        (TaxRatio.of rate entryIncludesTax gross).den = some amount ∧
      p.part gross = Money.quantize ⟨amount, price.currency⟩ := by
  have hpos := unitsPerOne_le_factor hrate
  have hone := Decimal.unitsPerOne_pos
  obtain ⟨factor, hfactor, h⟩ := bind_ok h
  have hfactor := orFail_ok hfactor
  have hself : Decimal.nearest? (price.amount.units * (1 : Nat)) unitsPerOne =
      some price.amount := Decimal.nearest?_of_fits hone (by rw [Int.natCast_one, Int.mul_one])
  rw [hfactor, Option.getD_some] at hpos
  have hcast : (factor.units.toNat : Int) = factor.units := Int.toNat_of_nonneg (by omega)
  unfold TaxRatio.of
  rw [hfactor, Option.getD_some]
  cases entryIncludesTax with
  | true =>
    have hzero : factor.isZero = false := decide_eq_false (by omega)
    rw [if_pos rfl, if_neg (ne_true_of_eq_false hzero)] at h
    obtain ⟨net, hnet, h⟩ := bind_ok h
    cases h
    cases gross with
    | true => exact ⟨price.amount, hself, rfl⟩
    | false =>
      refine ⟨net, ?_, rfl⟩
      have hdiv := orFail_ok hnet
      rw [Decimal.div?, if_neg (by omega), Int.sign_eq_one_of_pos (by omega)] at hdiv
      rw [← hdiv]
      show Decimal.nearest? (price.amount.units * (1 : Nat)) factor.units.toNat = _
      congr 1
      omega
  | false =>
    rw [if_neg Bool.false_ne_true] at h
    obtain ⟨scaled, hscaled, h⟩ := bind_ok h
    cases h
    cases gross with
    | false => exact ⟨price.amount, hself, rfl⟩
    | true =>
      unfold Money.scale at hscaled
      cases hmul : price.amount.mul? factor with
      | none =>
        rw [hmul] at hscaled
        cases hscaled
      | some amount =>
        rw [hmul] at hscaled
        cases hscaled
        refine ⟨amount, ?_, rfl⟩
        rw [← hmul]
        show Decimal.nearest? (price.amount.units * (factor.units.toNat : Int)) _ = _
        rw [hcast]
        rfl

/-- Both amounts are rounded, and the one that is entered is nothing but that. -/
theorem ofRate_rounded (h : ofRate price rate entryIncludesTax = .ok p) :
    p.part entryIncludesTax = price.quantize ∧ p.quantize = p := by
  obtain ⟨factor, -, h⟩ := bind_ok h
  cases entryIncludesTax with
  | true =>
    rw [if_pos rfl] at h
    split at h
    · cases h
      exact ⟨rfl, by simp [quantize]⟩
    · obtain ⟨_, -, h⟩ := bind_ok h
      cases h
      exact ⟨rfl, by simp [quantize]⟩
  | false =>
    obtain ⟨_, -, h⟩ := bind_ok h
    cases h
    exact ⟨rfl, by simp [quantize]⟩

/-- A rate of zero leaves a price untaxed. -/
theorem ofRate_zero (price : Money) (entryIncludesTax : Bool) :
    ofRate price 0 entryIncludesTax = .ok (untaxed price.quantize) := by
  have hfactor : Decimal.add? 1 0 = some 1 := Decimal.add?_of_units (Int.add_zero _)
  have hdiv : price.amount.div? 1 = some price.amount := by
    refine Decimal.nearest?_of_fits (by decide) ?_
    show price.amount.units * Int.sign (1 : Decimal).units * _ = price.amount.units * _
    rw [Int.mul_assoc]
    rfl
  have hmul : price.amount.mul? 1 = some price.amount := by
    refine Decimal.nearest?_of_fits (by decide) ?_
    rw [Int.natCast_mul, ← Int.mul_assoc]
    rfl
  rw [ofRate, hfactor]
  cases entryIncludesTax with
  | true =>
    show (orFail .outOfRange (price.amount.div? 1) >>= fun net => .ok _) = _
    rw [hdiv]
    rfl
  | false =>
    show (price.scale 1 >>= fun gross => .ok _) = _
    rw [Money.scale, hmul]
    rfl

/-- Rounding is all that is done to what is entered, or not taxed. -/
theorem part_of_exact {gross : Bool} (hexact : gross = entryIncludesTax ∨ rate = 0)
    (h : ofRate price rate entryIncludesTax = .ok p) : p.part gross = price.quantize := by
  rcases hexact with rfl | rfl
  · exact (ofRate_rounded h).1
  · rw [ofRate_zero] at h
    rw [← Except.ok.inj h, part_untaxed]

theorem quantize_ofRate (h : ofRate price rate entryIncludesTax = .ok p) (gross : Bool) :
    (p.part gross).quantize = p.part gross := by
  rw [← part_quantize, (ofRate_rounded h).2]

theorem currency_ofRate (hrate : 0 ≤ rate) (h : ofRate price rate entryIncludesTax = .ok p)
    (gross : Bool) : (p.part gross).currency = price.currency := by
  obtain ⟨amount, -, hpart⟩ := ofRate_part hrate h gross
  rw [hpart]
  rfl

/-- **A part of a price is taxed with a part of it.** -/
theorem ofRate_isPartOf {price' : Money} {p' : Taxed} (hrate : 0 ≤ rate)
    (hprice : price.IsPartOf price') (h : ofRate price rate entryIncludesTax = .ok p)
    (h' : ofRate price' rate entryIncludesTax = .ok p') (gross : Bool) :
    (p.part gross).IsPartOf (p'.part gross) := by
  obtain ⟨amount, hamount, hpart⟩ := ofRate_part hrate h gross
  obtain ⟨amount', hamount', hpart'⟩ := ofRate_part hrate h' gross
  have hden := TaxRatio.den_pos hrate entryIncludesTax gross
  have hexact : Money.IsPartOf ⟨amount, price.currency⟩ ⟨amount', price'.currency⟩ := {
    currency := hprice.currency
    nonneg := Decimal.nearest?_nonneg hden
      (Int.mul_nonneg hprice.nonneg (Int.natCast_nonneg _)) hamount
    le := Decimal.nearest?_mono hden
      (Int.mul_le_mul_of_nonneg_right hprice.le (Int.natCast_nonneg _)) hamount hamount' }
  rw [hpart, hpart']
  exact hexact.quantize

theorem ofRate_nonneg (hrate : 0 ≤ rate) (hprice : 0 ≤ price.amount)
    (h : ofRate price rate entryIncludesTax = .ok p) (gross : Bool) :
    0 ≤ (p.part gross).amount :=
  (ofRate_isPartOf hrate (.self hprice) h h gross).nonneg

/-- **The net amount is a part of the gross one.** -/
theorem part_isPartOf_gross (hrate : 0 ≤ rate) (hprice : 0 ≤ price.amount)
    (h : ofRate price rate entryIncludesTax = .ok p) (gross : Bool) :
    (p.part gross).IsPartOf p.gross := by
  cases gross with
  | true => exact .self (ofRate_nonneg hrate hprice h true)
  | false =>
    obtain ⟨net, hnet, hnetPart⟩ := ofRate_part hrate h false
    obtain ⟨gross, hgross, hgrossPart⟩ := ofRate_part hrate h true
    have hden := TaxRatio.den_pos hrate entryIncludesTax
    have hratio := Int.ofNat_le.2 (TaxRatio.net_le_gross hrate entryIncludesTax)
    have hprice : 0 ≤ price.amount.units := hprice
    have hexact : Money.IsPartOf ⟨net, price.currency⟩ ⟨gross, price.currency⟩ := {
      currency := rfl
      nonneg := Decimal.nearest?_nonneg (hden false)
        (Int.mul_nonneg hprice (Int.natCast_nonneg _)) hnet
      le := by
        refine Decimal.nearest?_mono_div (hden false) (hden true) ?_ hnet hgross
        rw [Int.mul_assoc, Int.mul_assoc, ← Int.natCast_mul, ← Int.natCast_mul]
        exact Int.mul_le_mul_of_nonneg_left hratio hprice }
    rw [hnetPart, show p.gross = _ from hgrossPart]
    exact hexact.quantize

end Taxed

namespace TaxRatio

/-- `r.Reaches c price amount halves`: an amount and some halves of a minor unit are together no
less than what a price comes to. -/
def Reaches (r : TaxRatio) (c : Currency) (price amount : Int) (halves : Nat) : Prop :=
  price * r.num * unitsPerOne ≤ (amount + (halves * (c.minor / 2) : Nat)) * r.den

namespace Reaches

variable {r : TaxRatio} {c : Currency} {price price' amount amount' : Int} {halves halves' : Nat}

theorem mono (h : r.Reaches c price amount halves) (hle : price' ≤ price) :
    r.Reaches c price' amount halves := by
  refine Int.le_trans ?_ h
  exact Int.mul_le_mul_of_nonneg_right
    (Int.mul_le_mul_of_nonneg_right hle (Int.natCast_nonneg _)) (Int.natCast_nonneg _)

theorem add (h : r.Reaches c price amount halves) (h' : r.Reaches c price' amount' halves') :
    r.Reaches c (price + price') (amount + amount') (halves + halves') := by
  have hsum := Int.add_le_add h h'
  unfold Reaches at *
  push_cast at hsum ⊢
  linarith

theorem times (h : r.Reaches c price amount halves) (n : Nat) :
    r.Reaches c (price * n) (amount * n) (halves * n) := by
  have hproduct := Int.mul_le_mul_of_nonneg_right h (Int.natCast_nonneg n)
  unfold Reaches at *
  push_cast at hproduct ⊢
  linarith

theorem sum {α : Type} {price amount : α → Int} {halves : α → Nat} {items : List α}
    (h : ∀ x ∈ items, r.Reaches c (price x) (amount x) (halves x)) :
    r.Reaches c (items.map price).sum (items.map amount).sum (items.map halves).sum := by
  induction items with
  | nil => simp [Reaches]
  | cons x rest ih =>
    obtain ⟨hx, hrest⟩ := List.forall_mem_cons.1 h
    simpa using hx.add (ih hrest)

end Reaches

end TaxRatio

namespace Taxed

variable {price : Money} {p : Taxed}

/-- Whether rounding has left an amount below the exact one. -/
def fallsShort (p : Taxed) (price : Money) (rate : Decimal) (entryIncludesTax gross : Bool) :
    Bool :=
  let ratio := TaxRatio.of rate entryIncludesTax gross
  (p.part gross).amount.units * ratio.den < price.amount.units * ratio.num * unitsPerOne

/-- The exact price is less than half a minor unit above the taxed one: were it more, it would have
been rounded up. -/
theorem lt_part_add_half (hrate : 0 ≤ rate) (hprice : 0 ≤ price.amount)
    (h : ofRate price rate entryIncludesTax = .ok p) (gross : Bool)
    (hbound : 10 * ((p.part gross).amount.units + price.currency.minor) <
      (mantissaBound * price.currency.minor : Nat)) :
    price.amount.units * (TaxRatio.of rate entryIncludesTax gross).num * unitsPerOne <
      ((p.part gross).amount.units + (price.currency.minor / 2 : Nat)) *
        (TaxRatio.of rate entryIncludesTax gross).den := by
  have hnonneg : 0 ≤ (p.part gross).amount.units := ofRate_nonneg hrate hprice h gross
  have hwhole := Money.quantize_iff.1 (quantize_ofRate h gross)
  rw [currency_ofRate hrate h gross] at hwhole
  obtain ⟨amount, hamount, hpart⟩ := ofRate_part hrate h gross
  have hden := TaxRatio.den_pos hrate entryIncludesTax gross
  refine Int.not_le.1 fun hle => ?_
  have hfits : Fits ((p.part gross).amount.units + (price.currency.minor / 2 : Nat)) := by
    have hhalves := price.currency.fits_add_halves hnonneg hwhole 1 (by rwa [Nat.one_mul])
    rwa [Nat.one_mul] at hhalves
  have hreached : (⟨_, hfits⟩ : Decimal).units ≤ amount.units :=
    Decimal.le_nearest? hden hamount hle
  have hround : 2 * amount.units <
      2 * (p.part gross).amount.units + price.currency.minor := by
    rw [hpart]
    exact (price.currency.round_half (by dsimp only at hreached; omega)).2
  have hhalf := price.currency.two_mul_half
  dsimp only at hreached
  omega

/-- An amount and half a minor unit reach the exact price. -/
theorem reaches_ofRate_one (hrate : 0 ≤ rate) (hprice : 0 ≤ price.amount)
    (h : ofRate price rate entryIncludesTax = .ok p) (gross : Bool)
    (hbound : 10 * ((p.part gross).amount.units + price.currency.minor) <
      (mantissaBound * price.currency.minor : Nat)) :
    (TaxRatio.of rate entryIncludesTax gross).Reaches price.currency price.amount.units
      (p.part gross).amount.units 1 := by
  rw [TaxRatio.Reaches, Nat.one_mul]
  exact Int.le_of_lt (lt_part_add_half hrate hprice h gross hbound)

/-- **A taxed price is within half a minor unit of the exact one.** -/
theorem reaches_ofRate (hrate : 0 ≤ rate) (hprice : 0 ≤ price.amount)
    (h : ofRate price rate entryIncludesTax = .ok p) (gross : Bool)
    (hbound : 10 * ((p.part gross).amount.units + price.currency.minor) <
      (mantissaBound * price.currency.minor : Nat)) :
    (TaxRatio.of rate entryIncludesTax gross).Reaches price.currency price.amount.units
      (p.part gross).amount.units
      (if p.fallsShort price rate entryIncludesTax gross then 1 else 0) := by
  unfold fallsShort
  dsimp only
  split
  · exact reaches_ofRate_one hrate hprice h gross hbound
  · rename_i hshort
    rw [TaxRatio.Reaches, Nat.zero_mul, Int.natCast_zero, Int.add_zero]
    exact Int.not_lt.1 (of_decide_eq_false (eq_false_of_ne_true hshort))

/-- **A price is taxed with no more than what reaches it**, and half of the halves. -/
theorem part_le_of_reaches {amount : Int} {halves : Nat} {gross : Bool} (hrate : 0 ≤ rate)
    (hprice : 0 ≤ price.amount) (h : ofRate price rate entryIncludesTax = .ok p)
    (hreaches : (TaxRatio.of rate entryIncludesTax gross).Reaches price.currency
      price.amount.units amount halves)
    (hamount : 0 ≤ amount) (hdvd : (price.currency.minor : Int) ∣ amount)
    (hbound : 10 * (amount + (halves * price.currency.minor : Nat)) <
      (mantissaBound * price.currency.minor : Nat)) :
    (p.part gross).amount.units ≤
      amount + ((halves + 1) / 2 * price.currency.minor : Nat) := by
  obtain ⟨exact, hexact, hpart⟩ := ofRate_part hrate h gross
  have hden := TaxRatio.den_pos hrate entryIncludesTax gross
  have hfits := price.currency.fits_add_halves hamount hdvd halves hbound
  have hle : exact ≤ ⟨_, hfits⟩ := Decimal.nearest?_le hden hexact hreaches
  have hnonneg : 0 ≤ exact :=
    Decimal.nearest?_nonneg hden (Int.mul_nonneg hprice (Int.natCast_nonneg _)) hexact
  rw [hpart, Money.units_quantize, ← price.currency.round_add_halves hamount hdvd]
  exact Currency.round_mono _ hnonneg hle

end Taxed

end

end Storefront
