import Storefront.Decimal.Pow10

/-!
# Decimal numbers of bounded precision

A decimal is a whole number below `2^96`, with a sign, divided by a power of ten of at most
`10^28`. It is stored as its number of units of `10^-28`, so two decimals are equal exactly when
they have the same value, however many trailing zeros they were written with.

* `Decimal.nearest?`: the decimal closest to an exact quotient, with as many places as fit and
  ties to the even neighbour. All arithmetic is this one rounding of an exact result.
* `Decimal.nearest?_of_fits`: a quotient that is a decimal is not changed by the rounding, so
  arithmetic is exact whenever its result can be represented.
* `Decimal.round`: rounding to a number of places, which always fits.
-/

namespace Storefront

/-! ## Rounding a quotient -/

/-- What rounding does with a value halfway between two neighbours. -/
inductive Rounding where
  | halfEven
  | halfAwayFromZero
deriving DecidableEq, Repr

namespace Rounding

/-- The quotient `n / d` rounded to a whole number. -/
def quotient (mode : Rounding) (n d : Nat) : Nat :=
  let q := n / d
  let twice := 2 * (n % d)
  if twice < d then q
  else if d < twice then q + 1
  else match mode with
    | halfAwayFromZero => q + 1
    | halfEven => if q % 2 = 0 then q else q + 1

/-- The quotient of a signed numerator: magnitudes are rounded, the sign is kept. -/
def quotientInt (mode : Rounding) (n : Int) (d : Nat) : Int :=
  n.sign * mode.quotient n.natAbs d

theorem quotient_le (mode : Rounding) (n d : Nat) : mode.quotient n d ≤ n / d + 1 := by
  unfold quotient
  dsimp only
  split
  · omega
  · split
    · omega
    · cases mode
      · simp only; split <;> omega
      · simp only; omega

theorem quotient_mul (mode : Rounding) (m : Nat) {d : Nat} (hd : 0 < d) :
    mode.quotient (m * d) d = m := by
  have h0 : m * d % d = 0 := Nat.mul_mod_left m d
  have h1 : m * d / d = m := Nat.mul_div_cancel m hd
  simp [quotient, h0, h1, hd]

theorem quotientInt_mul (mode : Rounding) (m : Int) {d : Nat} (hd : 0 < d) :
    mode.quotientInt (m * d) d = m := by
  have hs : (m * (d : Int)).sign = m.sign := by
    rw [Int.sign_mul, Int.sign_natCast_of_ne_zero (Nat.ne_of_gt hd), Int.mul_one]
  rw [quotientInt, hs, Int.natAbs_mul, Int.natAbs_natCast, quotient_mul mode _ hd]
  exact Int.sign_mul_natAbs m

theorem natAbs_quotientInt_le (mode : Rounding) (n : Int) (d : Nat) :
    (mode.quotientInt n d).natAbs ≤ n.natAbs / d + 1 := by
  rw [quotientInt, Int.natAbs_mul, Int.natAbs_natCast]
  have hs : n.sign.natAbs ≤ 1 := by rw [Int.natAbs_sign]; split <;> omega
  calc n.sign.natAbs * mode.quotient n.natAbs d
      ≤ 1 * mode.quotient n.natAbs d := Nat.mul_le_mul_right _ hs
    _ = mode.quotient n.natAbs d := Nat.one_mul _
    _ ≤ n.natAbs / d + 1 := mode.quotient_le _ _

end Rounding

/-! ## The numbers -/

namespace Decimal

/-- The largest number of places after the point. -/
def maxPlaces : Nat := 28

/-- Mantissas stay below this bound, which is `2^96`. -/
def mantissaBound : Nat := 79228162514264337593543950336

/-- The number of units in one. -/
def unitsPerOne : Nat := pow10 maxPlaces

/-- A number of units that is a mantissa within its bound, shifted by some number of places. -/
def Fits (units : Int) : Prop :=
  ∃ places mantissa, places ≤ maxPlaces ∧ mantissa.natAbs < mantissaBound ∧
    units = mantissa * (pow10 (maxPlaces - places) : Int)

end Decimal

/-- A decimal number. Its value is `units / 10^28`. -/
structure Decimal where
  units : Int
  fits : Decimal.Fits units
deriving DecidableEq

namespace Decimal

@[ext] theorem ext {a b : Decimal} (h : a.units = b.units) : a = b := by
  cases a; cases b; cases h; rfl

/-- The whole number with the given sign and magnitude. -/
def ofInt (n : Int) (h : n.natAbs < mantissaBound := by decide) : Decimal where
  units := n * unitsPerOne
  fits := ⟨0, n, by decide, h, rfl⟩

instance : OfNat Decimal 0 := ⟨ofInt 0⟩
instance : OfNat Decimal 1 := ⟨ofInt 1⟩
instance : OfNat Decimal 100 := ⟨ofInt 100⟩
instance : Inhabited Decimal := ⟨0⟩

instance : LE Decimal := ⟨fun a b => a.units ≤ b.units⟩
instance : LT Decimal := ⟨fun a b => a.units < b.units⟩
instance (a b : Decimal) : Decidable (a ≤ b) := inferInstanceAs (Decidable (a.units ≤ b.units))
instance (a b : Decimal) : Decidable (a < b) := inferInstanceAs (Decidable (a.units < b.units))

theorem le_def {a b : Decimal} : a ≤ b ↔ a.units ≤ b.units := Iff.rfl

@[simp] theorem units_zero : (0 : Decimal).units = 0 := rfl

/-- A mantissa with a number of places, if both are within their bounds. -/
def ofMantissa? (mantissa : Int) (places : Nat) : Option Decimal :=
  if h : places ≤ maxPlaces ∧ mantissa.natAbs < mantissaBound then
    some ⟨mantissa * (pow10 (maxPlaces - places) : Int), places, mantissa, h.1, h.2, rfl⟩
  else none

/-! ## Arithmetic -/

/-- The decimal nearest to `num / den` with at most the given number of places, or with fewer
where the mantissa would be too large. -/
def nearestFrom? (num : Int) (den : Nat) (places : Nat) (h : places ≤ maxPlaces) :
    Option Decimal :=
  let mantissa := Rounding.halfEven.quotientInt (num * (pow10 places : Int)) den
  if hm : mantissa.natAbs < mantissaBound then
    some ⟨mantissa * (pow10 (maxPlaces - places) : Int), places, mantissa, h, hm, rfl⟩
  else match places, h with
    | 0, _ => none
    | fewer + 1, h => nearestFrom? num den fewer (Nat.le_of_succ_le h)

/-- The decimal nearest to the exact quotient `num / den`, or `none` where even the whole part is
too large. -/
def nearest? (num : Int) (den : Nat) : Option Decimal :=
  nearestFrom? num den maxPlaces (Nat.le_refl _)

/-- The sum, or `none` if it is too large. -/
def add? (a b : Decimal) : Option Decimal := nearest? (a.units + b.units) unitsPerOne

/-- The difference, or `none` if it is too large. -/
def sub? (a b : Decimal) : Option Decimal := nearest? (a.units - b.units) unitsPerOne

/-- The product, or `none` if it is too large. -/
def mul? (a b : Decimal) : Option Decimal :=
  nearest? (a.units * b.units) (unitsPerOne * unitsPerOne)

/-- The quotient, or `none` if it is too large or the divisor is zero. -/
def div? (a b : Decimal) : Option Decimal :=
  if b.units = 0 then none else nearest? (a.units * b.units.sign) b.units.natAbs

/-- The product with a whole number. -/
def mulNat? (a : Decimal) (n : Nat) : Option Decimal := nearest? (a.units * n) unitsPerOne

/-- The quotient by a whole number. -/
def divNat? (a : Decimal) (n : Nat) : Option Decimal :=
  if n = 0 then none else nearest? a.units (unitsPerOne * n)

/-! ## Exactness -/

private theorem pow_split {places : Nat} (h : places ≤ maxPlaces) :
    unitsPerOne = pow10 (maxPlaces - places) * pow10 places := by
  rw [unitsPerOne, ← pow10_add, Nat.sub_add_cancel h]

private theorem nearestFrom?_of_mantissa {num : Int} {den : Nat} (hden : 0 < den) {p : Nat}
    {m : Int} (hp : p ≤ maxPlaces) (hm : m.natAbs < mantissaBound)
    (heq : num * (pow10 p : Int) = m * (den : Int)) :
    ∀ (places : Nat) (h : places ≤ maxPlaces), p ≤ places →
      ∃ d, nearestFrom? num den places h = some d ∧
        d.units = m * (pow10 (maxPlaces - p) : Int) := by
  intro places
  induction places with
  | zero =>
    intro h hle
    have hp0 : p = 0 := Nat.le_zero.mp hle
    subst hp0
    have hq : Rounding.halfEven.quotientInt (num * (pow10 0 : Int)) den = m := by
      rw [heq]; exact Rounding.quotientInt_mul _ m hden
    unfold nearestFrom?
    simp only [hq, hm, ↓reduceDIte]
    exact ⟨_, rfl, rfl⟩
  | succ k ih =>
    intro h hle
    have hshift : num * (pow10 (k + 1) : Int) =
        (m * (pow10 (k + 1 - p) : Int)) * (den : Int) := by
      have hk : pow10 (k + 1) = pow10 p * pow10 (k + 1 - p) := by
        rw [← pow10_add, Nat.add_sub_cancel' hle]
      rw [hk, Int.natCast_mul, ← Int.mul_assoc, heq]
      simp only [Int.mul_assoc, Int.mul_comm, Int.mul_left_comm]
    have hq : Rounding.halfEven.quotientInt (num * (pow10 (k + 1) : Int)) den =
        m * (pow10 (k + 1 - p) : Int) := by
      rw [hshift]; exact Rounding.quotientInt_mul _ _ hden
    unfold nearestFrom?
    simp only [hq]
    by_cases hfit : (m * (pow10 (k + 1 - p) : Int)).natAbs < mantissaBound
    · simp only [hfit, ↓reduceDIte]
      refine ⟨_, rfl, ?_⟩
      have hk : maxPlaces - p = (k + 1 - p) + (maxPlaces - (k + 1)) := by omega
      show m * (pow10 (k + 1 - p) : Int) * (pow10 (maxPlaces - (k + 1)) : Int) = _
      rw [hk, pow10_add, Int.natCast_mul, Int.mul_assoc]
    · simp only [hfit, ↓reduceDIte]
      have hpk : p ≤ k := by
        rcases Nat.lt_or_eq_of_le hle with hlt | heq'
        · omega
        · subst heq'
          simp only [Nat.sub_self, pow10_zero, Int.natCast_one, Int.mul_one] at hfit
          exact absurd hm hfit
      exact ih (by omega) hpk

/-- A quotient that is a decimal is its own nearest decimal. -/
theorem nearest?_of_fits {num : Int} {den : Nat} (hden : 0 < den) {d : Decimal}
    (h : num * (unitsPerOne : Int) = d.units * (den : Int)) : nearest? num den = some d := by
  obtain ⟨places, mantissa, hp, hm, hu⟩ := d.fits
  have heq : num * (pow10 places : Int) = mantissa * (den : Int) := by
    rw [hu, pow_split hp, Int.natCast_mul] at h
    have hpos : (pow10 (maxPlaces - places) : Int) ≠ 0 := by
      have := pow10_pos (maxPlaces - places)
      omega
    apply Int.eq_of_mul_eq_mul_left hpos
    calc (pow10 (maxPlaces - places) : Int) * (num * (pow10 places : Int))
        = num * ((pow10 (maxPlaces - places) : Int) * (pow10 places : Int)) := by
          rw [Int.mul_left_comm]
      _ = mantissa * (pow10 (maxPlaces - places) : Int) * (den : Int) := h
      _ = _ := by rw [Int.mul_comm mantissa, Int.mul_assoc]
  obtain ⟨r, hr, hru⟩ := nearestFrom?_of_mantissa hden hp hm heq maxPlaces (Nat.le_refl _) hp
  rw [nearest?, hr]
  congr 1
  exact ext (hru.trans hu.symm)

theorem unitsPerOne_pos : 0 < unitsPerOne := by decide

theorem add?_of_units {a b c : Decimal} (h : a.units + b.units = c.units) : a.add? b = some c :=
  nearest?_of_fits unitsPerOne_pos (by rw [h])

theorem sub?_of_units {a b c : Decimal} (h : a.units - b.units = c.units) : a.sub? b = some c :=
  nearest?_of_fits unitsPerOne_pos (by rw [h])

/-- A whole number of the last of some places is a decimal if it is not too large. -/
theorem fits_of_dvd {units : Int} {places : Nat} (hplaces : places ≤ maxPlaces)
    (hdvd : (pow10 (maxPlaces - places) : Int) ∣ units)
    (hbound : units.natAbs < mantissaBound * pow10 (maxPlaces - places)) : Fits units := by
  obtain ⟨mantissa, rfl⟩ := hdvd
  refine ⟨places, mantissa, hplaces, ?_, Int.mul_comm ..⟩
  rw [Int.natAbs_mul, Int.natAbs_natCast, Nat.mul_comm] at hbound
  exact Nat.lt_of_mul_lt_mul_right hbound

theorem fits_neg {units : Int} (h : Fits units) : Fits (-units) := by
  obtain ⟨places, mantissa, hp, hm, rfl⟩ := h
  exact ⟨places, -mantissa, hp, by rwa [Int.natAbs_neg], (Int.neg_mul ..).symm⟩

/-! ## Signs -/

private theorem nearestFrom?_nonneg {num : Int} {den : Nat} {d : Decimal} (hnum : 0 ≤ num)
    (places : Nat) (h : places ≤ maxPlaces) (hd : nearestFrom? num den places h = some d) :
    0 ≤ d.units := by
  have hrounded (k : Nat) : 0 ≤ Rounding.halfEven.quotientInt (num * (pow10 k : Int)) den :=
    Int.mul_nonneg (Int.sign_nonneg_iff.2 (Int.mul_nonneg hnum (Int.natCast_nonneg _)))
      (Int.natCast_nonneg _)
  induction places with
  | zero =>
    unfold nearestFrom? at hd
    dsimp only at hd
    split at hd
    · cases hd
      exact Int.mul_nonneg (hrounded 0) (Int.natCast_nonneg _)
    · cases hd
  | succ k ih =>
    unfold nearestFrom? at hd
    dsimp only at hd
    split at hd
    · cases hd
      exact Int.mul_nonneg (hrounded (k + 1)) (Int.natCast_nonneg _)
    · exact ih _ hd

/-- Rounding keeps the sign of a difference. -/
theorem sub?_nonneg {a b d : Decimal} (h : a.sub? b = some d) (hle : b ≤ a) : 0 ≤ d.units :=
  nearestFrom?_nonneg (Int.sub_nonneg.2 hle) _ _ h

/-! ## Rounding to places -/

private theorem fits_round (mode : Rounding) (a : Decimal) (places : Nat) :
    Fits (mode.quotientInt a.units (pow10 (maxPlaces - places)) *
      (pow10 (maxPlaces - places) : Int)) := by
  obtain ⟨p, m, hp, hm, hu⟩ := a.fits
  by_cases hle : p ≤ places
  · -- The number already has few enough places.
    have hsplit : pow10 (maxPlaces - p) =
        pow10 ((maxPlaces - p) - (maxPlaces - places)) * pow10 (maxPlaces - places) := by
      rw [← pow10_add]; congr 1; omega
    refine ⟨p, m, hp, hm, ?_⟩
    rw [hu, hsplit, Int.natCast_mul, ← Int.mul_assoc,
      Rounding.quotientInt_mul _ _ (pow10_pos _)]
  · refine ⟨places, _, by omega, ?_, rfl⟩
    have hb := mode.natAbs_quotientInt_le a.units (pow10 (maxPlaces - places))
    have hsplit : pow10 (maxPlaces - places) = pow10 (maxPlaces - p) * pow10 (p - places) := by
      rw [← pow10_add]; congr 1; omega
    have hten : pow10 1 ≤ pow10 (p - places) := pow10_le_pow10 (by omega)
    rw [show pow10 1 = 10 from rfl] at hten
    have hdiv : a.units.natAbs / pow10 (maxPlaces - places) ≤ m.natAbs / 10 := by
      rw [hu, Int.natAbs_mul, Int.natAbs_natCast, hsplit, Nat.mul_comm m.natAbs,
        Nat.mul_div_mul_left _ _ (pow10_pos _)]
      exact Nat.div_le_div_left hten (by decide)
    unfold mantissaBound at *
    omega

/-- The number rounded to a number of places. -/
def round (mode : Rounding) (places : Nat) (a : Decimal) : Decimal :=
  ⟨mode.quotientInt a.units (pow10 (maxPlaces - places)) *
    (pow10 (maxPlaces - places) : Int), fits_round mode a places⟩

@[simp] theorem round_zero (mode : Rounding) (places : Nat) : (0 : Decimal).round mode places = 0 :=
  ext (by simp [round, Rounding.quotientInt])

/-- A number that is rounded already stays as it is. -/
theorem round_round (mode mode' : Rounding) (places : Nat) (a : Decimal) :
    (a.round mode places).round mode' places = a.round mode places := by
  refine ext ?_
  show mode'.quotientInt (mode.quotientInt a.units (pow10 (maxPlaces - places)) *
    (pow10 (maxPlaces - places) : Int)) _ * _ = _
  rw [Rounding.quotientInt_mul _ _ (pow10_pos _)]
  rfl

/-! ## Comparisons -/

/-- Below zero. -/
def isNegative (a : Decimal) : Bool := a.units < 0

/-- Exactly zero. -/
def isZero (a : Decimal) : Bool := a.units = 0

end Decimal

end Storefront
