import Storefront.Decimal

/-!
# Rounding keeps the order

Decimals are rounded to as many places as fit, so two numbers that lie close together may be rounded
to different numbers of places. The order of the results is that of the numbers even then, because a
result with fewer places is above everything that could have had one place more.

* `Rounding.quotient_half`, `Rounding.quotient_mono`: a rounded quotient is within half a unit of
  the exact one, and the larger of two quotients is not rounded to less.
* `Decimal.nearestFrom?_ok`: with how many places a quotient is rounded.
* `Decimal.nearest?_mono`, `Decimal.add?_mono`: rounding keeps the order, and so do rounded sums.
* `Decimal.nearest?_le`, `Decimal.le_nearest?`: rounding does not step over a decimal.
* `Decimal.fits_iff`: whether a number is a decimal can be computed.
* `Decimal.dvd_of_nearest?`: what has few places to begin with has no more after rounding.
-/

namespace Storefront

/-! ## Whole quotients -/

namespace Rounding

/-- A quotient is rounded down where the remainder is at most half a unit, and up where it is at
least that. -/
theorem quotient_eq_or (mode : Rounding) (n d : Nat) :
    mode.quotient n d = n / d ∧ 2 * (n % d) ≤ d ∨
      mode.quotient n d = n / d + 1 ∧ d ≤ 2 * (n % d) := by
  unfold quotient
  dsimp only
  split
  · exact .inl ⟨rfl, by omega⟩
  · split
    · exact .inr ⟨rfl, by omega⟩
    · cases mode
      · simp only
        split
        · exact .inl ⟨rfl, by omega⟩
        · exact .inr ⟨rfl, by omega⟩
      · exact .inr ⟨rfl, by omega⟩

/-- A rounded quotient is within half a unit of the exact one. -/
theorem quotient_half (mode : Rounding) (n : Nat) {d : Nat} (hd : 0 < d) :
    2 * n ≤ (2 * mode.quotient n d + 1) * d ∧ 2 * mode.quotient n d * d ≤ 2 * n + d := by
  have hn : n / d * d + n % d = n := by rw [Nat.mul_comm, Nat.div_add_mod]
  have hlt : n % d < d := Nat.mod_lt n hd
  rcases mode.quotient_eq_or n d with ⟨hq, hr⟩ | ⟨hq, hr⟩
  all_goals
    rw [hq]
    generalize n / d = q at hn ⊢
    generalize n % d = r at hn hlt hr
    simp only [Nat.mul_assoc, Nat.add_mul]
    omega

theorem quotient_mono (mode : Rounding) {n n' : Nat} (d : Nat) (h : n ≤ n') :
    mode.quotient n d ≤ mode.quotient n' d := by
  rcases Nat.lt_or_eq_of_le (Nat.div_le_div_right h : n / d ≤ n' / d) with hlt | heq
  · calc mode.quotient n d ≤ n / d + 1 := mode.quotient_le n d
      _ ≤ n' / d := hlt
      _ ≤ mode.quotient n' d := by rcases mode.quotient_eq_or n' d with ⟨hq, -⟩ | ⟨hq, -⟩ <;> omega
  · have hn : d * (n / d) + n % d = n := Nat.div_add_mod n d
    have hn' : d * (n' / d) + n' % d = n' := Nat.div_add_mod n' d
    rcases mode.quotient_eq_or n d with ⟨hq, hr⟩ | ⟨hq, hr⟩ <;>
      rcases mode.quotient_eq_or n' d with ⟨hq', hr'⟩ | ⟨hq', hr'⟩
    case inr.inl =>
      -- a tie on both sides, so that the two are one number
      obtain rfl : n = n' := by rw [heq] at hn; omega
      exact Nat.le_refl _
    all_goals omega

/-- A half that goes away from zero is a half that goes up. -/
theorem quotient_halfAwayFromZero (n : Nat) {d : Nat} (hd : 0 < d) :
    halfAwayFromZero.quotient n d = (2 * n + d) / (2 * d) := by
  have hn : d * (n / d) + n % d = n := Nat.div_add_mod n d
  have hlt : n % d < d := Nat.mod_lt n hd
  have hsplit : 2 * n + d = 2 * d * (n / d) + (2 * (n % d) + d) := by
    rw [Nat.mul_assoc]
    omega
  rw [hsplit, Nat.mul_add_div (by omega)]
  unfold quotient
  dsimp only
  split
  · have hzero : (2 * (n % d) + d) / (2 * d) = 0 := Nat.div_eq_of_lt (by omega)
    rw [hzero, Nat.add_zero]
  · have hone : (2 * (n % d) + d) / (2 * d) = 1 := by
      rw [Nat.div_eq_iff (by omega)]
      omega
    rw [hone, ite_self]

/-- A fraction need not be reduced. -/
theorem quotient_mul_right (mode : Rounding) (n d : Nat) {k : Nat} (hk : 0 < k) :
    mode.quotient (n * k) (d * k) = mode.quotient n d := by
  have htwice : 2 * (n % d * k) = 2 * (n % d) * k := (Nat.mul_assoc ..).symm
  simp only [quotient, Nat.mul_div_mul_right _ _ hk, Nat.mul_mod_mul_right, htwice,
    Nat.mul_lt_mul_right hk]

theorem quotientInt_mul_right (mode : Rounding) (n : Int) (d : Nat) {k : Nat} (hk : 0 < k) :
    mode.quotientInt (n * k) (d * k) = mode.quotientInt n d := by
  rw [quotientInt, quotientInt, Int.sign_mul, Int.sign_natCast_of_ne_zero (Nat.ne_of_gt hk),
    Int.mul_one, Int.natAbs_mul, Int.natAbs_natCast, quotient_mul_right _ _ _ hk]

theorem quotient_zero {mode : Rounding} {d : Nat} (hd : 0 < d) : mode.quotient 0 d = 0 := by
  simpa using mode.quotient_mul 0 hd

theorem quotientInt_natCast (mode : Rounding) (n : Nat) {d : Nat} (hd : 0 < d) :
    mode.quotientInt n d = mode.quotient n d := by
  rcases Nat.eq_zero_or_pos n with rfl | hn
  · rw [quotient_zero hd, quotientInt, Int.natCast_zero, Int.sign_zero, Int.zero_mul]
  · rw [quotientInt, Int.sign_natCast_of_ne_zero (Nat.ne_of_gt hn), Int.one_mul, Int.natAbs_natCast]

theorem quotientInt_neg (mode : Rounding) (n : Int) (d : Nat) :
    mode.quotientInt (-n) d = -mode.quotientInt n d := by
  rw [quotientInt, quotientInt, Int.sign_neg, Int.natAbs_neg, Int.neg_mul]

theorem natAbs_quotientInt (mode : Rounding) (n : Int) {d : Nat} (hd : 0 < d) :
    (mode.quotientInt n d).natAbs = mode.quotient n.natAbs d := by
  rcases Int.natAbs_eq n with hn | hn
  · rw [hn, quotientInt_natCast _ _ hd, Int.natAbs_natCast, Int.natAbs_natCast]
  · rw [hn, quotientInt_neg, quotientInt_natCast _ _ hd, Int.natAbs_neg, Int.natAbs_neg,
      Int.natAbs_natCast, Int.natAbs_natCast]

end Rounding

/-! ## Places -/

namespace Decimal

/-- The mantissa of a quotient with a number of places. -/
def mantissaAt (num : Int) (den places : Nat) : Int :=
  Rounding.halfEven.quotientInt (num * (pow10 places : Int)) den

theorem mantissaAt_neg (num : Int) (den places : Nat) :
    mantissaAt (-num) den places = -mantissaAt num den places := by
  rw [mantissaAt, Int.neg_mul, Rounding.quotientInt_neg]
  rfl

theorem natAbs_mantissaAt (num : Int) {den : Nat} (hden : 0 < den) (places : Nat) :
    (mantissaAt num den places).natAbs =
      Rounding.halfEven.quotient (num.natAbs * pow10 places) den := by
  rw [mantissaAt, Rounding.natAbs_quotientInt _ _ hden, Int.natAbs_mul, Int.natAbs_natCast]

theorem mantissaAt_natCast (num : Nat) {den : Nat} (hden : 0 < den) (places : Nat) :
    mantissaAt num den places = Rounding.halfEven.quotient (num * pow10 places) den := by
  rw [mantissaAt, ← Int.natCast_mul, Rounding.quotientInt_natCast _ _ hden]

theorem nearestFrom?_zero (num : Int) (den : Nat) (h : 0 ≤ maxPlaces) :
    nearestFrom? num den 0 h =
      if hm : (mantissaAt num den 0).natAbs < mantissaBound then
        some ⟨mantissaAt num den 0 * (pow10 (maxPlaces - 0) : Int), _, _, h, hm, rfl⟩
      else none := by
  rw [nearestFrom?]
  rfl

theorem nearestFrom?_succ (num : Int) (den places : Nat) (h : places + 1 ≤ maxPlaces) :
    nearestFrom? num den (places + 1) h =
      if hm : (mantissaAt num den (places + 1)).natAbs < mantissaBound then
        some ⟨mantissaAt num den (places + 1) * (pow10 (maxPlaces - (places + 1)) : Int),
          _, _, h, hm, rfl⟩
      else nearestFrom? num den places (Nat.le_of_succ_le h) := by
  rw [nearestFrom?]
  rfl

/-- A quotient is rounded to the largest number of places that fits. -/
theorem nearestFrom?_ok {num : Int} {den places : Nat} {h : places ≤ maxPlaces} {d : Decimal}
    (hd : nearestFrom? num den places h = some d) :
    ∃ p ≤ places, (mantissaAt num den p).natAbs < mantissaBound ∧
      d.units = mantissaAt num den p * (pow10 (maxPlaces - p) : Int) ∧
      ∀ more, p < more → more ≤ places → mantissaBound ≤ (mantissaAt num den more).natAbs := by
  induction places with
  | zero =>
    rw [nearestFrom?_zero] at hd
    split at hd
    · rename_i hfits
      cases hd
      exact ⟨0, Nat.le_refl 0, hfits, rfl, fun more hmore hle => by omega⟩
    · cases hd
  | succ k ih =>
    rw [nearestFrom?_succ] at hd
    split at hd
    · rename_i hfits
      cases hd
      exact ⟨k + 1, Nat.le_refl _, hfits, rfl, fun more hmore hle => by omega⟩
    · rename_i hlarge
      obtain ⟨p, hp, hfits, hunits, hmost⟩ := ih hd
      refine ⟨p, Nat.le_succ_of_le hp, hfits, hunits, fun more hmore hle => ?_⟩
      rcases Nat.lt_or_eq_of_le hle with hlt | rfl
      · exact hmost more hmore (Nat.le_of_lt_succ hlt)
      · exact Nat.le_of_not_lt hlarge

/-- Magnitudes are rounded, so the opposite number is rounded to the opposite. -/
theorem nearestFrom?_neg {num : Int} {den places : Nat} {h : places ≤ maxPlaces} {d : Decimal}
    (hd : nearestFrom? num den places h = some d) :
    ∃ d', nearestFrom? (-num) den places h = some d' ∧ d'.units = -d.units := by
  induction places with
  | zero =>
    rw [nearestFrom?_zero] at hd ⊢
    simp only [mantissaAt_neg, Int.natAbs_neg]
    split at hd
    · rename_i hfits
      cases hd
      exact ⟨_, by rw [dif_pos hfits], Int.neg_mul ..⟩
    · cases hd
  | succ k ih =>
    rw [nearestFrom?_succ] at hd ⊢
    simp only [mantissaAt_neg, Int.natAbs_neg]
    split at hd
    · rename_i hfits
      cases hd
      exact ⟨_, by rw [dif_pos hfits], Int.neg_mul ..⟩
    · rename_i hlarge
      rw [dif_neg hlarge]
      exact ih hd

/-! ## Order -/

/-- A quotient that does not fit with one place more is above all mantissas of that place. -/
theorem mantissaBound_le_of_large {num den places : Nat} (hden : 0 < den)
    (hlarge : mantissaBound ≤ Rounding.halfEven.quotient (num * pow10 (places + 1)) den) :
    mantissaBound ≤ 10 * Rounding.halfEven.quotient (num * pow10 places) den := by
  have hfiner := (Rounding.halfEven.quotient_half (num * pow10 (places + 1)) hden).2
  have hcoarser := (Rounding.halfEven.quotient_half (num * pow10 places) hden).1
  rw [pow10_succ, ← Nat.mul_assoc] at hfiner hlarge
  generalize Rounding.halfEven.quotient (num * pow10 places * 10) den = finer at hfiner hlarge
  generalize Rounding.halfEven.quotient (num * pow10 places) den = coarser at hcoarser ⊢
  generalize num * pow10 places = n at hfiner hcoarser
  have hboth : 2 * finer * den ≤ (20 * coarser + 11) * den := by
    simp only [Nat.mul_assoc, Nat.add_mul] at hfiner hcoarser ⊢
    omega
  have hclose : 2 * finer ≤ 20 * coarser + 11 := Nat.le_of_mul_le_mul_right hboth hden
  -- the last digit of the bound is a six, so that the two rounding errors cannot add up to it
  unfold mantissaBound at hlarge ⊢
  omega

private theorem units_le_of_natCast {num num' den : Nat} (hden : 0 < den) (hle : num ≤ num')
    {d d' : Decimal} (hd : nearest? num den = some d) (hd' : nearest? num' den = some d') :
    d.units ≤ d'.units := by
  obtain ⟨p, hp, hfits, hunits, hmost⟩ := nearestFrom?_ok hd
  obtain ⟨p', hp', hfits', hunits', hmost'⟩ := nearestFrom?_ok hd'
  simp only [mantissaAt_natCast _ hden, Int.natAbs_natCast] at hfits hunits hmost
  simp only [mantissaAt_natCast _ hden, Int.natAbs_natCast] at hfits' hunits' hmost'
  have hmono (k : Nat) : Rounding.halfEven.quotient (num * pow10 k) den ≤
      Rounding.halfEven.quotient (num' * pow10 k) den :=
    Rounding.halfEven.quotient_mono den (Nat.mul_le_mul_right _ hle)
  rw [hunits, hunits', ← Int.natCast_mul, ← Int.natCast_mul, Int.ofNat_le]
  rcases Nat.lt_trichotomy p p' with hlt | rfl | hlt
  · -- what fits for the larger number fits for the smaller one
    have := hmono p'
    have := hmost p' hlt hp'
    omega
  · exact Nat.mul_le_mul_right _ (hmono p)
  · have hten : mantissaBound ≤ 10 * Rounding.halfEven.quotient (num' * pow10 p') den :=
      mantissaBound_le_of_large hden (hmost' (p' + 1) (Nat.lt_succ_self p') (by omega))
    calc Rounding.halfEven.quotient (num * pow10 p) den * pow10 (maxPlaces - p)
        ≤ 10 * Rounding.halfEven.quotient (num' * pow10 p') den * pow10 (maxPlaces - p) :=
          Nat.mul_le_mul_right _ (Nat.le_trans (Nat.le_of_lt hfits) hten)
      _ = Rounding.halfEven.quotient (num' * pow10 p') den * pow10 (maxPlaces - p + 1) := by
          rw [pow10_succ, Nat.mul_comm 10, Nat.mul_assoc, Nat.mul_comm 10]
      _ ≤ Rounding.halfEven.quotient (num' * pow10 p') den * pow10 (maxPlaces - p') :=
          Nat.mul_le_mul_left _ (pow10_le_pow10 (by omega))

/-- **Rounding keeps the order.** -/
theorem nearest?_mono {num num' : Int} {den : Nat} (hden : 0 < den) (hle : num ≤ num')
    {d d' : Decimal} (hd : nearest? num den = some d) (hd' : nearest? num' den = some d') :
    d ≤ d' := by
  have hzero : nearest? ((0 : Nat) : Int) den = some 0 :=
    nearest?_of_fits hden (by simp)
  rw [le_def]
  rcases Int.le_total 0 num with hnum | hnum
  · obtain ⟨n, rfl⟩ := Int.eq_ofNat_of_zero_le hnum
    obtain ⟨n', rfl⟩ := Int.eq_ofNat_of_zero_le (Int.le_trans hnum hle)
    exact units_le_of_natCast hden (Int.ofNat_le.1 hle) hd hd'
  · obtain ⟨n, hn⟩ := Int.eq_ofNat_of_zero_le (Int.neg_nonneg.2 hnum)
    obtain ⟨e, he, hneg⟩ := nearestFrom?_neg hd
    rw [hn] at he
    rcases Int.le_total 0 num' with hnum' | hnum'
    · -- zero is between the two
      obtain ⟨n', rfl⟩ := Int.eq_ofNat_of_zero_le hnum'
      have hbelow := units_le_of_natCast hden (Nat.zero_le n) hzero he
      have habove := units_le_of_natCast hden (Nat.zero_le n') hzero hd'
      rw [units_zero] at hbelow habove
      omega
    · obtain ⟨n', hn'⟩ := Int.eq_ofNat_of_zero_le (Int.neg_nonneg.2 hnum')
      obtain ⟨e', he', hneg'⟩ := nearestFrom?_neg hd'
      rw [hn'] at he'
      have hopposite := units_le_of_natCast hden (by omega : n' ≤ n) he' he
      omega

/-- A fraction need not be reduced. -/
theorem nearest?_mul_right (num : Int) (den : Nat) {k : Nat} (hk : 0 < k) :
    nearest? (num * k) (den * k) = nearest? num den := by
  have hmantissa (places : Nat) :
      mantissaAt (num * k) (den * k) places = mantissaAt num den places := by
    rw [mantissaAt, Int.mul_right_comm, Rounding.quotientInt_mul_right _ _ _ hk]
    rfl
  have hfrom (places : Nat) (h : places ≤ maxPlaces) :
      nearestFrom? (num * k) (den * k) places h = nearestFrom? num den places h := by
    induction places with
    | zero => simp only [nearestFrom?_zero, hmantissa]
    | succ n ih => simp only [nearestFrom?_succ, hmantissa, ih]
  exact hfrom _ _

section

variable {num num' : Int} {den den' : Nat} {d d' t : Decimal}

/-- Rounding keeps the order of fractions. -/
theorem nearest?_mono_div (hden : 0 < den) (hden' : 0 < den') (hle : num * den' ≤ num' * den)
    (hd : nearest? num den = some d) (hd' : nearest? num' den' = some d') : d ≤ d' := by
  rw [← nearest?_mul_right _ _ hden'] at hd
  rw [← nearest?_mul_right _ _ hden, Nat.mul_comm] at hd'
  exact nearest?_mono (Nat.mul_pos hden hden') hle hd hd'

/-- A quotient is not rounded above a decimal that it does not exceed. -/
theorem nearest?_le (hden : 0 < den) (hd : nearest? num den = some d)
    (h : num * unitsPerOne ≤ t.units * den) : d ≤ t :=
  nearest?_mono_div hden unitsPerOne_pos h hd (nearest?_of_fits unitsPerOne_pos rfl)

/-- A quotient is not rounded below a decimal that it reaches. -/
theorem le_nearest? (hden : 0 < den) (hd : nearest? num den = some d)
    (h : t.units * den ≤ num * unitsPerOne) : t ≤ d :=
  nearest?_mono_div unitsPerOne_pos hden h (nearest?_of_fits unitsPerOne_pos rfl) hd

/-- Rounding keeps the sign. -/
theorem nearest?_nonneg (hden : 0 < den) (hnum : 0 ≤ num) (hd : nearest? num den = some d) :
    0 ≤ d := by
  refine le_nearest? hden hd ?_
  rw [units_zero, Int.zero_mul]
  exact Int.mul_nonneg hnum (Int.natCast_nonneg _)

end

/-- A mantissa that fits can be used. -/
theorem nearestFrom?_of_mantissaAt {num : Int} {den places p : Nat} {h : places ≤ maxPlaces}
    (hp : p ≤ places) (hfits : (mantissaAt num den p).natAbs < mantissaBound) :
    ∃ d, nearestFrom? num den places h = some d := by
  induction places with
  | zero =>
    obtain rfl := Nat.le_zero.1 hp
    exact ⟨_, by rw [nearestFrom?_zero, dif_pos hfits]⟩
  | succ k ih =>
    rw [nearestFrom?_succ]
    split
    · exact ⟨_, rfl⟩
    · rename_i hlarge
      refine ih (Nat.le_of_lt_succ (Nat.lt_of_le_of_ne hp ?_))
      rintro rfl
      exact hlarge hfits

/-- **What is closer to zero can be rounded as well.** -/
theorem nearest?_of_natAbs_le {num num' : Int} {den : Nat} (hden : 0 < den)
    (hle : num.natAbs ≤ num'.natAbs) {d' : Decimal} (hd' : nearest? num' den = some d') :
    ∃ d, nearest? num den = some d := by
  obtain ⟨p, hp, hfits, -, -⟩ := nearestFrom?_ok hd'
  refine nearestFrom?_of_mantissaAt hp (Nat.lt_of_le_of_lt ?_ hfits)
  rw [natAbs_mantissaAt _ hden, natAbs_mantissaAt _ hden]
  exact Rounding.halfEven.quotient_mono den (Nat.mul_le_mul_right _ hle)

/-- What is smaller, but not negative, can be rounded as well and is rounded to no more. -/
theorem nearest?_of_le {num num' : Int} {den : Nat} (hden : 0 < den) (hnonneg : 0 ≤ num)
    (hle : num ≤ num') {d' : Decimal} (hd' : nearest? num' den = some d') :
    ∃ d, nearest? num den = some d ∧ d ≤ d' := by
  obtain ⟨d, hd⟩ := nearest?_of_natAbs_le hden (by omega : num.natAbs ≤ num'.natAbs) hd'
  exact ⟨d, hd, nearest?_mono hden hle hd hd'⟩

/-! ## Exact results -/

/-- What is a decimal is its own nearest decimal. -/
theorem fits_iff {units : Int} :
    Fits units ↔ ∃ d ∈ nearest? units unitsPerOne, d.units = units := by
  constructor
  · intro h
    exact ⟨⟨units, h⟩, nearest?_of_fits unitsPerOne_pos rfl, rfl⟩
  · rintro ⟨d, -, rfl⟩
    exact d.fits

instance (units : Int) : Decidable (Fits units) := decidable_of_iff _ fits_iff.symm

theorem mul?_of_units {a b c : Decimal} (h : a.units * b.units = c.units * unitsPerOne) :
    a.mul? b = some c :=
  nearest?_of_fits (by decide) (by rw [h, Int.natCast_mul, Int.mul_assoc])

theorem mul?_nonneg {a b c : Decimal} (ha : 0 ≤ a) (hb : 0 ≤ b) (h : a.mul? b = some c) :
    0 ≤ c :=
  nearest?_nonneg (by decide) (Int.mul_nonneg ha hb) h

/-! ## Multiples -/

/-- Rounding to fewer places leaves the multiples of a last place among the multiples of it. -/
theorem dvd_of_nearest? {num : Int} {last : Nat} (hdvd : (pow10 last : Int) ∣ num) {d : Decimal}
    (hd : nearest? num unitsPerOne = some d) : (pow10 last : Int) ∣ d.units := by
  obtain ⟨p, hp, -, hunits, -⟩ := nearestFrom?_ok hd
  rw [hunits]
  rcases Nat.le_total (last + p) maxPlaces with hle | hle
  · have hpow : pow10 (maxPlaces - p) = pow10 last * pow10 (maxPlaces - p - last) := by
      rw [← pow10_add]
      congr 1
      omega
    rw [hpow, Int.natCast_mul]
    exact Int.dvd_trans (Int.dvd_mul_right ..) (Int.dvd_mul_left ..)
  · -- the number has at most as many places as are kept, so that it is not rounded
    obtain ⟨n, rfl⟩ := hdvd
    have hpow : pow10 last * pow10 p = pow10 (last + p - maxPlaces) * unitsPerOne := by
      rw [unitsPerOne, ← pow10_add, ← pow10_add]
      congr 1
      omega
    have hmantissa : mantissaAt (pow10 last * n) unitsPerOne p =
        n * (pow10 (last + p - maxPlaces) : Int) := by
      rw [mantissaAt, Int.mul_comm (pow10 last : Int) n, Int.mul_assoc, ← Int.natCast_mul, hpow,
        Int.natCast_mul, ← Int.mul_assoc, Rounding.quotientInt_mul _ _ unitsPerOne_pos]
    have hsame : pow10 (last + p - maxPlaces) * pow10 (maxPlaces - p) = pow10 last := by
      rw [← pow10_add]
      congr 1
      omega
    rw [hmantissa, Int.mul_assoc, ← Int.natCast_mul, hsame]
    exact Int.dvd_mul_left ..

theorem round_of_dvd (mode : Rounding) {places : Nat} {a : Decimal}
    (h : (pow10 (maxPlaces - places) : Int) ∣ a.units) : a.round mode places = a := by
  obtain ⟨n, hn⟩ := h
  refine ext ?_
  show mode.quotientInt a.units (pow10 (maxPlaces - places)) * _ = a.units
  rw [hn, Int.mul_comm (pow10 (maxPlaces - places) : Int) n,
    Rounding.quotientInt_mul _ _ (pow10_pos _)]

/-! ## Sums and differences -/

theorem add?_mono {a a' b b' c c' : Decimal} (hle : a.units + b.units ≤ a'.units + b'.units)
    (hc : a.add? b = some c) (hc' : a'.add? b' = some c') : c ≤ c' :=
  nearest?_mono unitsPerOne_pos hle hc hc'

/-- A sum that is no larger than one that can be represented can be represented. -/
theorem add?_of_le {a a' b b' c' : Decimal} (hnonneg : 0 ≤ a.units + b.units)
    (hle : a.units + b.units ≤ a'.units + b'.units) (hc' : a'.add? b' = some c') :
    ∃ c, a.add? b = some c :=
  nearest?_of_natAbs_le unitsPerOne_pos (by omega) hc'

/-- Numbers that are not negative can be subtracted. -/
theorem sub?_of_nonneg {a b : Decimal} (ha : 0 ≤ a) (hb : 0 ≤ b) : ∃ c, a.sub? b = some c := by
  have ha : 0 ≤ a.units := ha
  have hb : 0 ≤ b.units := hb
  have hself (d : Decimal) : nearest? d.units unitsPerOne = some d :=
    nearest?_of_fits unitsPerOne_pos rfl
  rcases Int.le_total a.units b.units with hle | hle
  · exact nearest?_of_natAbs_le unitsPerOne_pos (by omega) (hself b)
  · exact nearest?_of_natAbs_le unitsPerOne_pos (by omega) (hself a)

theorem sub?_zero (a : Decimal) : a.sub? 0 = some a := sub?_of_units (Int.sub_zero _)

theorem sub?_mono {a a' b b' c c' : Decimal} (hle : a.units - b.units ≤ a'.units - b'.units)
    (hc : a.sub? b = some c) (hc' : a'.sub? b' = some c') : c ≤ c' :=
  nearest?_mono unitsPerOne_pos hle hc hc'

theorem sub?_le {a b c : Decimal} (hb : 0 ≤ b) (h : a.sub? b = some c) : c ≤ a := by
  have hb : 0 ≤ b.units := hb
  exact sub?_mono (by rw [units_zero]; omega) h a.sub?_zero

/-- There is a hundredth of every number. -/
theorem div?_hundred (a : Decimal) : ∃ b, a.div? 100 = some b ∧ (0 ≤ a → 0 ≤ b) := by
  have hpos : 0 < 100 * unitsPerOne := by decide
  have hdiv : a.div? 100 = nearest? a.units (100 * unitsPerOne) := by
    rw [div?, if_neg (by decide)]
    congr 1
    rw [show (100 : Decimal).units.sign = 1 by decide, Int.mul_one]
  have hself : nearest? (a.units * 100) (100 * unitsPerOne) = some a :=
    nearest?_of_fits hpos (by rw [Int.natCast_mul, Int.mul_assoc]; rfl)
  obtain ⟨b, hb⟩ := nearest?_of_natAbs_le hpos (by omega : a.units.natAbs ≤ _) hself
  exact ⟨b, hdiv.trans hb, fun ha => nearest?_nonneg hpos ha hb⟩

end Decimal

end Storefront
