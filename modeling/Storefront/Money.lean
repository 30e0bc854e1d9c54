import Storefront.Currency
import Storefront.Decimal.Text

/-!
# Money

An amount of a currency. Amounts keep full precision until `Money.quantize` rounds them to the
minor unit of their currency.

The operations here cannot fail. Those that can, because currencies differ or a result is too
large, are in `Storefront.Money.Arithmetic`.
-/

namespace Storefront

structure Money where
  amount : Decimal
  currency : Currency
deriving DecidableEq, Inhabited

namespace Money

def zero (currency : Currency) : Money := ⟨0, currency⟩

/-- The amount rounded to the minor unit of its currency, a half going away from zero. -/
def quantize (m : Money) : Money :=
  { m with amount := m.amount.round .halfAwayFromZero m.currency.places }

/-- The amount, or zero if it is negative. -/
def floorAtZero (m : Money) : Money :=
  if m.amount.isNegative then zero m.currency else m

/-- The smaller of two amounts, the first if they are equal. Currencies are not looked at. -/
def min (a b : Money) : Money := if b.amount < a.amount then b else a

/-- The larger of two amounts, the first if they are equal. Currencies are not looked at. -/
def max (a b : Money) : Money := if a.amount < b.amount then b else a

@[simp] theorem currency_quantize (m : Money) : m.quantize.currency = m.currency := rfl

@[simp] theorem quantize_quantize (m : Money) : m.quantize.quantize = m.quantize := by
  simp [quantize, Decimal.round_round]

@[simp] theorem quantize_zero (c : Currency) : (zero c).quantize = zero c := by
  simp [quantize, zero]

@[simp] theorem currency_floorAtZero (m : Money) : m.floorAtZero.currency = m.currency := by
  unfold floorAtZero; split <;> rfl

theorem units_floorAtZero (m : Money) :
    m.floorAtZero.amount.units = Max.max 0 m.amount.units := by
  unfold floorAtZero Decimal.isNegative
  split
  · rename_i hneg
    exact (Int.max_eq_left (Int.le_of_lt (of_decide_eq_true hneg))).symm
  · rename_i hneg
    exact (Int.max_eq_right (Int.not_lt.1 fun hlt => hneg (decide_eq_true hlt))).symm

theorem units_min (a b : Money) :
    (a.min b).amount.units = Min.min a.amount.units b.amount.units := by
  unfold min
  split
  · rename_i hlt
    exact (Int.min_eq_right (Int.le_of_lt hlt)).symm
  · rename_i hle
    exact (Int.min_eq_left (Int.not_lt.1 hle)).symm

/-! ## Text -/

/-- The amount and the currency code. -/
def toText (m : Money) : String := m.amount.toText ++ " " ++ m.currency.code

/-- Puts the mark between groups of digits, counted from the right. The digits left of the last
group stay together, and a mark is only set where digits remain to its left. -/
private def groupDigits (mark : Char) : List Nat → List Char → List Char
  | [], digits => digits
  | size :: sizes, digits =>
    if digits.length ≤ size then digits
    else groupDigits mark sizes (digits.take (digits.length - size)) ++
      mark :: digits.drop (digits.length - size)

/-- The amount as a customer sees it: rounded half to even to the minor unit, grouped, with the
symbol of the currency, and with a minus sign wherever the unrounded amount is negative. -/
def display (m : Money) : String :=
  let style := m.currency.style
  let (whole, fraction) := m.amount.toFixed m.currency.places
  let grouped := String.ofList (groupDigits style.groupMark style.groups whole.toList)
  let digits := if fraction.isEmpty then grouped else grouped ++ style.point.toString ++ fraction
  (if m.amount.isNegative then "-" else "") ++
    (if style.symbolFirst then style.symbol ++ digits else digits ++ style.symbol)

end Money

end Storefront
