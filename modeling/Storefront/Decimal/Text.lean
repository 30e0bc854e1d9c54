import Storefront.Decimal

/-!
# Decimals as text

* `Decimal.ofText?` reads digits with an optional sign and point. Underscores may stand after the
  first digit. Digits beyond the precision of a decimal are cut, and the first of them rounds, half
  up.
* `Decimal.ofScientific?` reads the same followed by a power of ten.
* `Decimal.toText` prints the value in full without trailing zeros.
* `Decimal.toFixed` prints the value with a number of places.
-/

namespace Storefront

namespace Decimal

/-- The value of an ASCII digit. -/
def digit? (c : Char) : Option Nat :=
  if '0' ≤ c ∧ c ≤ '9' then some (c.toNat - '0'.toNat) else none

/-- A mantissa cut short before the digit `next`, rounded half up. A carry out of the largest
mantissa gives up one more place. -/
private def cut? (mantissa places next : Nat) : Option (Nat × Nat) :=
  if next < 5 then some (mantissa, places)
  else if mantissa + 1 < mantissaBound then some (mantissa + 1, places)
  else if places = 0 then none
  else some ((mantissa + 5) / 10, places - 1)

/-- Whether a character may stand among the digits that are cut. -/
private def isCut (c : Char) : Bool := (digit? c).isSome || c = '_'

/-- Reads the digits of a magnitude into a mantissa and its number of places. -/
private def readDigits? (started point : Bool) (mantissa places : Nat) :
    List Char → Option (Nat × Nat)
  | [] => if started then some (mantissa, places) else none
  | c :: rest =>
    match digit? c with
    | some d =>
      if (!point || places < maxPlaces) && mantissa * 10 + d < mantissaBound then
        readDigits? true point (mantissa * 10 + d) (if point then places + 1 else places) rest
      else if point && rest.all isCut then cut? mantissa places d
      else none
    | none =>
      if c = '.' && !point then readDigits? started true mantissa places rest
      else if c = '_' && started then readDigits? started point mantissa places rest
      else none

/-- Splits a leading sign off. -/
def splitSign : List Char → Bool × List Char
  | '-' :: rest => (true, rest)
  | '+' :: rest => (false, rest)
  | rest => (false, rest)

/-- The mantissa and the places that a text is written with. -/
private def read? (text : List Char) : Option (Int × Nat) :=
  let (negative, digits) := splitSign text
  (readDigits? false false 0 0 digits).map fun (mantissa, places) =>
    (if negative then -(mantissa : Int) else mantissa, places)

/-- The decimal a text denotes. -/
def ofText? (text : String) : Option Decimal := do
  let (mantissa, places) ← read? text.toList
  ofMantissa? mantissa places

/-- A whole number written with ASCII digits only, with an optional plus sign. -/
private def readExponent? (text : List Char) : Option Nat :=
  let digits := match text with
    | '+' :: rest => rest
    | _ => text
  if digits.isEmpty then none
  else digits.foldlM (fun n c => (digit? c).map (n * 10 + ·)) 0

/-- A mantissa with a number of places, rounded to the largest number of places, half up. -/
private def ofPlaces? (mantissa : Int) (places : Nat) : Option Decimal :=
  ofMantissa?
    (Rounding.halfAwayFromZero.quotientInt mantissa (pow10 (places - maxPlaces)))
    (Nat.min places maxPlaces)

/-- The decimal denoted by a number, the letter `e` and a power of ten of at most `10^28` either
way. -/
def ofScientific? (text : String) : Option Decimal := do
  let chars := text.toList
  let isE := fun c => c = 'e' || c = 'E'
  let base := chars.takeWhile (!isE ·)
  let marked := chars.dropWhile (!isE ·)
  let (mantissa, places) ← read? base
  match marked with
  | [] => none
  | _ :: '-' :: exponent => do
    let shift ← readExponent? exponent
    if maxPlaces < shift then none else ofPlaces? mantissa (places + shift)
  | _ :: exponent => do
    let shift ← readExponent? exponent
    if maxPlaces < shift then none
    else if shift ≤ places then ofMantissa? mantissa (places - shift)
    else ofMantissa? (mantissa * (pow10 (shift - places) : Int)) 0

/-! ## Printing -/

/-- The digits of `n`, with zeros in front up to the given width. -/
def padded (width n : Nat) : String :=
  let digits := toString n
  String.ofList (List.replicate (width - digits.length) '0') ++ digits

/-- The value in positional notation, with as many places as it needs. -/
def toText (a : Decimal) : String :=
  let whole := a.units.natAbs / unitsPerOne
  let fraction := (padded maxPlaces (a.units.natAbs % unitsPerOne)).toList.reverse
    |>.dropWhile (· = '0') |>.reverse
  (if a.isNegative then "-" else "") ++ toString whole ++
    (if fraction.isEmpty then "" else "." ++ String.ofList fraction)

/-- Drops places until the digits are a mantissa. -/
private def dropPlaces (digits : Nat) : Nat → Nat × Nat
  | 0 => (digits, 0)
  | places + 1 =>
    if digits < mantissaBound then (digits, places + 1) else dropPlaces (digits / 10) places

/-- The whole part and the places of a magnitude that is rounded to a number of places, a half
going to the even neighbour. It has that many places, or as many as a mantissa can hold. -/
def toFixed (places : Nat) (a : Decimal) : String × String :=
  let rounded := Rounding.halfEven.quotient a.units.natAbs (pow10 (maxPlaces - places))
  let (digits, kept) := dropPlaces rounded places
  (toString (digits / pow10 kept), if kept = 0 then "" else padded kept (digits % pow10 kept))

end Decimal

end Storefront
