import Storefront.Decimal.Text

/-!
# Numbers of double precision

Numbers that are written with a point or an exponent are held in double precision and shown with
the fewest digits that read back.

* `Binary64.nearest?`: the number of double precision closest to an exact quotient.
* `Binary64.shortest`: the digits of the coarsest decimal grid with a point that reads back.
* `Binary64.parse?`, `Binary64.toText`: the two directions of the text of a number.
-/

namespace Storefront

/-- A number `mantissa * 2^exponent` of double precision. The mantissa is below `2^53`, and at
least `2^52` unless the exponent is the least one. -/
structure Binary64 where
  mantissa : Nat
  exponent : Int
deriving DecidableEq, Repr

namespace Binary64

def leastExponent : Int := -1074

def greatestExponent : Int := 971

/-- The exponent of the leading binary digit of a positive quotient. -/
private def magnitude (n d : Nat) : Int :=
  let e := (n.log2 : Int) - d.log2
  if n <<< (-e).toNat < d <<< e.toNat then e - 1 else e

/-- The number closest to the quotient `n / d`, ties going to the even mantissa. There is none for
a quotient beyond the largest number. -/
def nearest? (n d : Nat) : Option Binary64 :=
  if n = 0 then some ⟨0, leastExponent⟩
  else
    let q := max (magnitude n d - 52) leastExponent
    let m := Rounding.halfEven.quotient (n <<< (-q).toNat) (d <<< q.toNat)
    let rounded : Binary64 := if m = 1 <<< 53 then ⟨1 <<< 52, q + 1⟩ else ⟨m, q⟩
    if rounded.exponent ≤ greatestExponent then some rounded else none

/-- The number closest to `digits * 10^power`. -/
def ofScientific? (digits : Nat) (power : Int) : Option Binary64 :=
  let size := ((toString digits).length : Int) + power
  if digits = 0 ∨ size < -330 then nearest? 0 1
  else if 310 < size then none
  else nearest? (digits * pow10 power.toNat) (pow10 (-power).toNat)

/-- The multiple of `10^power` that reads back as the number, if one of its two neighbours on this
grid does. Of two such neighbours it is the nearer one, and the upper one if both are as near. -/
private def onGrid? (x : Binary64) (power : Int) : Option Nat :=
  let n := (x.mantissa <<< x.exponent.toNat) * pow10 (-power).toNat
  let d := (1 <<< (-x.exponent).toNat) * pow10 power.toNat
  let low := n / d
  let readsBack := fun k => decide (ofScientific? k power = some x)
  let lowIsNearer := decide (2 * (n % d) < d)
  match readsBack low, readsBack (low + 1) with
  | true, true => some (if lowIsNearer then low else low + 1)
  | true, false => some low
  | false, true => some (low + 1)
  | false, false => none

/-- The digits and the power of ten of the shortest decimal that reads back as the number. -/
def shortest (x : Binary64) : Nat × Int :=
  ((List.range 660).findSome? fun step : Nat =>
    let power : Int := 309 - step
    (onGrid? x power).map (·, power)).getD (0, 0)

/-- The shortest decimal that reads back, in positional notation. -/
def toText (x : Binary64) : String :=
  let (digits, power) := x.shortest
  let places := (-power).toNat
  let whole := toString (digits * pow10 power.toNat / pow10 places)
  if places = 0 then whole else whole ++ "." ++ Decimal.padded places (digits % pow10 places)

/-! ## Reading -/

private def isDigit (c : Char) : Bool := (Decimal.digit? c).isSome

private def valueOf (digits : List Char) : Nat :=
  digits.foldl (fun n c => n * 10 + (Decimal.digit? c).getD 0) 0

/-- The power of ten at the end of a number: nothing, or the letter `e` and a whole number. -/
private def power? : List Char → Option Int
  | [] => some 0
  | mark :: rest =>
    let (negative, digits) := Decimal.splitSign rest
    if (mark = 'e' ∨ mark = 'E') ∧ !digits.isEmpty ∧ digits.all isDigit then
      some (if negative then -(valueOf digits : Int) else valueOf digits)
    else none

/-- Reads digits with an optional point among them or at either end, and an optional power of
ten. -/
def parse? (text : List Char) : Option Binary64 := do
  let whole := text.takeWhile isDigit
  let (fraction, rest) := match text.dropWhile isDigit with
    | '.' :: rest => (rest.takeWhile isDigit, rest.dropWhile isDigit)
    | rest => ([], rest)
  let power ← power? rest
  if whole.isEmpty && fraction.isEmpty then none
  else ofScientific? (valueOf (whole ++ fraction)) (power - fraction.length)

end Binary64

end Storefront
