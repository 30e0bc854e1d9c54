import Storefront.Decimal.Text

/-!
# Moments and dates

A `Moment` is a number of nanoseconds since the start of 1970 in UTC, a `Date` a number of days
since then. Both are ordered by that number. Their texts are those of ISO 8601 in the Gregorian
calendar, such as `2024-06-01T12:00:00Z` and `2024-06-01`.
-/

namespace Storefront

/-- A calendar day. -/
structure Date where
  day : Int
deriving DecidableEq, Inhabited

/-- A point in time. -/
structure Moment where
  nanoseconds : Int
deriving DecidableEq, Inhabited

namespace Date

instance : LE Date := ⟨fun a b => a.day ≤ b.day⟩
instance (a b : Date) : Decidable (a ≤ b) := inferInstanceAs (Decidable (a.day ≤ b.day))

/-- The day with the given year, month and day of the month. Years are counted from March, so that
a leap day ends its year. -/
def ofCivil (year : Int) (month day : Nat) : Date :=
  let y := if month ≤ 2 then year - 1 else year
  let era := y / 400
  let yearOfEra := y - era * 400
  let monthFromMarch : Int := if 2 < month then (month : Int) - 3 else (month : Int) + 9
  let dayOfYear := (153 * monthFromMarch + 2) / 5 + (day : Int) - 1
  let dayOfEra := yearOfEra * 365 + yearOfEra / 4 - yearOfEra / 100 + dayOfYear
  ⟨era * 146097 + dayOfEra - 719468⟩

/-- The year, the month and the day of the month. -/
def toCivil (date : Date) : Int × Nat × Nat :=
  let z := date.day + 719468
  let era := z / 146097
  let dayOfEra := z - era * 146097
  let yearOfEra := (dayOfEra - dayOfEra / 1460 + dayOfEra / 36524 - dayOfEra / 146096) / 365
  let dayOfYear := dayOfEra - (365 * yearOfEra + yearOfEra / 4 - yearOfEra / 100)
  let monthFromMarch := (5 * dayOfYear + 2) / 153
  let day := dayOfYear - (153 * monthFromMarch + 2) / 5 + 1
  let month := if monthFromMarch < 10 then monthFromMarch + 3 else monthFromMarch - 9
  let year := yearOfEra + era * 400 + (if month ≤ 2 then 1 else 0)
  (year, month.toNat, day.toNat)

private def digits? (text : String) : Option Nat :=
  if text.isEmpty then none
  else text.toList.foldlM (fun n c => (Decimal.digit? c).map (n * 10 + ·)) 0

/-- Reads `year-month-day`. -/
def ofText? (text : String) : Option Date :=
  match text.splitOn "-" with
  | [y, m, d] => do
    let date := ofCivil (← digits? y) (← digits? m) (← digits? d)
    let (_, month, day) := date.toCivil
    if some month = digits? m ∧ some day = digits? d then some date else none
  | _ => none

def toText (date : Date) : String :=
  let (year, month, day) := date.toCivil
  Decimal.padded 4 year.toNat ++ "-" ++ Decimal.padded 2 month ++ "-" ++ Decimal.padded 2 day

end Date

namespace Moment

instance : LE Moment := ⟨fun a b => a.nanoseconds ≤ b.nanoseconds⟩
instance (a b : Moment) : Decidable (a ≤ b) :=
  inferInstanceAs (Decidable (a.nanoseconds ≤ b.nanoseconds))

def nanosecondsPerSecond : Nat := 1000000000

def secondsPerDay : Nat := 86400

/-- The start of 1970. -/
def epoch : Moment := ⟨0⟩

/-- The day in UTC that a moment falls on. -/
def date (moment : Moment) : Date :=
  ⟨moment.nanoseconds / ((nanosecondsPerSecond * secondsPerDay : Nat) : Int)⟩

/-- Reads the nanoseconds of a fraction of a second with one to nine digits. -/
private def fraction? (text : String) : Option Nat :=
  if 9 < text.length then none
  else (Date.digits? text).map (· * pow10 (9 - text.length))

/-- The seconds and the nanoseconds of a time of day `hour:minute:second`, with an optional
fraction of a second. -/
private def timeOfDay? (text : String) : Option (Nat × Nat) :=
  match text.splitOn ":" with
  | [h, m, s] => do
    let (seconds, nanoseconds) ← match s.splitOn "." with
      | [whole] => (Date.digits? whole).map (·, 0)
      | [whole, part] => do pure (← Date.digits? whole, ← fraction? part)
      | _ => none
    pure ((← Date.digits? h) * 3600 + (← Date.digits? m) * 60 + seconds, nanoseconds)
  | _ => none

/-- Reads a date, the letter `T`, a time of day and the letter `Z`. -/
def ofText? (text : String) : Option Moment :=
  match text.splitOn "T" with
  | [day, time] => do
    let date ← Date.ofText? day
    match time.splitOn "Z" with
    | [clock, ""] => do
      let (seconds, nanoseconds) ← timeOfDay? clock
      pure ⟨(date.day * secondsPerDay + seconds) * nanosecondsPerSecond + nanoseconds⟩
    | _ => none
  | _ => none

/-- The fraction of a second is printed without trailing zeros, and left out where it is zero. -/
def toText (moment : Moment) : String :=
  let seconds := moment.nanoseconds / (nanosecondsPerSecond : Int)
  let nanoseconds := (moment.nanoseconds % (nanosecondsPerSecond : Int)).toNat
  let second := (seconds % (secondsPerDay : Int)).toNat
  let fraction := (Decimal.padded 9 nanoseconds).toList.reverse.dropWhile (· = '0') |>.reverse
  moment.date.toText ++ "T" ++ Decimal.padded 2 (second / 3600) ++ ":" ++
    Decimal.padded 2 (second / 60 % 60) ++ ":" ++ Decimal.padded 2 (second % 60) ++
    (if fraction.isEmpty then "" else "." ++ String.ofList fraction) ++ "Z"

/-- Whether a moment lies between a start and an optional end, both included. -/
def within (moment start : Moment) (stop : Option Moment) : Bool :=
  start ≤ moment && stop.all (moment ≤ ·)

end Moment

end Storefront
