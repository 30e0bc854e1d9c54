/-!
# Punycode

The ASCII form of a label of an international domain name: the ASCII characters of the label, a
hyphen behind them if there are any, and then one variable-length number in base 36 per inserted
character. A number tells where the next character goes and by how much its code point exceeds
that of the last one.

* `Punycode.decode?` reads this form, in words of 32 bits.
* `Punycode.encode` writes it.
-/

namespace Storefront

namespace Punycode

/-- The value of a base-36 digit. -/
def digit? (c : Char) : Option Nat :=
  if 'a' ≤ c ∧ c ≤ 'z' then some (c.toNat - 'a'.toNat)
  else if 'A' ≤ c ∧ c ≤ 'Z' then some (c.toNat - 'A'.toNat)
  else if '0' ≤ c ∧ c ≤ '9' then some (c.toNat - '0'.toNat + 26)
  else none

/-- Digits below the threshold end a number. -/
def threshold (position bias : Nat) : Nat :=
  if position ≤ bias then 1 else if bias + 26 ≤ position then 26 else position - bias

private def adaptFrom (delta position : Nat) : Nat :=
  if 455 < delta then adaptFrom (delta / 35) (position + 36)
  else position + 36 * delta / (delta + 38)
termination_by delta
decreasing_by exact Nat.div_lt_self (by omega) (by omega)

/-- The bias for the next number, after one that moved by `delta` and made the label `length`
characters long. -/
def adapt (delta length : Nat) (first : Bool) : Nat :=
  let damped := if first then delta / 700 else delta / 2
  adaptFrom (damped + damped / length) 0

/-- Numbers stay below this bound, which is `2^32`. -/
def numberBound : Nat := 4294967296

/-- Reads one number, adds it to `value` and returns the sum and the input behind it. -/
def number? (bias : Nat) : List Char → (position weight value : Nat) → Option (Nat × List Char)
  | [], _, _, _ => none
  | c :: rest, position, weight, value => do
    let d ← digit? c
    let t := threshold position bias
    let value := value + d * weight
    if numberBound ≤ value then none
    else if d < t then some (value, rest)
    else if numberBound ≤ weight * (36 - t) then none
    else number? bias rest (position + 36) (weight * (36 - t)) value

theorem length_of_number? {bias : Nat} {input : List Char} {position weight value : Nat}
    {r : Nat × List Char} (h : number? bias input position weight value = some r) :
    r.2.length < input.length := by
  induction input generalizing position weight value with
  | nil => simp [number?] at h
  | cons c rest ih =>
    simp only [number?, Option.bind_eq_bind, Option.bind_eq_some_iff] at h
    obtain ⟨d, -, h⟩ := h
    split at h
    · cases h
    · split at h
      · cases h; simp
      · split at h
        · cases h
        · have := ih h
          simp only [List.length_cons]
          omega

private def insertAll? (input : List Char) (code index bias : Nat) (label : List Char) :
    Option (List Char) :=
  if input.isEmpty then some label
  else
    match _h : number? bias input 36 1 index with
    | none => none
    | some (target, rest) =>
      let length := label.length + 1
      let next := code + target / length
      if next.isValidChar then
        insertAll? rest next (target % length + 1) (adapt (target - index) length (index = 0))
          (label.insertIdx (target % length) (Char.ofNat next))
      else none
termination_by input.length
decreasing_by exact length_of_number? _h

/-- The label that an ASCII form stands for. A hyphen in front of everything divides nothing. -/
def decode? (encoded : List Char) : Option (List Char) :=
  let tail := (encoded.reverse.takeWhile (· ≠ '-')).reverse
  let label := encoded.take (encoded.length - tail.length - 1)
  let tail := if label.isEmpty then encoded else tail
  if label.all (·.toNat < 128) then insertAll? tail 128 0 72 label else none

/-! ## Writing -/

/-- The character of a base-36 digit. -/
def digitChar (d : Nat) : Char :=
  if d < 26 then Char.ofNat ('a'.toNat + d) else Char.ofNat ('0'.toNat + d - 26)

private theorem threshold_pos (position bias : Nat) : 0 < threshold position bias := by
  unfold threshold
  split
  · omega
  · split <;> omega

/-- Writes one number. -/
private def numberText (bias position value : Nat) : List Char :=
  let t := threshold position bias
  if value < t then [digitChar value]
  else
    digitChar (t + (value - t) % (36 - t)) ::
      numberText bias (position + 36) ((value - t) / (36 - t))
termination_by value
decreasing_by
  have hpos := threshold_pos position bias
  calc (value - threshold position bias) / (36 - threshold position bias)
      ≤ value - threshold position bias := Nat.div_le_self _ _
    _ < value := by omega

/-- Where the writing of a label has got to. -/
private structure Writing where
  /-- The number of steps since the last number. -/
  delta : Nat := 0
  bias : Nat := 72
  /-- The number of characters written. -/
  written : Nat
  /-- Whether no number has been written. -/
  first : Bool := true
  output : List Char := []

/-- Writes the numbers for all characters of a label with the code point `code`. -/
private def Writing.addAll (label : List Char) (w : Writing) (code : Nat) : Writing :=
  label.foldl (fun w c =>
    if c.toNat < code then { w with delta := w.delta + 1 }
    else if c.toNat = code then
      { delta := 0
        bias := adapt w.delta (w.written + 1) w.first
        written := w.written + 1
        first := false
        output := w.output ++ numberText w.bias 36 w.delta }
    else w) w

/-- The ASCII form of a label that is not ASCII. -/
def encode (label : List Char) : List Char :=
  let ascii := label.filter (·.toNat < 128)
  let codes := (((label.map (·.toNat)).filter (128 ≤ ·)).mergeSort).eraseDups
  let (w, _) := codes.foldl (fun (w, next) code =>
    let w := { w with delta := w.delta + (code - next) * (w.written + 1) }
    let w := w.addAll label code
    ({ w with delta := w.delta + 1 }, code + 1))
    (({ written := ascii.length } : Writing), 128)
  ascii ++ (if ascii.isEmpty then [] else ['-']) ++ w.output

end Punycode

end Storefront
