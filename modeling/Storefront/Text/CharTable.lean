import Storefront.Id

/-!
# Tables of characters

Properties of characters are tables of code points. They are written as lines of text, in
hexadecimal and divided by blanks.

* `CharRange.listOfText`: ranges such as `30-39`, or single code points.
* `CharRun.listOfText`: replacements such as `FB00:66.66,66.69` for two code points in a row, or
  `FF21-FF3A:61` for a range whose replacements are in a row too.
-/

namespace Storefront

/-- The code points from one to another, both included. -/
structure CharRange where
  first : Nat
  last : Nat
deriving DecidableEq, Repr

/-- The entries of a table in lines of text. -/
private def entriesOf (lines : List String) : List String := lines.flatMap (·.splitOn " ")

/-- The code point that a table gives. -/
private def codeOf (text : String) : Nat := (Uuid.ofHex? text.toList).getD 0

namespace CharRange

def contains (r : CharRange) (code : Nat) : Bool := r.first ≤ code && code ≤ r.last

private def ofText (text : String) : CharRange :=
  match text.splitOn "-" with
  | [first, last] => ⟨codeOf first, codeOf last⟩
  | _ => ⟨codeOf text, codeOf text⟩

def listOfText (lines : List String) : List CharRange := (entriesOf lines).map ofText

end CharRange

/-- Code points in a row whose replacements differ in their first character only, which are in a
row too. -/
structure CharRun extends CharRange where
  /-- The replacement of the first code point. -/
  replacement : List Nat
deriving DecidableEq, Repr

namespace CharRun

private def ofTexts (code : Nat) : List String → List CharRun
  | [] => []
  | text :: texts =>
    { first := code, last := code, replacement := (text.splitOn ".").map codeOf } ::
      ofTexts (code + 1) texts

private def ofText (text : String) : List CharRun :=
  match text.splitOn ":" with
  | [codes, images] =>
    let range := CharRange.ofText codes
    if range.first = range.last then ofTexts range.first (images.splitOn ",")
    else [{ range with replacement := [codeOf images] }]
  | _ => []

def listOfText (lines : List String) : List CharRun := (entriesOf lines).flatMap ofText

/-- The replacement of a character in a table. -/
def image? (table : List CharRun) (c : Char) : Option (List Char) :=
  (table.find? (·.contains c.toNat)).map fun run =>
    match run.replacement with
    | [] => []
    | code :: codes => ((code + (c.toNat - run.first)) :: codes).map Char.ofNat

end CharRun

end Storefront
