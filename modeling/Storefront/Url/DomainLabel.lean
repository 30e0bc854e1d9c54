import Storefront.Text.Composition
import Storefront.Text.Direction
import Storefront.Text.Joining
import Storefront.Url.HostChar
import Storefront.Url.Punycode

/-!
# Labels of domain names

A label is the part of a domain name between two points. A label with other characters than ASCII
ones has an ASCII form, which begins with `xn--`.

* `DomainLabel.ofText?` reads a label in either form. What an ASCII form stands for has to be such
  that it would be written that way: with all characters kept, composed, and not ASCII alone.
* `DomainLabel.isWellFormed`: no mark comes first, and an invisible joiner stands only where it
  changes how the letters around it look.
* `DomainLabel.hasOneDirection`: the label does not mix letters of both directions. Where one
  label of a name runs from right to left, this has to hold of all its labels.
-/

namespace Storefront

structure DomainLabel where
  text : List Char
  ascii : List Char
deriving DecidableEq

namespace DomainLabel

/-- What an ASCII form begins with. -/
def asciiMark : List Char := ['x', 'n', '-', '-']

/-- The longest text behind the mark of an ASCII form. -/
def maxEncoded : Nat := 2000

/-- The longest label that has an ASCII form. -/
def maxDecoded : Nat := 1000

private def isAscii (c : Char) : Bool := c.toNat < 128

/-- The label with the given ASCII form. -/
private def ofAscii? (ascii : List Char) : Option DomainLabel := do
  let encoded := ascii.drop asciiMark.length
  guard (encoded.length ≤ maxEncoded)
  let text ← Punycode.decode? encoded
  guard (text.length ≤ maxDecoded && !text.all isAscii)
  guard (text.all HostChar.isKept && Composition.composed text = text)
  return { text, ascii }

/-- The label that a text without capitals denotes. -/
def ofText? (text : List Char) : Option DomainLabel :=
  if asciiMark.isPrefixOf text then ofAscii? text
  else if text.all isAscii then some { text, ascii := text }
  else if text.length ≤ maxDecoded then
    some { text, ascii := asciiMark ++ Punycode.encode text }
  else none

/-! ## Joiners -/

private def zeroWidthNonJoiner : Char := '\u200C'

private def zeroWidthJoiner : Char := '\u200D'

/-- Whether the next letter of a text is joined in one of the given ways. -/
private def meetsJoining (kinds : List Joining) (text : List Char) : Bool :=
  ((text.map Joining.ofChar).dropWhile (· = .transparent)).head?.any kinds.contains

/-- Whether a joiner may stand between the reversed text before it and the text after it. -/
private def joinerFits (before : List Char) (c : Char) (after : List Char) : Bool :=
  before.head?.any (Composition.combiningClass · = Composition.joiningClass) ||
    (c = zeroWidthNonJoiner && meetsJoining [.left, .dual] before &&
      meetsJoining [.right, .dual] after)

private def joinersFit (before : List Char) : List Char → Bool
  | [] => true
  | c :: after =>
    ((c ≠ zeroWidthNonJoiner && c ≠ zeroWidthJoiner) || joinerFits before c after) &&
      joinersFit (c :: before) after

def isWellFormed (label : DomainLabel) : Bool :=
  !label.text.head?.any Composition.isMark && joinersFit [] label.text

/-! ## Directions -/

/-- Whether a part of the label runs from right to left. -/
def isRightToLeft (label : DomainLabel) : Bool :=
  label.text.any fun c =>
    [.rightToLeft, .arabicLetter, .arabicNumber].contains (Direction.ofChar c)

/-- What may stand in labels of either direction. -/
private def neutral : List Direction :=
  [.europeanNumber, .europeanSeparator, .commonSeparator, .europeanTerminator, .otherNeutral,
    .boundaryNeutral, .nonspacingMark]

def hasOneDirection (label : DomainLabel) : Bool :=
  let directions := label.text.map Direction.ofChar
  let last := directions.reverse.find? (· ≠ .nonspacingMark)
  match directions with
  | [] => true
  | .leftToRight :: _ =>
    directions.all (.leftToRight :: neutral).contains &&
      last.any [.leftToRight, .europeanNumber].contains
  | first :: _ =>
    [.rightToLeft, .arabicLetter].contains first &&
      directions.all (.rightToLeft :: .arabicLetter :: .arabicNumber :: neutral).contains &&
      last.any [.rightToLeft, .arabicLetter, .europeanNumber, .arabicNumber].contains &&
      !(directions.contains .europeanNumber && directions.contains .arabicNumber)

end DomainLabel

end Storefront
