/-!
# Positions in a document

Columns carry the structure of a document, so a cursor knows its line and column.

* `Cursor.moveTo`: the cursor at a later rest of the text.
* `Cursor.afterGap`: the cursor behind blanks, comments and line breaks.
-/

namespace Storefront.Yaml

def isBlank (c : Char) : Bool := c = ' ' || c = '\t'

def isBreak (c : Char) : Bool := c = '\n' || c = '\u2028' || c = '\u2029'

/-- Whether a word ends before this text. -/
def endsWord : List Char → Bool
  | [] => true
  | c :: _ => isBlank c || isBreak c

/-- The characters of names. -/
def isNameChar (c : Char) : Bool := c.isAlphanum || c = '_' || c = '-'

/-- All line breaks of one form, but for the two separators that are kept as they are. -/
def normalized : List Char → List Char
  | [] => []
  | '\r' :: '\n' :: rest => '\n' :: normalized rest
  | c :: rest => (if c = '\r' || c = '\u0085' then '\n' else c) :: normalized rest

/-- The characters that a document may hold. -/
def isAllowed (c : Char) : Bool :=
  let n := c.toNat
  n = 0x9 || n = 0xA || n = 0xD || (0x20 ≤ n && n ≤ 0x7E) || n = 0x85 || (0xA0 ≤ n && n ≤ 0xFFFD)
    || 0x10000 ≤ n

/-- Skips blanks and a comment, behind which the line ends. -/
def endOfLine? (rest : List Char) : Option (List Char) :=
  match rest.dropWhile isBlank with
  | '#' :: comment => some (comment.dropWhile (!isBreak ·))
  | [] => some []
  | c :: more => if isBreak c then some (c :: more) else none

structure Cursor where
  rest : List Char
  /-- The number of characters before the cursor. -/
  index : Nat := 0
  line : Nat := 0
  column : Nat := 0

namespace Cursor

/-- Whether the next character is `c`. -/
def isAt (k : Cursor) (c : Char) : Bool := k.rest.head? = some c

/-- Whether the next word is the indicator `c` alone. -/
def isAtIndicator (k : Cursor) (c : Char) : Bool := k.isAt c && endsWord (k.rest.drop 1)

/-- Whether a line that begins with `c` three times begins here. -/
def isAtMark (k : Cursor) (c : Char) : Bool :=
  k.column = 0 && k.rest.take 3 = [c, c, c] && endsWord (k.rest.drop 3)

/-- Whether a line with three dashes or three points begins here. -/
def isAtMarker (k : Cursor) : Bool := k.isAtMark '-' || k.isAtMark '.'

/-- The cursor at the later text `rest`. -/
def moveTo (k : Cursor) (rest : List Char) : Cursor :=
  let passed := k.rest.take (k.rest.length - rest.length)
  let line := k.line + passed.countP isBreak
  let column := (passed.reverse.takeWhile (!isBreak ·)).length
  { rest, line, index := k.index + passed.length
    column := if line = k.line then k.column + column else column }

/-- The cursor behind the next `n` characters. -/
def skip (k : Cursor) (n : Nat) : Cursor := k.moveTo (k.rest.drop n)

/-- Skips blanks, comments and line breaks, and marks of the byte order where a line begins. In a
block a tab is no blank where a key may begin, and a key may begin on a new line. -/
private def gap (inFlow keyAllowed comment lineStart : Bool) : List Char → List Char × Bool
  | [] => ([], keyAllowed)
  | c :: rest =>
    if isBreak c then gap inFlow (keyAllowed || !inFlow) false true rest
    else if comment || c = '#' then gap inFlow keyAllowed true false rest
    else if c = ' ' || (c = '\t' && (inFlow || !keyAllowed)) || (c = '\ufeff' && lineStart) then
      gap inFlow keyAllowed false false rest
    else (c :: rest, keyAllowed)

/-- The cursor at the next word, within brackets or in a block, and whether a key may begin
there. -/
def afterGap (k : Cursor) (inFlow keyAllowed : Bool) : Cursor × Bool :=
  let (rest, keyAllowed) := gap inFlow keyAllowed false (k.column = 0) k.rest
  (k.moveTo rest, keyAllowed)

end Cursor

end Storefront.Yaml
