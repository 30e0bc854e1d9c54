import Storefront.Id
import Storefront.Yaml.Cursor

/-!
# The styles of scalars

* `Cursor.plain?`: text without quotes, which ends at a colon, a comment or a lesser column.
* `Cursor.quoted?`: text in single or double quotes.
* `Cursor.block?`: lines below a `|` or a `>`.

In the first two a single line break counts as a space, and of several the first is left out.
-/

namespace Storefront.Yaml

namespace Cursor

/-! ## Blanks and line breaks between words -/

/-- The blanks before the first line break, the line breaks, and what follows them. -/
private structure Spacing where
  blanks : List Char := []
  breaks : List Char := []
  rest : List Char

/-- Reads blanks and line breaks. After a line break no tab may stand before the column
`least`. -/
private def spacing? (least : Nat) (broken : Bool) (column : Nat) : List Char → Option Spacing
  | [] => some { rest := [] }
  | c :: rest =>
    if isBreak c then
      (spacing? least true 0 rest).map fun s => { s with breaks := c :: s.breaks }
    else if isBlank c then
      if broken then
        if c = '\t' && column < least then none else spacing? least true (column + 1) rest
      else (spacing? least false (column + 1) rest).map fun s => { s with blanks := c :: s.blanks }
    else some { rest := c :: rest }

/-- What the spacing between two words stands for. -/
private def Spacing.folded (s : Spacing) : List Char :=
  match s.breaks with
  | [] => s.blanks
  | ['\n'] => [' ']
  | '\n' :: more => more
  | breaks => breaks

/-! ## Plain text -/

/-- The characters that end plain text within brackets. -/
private def flowIndicators : List Char := [',', '[', ']', '{', '}']

/-- The other characters that plain text may not begin with. -/
private def reservedStarts : List Char :=
  ['#', '&', '*', '!', '|', '>', '\'', '"', '%', '@', '\x60']

/-- Whether plain text may begin with `c` before `rest`. -/
private def startsPlain (flow : Bool) (c : Char) (rest : List Char) : Bool :=
  if c = '-' then !endsWord rest
  else if c = '?' || c = ':' then !flow && !endsWord rest
  else !isBlank c && !isBreak c && !flowIndicators.contains c && !reservedStarts.contains c

/-- The next word of plain text. Within brackets a colon may not stand directly before another
indicator. -/
private def plainWord? (flow : Bool) : List Char → Option (List Char)
  | [] => some []
  | c :: rest =>
    if endsWord [c] then some []
    else if c = ':' && flow && rest.head?.any ('?' :: flowIndicators).contains then none
    else if c = ':' && endsWord rest then some []
    else if flow && flowIndicators.contains c then some []
    else (plainWord? flow rest).map (c :: ·)

/-- Reads plain text word by word; `pending` is what joins the next word to the text before, and
`broken` says whether a line break stands before it. The result says so of what follows. -/
private def plainWords? (flow : Bool) (least : Nat) (pending : List Char) (broken : Bool) :
    Nat → Cursor → Option (List Char × Cursor × Bool)
  | 0, _ => none
  | bound + 1, k => do
    if k.isAtMarker || k.isAt '#' then return ([], k, broken)
    let word ← plainWord? flow k.rest
    if word.isEmpty then return ([], k, broken)
    let text := pending ++ word
    let stop := k.skip word.length
    if !(stop.rest.head?.any fun c => endsWord [c]) then return (text, stop, false)
    let s ← spacing? least false stop.column stop.rest
    let next := stop.moveTo s.rest
    let broken := !s.breaks.isEmpty
    if !flow && next.column < least then return (text, next, broken)
    let (more, last, broken) ← plainWords? flow least s.folded broken bound next
    return (text ++ more, last, broken)

/-- Reads plain text inside a block whose entries begin at the column `parent`, and says whether a
line break follows it. -/
def plain? (k : Cursor) (flow : Bool) (parent : Int) : Option (String × Cursor × Bool) := do
  let c ← k.rest.head?
  if startsPlain flow c (k.rest.drop 1) then
    let (text, last, broken) ←
      plainWords? flow (parent + 1).toNat [] false (k.rest.length + 1) k
    return (String.ofList text, last, broken)
  else none

/-! ## Quoted text -/

/-- Why the reading of a word in quotes stopped. -/
private inductive Stop where
  | closed
  | spaced
  /-- At a line break behind a backslash, which does not count. -/
  | joined

/-- A character given by hexadecimal digits. -/
private def code? (digits : List Char) : Option Char := do
  let n ← digits.foldlM (fun n c => (Uuid.hexDigit? c).map (n * 16 + ·)) 0
  if h : n.isValidChar then some (Char.ofNatAux n h) else none

/-- The character that a backslash and a letter stand for. -/
private def escaped? (c : Char) : Option Char :=
  [('0', '\x00'), ('a', '\x07'), ('b', '\x08'), ('t', '\t'), ('\t', '\t'), ('n', '\n'),
    ('v', '\x0b'), ('f', '\x0c'), ('r', '\r'), ('e', '\x1b'), (' ', ' '), ('"', '"'), ('/', '/'),
    ('\\', '\\'), ('N', '\u0085'), ('_', '\u00a0'), ('L', '\u2028'), ('P', '\u2029')].lookup c

private def push (c : Char) : List Char × Stop × List Char → List Char × Stop × List Char :=
  fun (word, stop, rest) => (c :: word, stop, rest)

private def singleWord? : List Char → Option (List Char × Stop × List Char)
  | [] => none
  | '\'' :: '\'' :: rest => (singleWord? rest).map (push '\'')
  | '\'' :: rest => some ([], .closed, rest)
  | c :: rest => if endsWord [c] then some ([], .spaced, c :: rest) else
    (singleWord? rest).map (push c)

private def doubleWord? : List Char → Option (List Char × Stop × List Char)
  | [] => none
  | '"' :: rest => some ([], .closed, rest)
  | '\\' :: 'x' :: a :: b :: rest => do return push (← code? [a, b]) (← doubleWord? rest)
  | '\\' :: 'u' :: a :: b :: c :: d :: rest => do
    return push (← code? [a, b, c, d]) (← doubleWord? rest)
  | '\\' :: 'U' :: a :: b :: c :: d :: e :: f :: g :: h :: rest => do
    return push (← code? [a, b, c, d, e, f, g, h]) (← doubleWord? rest)
  | '\\' :: c :: rest =>
    if isBreak c then some ([], .joined, rest) else do
    return push (← escaped? c) (← doubleWord? rest)
  | c :: rest => if endsWord [c] then some ([], .spaced, c :: rest) else
    (doubleWord? rest).map (push c)

/-- Reads quoted text word by word. It may not contain a line that ends the document. -/
private def quotedWords? (double : Bool) : Nat → Cursor → Option (List Char × Cursor)
  | 0, _ => none
  | bound + 1, k => do
    if k.isAtMarker then none
    let (word, stop, rest) ← if double then doubleWord? k.rest else singleWord? k.rest
    let next := k.moveTo rest
    match stop with
    | .closed => return (word, next)
    | .spaced =>
      let s ← spacing? 0 false 0 rest
      let (more, last) ← quotedWords? double bound (next.moveTo s.rest)
      return (word ++ s.folded ++ more, last)
    | .joined =>
      let s ← spacing? 0 true 0 rest
      let (more, last) ← quotedWords? double bound (next.moveTo s.rest)
      return (word ++ s.breaks ++ more, last)

/-- Reads quoted text from its opening quote on. -/
def quoted? (k : Cursor) : Option (String × Cursor) := do
  let (text, last) ← quotedWords? (k.isAt '"') (k.rest.length + 1) (k.skip 1)
  return (String.ofList text, last)

/-! ## Lines of a block -/

/-- What happens to the line breaks at the end of a block. -/
private inductive Chomping where
  | strip
  | clip
  | keep

private def chomping? : Char → Option Chomping
  | '-' => some .strip
  | '+' => some .keep
  | _ => none

private def indentation? (c : Char) : Option Nat :=
  if '1' ≤ c ∧ c ≤ '9' then some (c.toNat - '0'.toNat) else none

/-- The marks behind the indicator of a block, in either order. -/
private def blockMarks : List Char → Chomping × Option Nat × List Char
  | [] => (.clip, none, [])
  | c :: rest =>
    let next := rest.head?
    match chomping? c, indentation? c with
    | some chomping, _ => match next.bind indentation? with
      | some n => (chomping, some n, rest.drop 1)
      | none => (chomping, none, rest)
    | none, some n => match next.bind chomping? with
      | some chomping => (chomping, some n, rest.drop 1)
      | none => (.clip, some n, rest)
    | none, none => (.clip, none, c :: rest)

/-- The lines without text before a line of a block. -/
private structure BlankLines where
  breaks : List Char := []
  /-- The column of the text that follows. -/
  column : Nat
  /-- The greatest column that was reached. -/
  deepest : Nat
  rest : List Char

/-- Skips lines without text and the indentation of the next one, which is at most `indent` if that
is known. No tab may stand in it. -/
private def blankLines? (indent : Option Nat) (deepest column : Nat) :
    List Char → Option BlankLines
  | [] => some { column, deepest := max deepest column, rest := [] }
  | c :: rest =>
    let inside := indent.all (column < ·)
    if c = ' ' && inside then blankLines? indent deepest (column + 1) rest
    else if c = '\t' && inside then none
    else if isBreak c then
      (blankLines? indent (max deepest column) 0 rest).map fun b =>
        { b with breaks := c :: b.breaks }
    else some { column, deepest := max deepest column, rest := c :: rest }

/-- Reads the lines of a block after the line break `lineBreak` and the blank lines `b`. The flag
`blankBefore` says whether the line before began with a blank: such lines are not folded. The
result ends with the line break and the blank lines after the last line. -/
private def blockLines? (literal : Bool) (indent : Nat) :
    Nat → (lineBreak : List Char) → (blankBefore : Bool) → BlankLines →
      Option (List Char × List Char × BlankLines)
  | 0, _, _, _ => none
  | bound + 1, lineBreak, blankBefore, b => do
    if b.column ≠ indent || b.rest.isEmpty then return ([], lineBreak, b)
    let isBlankHere := b.rest.head?.any isBlank
    let isFolded := !literal && !blankBefore && !isBlankHere && lineBreak = ['\n']
    let joint := if !isFolded then lineBreak else if b.breaks.isEmpty then [' '] else []
    let text := b.rest.takeWhile (!isBreak ·)
    let after := b.rest.dropWhile (!isBreak ·)
    let blank ← blankLines? (some indent) 0 0 (after.drop 1)
    let (more, last) ← blockLines? literal indent bound (after.take 1) isBlankHere blank
    return (joint ++ b.breaks ++ text ++ more, last)

/-- Reads a block of lines from its indicator on, inside a block whose entries begin at the column
`parent`. The indentation is that of the first line unless it is given. -/
def block? (k : Cursor) (parent : Int) : Option (String × Cursor) := do
  let (chomping, given, rest) := blockMarks (k.rest.drop 1)
  let rest ← endOfLine? rest
  let indent := given.map fun n => if 0 ≤ parent then parent.toNat + n else n
  let blank ← blankLines? indent 0 0 (rest.drop 1)
  let indent := indent.getD (max blank.deepest (max (parent + 1).toNat 1))
  let (text, lineBreak, last) ← blockLines? (k.isAt '|') indent (k.rest.length + 1) [] false blank
  let tail := match chomping with
    | .strip => []
    | .clip => lineBreak
    | .keep => lineBreak ++ last.breaks
  return (String.ofList (text ++ tail), k.moveTo last.rest)

end Cursor

end Storefront.Yaml
