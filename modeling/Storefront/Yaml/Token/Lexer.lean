import Storefront.Yaml.Scalar
import Storefront.Yaml.Token

/-!
# Reading the tokens of a document

`Token.ofText?` reads a text into its tokens.

* Outside brackets, a collection begins where a key or a dash stands right of the collection
  around it, and ends where something stands further left. Within brackets columns do not count.
* What stands before a colon is a key if it began where a key may begin, on the same line and at
  most 1024 characters before. The token of the key is put in where the key began.
* At the column of a mapping nothing but a key may begin.

All recursion is bounded by the length of the text, because each step reads a character.
-/

namespace Storefront.Yaml

/-- Where a key may have begun. -/
private structure KeyStart where
  /-- The number of tokens before it. -/
  position : Nat
  cursor : Cursor
  /-- Whether nothing but a key may begin there. -/
  required : Bool

/-- Whether a colon at the cursor is behind a key that began there. -/
private def KeyStart.reaches (start : KeyStart) (k : Cursor) : Bool :=
  start.cursor.line = k.line && k.index ≤ start.cursor.index + 1024

private structure Lexer where
  cursor : Cursor
  /-- The tokens so far, the last one first. -/
  tokens : List Token := []
  /-- The columns of the collections in blocks, the innermost first. -/
  blocks : List Nat := []
  /-- The last start of a key outside brackets and within each bracket, the innermost first. -/
  keys : List (Option KeyStart) := [none]
  /-- Whether a key may begin at the cursor. -/
  keyAllowed : Bool := true

namespace Lexer

private abbrev Lex := StateT Lexer Option

/-- Whether the cursor is within brackets. -/
private def inFlow (l : Lexer) : Bool := 1 < l.keys.length

/-- The column of the innermost collection in a block. -/
private def indent (l : Lexer) : Int :=
  match l.blocks with
  | [] => -1
  | column :: _ => column

/-- Puts a token in behind the first `position` tokens. -/
private def insert (l : Lexer) (position : Nat) (token : Token) : Lexer :=
  let later := l.tokens.length - position
  { l with tokens := l.tokens.take later ++ token :: l.tokens.drop later }

/-- Begins a collection at a column, behind the first `position` tokens, if it is right of the
innermost one. -/
private def openBlock (l : Lexer) (column position : Nat) (token : Token) : Lexer :=
  if l.inFlow || (column : Int) ≤ l.indent then l
  else { l with blocks := column :: l.blocks }.insert position token

/-- Ends the collections right of a column. -/
private def closeBlocks (l : Lexer) (column : Int) : Lexer :=
  if l.inFlow then l
  else
    let blocks := l.blocks.dropWhile fun (block : Nat) => column < (block : Int)
    let ends := List.replicate (l.blocks.length - blocks.length) Token.blockEnd
    { l with blocks, tokens := ends ++ l.tokens }

/-! ## Keys -/

/-- Gives up the last start of a key. -/
private def dropKey : Lex Unit := do
  match (← get).keys with
  | some start :: keys => do
    guard !start.required
    modify fun l => { l with keys := none :: keys }
  | _ => return

/-- Notes that a key may begin here. -/
private def startKey : Lex Unit := do
  let l ← get
  if l.keyAllowed then
    dropKey
    let start : KeyStart := {
      position := l.tokens.length
      cursor := l.cursor
      required := !l.inFlow && l.indent = l.cursor.column }
    modify fun l => { l with keys := some start :: l.keys.drop 1 }

/-! ## Indicators -/

/-- Reads a token that is written with `n` characters. -/
private def symbol (token : Token) (keyAllowed : Bool) (n : Nat) : Lex Unit :=
  modify fun l => { l with tokens := token :: l.tokens, cursor := l.cursor.skip n, keyAllowed }

/-- Reads a token whose text ends at a later cursor. -/
private def word (read : Cursor → Option (Token × Cursor)) : Lex Unit := do
  startKey
  let l ← get
  let (token, cursor) ← read l.cursor
  set { l with tokens := token :: l.tokens, cursor, keyAllowed := false }

private def openFlow (token : Token) : Lex Unit := do
  startKey
  modify fun l => { l with keys := none :: l.keys }
  symbol token true 1

private def closeFlow (token : Token) : Lex Unit := do
  dropKey
  modify fun l => if l.inFlow then { l with keys := l.keys.drop 1 } else l
  symbol token false 1

private def comma : Lex Unit := do
  dropKey
  symbol .comma true 1

/-- Begins a collection at the cursor, where outside brackets a key may begin. -/
private def startBlock (token : Token) : Lex Unit := do
  let l ← get
  guard (l.inFlow || l.keyAllowed)
  set (l.openBlock l.cursor.column l.tokens.length token)

private def item : Lex Unit := do
  startBlock .blockSequenceStart
  dropKey
  symbol .item true 1

private def key : Lex Unit := do
  startBlock .blockMappingStart
  dropKey
  symbol .key (!(← get).inFlow) 1

private def value : Lex Unit := do
  let l ← get
  let start := l.keys.head?.join
  match start.filter (·.reaches l.cursor) with
  | some start => do
    let l := (l.insert start.position .key).openBlock start.cursor.column start.position
      .blockMappingStart
    set { l with keys := none :: l.keys.drop 1 }
    symbol .value false 1
  | none => do
    guard !(start.any (·.required))
    startBlock .blockMappingStart
    symbol .value (!l.inFlow) 1

/-- Reads a line that begins or ends a document. -/
private def marker (token : Token) : Lex Unit := do
  modify (·.closeBlocks (-1))
  dropKey
  symbol token false 3

/-! ## Names and tags -/

/-- Reads the name behind a `&` or a `*`. -/
private def name? (k : Cursor) : Option (String × Cursor) := do
  let text := (k.rest.drop 1).takeWhile isNameChar
  let stop := k.skip (text.length + 1)
  guard (!text.isEmpty && (endsWord stop.rest ||
    stop.rest.head?.any ['?', ':', ',', ']', '\x7d', '%', '@', '\x60'].contains))
  return (String.ofList text, stop)

/-- The number of bytes of a character that begins with the given byte. -/
private def width? (byte : Nat) : Option Nat :=
  if byte < 0x80 then some 1
  else if byte < 0xC0 then none
  else if byte < 0xE0 then some 2
  else if byte < 0xF0 then some 3
  else if byte < 0xF8 then some 4
  else none

/-- The longest beginning of a text that can be part of a tag, and the text behind it. A percent
sign comes before two hexadecimal digits and stands for a byte; the next `due` bytes belong to the
character that has begun. -/
private def tagBytes? (verbatim : Bool) (due : Nat) :
    List Char → Option (List UInt8 × List Char)
  | '%' :: a :: b :: rest => do
    let byte := (← Uuid.hexDigit? a) * 16 + (← Uuid.hexDigit? b)
    let due ← if due = 0 then (width? byte).map (· - 1)
      else if 0x80 ≤ byte && byte < 0xC0 then some (due - 1) else none
    let (bytes, rest) ← tagBytes? verbatim due rest
    return (byte.toUInt8 :: bytes, rest)
  | [] => if due = 0 then some ([], []) else none
  | c :: rest =>
    if due ≠ 0 || c = '%' then none
    else if isNameChar c || ";/?:@&=+$.!~*'()".contains c || (verbatim && ",[]".contains c) then
      (tagBytes? verbatim 0 rest).map fun (bytes, rest) => (c.toNat.toUInt8 :: bytes, rest)
    else some ([], c :: rest)

/-- Reads a part of a tag, which ends before the first byte that is zero. -/
private def tagPart? (verbatim : Bool) (text : List Char) : Option (Tag × List Char) := do
  let (bytes, rest) ← tagBytes? verbatim 0 text
  return (⟨bytes.takeWhile (· ≠ 0)⟩, rest)

/-- The handle of a tag at the beginning of a text, if one is written there in full. -/
private def handle? (text : List Char) : Option (List Char) :=
  let name := (text.drop 1).takeWhile isNameChar
  if (text.drop (name.length + 1)).head? = some '!' then some ('!' :: name ++ ['!']) else none

/-- Reads a tag: in full between `!<` and `>`, or behind a handle. -/
private def tag? (inFlow : Bool) (k : Cursor) : Option (Token × Cursor) := do
  let (token, rest) ← match k.rest.drop 1, handle? k.rest with
    | '<' :: text, _ => do
      let (tag, rest) ← tagPart? true text
      guard (text.length ≠ rest.length && rest.head? = some '>')
      pure (Token.tag "" tag, rest.drop 1)
    | _, some handle => do
      let text := k.rest.drop handle.length
      let (tag, rest) ← tagPart? false text
      guard (text.length ≠ rest.length)
      pure (Token.tag (String.ofList handle) tag, rest)
    | text, none => do
      let (tag, rest) ← tagPart? false text
      pure (if tag.bytes.isEmpty then .tag "" .nonspecific else .tag "!" tag, rest)
  guard (endsWord rest || (inFlow && rest.head? = some ','))
  return (token, k.moveTo rest)

/-! ## Directives -/

/-- Reads a part of a version. -/
private def number? (text : List Char) : Option (Nat × List Char) := do
  let digits := text.takeWhile Char.isDigit
  guard (!digits.isEmpty && digits.length ≤ 9)
  return (← (String.ofList digits).toNat?, text.drop digits.length)

private def version? (text : List Char) : Option (Token × List Char) := do
  let (major, rest) ← number? (text.dropWhile isBlank)
  guard (rest.head? = some '.')
  let (minor, rest) ← number? (rest.drop 1)
  return (.version major minor, rest)

/-- Reads a handle and the beginning of tags that it stands for. -/
private def handleFor? (text : List Char) : Option (Token × List Char) := do
  let text := text.dropWhile isBlank
  guard (text.head? = some '!')
  let handle := (handle? text).getD ['!']
  let rest := text.drop handle.length
  let text := rest.dropWhile isBlank
  let (stands, rest') ← tagPart? true text
  guard (rest.length ≠ text.length && text.length ≠ rest'.length && endsWord rest')
  return (.handle (String.ofList handle) stands, rest')

/-- Reads a line with a directive. -/
private def directive : Lex Unit := do
  modify (·.closeBlocks (-1))
  dropKey
  let l ← get
  let name := (l.cursor.rest.drop 1).takeWhile isNameChar
  let text := l.cursor.rest.drop (name.length + 1)
  guard (endsWord text)
  let (token, rest) ← match String.ofList name with
    | "YAML" => version? text
    | "TAG" => handleFor? text
    | _ => none
  let rest ← endOfLine? rest
  set { l with
    tokens := token :: l.tokens, cursor := l.cursor.moveTo (rest.drop 1), keyAllowed := false }

/-! ## Scalars -/

private def quoted? (k : Cursor) : Option (Token × Cursor) :=
  k.quoted?.map fun (text, cursor) => (.scalar .quoted text, cursor)

private def plain : Lex Unit := do
  startKey
  let l ← get
  let (text, cursor, broken) ← l.cursor.plain? l.inFlow l.indent
  set { l with tokens := .scalar .plain text :: l.tokens, cursor, keyAllowed := broken }

private def block (style : Style) : Lex Unit := do
  dropKey
  let l ← get
  let (text, cursor) ← l.cursor.block? l.indent
  set { l with tokens := .scalar style text :: l.tokens, cursor, keyAllowed := true }

/-! ## The text -/

/-- Reads the tokens that begin with the word at the cursor. -/
private def next : Lex Unit := do
  let l ← get
  let k := l.cursor
  let isIndicator := fun c => k.isAt c && (l.inFlow || k.isAtIndicator c)
  if k.column = 0 && k.isAt '%' then directive
  else if k.isAtMark '-' then marker .documentStart
  else if k.isAtMark '.' then marker .documentEnd
  else if k.isAt '[' then openFlow .flowSequenceStart
  else if k.isAt '\x7b' then openFlow .flowMappingStart
  else if k.isAt ']' then closeFlow .flowSequenceEnd
  else if k.isAt '\x7d' then closeFlow .flowMappingEnd
  else if k.isAt ',' then comma
  else if k.isAtIndicator '-' then item
  else if isIndicator '?' then key
  else if isIndicator ':' then value
  else if k.isAt '*' then word fun k => (name? k).map fun (name, k) => (.alias name, k)
  else if k.isAt '&' then word fun k => (name? k).map fun (name, k) => (.anchor name, k)
  else if k.isAt '!' then word (tag? l.inFlow)
  else if k.isAt '|' && !l.inFlow then block .literal
  else if k.isAt '>' && !l.inFlow then block .folded
  else if k.isAt '\'' || k.isAt '"' then word quoted?
  else plain

/-- Reads all tokens. -/
private def all : Nat → Lex Unit
  | 0 => failure
  | bound + 1 => do
    modify fun l =>
      let (cursor, keyAllowed) := l.cursor.afterGap l.inFlow l.keyAllowed
      { l with cursor, keyAllowed }
    modify fun l => l.closeBlocks l.cursor.column
    if (← get).cursor.rest.isEmpty then
      modify (·.closeBlocks (-1))
      dropKey
    else
      next
      all bound

end Lexer

/-- The tokens of a text. A mark of the byte order at the beginning is not part of it. -/
def Token.ofText? (text : String) : Option (List Token) := do
  guard (text.toList.all isAllowed)
  let chars := normalized text.toList
  let rest := if chars.head? = some '\ufeff' then chars.drop 1 else chars
  let (_, l) ← (Lexer.all (rest.length + 1)).run { cursor := { rest } }
  return l.tokens.reverse

end Storefront.Yaml
