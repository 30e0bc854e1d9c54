import Storefront.Url.DomainLabel

/-!
# Hosts of addresses

A host is a domain name, an IPv4 address or an IPv6 address. Host texts are percent-decoded and
brought into ASCII form first; a name whose last label is a number is read as an IPv4 address, and
a text in brackets as an IPv6 address.
-/

namespace Storefront

/-- The reasons why a text is not an address. -/
inductive UrlError where
  | relativeWithoutBase
  | emptyHost
  | invalidPort
  | invalidIpv4
  | invalidIpv6
  | invalidDomainName
  | invalidDomainCharacter
deriving DecidableEq, Repr

/-- The wording of a reason. -/
def UrlError.message : UrlError → String
  | relativeWithoutBase => "relative URL without a base"
  | emptyHost => "empty host"
  | invalidPort => "invalid port number"
  | invalidIpv4 => "invalid IPv4 address"
  | invalidIpv6 => "invalid IPv6 address"
  | invalidDomainName => "invalid international domain name"
  | invalidDomainCharacter => "invalid domain character"

inductive Host where
  | domain (name : String)
  | ipv4 (address : Nat)
  | ipv6 (pieces : List Nat)
deriving DecidableEq, Repr

namespace Host

/-! ## IPv4 -/

/-- A part of an IPv4 address, in decimal, or in octal after `0`, or in hexadecimal after `0x`. -/
private def ipv4Part? (text : List Char) : Option Nat :=
  let digits (base : Nat) (ds : List Char) : Option Nat :=
    ds.foldlM (fun n c => do
      let d ← Uuid.hexDigit? c
      if d < base then some (n * base + d) else none) 0
  match text with
  | [] => none
  | '0' :: 'x' :: rest => digits 16 rest
  | '0' :: 'X' :: rest => digits 16 rest
  | ['0'] => some 0
  | '0' :: rest => digits 8 rest
  | _ => digits 10 text

/-- The labels of a name without an empty last one. -/
private def labels (name : String) : List String :=
  let parts := name.splitOn "."
  if parts.getLast? = some "" then parts.dropLast else parts

/-- Whether the last label of a name is a number. -/
private def endsInNumber (name : String) : Bool :=
  match (labels name).getLast? with
  | none => false
  | some last =>
    (!last.isEmpty && last.toList.all (·.isDigit)) || (ipv4Part? last.toList).isSome

/-- The address of up to four parts. All parts but the last are one byte; the last fills the bytes
that remain. -/
private def ipv4? (name : String) : Option Nat := do
  let parts ← (labels name).mapM fun label => ipv4Part? label.toList
  let last ← parts.getLast?
  let leading := parts.dropLast
  let width := 8 * (4 - leading.length)
  if 4 < parts.length || leading.any (255 < ·) || 1 <<< width ≤ last then none
  else some ((leading.foldl (fun n part => n * 256 + part) 0) <<< width + last)

/-! ## IPv6 -/

private def hexPiece? (text : String) : Option Nat :=
  if text.isEmpty || 4 < text.length then none else Uuid.ofHex? text.toList

/-- A byte in decimal, without leading zeros. -/
private def byte? (text : String) : Option Nat := do
  if text.isEmpty || 3 < text.length || (text.length ≠ 1 && text.startsWith "0") then none
  else
    let n ← text.toList.foldlM (fun n c =>
      if c.isDigit then some (n * 10 + (c.toNat - 48)) else none) 0
    if n < 256 then some n else none

/-- The two pieces of a dotted IPv4 address. -/
private def dotted? (text : String) : Option (List Nat) := do
  match ← (text.splitOn ".").mapM byte? with
  | [a, b, c, d] => some [a * 256 + b, c * 256 + d]
  | _ => none

/-- The pieces between colons. The last of them may be a dotted IPv4 address where the text ends
the address. -/
private def pieces? (final : Bool) (text : String) : Option (List Nat) :=
  if text.isEmpty then some []
  else
    let groups := text.splitOn ":"
    match groups.getLast? with
    | none => none
    | some last => do
      let front ← groups.dropLast.mapM hexPiece?
      match hexPiece? last with
      | some piece => some (front ++ [piece])
      | none => if final then (dotted? last).map (front ++ ·) else none

/-- An address of eight pieces, where two colons may stand for one or more zero pieces. -/
private def ipv6? (text : String) : Option (List Nat) :=
  match text.splitOn "::" with
  | [all] => do
    let pieces ← pieces? true all
    if pieces.length = 8 then some pieces else none
  | [left, right] => do
    let front ← pieces? false left
    let back ← pieces? true right
    if front.length + back.length < 8 then
      some (front ++ List.replicate (8 - front.length - back.length) 0 ++ back)
    else none
  | _ => none

private def hexText (n : Nat) : String := String.ofList (Nat.toDigits 16 n)

/-- The start and the length of the first longest run of zeros. -/
private def longestZeros (pieces : List Nat) : Nat × Nat :=
  (List.range pieces.length).foldl (fun best start =>
    let length := ((pieces.drop start).takeWhile (· = 0)).length
    if best.2 < length then (start, length) else best) (0, 0)

/-- The first longest run of at least two zero pieces is shortened to two colons. -/
private def ipv6Text (pieces : List Nat) : String :=
  let (start, length) := longestZeros pieces
  let join := fun ps : List Nat => ":".intercalate (ps.map hexText)
  if length < 2 then join pieces
  else join (pieces.take start) ++ "::" ++ join (pieces.drop (start + length))

/-! ## Domain names -/

private def isControl (c : Char) : Bool := c.toNat < 32 || c.toNat = 127

/-- Characters that may not stand in any host. -/
private def isForbidden (c : Char) : Bool :=
  c.toNat = 0 ||
    c ∈ ['\t', '\n', '\r', ' ', '#', '/', ':', '<', '>', '?', '@', '[', '\\', ']', '^', '|']

private def isForbiddenInDomain (c : Char) : Bool := isForbidden c || isControl c || c = '%'

/-- The bytes of a text, where `%` and two hexadecimal digits stand for one byte. -/
private def percentDecode : List Char → List UInt8
  | '%' :: a :: b :: rest =>
    match Uuid.hexDigit? a, Uuid.hexDigit? b with
    | some high, some low => (high * 16 + low).toUInt8 :: percentDecode rest
    | _, _ => '%'.toNat.toUInt8 :: percentDecode (a :: b :: rest)
  | c :: rest => c.toString.toUTF8.toList ++ percentDecode rest
  | [] => []

/-- The parts of a name between its points. -/
private def splitLabels (name : List Char) : List (List Char) :=
  name.foldr (fun c labels =>
    match labels with
    | [] => [[c]]
    | label :: rest => if c = '.' then [] :: label :: rest else (c :: label) :: rest) [[]]

/-- The ASCII form of the name that a host text denotes. -/
private def domainName? (text : String) : Option String := do
  let decoded ← String.fromUTF8? ⟨(percentDecode text.toList).toArray⟩
  let name := Composition.composed (← decoded.toList.mapM HostChar.replaced?).flatten
  guard (!name.any isForbiddenInDomain)
  let labels ← (splitLabels name).mapM DomainLabel.ofText?
  guard (labels.all (·.isWellFormed))
  guard (!labels.any (·.isRightToLeft) || labels.all (·.hasOneDirection))
  return ".".intercalate (labels.map fun label => String.ofList label.ascii)

/-! ## Reading and printing -/

/-- The text between brackets. -/
private def bracketed? (text : String) : Option (Option String) :=
  match text.toList with
  | '[' :: rest =>
    some (if rest.getLast? = some ']' then some (String.ofList rest.dropLast) else none)
  | _ => none

/-- A host text that starts with a bracket. -/
private def ofBracketed (inner : Option String) : Except UrlError Host :=
  match inner.bind ipv6? with
  | some pieces => .ok (.ipv6 pieces)
  | none => .error .invalidIpv6

/-- The host of an address whose scheme is known to name hosts. -/
def parse (text : String) : Except UrlError Host :=
  match bracketed? text with
  | some inner => ofBracketed inner
  | none =>
    match domainName? text with
    | none => .error .invalidDomainName
    | some name =>
      if name.isEmpty then .error .emptyHost
      else if endsInNumber name then
        match ipv4? name with
        | some address => .ok (.ipv4 address)
        | none => .error .invalidIpv4
      else .ok (.domain name)

/-- The host of an address with any other scheme, which is taken as it is. -/
def parseAsIs (text : String) : Except UrlError Host :=
  match bracketed? text with
  | some inner => ofBracketed inner
  | none =>
    if text.toList.any isForbidden then .error .invalidDomainCharacter
    else .ok (.domain (String.ofList (text.toList.flatMap fun c =>
      if isControl c || 127 < c.toNat then c.toString.toUTF8.toList.flatMap escape else [c])))
where
  escape (byte : UInt8) : List Char :=
    ['%', (Nat.digitChar (byte.toNat / 16)).toUpper, (Nat.digitChar (byte.toNat % 16)).toUpper]

def toText : Host → String
  | domain name => name
  | ipv4 address =>
    ".".intercalate ([24, 16, 8, 0].map fun shift => toString ((address >>> shift) % 256))
  | ipv6 pieces => "[" ++ ipv6Text pieces ++ "]"

end Host

end Storefront
