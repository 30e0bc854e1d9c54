import Storefront.Url.Host

/-!
# Addresses

The scheme, the host and the port of an absolute address. `Url.parse` follows the rules browsers
use: blanks around the text and line breaks inside it are dropped, and the schemes of the web take
any number of slashes or backslashes before the host. Paths, queries and fragments are not kept.
-/

namespace Storefront

structure Url where
  scheme : String
  host : Option Host
  /-- The port, where it is not the usual one of the scheme. -/
  port : Option Nat
deriving DecidableEq, Repr

namespace Url

/-- The ports of the schemes whose addresses always have a host. -/
def defaultPort? (scheme : String) : Option Nat :=
  if scheme = "http" || scheme = "ws" then some 80
  else if scheme = "https" || scheme = "wss" then some 443
  else if scheme = "ftp" then some 21
  else none

private def isBlank (c : Char) : Bool := c.toNat ≤ 32

/-- The text without blanks around it and without tabs and line breaks. -/
private def cleaned (text : String) : List Char :=
  let trimmed := ((text.toList.dropWhile isBlank).reverse.dropWhile isBlank).reverse
  trimmed.filter fun c => c ≠ '\t' && c ≠ '\n' && c ≠ '\r'

/-- Splits the scheme off, which is a letter followed by letters, digits, `+`, `-` and `.` up to a
colon. -/
private def scheme? (text : List Char) : Option (String × List Char) :=
  let isSchemeChar := fun c : Char => c.isAlphanum || c = '+' || c = '-' || c = '.'
  match text with
  | c :: _ =>
    if c.isAlpha then
      match text.dropWhile isSchemeChar with
      | ':' :: rest => some ((String.ofList (text.takeWhile isSchemeChar)).toLower, rest)
      | _ => none
    else none
  | [] => none

private def isSlash (c : Char) : Bool := c = '/' || c = '\\'

/-- Splits an authority at its last `@`. -/
private def splitUserinfo (authority : List Char) : Option (List Char) × List Char :=
  if '@' ∈ authority then
    let host := (authority.reverse.takeWhile (· ≠ '@')).reverse
    (some (authority.take (authority.length - host.length - 1)), host)
  else (none, authority)

/-- The characters of the host: all before the first colon that is not in brackets. -/
private def hostText (inBrackets : Bool) : List Char → List Char
  | [] => []
  | c :: rest =>
    if c = ':' && !inBrackets then []
    else c :: hostText (if c = '[' then true else if c = ']' then false else inBrackets) rest

/-- Reads a port. The usual port of the scheme is none. -/
private def readPort (scheme : String) (text : List Char) : Except UrlError (Option Nat) := do
  let digits := text.takeWhile (·.isDigit)
  let number := digits.foldl (fun n c => n * 10 + (c.toNat - 48)) 0
  if 65535 < number then .error .invalidPort
  else match text.dropWhile (·.isDigit) with
    | c :: _ => if c = '\\' then .ok (kept digits number) else .error .invalidPort
    | [] => .ok (kept digits number)
where
  kept (digits : List Char) (number : Nat) : Option Nat :=
    if digits.isEmpty || defaultPort? scheme = some number then none else some number

/-- Reads what stands between the two slashes and the path. -/
private def ofAuthority (scheme : String) (isWeb : Bool) (rest : List Char) :
    Except UrlError Url := do
  let stops := fun c : Char => c = '/' || c = '?' || c = '#' || (isWeb && c = '\\')
  let authority := rest.takeWhile (!stops ·)
  let (userinfo, place) := splitUserinfo authority
  let endsInside := authority.length < rest.length
  if userinfo = some [] && place.isEmpty && endsInside then throw .emptyHost
  let text := hostText false place
  let behind := place.drop text.length
  if text.isEmpty && isWeb then throw .emptyHost
  let host ← if isWeb then Host.parse (String.ofList text) else Host.parseAsIs (String.ofList text)
  if text.isEmpty && behind.head? = some ':' then throw .emptyHost
  let port ← readPort scheme (behind.drop 1)
  if text.isEmpty then
    if userinfo.any fun u => u ≠ [] && u ≠ [':'] then throw .emptyHost
    return { scheme, host := none, port := none }
  return { scheme, host := some host, port }

private def isDriveLetter (text : List Char) : Bool :=
  match text with
  | [c, mark] => c.isAlpha && (mark = ':' || mark = '|')
  | _ => false

/-- Reads a file address. A drive letter as host or as first part of the path leaves no host, and
neither does the local host. -/
private def ofFile (rest : List Char) : Except UrlError Url := do
  let noHost : Url := { scheme := "file", host := none, port := none }
  match rest with
  | a :: b :: rest =>
    if isSlash a && isSlash b then
      let stops := fun c : Char => isSlash c || c = '?' || c = '#'
      let text := rest.takeWhile (!stops ·)
      let path := (rest.dropWhile (!stops ·)).drop 1
      if text.isEmpty || isDriveLetter text then return noHost
      let host ← Host.parse (String.ofList text)
      let atDrive := (rest.dropWhile (!stops ·)).head?.any isSlash &&
        isDriveLetter (path.takeWhile (!stops ·))
      if host = .domain "localhost" || atDrive then return noHost
      return { noHost with host := some host }
    else return noHost
  | _ => return noHost

/-- Reads an absolute address. -/
def parse (text : String) : Except UrlError Url :=
  match scheme? (cleaned text) with
  | none => .error .relativeWithoutBase
  | some (scheme, rest) =>
    if scheme = "file" then ofFile rest
    else if (defaultPort? scheme).isSome then ofAuthority scheme true (rest.dropWhile isSlash)
    else match rest with
      | '/' :: '/' :: rest => ofAuthority scheme false rest
      | _ => .ok { scheme, host := none, port := none }

end Url

end Storefront
