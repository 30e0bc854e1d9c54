import Storefront.Error
import Storefront.Url

/-!
# Redirect addresses

A customer is only sent back to a host that the shop allows. A pattern allows one host, optionally
with a port; a pattern with a dot in front allows the host behind the dot and all hosts below it;
a star allows every host.
-/

namespace Storefront

namespace RedirectUrl

/-- Whether a pattern allows a host, in any case of letters. -/
def hostMatches (pattern host : String) : Bool :=
  let pattern := pattern.toLower
  let host := host.toLower
  if pattern = "*" then true
  else match pattern.toList with
    | '.' :: domain => host = String.ofList domain || host.endsWith pattern
    | _ => host = pattern

/-- Fails unless the address has a host that one of the patterns allows, with or without its
port. -/
def validate (url : String) (allowed : List String) : Except Error Unit :=
  match Url.parse url with
  | .error e => .error (.redirect (.malformed e))
  | .ok parsed =>
    match parsed.host.map Host.toText with
    | none => .error (.redirect (.withoutHost url))
    | some host =>
      let withPort := parsed.port.map fun p => host ++ ":" ++ toString p
      let isAllowedBy := fun pattern =>
        hostMatches pattern host || withPort.any (hostMatches pattern)
      if allowed.any isAllowedBy then .ok ()
      else .error (.redirect (.hostNotAllowed host))

end RedirectUrl

end Storefront
