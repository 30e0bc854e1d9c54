/-!
# Currencies

A currency is described by its code, by the number of places of its minor unit and by the way
amounts are shown to customers. Ten of them are known by their code.

* `Currency`: the description of a currency.
* `Currency.ofCode?`: the known currency with a code.
-/

namespace Storefront

/-- How a currency's amounts are shown. Digits are grouped from the right in at most three groups
of the given sizes; what is left of them stays together. -/
structure Currency.Style where
  symbol : String
  symbolFirst : Bool := true
  groups : List Nat := [3, 3, 3]
  groupMark : Char := ','
  point : Char := '.'
deriving DecidableEq

/-- A currency of ISO 4217. -/
structure Currency where
  /-- The ISO 4217 code. -/
  code : String
  /-- The number of places of the minor unit. -/
  places : Nat := 2
  style : Currency.Style
  /-- No minor unit is smaller than a ten-thousandth. -/
  places_le_four : places ≤ 4 := by decide
deriving DecidableEq

namespace Currency

def usd : Currency := { code := "USD", style := { symbol := "$" } }

def gbp : Currency := { code := "GBP", style := { symbol := "£" } }

def chf : Currency := { code := "CHF", style := { symbol := "Fr" } }

def jpy : Currency := { code := "JPY", places := 0, style := { symbol := "¥" } }

def kwd : Currency := { code := "KWD", places := 3, style := { symbol := "د.ك" } }

def inr : Currency := { code := "INR", style := { symbol := "₹", groups := [3, 2, 2] } }

def eur : Currency :=
  { code := "EUR", style := { symbol := "€", groupMark := '.', point := ',' } }

def brl : Currency :=
  { code := "BRL", style := { symbol := "R$", groupMark := '.', point := ',' } }

def clf : Currency :=
  { code := "CLF", places := 4, style := { symbol := "UF", groupMark := '.', point := ',' } }

def pln : Currency :=
  { code := "PLN"
    style := { symbol := "zł", symbolFirst := false, groupMark := ' ', point := ',' } }

instance : Inhabited Currency := ⟨usd⟩

/-- The currencies that are known by their code. -/
def known : List Currency := [usd, gbp, chf, jpy, kwd, inr, eur, brl, clf, pln]

/-- The known currency with the given code. -/
def ofCode? (code : String) : Option Currency := known.find? (·.code = code)

end Currency

end Storefront
