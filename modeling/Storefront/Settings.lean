import Storefront.Tax.FlatRate
import Storefront.Text.Named

/-!
# Settings of a shop
-/

namespace Storefront

inductive LogFormat where
  | compact
  | json
deriving DecidableEq, Repr, Inhabited

instance : Named LogFormat where
  names := [("compact", .compact), ("json", .json)]

structure LogSettings where
  level : String := "info"
  format : LogFormat := .compact
deriving DecidableEq, Inhabited

structure Settings where
  /-- The patterns of hosts that customers may be sent back to. -/
  allowedClientHosts : List String := []
  /-- New orders need no confirmation by the shop. -/
  automaticallyConfirmOrders : Bool := true
  /-- The prices of the catalog include taxes. -/
  pricesIncludeTaxes : Bool := true
  logging : LogSettings := {}
  /-- Without rates no taxes are charged. -/
  taxes : Option FlatRates := none
deriving DecidableEq, Inhabited

/-- The tax providers that the settings ask for. -/
def Settings.taxChain (s : Settings) : TaxChain :=
  (s.taxes.map (·.provider s.pricesIncludeTaxes)).toList

end Storefront
