import Storefront.Currency
import Storefront.Id
import Storefront.Text.Named

/-!
# Channels and addresses

A channel is one place of sale with its own currency and its own way of choosing the stock an
order is served from.
-/

namespace Storefront

/-- Which stock serves a line first: that of the warehouse sorted first, or the largest. -/
inductive AllocationStrategy where
  | sortingOrder
  | highStock
deriving DecidableEq, Repr, Inhabited

instance : Named AllocationStrategy where
  names := [("sorting_order", .sortingOrder), ("high_stock", .highStock)]

structure Channel where
  id : ChannelId
  slug : String
  name : String
  currency : Currency
  defaultCountry : String
  isActive : Bool
  allocationStrategy : AllocationStrategy
deriving DecidableEq, Inhabited

structure Address where
  firstName : String := ""
  lastName : String := ""
  companyName : String := ""
  streetAddress1 : String := ""
  streetAddress2 : String := ""
  city : String := ""
  postalCode : String := ""
  country : String := ""
  phone : String := ""
deriving DecidableEq, Inhabited

/-- The parts of an address that orders are searched by, without the empty ones. The company name
is not among them. -/
def Address.searchValues (a : Address) : List String :=
  [a.firstName, a.lastName, a.streetAddress1, a.streetAddress2, a.city, a.postalCode, a.country,
    a.phone].filter (!·.isEmpty)

end Storefront
