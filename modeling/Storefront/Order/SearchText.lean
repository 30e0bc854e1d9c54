import Storefront.Order
import Storefront.Text.Lowercase

/-!
# What an order is found by

The search text of an order has the values it is searched by, in lower case and each on a line of
its own.
-/

namespace Storefront.Order

/-- The values that a line adds to the search text of its order. -/
private def lineSearchValues (l : OrderLine) : List String :=
  l.productSku.toList ++ [l.productName, l.variantName]

/-- The values that an order with some lines is searched by: its id, the address of the customer,
the billing and shipping addresses, and what has been bought. -/
def searchValues (o : Order) (lines : List OrderLine) : List String :=
  o.id.toText :: o.userEmail.toList
    ++ (o.billingAddress.toList ++ o.shippingAddress.toList).flatMap Address.searchValues
    ++ lines.flatMap lineSearchValues

/-- The search text of an order with some lines. -/
def searchText (o : Order) (lines : List OrderLine) : String :=
  Lowercase.lower (String.join (((o.searchValues lines).filter (!·.isEmpty)).map (· ++ "\n")))

end Storefront.Order
