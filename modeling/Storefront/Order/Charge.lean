import Storefront.Order
import Storefront.Payment

/-!
# What an order has been charged

The money charged for an order is what its payments have captured, and its status says how that
compares with the total.
-/

namespace Storefront

/-- How the money charged compares with a total. Nothing charged is no payment, unless there is
nothing to pay. -/
def OrderChargeStatus.classify (charged total : Money) : OrderChargeStatus :=
  if charged.amount.isZero && !total.amount.isZero then .none
  else if charged.amount < total.amount then .partly
  else if charged.amount = total.amount then .full
  else .overcharged

namespace Order

def withCharge (o : Order) (charged : Money) : Order :=
  { o with
    totalCharged := charged
    chargeStatus := .classify charged o.total.gross }

/-- The order charged with what payments have captured. -/
def charge (o : Order) (payments : List Payment) : Except Error Order := do
  return o.withCharge (← Payment.totalCaptured o.currency payments)

/-- The order charged with its total. -/
def markPaid (o : Order) : Order := o.withCharge o.total.gross

end Order

end Storefront
