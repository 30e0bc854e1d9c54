import Storefront.Money.Arithmetic
import Storefront.Text.Named

/-!
# Payments

A payment is settled by a gateway. `Payment.apply` records what a gateway answered.

* `Payment.lastActive?`: the payment that a checkout is paid with.
* `Payment.cover`: whether the active payments and the gift cards cover a total.
* `Payment.totalCaptured`: the money that was captured, over all payments.
-/

namespace Storefront

inductive PaymentStatus where
  | notCharged
  | pending
  | partiallyCharged
  | fullyCharged
  | fullyRefunded
  | cancelled
deriving DecidableEq, Repr, Inhabited

instance : Named PaymentStatus where
  names := [("not-charged", .notCharged), ("pending", .pending),
    ("partially-charged", .partiallyCharged), ("fully-charged", .fullyCharged),
    ("fully-refunded", .fullyRefunded), ("cancelled", .cancelled)]

/-- What a gateway has done. -/
inductive TransactionKind where
  | auth
  | capture
  | actionToConfirm
  | refund
  | void
deriving DecidableEq, Repr, Inhabited

instance : Named TransactionKind where
  names := [("auth", .auth), ("capture", .capture), ("action_to_confirm", .actionToConfirm),
    ("refund", .refund), ("void", .void)]

structure Payment where
  id : PaymentId
  gateway : String
  token : String
  total : Money
  captured : Money
  status : PaymentStatus
  isActive : Bool
  /-- The customer has acted on the payment and it only needs to be confirmed. -/
  toConfirm : Bool
  checkoutToken : Option CheckoutToken
  orderId : Option OrderId
  pspReference : Option String
deriving DecidableEq, Inhabited

/-- The text of a document that is handed through without being read. -/
abbrev Document := String

structure GatewayResponse where
  isSuccess : Bool
  actionRequired : Bool
  actionRequiredData : Option Document
  customerId : Option String
  error : Option String
  kind : TransactionKind
  amount : Money
  pspReference : Option String
deriving DecidableEq, Inhabited

/-- What a gateway is told besides the payment. -/
structure PaymentContext where
  customerId : Option String
  storeSource : Bool
  additionalData : Document
  channelSlug : String
deriving DecidableEq, Inhabited

namespace Payment

/-- The last payment of a list that is active. -/
def lastActive? (payments : List Payment) : Option Payment := payments.findRev? (·.isActive)

/-- Whether the active payments reach what gift cards leave of a total. -/
def cover (payments : List Payment) (total giftCards : Money) : Except Error Bool := do
  let paid ← Money.sum total.currency ((payments.filter (·.isActive)).map (·.total))
  let toPay := (← total.sub giftCards).floorAtZero
  return decide (toPay.amount ≤ paid.amount)

/-- The payment with the reference of a response, if that has one. -/
def recordReference (p : Payment) (r : GatewayResponse) : Payment :=
  { p with pspReference := r.pspReference <|> p.pspReference }

/-- The payment after a response. A failed response changes nothing. -/
def apply (p : Payment) (r : GatewayResponse) : Except Error Payment :=
  if !r.isSuccess then .ok p
  else
    let p := p.recordReference r
    match r.kind with
    | .capture => do
      let captured ← p.captured.add r.amount
      return { p with
        captured
        status := if p.total.amount ≤ captured.amount then .fullyCharged else .partiallyCharged
        toConfirm := false }
    | .actionToConfirm => .ok { p with toConfirm := true, status := .pending }
    | .auth => .ok { p with toConfirm := false }
    | .refund => .ok { p with status := .fullyRefunded, isActive := false }
    | .void => .ok { p with status := .cancelled, isActive := false }

/-- The payment that is left after a response, which keeps its reference even where the captured
amount could not be added, and what went wrong. -/
def settle (p : Payment) (r : GatewayResponse) : Payment × Except Error Unit :=
  match p.apply r with
  | .ok p => (p, .ok ())
  | .error e => (p.recordReference r, .error e)

/-- The payment once the checkout of a token is gone. -/
def detach (p : Payment) (token : CheckoutToken) : Payment :=
  if p.checkoutToken = some token then { p with checkoutToken := none } else p

/-- The money captured by all payments, active or not. -/
def totalCaptured (currency : Currency) (payments : List Payment) : Except Error Money :=
  Money.sum currency (payments.map (·.captured))

end Payment

end Storefront
