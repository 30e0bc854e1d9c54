import Storefront.Checkout.OrderPlan
import Storefront.Checkout.Validation
import Storefront.Discount.VoucherUse
import Storefront.GiftCard.Charge
import Storefront.Order.SearchText
import Storefront.Stock.Allocation

/-!
# Completing a checkout

An attempt to turn a checkout into an order goes through stages. Each stage reads and writes the
store in one transaction at most, or waits for the payment gateway, so that many attempts may run at
once with their stages in any order.

1. `Attempt.prepare` validates the checkout, plans the order and takes a use of the voucher.
2. `Attempt.receive` looks at what the gateway has answered. The gateway cannot be rolled back.
3. `Attempt.placeOrder` creates the order, or finds the one that another attempt has created.
4. `Attempt.release` gives the use of the voucher back where no order has come of it.

`Attempt.advance` takes an attempt one stage further, and `Attempt.complete` takes it to the end.
-/

namespace Storefront

structure CompletionRequest where
  /-- The gateway shall remember the customer. -/
  storeSource : Bool := false
  /-- What the gateway is handed through. -/
  additionalData : Document
  /-- Where the customer is sent, instead of the address kept with the checkout. -/
  redirectUrl : Option String := none
  metadata : List (String × String) := []
  now : Moment

structure Attempt where
  token : CheckoutToken
  request : CompletionRequest
  settings : Settings
  taxes : TaxChain
  /-- What the external provider offers for a checkout. -/
  externalOffers : Checkout → List ShippingOffer
  ids : FreshIds

inductive Completion where
  /-- There is an order, created now or before. -/
  | completed (order : Order)
  /-- The customer has to act before the payment can be confirmed. -/
  | actionRequired (data : Option Document)
deriving DecidableEq

/-- A payment that the gateway has settled, with the name it knows the customer by. -/
structure SettledPayment where
  payment : Payment
  customerId : Option String
deriving DecidableEq, Inhabited

inductive GatewayCall where
  | process (payment : Payment) (context : PaymentContext)
  | confirm (payment : Payment) (context : PaymentContext)
  | refundOrVoid (payment : Payment) (channelSlug : String)
deriving DecidableEq

/-- Where an attempt stands. -/
inductive Stage where
  | preparing
  /-- The gateway has been asked to settle a payment. -/
  | charging (plan : OrderPlan) (payment : Payment)
  | ordering (plan : OrderPlan) (settled : Option SettledPayment)
  /-- The use of the voucher is given back, and a payment may have to be kept. -/
  | releasing (plan : OrderPlan) (kept : Option Payment) (outcome : Except Error Completion)
  | finished (outcome : Except Error Completion)

/-- An attempt after a stage, with what the stage has done. -/
structure Progress where
  stage : Stage
  tables : Tables
  events : List Event := []
  calls : List GatewayCall := []

/-- Both what has been done before and what has been done since. -/
def Progress.andThen (p next : Progress) : Progress where
  stage := next.stage
  tables := next.tables
  events := p.events ++ next.events
  calls := p.calls ++ next.calls

/-! ## Preparing -/

/-- What preparing an attempt comes to. -/
inductive Preparation where
  | ready (plan : OrderPlan) (payment : Option Payment)
  | alreadyOrdered (order : Order)
  /-- The payments do not reach the price. -/
  | notCovered (payment : Option Payment) (channelSlug : String)

namespace Attempt

/-- The snapshot of a checkout all of whose lines can be bought. -/
def snapshot (a : Attempt) (t : Tables) (checkout : Checkout) : Except Error Snapshot := do
  let channel ← t.channel checkout.channelId
  let sales := Sale.activeAt t.sales a.request.now
  let (lines, unavailable) ← t.checkoutLines checkout channel.id sales a.request.now
  unless unavailable.isEmpty do throw (.unavailableVariants unavailable)
  if lines.isEmpty then throw .noLines
  t.snapshot checkout channel lines sales a.externalOffers a.request.now

/-- Where the customer is sent. -/
def redirectUrl (a : Attempt) (checkout : Checkout) : Option String :=
  a.request.redirectUrl.or checkout.redirectUrl

/-- Takes a use of the voucher of the checkout. A code that stands for no voucher any more is a
failure. -/
def takeVoucher (a : Attempt) (s : Snapshot) : Transaction (Option Voucher) := do
  match (← Transaction.tables).voucherFor? s.checkout a.request.now with
  | none =>
    if s.checkout.voucherCode.isSome then throw (.notApplicable .expired)
    return none
  | some v =>
    v.take s.customerEmail
    return some v

/-- Plans the order and takes a use of the voucher. -/
def plan (a : Attempt) (s : Snapshot) (cards : List GiftCard) (balance : Money) :
    Transaction OrderPlan := do
  let plan ← s.plan a.taxes a.ids balance
  (← Transaction.tables).checkSupply (s.lines.map (·.demand)) s.country s.channel
    s.delivery.warehouseFilter a.request.now
  GiftCard.validate cards a.request.now
  let voucher ← a.takeVoucher s
  a.taxes.prepareOrder s
  return { plan with voucher }

def prepareCheckout (a : Attempt) (checkout : Checkout) : Transaction Preparation := do
  let t ← Transaction.tables
  let s ← a.snapshot t checkout
  s.validate t (a.redirectUrl checkout) a.settings.allowedClientHosts
  let total ← s.total a.taxes
  let cards := t.giftCardsOf checkout.giftCardIds
  let balance ← GiftCard.totalBalance checkout.currency cards
  let payments := t.paymentsOf a.token
  let payment := Payment.lastActive? payments
  if ← Payment.cover payments total.gross balance then
    return .ready (← a.plan s cards balance) payment
  else return .notCovered payment s.channel.slug

/-- The transaction before the payment is charged. -/
def preparation (a : Attempt) : Transaction Preparation := do
  let t ← Transaction.tables
  match t.checkout? a.token with
  | some checkout => a.prepareCheckout checkout
  | none =>
    let order ← orFail (.checkoutNotFound a.token) (t.orderOf? a.token)
    return .alreadyOrdered order

/-- Asks the gateway to settle a payment. -/
def chargeCall (a : Attempt) (s : Snapshot) (p : Payment) : GatewayCall :=
  let context := {
    customerId := s.user.bind (·.gatewayCustomerId? p.gateway)
    storeSource := a.request.storeSource
    additionalData := a.request.additionalData
    channelSlug := s.channel.slug }
  if p.toConfirm then .confirm p context else .process p context

def refundCalls (payment : Option Payment) (channelSlug : String) : List GatewayCall :=
  (payment.map (.refundOrVoid · channelSlug)).toList

/-- Validates the checkout, plans the order and takes a use of the voucher. Payments that do not
reach the price are refunded. -/
def prepare (a : Attempt) (t : Tables) : Progress :=
  match t.transact a.preparation with
  | (.error e, tables, events) => { stage := .finished (.error e), tables, events }
  | (.ok preparation, tables, events) =>
    match preparation with
    | .alreadyOrdered order => { stage := .finished (.ok (.completed order)), tables, events }
    | .notCovered payment channelSlug =>
      { stage := .finished (.error .notFullyPaid), tables, events
        calls := refundCalls payment channelSlug }
    | .ready plan none => { stage := .ordering plan none, tables, events }
    | .ready plan (some payment) =>
      { stage := .charging plan payment, tables, events
        calls := [a.chargeCall plan.snapshot payment] }

/-! ## Charging -/

/-- A response, unless it says that the payment has failed. -/
def acceptResponse (answer : Except Error GatewayResponse) : Except Error GatewayResponse := do
  let response ← answer
  if response.isSuccess then return response
  else throw (.payment (response.error.getD "Payment was not processed"))

/-- Looks at what the gateway has answered. A payment that has failed is refunded. -/
def receive (plan : OrderPlan) (payment : Payment) (answer : Except Error GatewayResponse)
    (t : Tables) : Progress :=
  match acceptResponse answer with
  | .error e =>
    { stage := .releasing plan none (.error e), tables := t
      calls := refundCalls (some payment) plan.snapshot.channel.slug }
  | .ok response =>
    match payment.apply response with
    | .error e => { stage := .releasing plan none (.error e), tables := t }
    | .ok settled =>
      if response.actionRequired then
        let result := .ok (.actionRequired response.actionRequiredData)
        { stage := .releasing plan (some settled) result, tables := t }
      else { stage := .ordering plan (some ⟨settled, response.customerId⟩), tables := t }

end Attempt

/-! ## Giving back -/

/-- Gives the use of the voucher of a plan back. -/
def OrderPlan.releaseVoucher (p : OrderPlan) : Transaction Unit := do
  if let some v := p.voucher then v.giveBack p.snapshot.customerEmail

/-- The transaction that gives the use of the voucher back. -/
def OrderPlan.releasing (p : OrderPlan) (kept : Option Payment) : Transaction Unit := do
  p.releaseVoucher
  if let some payment := kept then Transaction.savePayment payment

namespace Attempt

/-- Gives the use of the voucher back. A failure to do so is the outcome. -/
def release (plan : OrderPlan) (kept : Option Payment) (outcome : Except Error Completion)
    (t : Tables) : Progress :=
  match t.transact (plan.releasing kept) with
  | (.ok (), tables, events) => { stage := .finished outcome, tables, events }
  | (.error e, tables, events) => { stage := .finished (.error e), tables, events }

/-! ## Ordering -/

/-- The payments of the checkout with the settled one among them. -/
def withSettled (payments : List Payment) (settled : Option SettledPayment) :
    List Payment :=
  match settled with
  | some s => upsert (·.id) s.payment payments
  | none => payments

/-- The payments of the checkout as those of its order. -/
def orderPayments (plan : OrderPlan) (settled : Option SettledPayment) (t : Tables) :
    List Payment :=
  (withSettled (t.paymentsOf plan.snapshot.checkout.token) settled).map fun p =>
    { p with orderId := some plan.orderId }

/-- Remembers the name that a gateway knows the customer by. -/
def saveCustomerId (plan : OrderPlan) (settled : Option SettledPayment) :
    Transaction Unit := do
  if let some s := settled then
    if let (some customerId, some user) := (s.customerId, plan.snapshot.user) then
      Transaction.saveUser (user.withGatewayCustomerId s.payment.gateway customerId)

/-- The order with what has been paid of it. An order that costs nothing is paid. -/
def enterPayments (order : Order) (giftCardIds : List GiftCardId) (payments : List Payment)
    (lines : List OrderLine) : Except Error Order := do
  let order ← { order with giftCardIds }.charge payments
  let order := if order.total.isZero then order.markPaid else order
  return { order with searchDocument := order.searchText lines }

/-- What is announced about a new order. -/
def announcements (notice : OrderNotice) : List Event :=
  .orderCreated notice
    :: (if notice.order.userEmail.isSome then [.orderConfirmation notice] else [])
    ++ (if notice.order.isFullyPaid then [.orderFullyPaid notice.order] else [])

/-- Inserts the order of a plan with its lines, what they take of the stock, and what gift cards
pay of it. Returns the ids of the cards that paid. -/
def enterOrder (a : Attempt) (plan : OrderPlan) (opened : Order) :
    Transaction (List GiftCardId) := do
  let s := plan.snapshot
  let now := a.request.now
  let demands := plan.lines.map (·.demand)
  Transaction.insertOrder opened
  Transaction.insertOrderLines (plan.lines.map (·.line))
  let _ ← allocateStocks demands s.country s.channel s.delivery.warehouseFilter now
  let _ ← allocatePreorders demands now
  payWithGiftCards opened s.checkout.giftCardIds plan.price.gross now

/-- Hands the payments of the checkout over to its order. The checkout is gone afterwards. -/
def closeCheckout (plan : OrderPlan) (settled : Option SettledPayment) (opened : Order)
    (giftCardIds : List GiftCardId) : Transaction Order := do
  let payments := orderPayments plan settled (← Transaction.tables)
  payments.forM Transaction.savePayment
  saveCustomerId plan settled
  let order ← enterPayments opened giftCardIds payments (plan.lines.map (·.line))
  Transaction.saveOrder order
  Transaction.deleteCheckout plan.snapshot.checkout.token
  return order

/-- Creates the order of a plan. -/
def createOrder (a : Attempt) (plan : OrderPlan) (settled : Option SettledPayment) :
    Transaction Order := do
  let s := plan.snapshot
  let opened := plan.order a.settings (a.redirectUrl s.checkout) a.request.metadata a.request.now
  let giftCardIds ← a.enterOrder plan opened
  let order ← closeCheckout plan settled opened giftCardIds
  let notice := ⟨order, s.channel, settled.map (·.payment), plan.lines.map (·.line)⟩
  (announcements notice).forM Transaction.onCommit
  return order

/-- The transaction after the payment has been charged. An order that another attempt has created
in the meantime is the answer. -/
def ordering (a : Attempt) (plan : OrderPlan) (settled : Option SettledPayment) :
    Transaction Order := do
  match (← Transaction.tables).orderOf? plan.snapshot.checkout.token with
  | some existing =>
    plan.releaseVoucher
    return existing
  | none => a.createOrder plan settled

/-- Creates the order. Where that fails the payment is refunded. -/
def placeOrder (a : Attempt) (plan : OrderPlan) (settled : Option SettledPayment) (t : Tables) :
    Progress :=
  match t.transact (a.ordering plan settled) with
  | (.ok order, tables, events) => { stage := .finished (.ok (.completed order)), tables, events }
  | (.error e, tables, events) =>
    { stage := .releasing plan none (.error e), tables, events
      calls := refundCalls (settled.map (·.payment)) plan.snapshot.channel.slug }

/-! ## From stage to stage -/

/-- Takes an attempt one stage further. The gateway answers from the tables it finds, and others
may have changed them by the time it has answered. -/
def advance (a : Attempt) (gateway : Payment → Tables → Except Error GatewayResponse × Tables)
    (stage : Stage) (t : Tables) : Progress :=
  match stage with
  | .preparing => a.prepare t
  | .charging plan payment =>
    let (answer, t) := gateway payment t
    receive plan payment answer t
  | .ordering plan settled => a.placeOrder plan settled t
  | .releasing plan kept outcome => release plan kept outcome t
  | .finished outcome => { stage := .finished outcome, tables := t }

end Attempt

/-- The number of stages that may still follow. -/
def Stage.remaining : Stage → Nat
  | preparing => 4
  | charging .. => 3
  | ordering .. => 2
  | releasing .. => 1
  | finished _ => 0

theorem Attempt.remaining_advance_le (a : Attempt)
    (gateway : Payment → Tables → Except Error GatewayResponse × Tables) (stage : Stage)
    (t : Tables) : (a.advance gateway stage t).stage.remaining ≤ stage.remaining - 1 := by
  cases stage with
  | preparing =>
    simp only [advance, prepare]
    split
    · simp [Stage.remaining]
    · split <;> simp [Stage.remaining]
  | charging plan payment =>
    simp only [advance, receive]
    split
    · simp [Stage.remaining]
    · split
      · simp [Stage.remaining]
      · split <;> simp [Stage.remaining]
  | ordering plan settled =>
    simp only [advance, placeOrder]
    split <;> simp [Stage.remaining]
  | releasing plan kept outcome =>
    simp only [advance, release]
    split <;> simp [Stage.remaining]
  | finished outcome => simp [advance, Stage.remaining]

namespace Attempt

/-- Goes on from a stage for a number of stages. -/
def run (a : Attempt) (gateway : Payment → Tables → Except Error GatewayResponse × Tables) :
    Nat → Progress → Progress
  | 0, p => p
  | n + 1, p => a.run gateway n (p.andThen (a.advance gateway p.stage p.tables))

/-- The whole of an attempt. -/
def complete (a : Attempt) (gateway : Payment → Tables → Except Error GatewayResponse × Tables)
    (t : Tables) : Progress :=
  a.run gateway Stage.preparing.remaining { stage := .preparing, tables := t }

theorem remaining_run_le (a : Attempt)
    (gateway : Payment → Tables → Except Error GatewayResponse × Tables) (n : Nat) (p : Progress) :
    (a.run gateway n p).stage.remaining ≤ p.stage.remaining - n := by
  induction n generalizing p with
  | zero => simp [run]
  | succ n ih =>
    have hrest := ih (p.andThen (a.advance gateway p.stage p.tables))
    have hnext := a.remaining_advance_le gateway p.stage p.tables
    simp only [Progress.andThen] at hrest
    simp only [run, Progress.andThen]
    omega

/-- Every attempt comes to an end. -/
theorem remaining_complete (a : Attempt)
    (gateway : Payment → Tables → Except Error GatewayResponse × Tables) (t : Tables) :
    (a.complete gateway t).stage.remaining = 0 := by
  have := a.remaining_run_le gateway Stage.preparing.remaining { stage := .preparing, tables := t }
  simpa [complete] using this

/-- Whether an attempt asks the external provider for its offers. -/
def asksProvider (a : Attempt) (t : Tables) : Bool :=
  match t.checkout? a.token with
  | none => false
  | some checkout =>
    match a.snapshot t checkout with
    | .ok s => s.validationNeedsOffers
    | .error _ => false

end Attempt

end Storefront
