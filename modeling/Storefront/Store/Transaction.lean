import Storefront.Store

/-!
# Transactions

A transaction works on its own copy of the tables. When it is committed the copy becomes the store
and its events are announced; when it fails nothing of it remains.

* `Transaction`: a step that may fail. What it has written before it fails stays in the copy, so
  that a caller may go on or give up.
* `Tables.transact`: the whole of a transaction, committed if it succeeds.
-/

namespace Storefront

/-- What a shop announces about a new order. -/
structure OrderNotice where
  order : Order
  channel : Channel
  payment : Option Payment
  lines : List OrderLine
deriving DecidableEq, Inhabited

/-- What a committed transaction announces. -/
inductive Event where
  | outOfStock (stock : Stock)
  | orderCreated (notice : OrderNotice)
  | orderConfirmation (notice : OrderNotice)
  | orderFullyPaid (order : Order)
  /-- An event of a caller. -/
  | named (name : String)
deriving DecidableEq

/-- An open transaction: the copy it works on and the events it announces when it is committed. -/
structure Session where
  tables : Tables
  events : List Event := []
deriving DecidableEq

abbrev Transaction := ExceptT Error (StateM Session)

namespace Transaction

/-- What the transaction sees. -/
def tables : Transaction Tables := return (← get).tables

def write (f : Tables → Tables) : Transaction Unit :=
  modify fun s => { s with tables := f s.tables }

/-- Announces an event when the transaction is committed. -/
def onCommit (e : Event) : Transaction Unit := modify fun s => { s with events := s.events ++ [e] }

/-! ## Rows -/

def saveUser (u : User) : Transaction Unit :=
  write fun t => { t with users := upsert (·.id) u t.users }

/-- Changes a voucher. -/
def updateVoucher (id : VoucherId) (f : Voucher → Voucher) : Transaction Unit := do
  let voucher ← orFail (.notFound .voucher id.toText) ((← tables).voucher? id)
  write fun t => { t with vouchers := upsert (·.id) (f voucher) t.vouchers }

/-- Takes a use of a voucher, and tells whether there was one left. The uses are counted exactly,
also for a voucher without a limit. -/
def takeUse (id : VoucherId) : Transaction Bool := do
  let voucher ← orFail (.notFound .voucher id.toText) ((← tables).voucher? id)
  if voucher.hasUsesLeft then
    updateVoucher id fun v => v.withUsed (v.used + 1)
    return true
  else return false

/-- Gives a use of a voucher back. -/
def giveBackUse (id : VoucherId) : Transaction Unit :=
  updateVoucher id fun v => v.withUsed (v.used - 1)

/-- Records that a customer has used a voucher. -/
def addVoucherCustomer (id : VoucherId) (email : String) : Transaction Unit := do
  if (← tables).hasUsed id email then throw (.conflict .voucherCustomer email)
  write fun t => { t with voucherCustomers := t.voucherCustomers ++ [⟨id, email⟩] }

/-- Forgets that a customer has used a voucher. -/
def removeVoucherCustomer (id : VoucherId) (email : String) : Transaction Unit :=
  write fun t => { t with
    voucherCustomers := t.voucherCustomers.filter fun c =>
      !(c.voucherId = id && c.customerEmail = email) }

def saveStock (s : Stock) : Transaction Unit := do
  let rows ← orFail (.notFound .stock s.id.toText) (replace? (·.id) s (← tables).stocks)
  write fun t => { t with stocks := rows }

def insertAllocations (rows : List Allocation) : Transaction Unit :=
  write fun t => { t with allocations := t.allocations ++ rows }

def insertPreorderAllocations (rows : List PreorderAllocation) : Transaction Unit :=
  write fun t => { t with preorderAllocations := t.preorderAllocations ++ rows }

def saveGiftCard (c : GiftCard) : Transaction Unit :=
  write fun t => { t with giftCards := upsert (·.id) c t.giftCards }

def saveCheckout (c : Checkout) : Transaction Unit :=
  write fun t => { t with checkouts := upsert (·.token) c t.checkouts }

/-- Removes a checkout. Payments still attached to it are detached. -/
def deleteCheckout (token : CheckoutToken) : Transaction Unit :=
  write fun t => { t with
    checkouts := t.checkouts.filter (·.token ≠ token)
    payments := t.payments.map (·.detach token) }

def savePayment (p : Payment) : Transaction Unit :=
  write fun t => { t with payments := upsert (·.id) p t.payments }

/-- A checkout has at most one order. -/
def insertOrder (o : Order) : Transaction Unit := do
  if let some token := o.checkoutToken then
    if ((← tables).orderOf? token).isSome then throw (.conflict .order token.toText)
  write fun t => { t with orders := t.orders ++ [o] }

def saveOrder (o : Order) : Transaction Unit := do
  let rows ← orFail (.notFound .order o.id.toText) (replace? (·.id) o (← tables).orders)
  write fun t => { t with orders := rows }

def insertOrderLines (rows : List OrderLine) : Transaction Unit :=
  write fun t => { t with orderLines := t.orderLines ++ rows }

end Transaction

/-- Runs a transaction. It is committed if it succeeds and leaves no trace otherwise. -/
def Tables.transact {α : Type} (t : Tables) (tx : Transaction α) :
    Except Error α × Tables × List Event :=
  match tx.run { tables := t } with
  | (.ok a, s) => (.ok a, s.tables, s.events)
  | (.error e, _) => (.error e, t, [])

end Storefront
