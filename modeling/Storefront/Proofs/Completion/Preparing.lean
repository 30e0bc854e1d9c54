import Storefront.Proofs.Voucher.Use

/-!
# What preparing an attempt does

The transaction before the charge validates the checkout, prices the order and takes a use of its
voucher. Nothing else is written.

* `Snapshot.plan_ok`: a plan keeps its snapshot, and its lines and its order have the ids of the
  attempt.
* `Attempt.Prepared`: everything that has been checked about a plan.
* `Attempt.preparation_ok`: what the whole transaction has come to.
-/

namespace Storefront

/-! ## Pricing -/

namespace Snapshot

variable {s : Snapshot} {chain : TaxChain} {ids : FreshIds} {balance : Money} {p : OrderPlan}

theorem orderLine_ok {order : OrderId} {id : OrderLineId} {l : CheckoutLine} {line : OrderLine}
    (h : s.orderLine chain order id l = .ok line) :
    line.id = id ∧ line.orderId = order ∧ line.variantId = some l.variant.id ∧
      line.quantity = l.quantity := by
  unfold orderLine at h
  obtain ⟨_unit, -, h⟩ := bind_ok h
  obtain ⟨_base, -, h⟩ := bind_ok h
  obtain ⟨⟨_, _⟩, -, h⟩ := bind_ok h
  obtain ⟨_totalPrice, -, h⟩ := bind_ok h
  obtain ⟨_unitPrice, -, h⟩ := bind_ok h
  obtain ⟨_undiscountedUnitPrice, -, h⟩ := bind_ok h
  obtain ⟨_taxRate, -, h⟩ := bind_ok h
  obtain ⟨_baseUnitPrice, -, h⟩ := bind_ok h
  obtain ⟨_unitDiscount, -, h⟩ := bind_ok h
  obtain ⟨_undiscountedTotalPrice, -, h⟩ := bind_ok h
  cases h
  exact ⟨rfl, rfl, rfl, rfl⟩

/-- The lines of an order belong to it, and each is for what the line that it comes from is for. -/
theorem orderLines_ok {index : Nat} {lines : List CheckoutLine} {planned : List PlannedLine}
    (h : s.orderLines chain ids index lines = .ok planned) :
    ∀ l ∈ planned, l.line.orderId = ids.order ∧ l.line.variantId = some l.source.variant.id ∧
      l.line.quantity = l.source.quantity := by
  induction lines generalizing index planned with
  | nil =>
    cases h
    simp
  | cons l rest ih =>
    obtain ⟨line, hline, h⟩ := bind_ok h
    obtain ⟨more, hmore, h⟩ := bind_ok h
    cases h
    exact List.forall_mem_cons.2 ⟨(orderLine_ok hline).2, ih hmore⟩

/-- An order has a line for each line of the checkout, with the ids one after the other. -/
theorem orderLines_map {index : Nat} {lines : List CheckoutLine} {planned : List PlannedLine}
    (h : s.orderLines chain ids index lines = .ok planned) :
    planned.map (·.source) = lines ∧
      planned.map (·.line.id) = (List.range' index lines.length).map ids.line := by
  induction lines generalizing index planned with
  | nil =>
    cases h
    exact ⟨rfl, rfl⟩
  | cons l rest ih =>
    obtain ⟨line, hline, h⟩ := bind_ok h
    obtain ⟨more, hmore, h⟩ := bind_ok h
    cases h
    obtain ⟨hsources, hids⟩ := ih hmore
    simp [hsources, hids, (orderLine_ok hline).1, List.range'_succ]

theorem plan_ok (h : s.plan chain ids balance = .ok p) :
    p.snapshot = s ∧ p.orderId = ids.order ∧ p.voucher = none ∧
      s.orderLines chain ids 0 s.lines = .ok p.lines := by
  obtain ⟨_price, -, h⟩ := bind_ok h
  obtain ⟨_left, -, h⟩ := bind_ok h
  obtain ⟨_shippingPrice, -, h⟩ := bind_ok h
  obtain ⟨_shippingTaxRate, -, h⟩ := bind_ok h
  obtain ⟨lines, hlines, h⟩ := bind_ok h
  obtain ⟨_undiscountedTotal, -, h⟩ := bind_ok h
  cases h
  exact ⟨rfl, rfl, rfl, hlines⟩

/-- The total of an order is what the balance of its gift cards leaves of the price. -/
theorem plan_total (h : s.plan chain ids balance = .ok p) :
    ∃ left, p.price.subAmount balance = .ok left ∧ p.total = left.floorAtZero := by
  obtain ⟨_price, -, h⟩ := bind_ok h
  obtain ⟨left, hleft, h⟩ := bind_ok h
  obtain ⟨_shippingPrice, -, h⟩ := bind_ok h
  obtain ⟨_shippingTaxRate, -, h⟩ := bind_ok h
  obtain ⟨_lines, -, h⟩ := bind_ok h
  obtain ⟨_undiscountedTotal, -, h⟩ := bind_ok h
  cases h
  exact ⟨left, hleft, rfl⟩

/-- A plan has the prices of its snapshot. -/
theorem plan_prices (h : s.plan chain ids balance = .ok p) :
    s.total chain = .ok p.price ∧ s.shippingPrice chain = .ok p.shippingPrice := by
  obtain ⟨_price, hprice, h⟩ := bind_ok h
  obtain ⟨_left, -, h⟩ := bind_ok h
  obtain ⟨_shippingPrice, hshipping, h⟩ := bind_ok h
  obtain ⟨_shippingTaxRate, -, h⟩ := bind_ok h
  obtain ⟨_lines, -, h⟩ := bind_ok h
  obtain ⟨_undiscountedTotal, -, h⟩ := bind_ok h
  cases h
  exact ⟨hprice, hshipping⟩

end Snapshot

/-! ## Preparing -/

namespace Attempt

variable {a : Attempt} {s s' : Session} {t t' : Tables}

/-- A snapshot has the checkout it was taken of, with the customer and the voucher of that. -/
theorem snapshot_ok {checkout : Checkout} {x : Snapshot} (h : a.snapshot t checkout = .ok x) :
    x.checkout = checkout ∧ x.user = checkout.userId.bind t.user? ∧
      x.voucher = t.voucherFor? checkout a.request.now := by
  obtain ⟨_channel, -, h⟩ := bind_ok h
  obtain ⟨⟨_lines, _unavailable⟩, -, h⟩ := bind_ok h
  obtain ⟨-, h⟩ := unless_ok h
  obtain ⟨-, h⟩ := guard_ok h
  obtain ⟨_baseSubtotal, -, h⟩ := bind_ok h
  cases h
  exact ⟨rfl, rfl, rfl⟩

/-- What has been checked in the tables `t` about a plan and the payment that is to be charged. -/
structure Prepared (a : Attempt) (t : Tables) (plan : OrderPlan) (payment : Option Payment) :
    Prop where
  checkout : t.checkout? a.token = some plan.snapshot.checkout
  snapshot : a.snapshot t plan.snapshot.checkout = .ok plan.snapshot
  valid : plan.snapshot.validate t (a.redirectUrl plan.snapshot.checkout)
    a.settings.allowedClientHosts = .ok ()
  /-- The payments reach what the balance of the gift cards leaves of the price. -/
  priced : ∃ total balance, plan.snapshot.total a.taxes = .ok total ∧
    GiftCard.totalBalance plan.snapshot.checkout.currency
      (t.giftCardsOf plan.snapshot.checkout.giftCardIds) = .ok balance ∧
    Payment.cover (t.paymentsOf a.token) total.gross balance = .ok true ∧
    plan.snapshot.plan a.taxes a.ids balance = .ok { plan with voucher := none }
  payment : payment = Payment.lastActive? (t.paymentsOf a.token)
  supplied : t.checkSupply (plan.snapshot.lines.map (·.demand)) plan.snapshot.country
    plan.snapshot.channel plan.snapshot.delivery.warehouseFilter a.request.now = .ok ()
  giftCards : GiftCard.validate (t.giftCardsOf plan.snapshot.checkout.giftCardIds) a.request.now =
    .ok ()
  voucher : plan.voucher = t.voucherFor? plan.snapshot.checkout a.request.now
  /-- A code that stands for no voucher is refused. -/
  code : plan.voucher = none → plan.snapshot.checkout.voucherCode = none
  taxed : a.taxes.prepareOrder plan.snapshot = .ok ()

namespace Prepared

variable {plan : OrderPlan} {payment : Option Payment}

theorem token (h : a.Prepared t plan payment) : plan.snapshot.checkout.token = a.token :=
  (find?_key (k := Checkout.token) h.checkout).2

theorem orderId (h : a.Prepared t plan payment) : plan.orderId = a.ids.order := by
  obtain ⟨_, _, -, -, -, hplan⟩ := h.priced
  exact (Snapshot.plan_ok hplan).2.1

theorem lines (h : a.Prepared t plan payment) :
    ∀ l ∈ plan.lines, l.line.orderId = a.ids.order := by
  obtain ⟨_, _, -, -, -, hplan⟩ := h.priced
  exact fun l hl => (Snapshot.orderLines_ok (Snapshot.plan_ok hplan).2.2.2 l hl).1

theorem voucher_snapshot (h : a.Prepared t plan payment) : plan.voucher = plan.snapshot.voucher :=
  h.voucher.trans (snapshot_ok h.snapshot).2.2.symm

/-- The customer of a plan is a user of the store. -/
theorem user? (h : a.Prepared t plan payment) {user : User}
    (huser : plan.snapshot.user = some user) : t.user? user.id = some user := by
  obtain ⟨-, hcustomer, -⟩ := snapshot_ok h.snapshot
  obtain ⟨id, -, hfound⟩ := Option.bind_eq_some_iff.1 (hcustomer.symm.trans huser)
  rwa [(find?_key (k := User.id) hfound).2]

/-- The snapshot of a plan is the one there is of the checkout. -/
theorem snapshot_eq (h : a.Prepared t plan payment) {checkout : Checkout} {x : Snapshot}
    (hcheckout : t.checkout? a.token = some checkout) (hx : a.snapshot t checkout = .ok x) :
    plan.snapshot = x := by
  obtain rfl : plan.snapshot.checkout = checkout :=
    Option.some.inj (h.checkout.symm.trans hcheckout)
  exact Except.ok.inj (h.snapshot.symm.trans hx)

end Prepared

/-- The voucher of the checkout is the one of which a use is taken. -/
theorem takeVoucher_ok {x : Snapshot} {v : Option Voucher}
    (h : (a.takeVoucher x).run s = (.ok v, s')) :
    v = s.tables.voucherFor? x.checkout a.request.now ∧
      (v = none → x.checkout.voucherCode = none) ∧
      ∀ p : OrderPlan, p.snapshot = x → p.voucher = v →
        ∃ t', p.Takes s.tables t' ∧ s' = { s with tables := t' } := by
  have h := Transaction.run_tables_bind_ok h
  cases hfor : s.tables.voucherFor? x.checkout a.request.now with
  | none =>
    rw [hfor] at h
    obtain ⟨hcode, h⟩ := Transaction.run_guard_ok h
    obtain ⟨rfl, rfl⟩ := Transaction.run_pure_ok h
    exact ⟨rfl, fun _ => by simpa using hcode, fun p _ hv => ⟨_, .nothing hv, rfl⟩⟩
  | some w =>
    rw [hfor] at h
    obtain ⟨_, _, htake, h⟩ := Transaction.run_bind_ok h
    obtain ⟨rfl, rfl⟩ := Transaction.run_pure_ok h
    obtain ⟨row, hrow, hleft, hnew, rfl⟩ := Voucher.take_ok htake
    refine ⟨rfl, fun hnone => (nomatch hnone), fun p hx hv => ?_⟩
    have hcustomer : p.remembered? = w.remembered? x.customerEmail := by
      simp [OrderPlan.remembered?, hx, hv]
    exact ⟨_, .use hv hrow hleft (hcustomer ▸ hnew), by rw [hcustomer]⟩

/-- A plan that was made in a transaction, with the use of its voucher taken. -/
theorem makePlan_ok {x : Snapshot} {cards : List GiftCard} {balance : Money} {p : OrderPlan}
    (h : (a.plan x cards balance).run s = (.ok p, s')) :
    p.snapshot = x ∧ x.plan a.taxes a.ids balance = .ok { p with voucher := none } ∧
      s.tables.checkSupply (x.lines.map (·.demand)) x.country x.channel
        x.delivery.warehouseFilter a.request.now = .ok () ∧
      GiftCard.validate cards a.request.now = .ok () ∧
      p.voucher = s.tables.voucherFor? x.checkout a.request.now ∧
      (p.voucher = none → x.checkout.voucherCode = none) ∧
      a.taxes.prepareOrder x = .ok () ∧
      ∃ t', p.Takes s.tables t' ∧ s' = { s with tables := t' } := by
  obtain ⟨priced, hpriced, h⟩ := Transaction.run_lift_bind_ok h
  obtain ⟨hx, -, hnone, -⟩ := Snapshot.plan_ok hpriced
  have h := Transaction.run_tables_bind_ok h
  obtain ⟨_, hsupply, h⟩ := Transaction.run_lift_bind_ok h
  obtain ⟨_, hcards, h⟩ := Transaction.run_lift_bind_ok h
  obtain ⟨v, s₁, htake, h⟩ := Transaction.run_bind_ok h
  obtain ⟨hfor, hcode, htakes⟩ := takeVoucher_ok htake
  obtain ⟨_, htaxed, h⟩ := Transaction.run_lift_bind_ok h
  obtain ⟨rfl, rfl⟩ := Transaction.run_pure_ok h
  refine ⟨hx, ?_, hsupply, hcards, hfor, hcode, htaxed, htakes _ hx rfl⟩
  rw [hpriced, ← hnone]

/-- What the transaction before the charge has come to, and what it has written. -/
def PreparationResult (a : Attempt) (t t' : Tables) : Preparation → Prop
  | .ready plan payment => a.Prepared t plan payment ∧ plan.Takes t t'
  | .alreadyOrdered order =>
    t.checkout? a.token = none ∧ t.orderOf? a.token = some order ∧ t' = t
  | .notCovered .. => t' = t

theorem prepareCheckout_ok {checkout : Checkout} {p : Preparation}
    (hcheckout : s.tables.checkout? a.token = some checkout)
    (h : (a.prepareCheckout checkout).run s = (.ok p, s')) :
    ∃ t', a.PreparationResult s.tables t' p ∧ s' = { s with tables := t' } := by
  have h := Transaction.run_tables_bind_ok h
  obtain ⟨x, hsnapshot, h⟩ := Transaction.run_lift_bind_ok h
  obtain ⟨_, hvalid, h⟩ := Transaction.run_lift_bind_ok h
  obtain ⟨total, htotal, h⟩ := Transaction.run_lift_bind_ok h
  obtain ⟨balance, hbalance, h⟩ := Transaction.run_lift_bind_ok h
  obtain ⟨covered, hcover, h⟩ := Transaction.run_lift_bind_ok h
  cases covered with
  | false =>
    obtain ⟨rfl, rfl⟩ := Transaction.run_pure_ok h
    exact ⟨_, rfl, rfl⟩
  | true =>
    obtain ⟨plan, s₁, hplan, h⟩ := Transaction.run_bind_ok h
    obtain ⟨rfl, rfl⟩ := Transaction.run_pure_ok h
    obtain ⟨rfl, -, -⟩ := snapshot_ok hsnapshot
    obtain ⟨rfl, hpriced, hsupply, hcards, hfor, hcode, htaxed, t', htakes, rfl⟩ :=
      makePlan_ok hplan
    refine ⟨t', ⟨?_, htakes⟩, rfl⟩
    exact {
      checkout := hcheckout
      snapshot := hsnapshot
      valid := hvalid
      priced := ⟨total, balance, htotal, hbalance, hcover, hpriced⟩
      payment := rfl
      supplied := hsupply
      giftCards := hcards
      voucher := hfor
      code := hcode
      taxed := htaxed }

/-- What the whole transaction before the charge has come to. -/
theorem preparation_ok {p : Preparation} (h : a.preparation.run s = (.ok p, s')) :
    ∃ t', a.PreparationResult s.tables t' p ∧ s' = { s with tables := t' } := by
  have h := Transaction.run_tables_bind_ok h
  cases hcheckout : s.tables.checkout? a.token with
  | some checkout =>
    rw [hcheckout] at h
    exact prepareCheckout_ok hcheckout h
  | none =>
    rw [hcheckout] at h
    obtain ⟨order, horder, h⟩ := Transaction.run_orFail_bind_ok h
    obtain ⟨rfl, rfl⟩ := Transaction.run_pure_ok h
    exact ⟨_, ⟨hcheckout, horder, rfl⟩, rfl⟩

end Attempt

end Storefront
