import Storefront.Proofs.Completion.Purchase
import Storefront.Proofs.Money.Sum

/-!
# What a new order has been charged

An order that is created is charged with what its payments have captured. What a checkout asks for
is compared with the totals of all its active payments, but only the last of these is charged.

* `Tables.paymentsFor`: the payments that have been handed over to an order.
* `Attempt.Creates.charged`: what an order is charged with, in terms of its payments.
* `Attempt.fully_paid`: when a gateway that captures whole payments makes orders fully paid.
* `Attempt.underpaid_bookshop`: three payments of which two are never charged.
-/

namespace Storefront

theorem Taxed.amount_gross_of_isZero {p : Taxed} (h : p.isZero = true) : p.gross.amount = 0 :=
  Decimal.ext (of_decide_eq_true ((Bool.and_eq_true _ _).mp h).2)

/-- The payments that have been handed over to an order. -/
def Tables.paymentsFor (t : Tables) (order : OrderId) : List Payment :=
  t.payments.filter (·.orderId = some order)

/-! ## The payments of a new order -/

namespace Attempt

variable {a : Attempt} {plan : OrderPlan} {settled : Option SettledPayment} {t : Tables}
  {c : Creation}

/-- An order is charged with what payments have captured. One that costs nothing is charged with
nothing. -/
theorem enterPayments_charge {o o' : Order} {giftCardIds : List GiftCardId}
    {payments : List Payment} {lines : List OrderLine}
    (h : enterPayments o giftCardIds payments lines = .ok o') :
    ∃ charged, Payment.totalCaptured o.currency payments = .ok charged ∧
      o'.totalCharged = (if o.total.isZero then o.total.gross else charged) ∧
      o'.chargeStatus = .classify o'.totalCharged o.total.gross := by
  obtain ⟨_, hcharge, h⟩ := bind_ok h
  obtain ⟨charged, hcharged, hcharge⟩ := bind_ok hcharge
  cases hcharge
  cases h
  refine ⟨charged, hcharged, ?_⟩
  cases hzero : o.total.isZero <;> simp [Order.withCharge, Order.markPaid, hzero]

namespace Creates

/-- The payments of a new order are those that its checkout had. -/
theorem paymentsFor_eq_map (h : a.Creates plan settled t c) (hids : (t.payments.map (·.id)).Nodup)
    (hsettled : ∀ s, settled = some s → s.Attached plan.snapshot.checkout.token t.payments)
    (hnew : ∀ p ∈ t.payments, p.orderId ≠ some plan.orderId) :
    (c.tables plan t).paymentsFor c.order.id =
      (t.paymentsOf plan.snapshot.checkout.token).map
        (·.handOver settled plan.snapshot.checkout.token c.order.id) := by
  show c.payments.filter _ = _
  rw [h.payments_eq_map hids hsettled, List.filter_map, Tables.paymentsOf]
  congr 1
  refine List.filter_congr fun p hp => ?_
  rw [Function.comp_apply, Payment.handOver]
  split
  · rename_i htoken
    simp [htoken]
  · rename_i htoken
    simp [htoken, h.id, hnew p hp]

/-- The payments of a new order have captured what those of its checkout have, with the settled one
among them. -/
theorem totalCaptured_paymentsFor (h : a.Creates plan settled t c)
    (hids : (t.payments.map (·.id)).Nodup)
    (hsettled : ∀ s, settled = some s → s.Attached plan.snapshot.checkout.token t.payments)
    (hnew : ∀ p ∈ t.payments, p.orderId ≠ some plan.orderId) (currency : Currency) :
    Payment.totalCaptured currency ((c.tables plan t).paymentsFor c.order.id) =
      Payment.totalCaptured currency
        ((t.paymentsOf plan.snapshot.checkout.token).map (·.settledAs settled)) := by
  rw [h.paymentsFor_eq_map hids hsettled hnew, Payment.totalCaptured, Payment.totalCaptured,
    List.map_map, List.map_map]
  congr 1
  refine List.map_congr_left fun p hp => ?_
  have htoken : p.checkoutToken = some plan.snapshot.checkout.token := by
    simpa using (List.mem_filter.1 hp).2
  simp only [Function.comp_apply, Payment.handOver, if_pos htoken]

/-- **What a new order is charged with** is what its payments have captured, unless it costs
nothing. -/
theorem charged (h : a.Creates plan settled t c) (hids : (t.payments.map (·.id)).Nodup)
    (hsettled : ∀ s, settled = some s → s.Attached plan.snapshot.checkout.token t.payments)
    (hnew : ∀ p ∈ t.payments, p.orderId ≠ some plan.orderId) :
    ∃ charged, Payment.totalCaptured c.order.currency
        ((c.tables plan t).paymentsFor c.order.id) = .ok charged ∧
      c.order.totalCharged = (if c.order.total.isZero then c.order.total.gross else charged) ∧
      c.order.chargeStatus = .classify c.order.totalCharged c.order.total.gross := by
  obtain ⟨charged, hcharged, hrecorded⟩ := enterPayments_charge h.entered
  have hopened : c.opened.total = c.order.total := by
    rw [h.total, h.opened]
    rfl
  rw [hopened] at hrecorded
  refine ⟨charged, ?_, hrecorded⟩
  rw [h.totalCaptured_paymentsFor hids hsettled hnew, Order.currency, ← hopened, ← Order.currency,
    ← hcharged, orderPayments, Tables.paymentsOf,
    withSettled_eq_map (hids.sublist (List.filter_sublist.map _)) fun s hs => (hsettled s hs).2]
  simp only [Payment.totalCaptured, List.map_map]
  rfl

end Creates

end Attempt

/-! ## Gateways that capture -/

/-- The gateway has captured the whole of a payment. -/
structure GatewayResponse.Captures (r : GatewayResponse) (p : Payment) : Prop where
  success : r.isSuccess = true
  kind : r.kind = .capture
  amount : r.amount = p.total

namespace Payment

variable {p p' : Payment} {r : GatewayResponse}

theorem captured_of_apply (h : p.apply r = .ok p') (hr : r.Captures p) :
    p.captured.add p.total = .ok p'.captured := by
  unfold apply at h
  rw [hr.success, hr.kind, hr.amount] at h
  obtain ⟨captured, hcaptured, h⟩ := bind_ok h
  cases h
  exact hcaptured

theorem isActive_of_lastActive? {payments : List Payment} (h : lastActive? payments = some p) :
    p.isActive = true := by
  rw [lastActive?, List.findRev?_eq_find?_reverse] at h
  exact List.find?_some h

end Payment

namespace Attempt

variable {a : Attempt} {answer : Payment → Except Error GatewayResponse} {t t₁ : Tables}
  {plan : OrderPlan} {payment active : Option Payment} {settled : Option SettledPayment}

/-- A payment is captured in full if it is the one to charge, or if it was before. -/
theorem Settles.total_le_captured {payments : List Payment} (h : Settles answer active settled)
    (hids : (payments.map (·.id)).Nodup) (hactive : ∀ p, active = some p → p ∈ payments)
    (hcaptures : ∀ p, ∃ r, answer p = .ok r ∧ r.Captures p) {p : Payment} (hp : p ∈ payments)
    (hcaptured : 0 ≤ p.captured.amount)
    (hother : active ≠ some p → p.total.amount ≤ p.captured.amount) :
    p.total.amount ≤ (p.settledAs settled).captured.amount := by
  have hcharged := h.charged_settledAs hids hactive hp
  rw [Payment.Charged] at hcharged
  split at hcharged
  · obtain ⟨response, hresponse, hsettled⟩ := hcharged
    obtain ⟨r, hr, hcapture⟩ := hcaptures p
    have haccepted : acceptResponse (answer p) = .ok r := by
      rw [hr]
      exact if_pos hcapture.success
    obtain rfl := Except.ok.inj (haccepted.symm.trans hresponse)
    refine Money.le_add (Payment.captured_of_apply hsettled hcapture) ?_
    rw [Decimal.le_def, Decimal.units_zero] at hcaptured
    omega
  · rename_i hne
    rw [hcharged]
    exact hother hne

/-- The total has one currency, which is that of the balance of the gift cards. -/
theorem Prepared.currency_gross (h : a.Prepared t plan payment) :
    plan.total.gross.currency = plan.total.currency := by
  obtain ⟨_, balance, -, -, -, hplan⟩ := h.priced
  obtain ⟨left, hleft, htotal⟩ := Snapshot.plan_total hplan
  obtain ⟨net, hnet, hleft⟩ := bind_ok hleft
  obtain ⟨gross, hgross, hleft⟩ := bind_ok hleft
  cases hleft
  obtain ⟨hnet_balance, hnet, -⟩ := Money.sub_ok hnet
  obtain ⟨hgross_balance, hgross, -⟩ := Money.sub_ok hgross
  rw [show plan.total = _ from htotal]
  show gross.floorAtZero.currency = net.floorAtZero.currency
  rw [Money.currency_floorAtZero, Money.currency_floorAtZero, hgross, hnet, hgross_balance,
    hnet_balance]
  rfl

/-- What is left to pay is reached by the totals of the active payments. -/
theorem Prepared.gross_le_paid (h : a.Prepared t plan payment) :
    ∃ currency paid, Money.sum currency
        (((t.paymentsOf a.token).filter (·.isActive)).map (·.total)) = .ok paid ∧
      plan.total.gross.amount ≤ paid.amount := by
  obtain ⟨price, balance, hprice, -, hcover, hplan⟩ := h.priced
  obtain ⟨left, hleft, htotal⟩ := Snapshot.plan_total hplan
  obtain rfl : price = plan.price :=
    Except.ok.inj (hprice.symm.trans (Snapshot.plan_prices hplan).1)
  obtain ⟨paid, hpaid, hcover⟩ := bind_ok hcover
  obtain ⟨toPay, htoPay, hcover⟩ := bind_ok hcover
  obtain ⟨_net, -, hleft⟩ := bind_ok hleft
  obtain ⟨gross, hgross, hleft⟩ := bind_ok hleft
  cases hleft
  obtain rfl : toPay = gross := Except.ok.inj (htoPay.symm.trans hgross)
  refine ⟨_, paid, hpaid, ?_⟩
  rw [show plan.total = _ from htotal]
  exact of_decide_eq_true (Except.ok.inj hcover)

/-- **What is left to pay is captured**, if the payments that are not charged have been captured
before. -/
theorem Sells.gross_le_captured (h : a.Sells answer t plan settled t₁)
    (hids : (t.payments.map (·.id)).Nodup)
    (hcaptures : ∀ p, ∃ r, answer p = .ok r ∧ r.Captures p)
    (hcaptured : ∀ p ∈ t.paymentsOf a.token, 0 ≤ p.captured.amount)
    (hothers : ∀ p ∈ t.paymentsOf a.token, p.isActive = true →
      Payment.lastActive? (t.paymentsOf a.token) ≠ some p → p.total.amount ≤ p.captured.amount)
    {currency : Currency} {captured : Money}
    (hsum : Payment.totalCaptured currency
      ((t.paymentsOf a.token).map (·.settledAs settled)) = .ok captured) :
    plan.total.gross.amount ≤ captured.amount := by
  obtain ⟨_, paid, hpaid, hgross⟩ := h.prepared.gross_le_paid
  have hids' : ((t.paymentsOf a.token).map (·.id)).Nodup :=
    hids.sublist (List.filter_sublist.map _)
  have hmem : ∀ p, Payment.lastActive? (t.paymentsOf a.token) = some p →
      p ∈ t.paymentsOf a.token := fun _ hp => Payment.mem_of_lastActive? hp
  rw [Payment.totalCaptured, List.map_map] at hsum
  refine Int.le_trans hgross (Money.sum_filter_le ?_ ?_ hpaid hsum)
  · intro p hp hp_active
    exact h.settles.total_le_captured hids' hmem hcaptures hp (hcaptured p hp)
      (hothers p hp hp_active)
  · intro p hp hp_inactive
    have hcharged := h.settles.charged_settledAs hids' hmem hp
    rw [Payment.Charged, if_neg] at hcharged
    · rw [Function.comp_apply, hcharged]
      exact hcaptured p hp
    · intro hlast
      rw [Payment.isActive_of_lastActive? hlast] at hp_inactive
      cases hp_inactive

/-- **A gateway that captures makes orders fully paid** with money that was captured, where all
active payments but the one that is charged have been captured before. -/
theorem fully_paid (a : Attempt) (answer : Payment → Except Error GatewayResponse) (t : Tables)
    (order : Order) (hids : (t.payments.map (·.id)).Nodup)
    (hnew : ∀ p ∈ t.payments, p.orderId ≠ some a.ids.order)
    (hcaptures : ∀ p, ∃ r, answer p = .ok r ∧ r.Captures p)
    (hcaptured : ∀ p ∈ t.paymentsOf a.token, 0 ≤ p.captured.amount)
    (hothers : ∀ p ∈ t.paymentsOf a.token, p.isActive = true →
      Payment.lastActive? (t.paymentsOf a.token) ≠ some p → p.total.amount ≤ p.captured.amount)
    (hnone : t.orderOf? a.token = none)
    (hdone : (a.complete (fun payment t => (answer payment, t)) t).stage =
      .finished (.ok (.completed order))) :
    order.isFullyPaid = true ∧ ∃ captured, Payment.totalCaptured order.currency
        ((a.complete (fun payment t => (answer payment, t)) t).tables.paymentsFor order.id) =
          .ok captured ∧
      order.total.gross.amount ≤ captured.amount := by
  obtain ⟨plan, settled, t₁, c, hsells, hcreates, rfl, htables⟩ := complete_sells hnone hdone
  have hplan := hsells.prepared
  obtain ⟨_, _, rfl⟩ := hsells.takes.eq_with
  have hattached : ∀ s, settled = some s →
      s.Attached plan.snapshot.checkout.token t.payments := by
    rw [hplan.token]
    exact hsells.settles.attached rfl
  have hnew : ∀ p ∈ t.payments, p.orderId ≠ some plan.orderId := hplan.orderId ▸ hnew
  obtain ⟨captured, hsum, hcharged, -⟩ := hcreates.charged hids hattached hnew
  have hgross : c.order.total.gross.amount ≤ captured.amount := by
    rw [hcreates.totalCaptured_paymentsFor hids hattached hnew, hplan.token] at hsum
    rw [hcreates.total]
    exact hsells.gross_le_captured hids hcaptures hcaptured hothers hsum
  refine ⟨decide_eq_true ?_, captured, htables ▸ hsum, hgross⟩
  rw [hcharged]
  split
  · exact Int.le_refl _
  · exact hgross

end Attempt

/-- The bank captures the whole of each payment. -/
def Bookshop.capturing (p : Payment) : Except Error GatewayResponse :=
  .ok { response false with amount := p.total }

theorem Bookshop.capturing_captures (p : Payment) : ∃ r, capturing p = .ok r ∧ r.Captures p :=
  ⟨_, rfl, rfl, rfl, rfl⟩

/-- The copy costs three dollars, for which the checkout has three payments of one dollar. -/
def Bookshop.splitTables : Tables :=
  { tables with
    variantListings := tables.variantListings.map fun l => { l with price := some ⟨.ofInt 3, .usd⟩ }
    payments := [⟨⟨9⟩⟩, ⟨⟨10⟩⟩, ⟨⟨11⟩⟩].flatMap fun id =>
      tables.payments.map fun p => { p with id } }

namespace Attempt

/-- The only copy is paid for with one payment. -/
theorem fully_paid_bookshop :
    (Bookshop.tables.payments.map (·.id)).Nodup ∧
      (∀ p ∈ Bookshop.tables.payments, p.orderId ≠ some (Bookshop.attempt 1).ids.order) ∧
      (∀ p, ∃ r, Bookshop.capturing p = .ok r ∧ r.Captures p) ∧
      (∀ p ∈ Bookshop.tables.paymentsOf (Bookshop.attempt 1).token, 0 ≤ p.captured.amount) ∧
      (∀ p ∈ Bookshop.tables.paymentsOf (Bookshop.attempt 1).token, p.isActive = true →
        Payment.lastActive? (Bookshop.tables.paymentsOf (Bookshop.attempt 1).token) ≠ some p →
        p.total.amount ≤ p.captured.amount) ∧
      Bookshop.tables.orderOf? (Bookshop.attempt 1).token = none ∧
      ∃ order, ((Bookshop.attempt 1).complete (fun payment t => (Bookshop.capturing payment, t))
          Bookshop.tables).stage = .finished (.ok (.completed order)) ∧
        order.isFullyPaid = true := by
  have hids : (Bookshop.tables.payments.map (·.id)).Nodup := by decide
  have hnew : ∀ p ∈ Bookshop.tables.payments, p.orderId ≠ some (Bookshop.attempt 1).ids.order := by
    decide
  have hcaptured : ∀ p ∈ Bookshop.tables.paymentsOf (Bookshop.attempt 1).token,
      0 ≤ p.captured.amount := by decide
  have hothers : ∀ p ∈ Bookshop.tables.paymentsOf (Bookshop.attempt 1).token, p.isActive = true →
      Payment.lastActive? (Bookshop.tables.paymentsOf (Bookshop.attempt 1).token) ≠ some p →
      p.total.amount ≤ p.captured.amount := by decide
  have hnone : Bookshop.tables.orderOf? (Bookshop.attempt 1).token = none := rfl
  have hsold : ((Bookshop.attempt 1).complete (fun payment t => (Bookshop.capturing payment, t))
      Bookshop.tables).stage.order?.isSome := by decide +kernel
  obtain ⟨order, horder⟩ := Option.isSome_iff_exists.1 hsold
  have hdone := Stage.eq_of_order? horder
  have hpaid := fully_paid (Bookshop.attempt 1) Bookshop.capturing Bookshop.tables order hids hnew
    Bookshop.capturing_captures hcaptured hothers hnone hdone
  exact ⟨hids, hnew, Bookshop.capturing_captures, hcaptured, hothers, hnone, order, hdone, hpaid.1⟩

/-- **An order may be underpaid**: whatever the gateway is asked for is captured, and the order that
is created has been charged with less than it costs. -/
def Underpays (a : Attempt) (answer : Payment → Except Error GatewayResponse) (t : Tables) : Prop :=
  (t.payments.map (·.id)).Nodup ∧ (∀ p ∈ t.payments, p.orderId ≠ some a.ids.order) ∧
    (∀ p, ∃ r, answer p = .ok r ∧ r.Captures p) ∧
    (∀ p ∈ t.paymentsOf a.token, 0 ≤ p.captured.amount) ∧ t.orderOf? a.token = none ∧
    ∃ order captured, (a.complete (fun payment t => (answer payment, t)) t).stage =
        .finished (.ok (.completed order)) ∧
      order.isFullyPaid = false ∧ Payment.totalCaptured order.currency
        ((a.complete (fun payment t => (answer payment, t)) t).tables.paymentsFor order.id) =
          .ok captured ∧
      captured.amount < order.total.gross.amount

/-- Three payments of one dollar reach the three dollars that the copy costs, but one is
captured. -/
theorem underpaid_bookshop :
    Underpays (Bookshop.attempt 1) Bookshop.capturing Bookshop.splitTables := by
  refine ⟨by decide, by decide, Bookshop.capturing_captures, by decide, rfl, ?_⟩
  have hsold : ((Bookshop.attempt 1).complete (fun payment t => (Bookshop.capturing payment, t))
      Bookshop.splitTables).stage.order?.any (fun order => order.isFullyPaid = false ∧
        Payment.totalCaptured order.currency
          (((Bookshop.attempt 1).complete (fun payment t => (Bookshop.capturing payment, t))
            Bookshop.splitTables).tables.paymentsFor order.id) = .ok ⟨1, .usd⟩ ∧
        1 < order.total.gross.amount) = true := by
    decide +kernel
  obtain ⟨order, horder, hshort⟩ := (Option.any_eq_true _ _).1 hsold
  obtain ⟨hpaid, hcaptured, hless⟩ := of_decide_eq_true hshort
  exact ⟨order, ⟨1, .usd⟩, Stage.eq_of_order? horder, hpaid, hcaptured, hless⟩

end Attempt

end Storefront
