import Storefront.Proofs.Completion.Lines
import Storefront.Proofs.Completion.NoTrace
import Storefront.Proofs.Completion.Payments

/-!
# An order takes the place of its checkout

An attempt that runs alone and creates an order turns the lines of the cart into lines of the order,
hands the payments over, takes what was sold from the stocks, and removes the checkout. Whatever
does not belong to the checkout stays as it was.

* `Progress.Selling`: what holds at every stage of an attempt that runs alone.
* `Purchase.Closes`: the tables before and after, table by table.
* `Attempt.complete_purchase`: what this comes to at the end.
-/

namespace Storefront

/-! ## The way to an order -/

namespace Attempt

variable {a : Attempt} {answer : Payment → Except Error GatewayResponse} {t t₁ : Tables}
  {plan : OrderPlan} {settled : Option SettledPayment}

/-- A plan that was made in the tables `t`, and its order is to be created in the tables `t₁`. -/
structure Sells (a : Attempt) (answer : Payment → Except Error GatewayResponse) (t : Tables)
    (plan : OrderPlan) (settled : Option SettledPayment) (t₁ : Tables) : Prop where
  prepared : a.Prepared t plan (Payment.lastActive? (t.paymentsOf a.token))
  settles : Settles answer (Payment.lastActive? (t.paymentsOf a.token)) settled
  takes : plan.Takes t t₁

end Attempt

/-- Where an attempt may stand that has started from the tables `t` and runs alone, as far as an
order may come of it. -/
def Progress.Selling (a : Attempt) (answer : Payment → Except Error GatewayResponse) (t : Tables)
    (p : Progress) : Prop :=
  match p.stage with
  | .preparing => p.tables = t
  | .charging plan payment => a.Prepared t plan (some payment) ∧ plan.Takes t p.tables
  | .ordering plan settled => a.Sells answer t plan settled p.tables
  | .releasing _ _ outcome => ∀ order, outcome ≠ .ok (.completed order)
  | .finished outcome =>
    ∀ order, outcome = .ok (.completed order) → t.orderOf? a.token = none →
      ∃ plan settled t₁ c, a.Sells answer t plan settled t₁ ∧ a.Creates plan settled t₁ c ∧
        c.order = order ∧ p.tables = c.tables plan t₁

namespace Progress.Selling

variable {a : Attempt} {answer : Payment → Except Error GatewayResponse} {t : Tables}

/-- **One stage keeps it.** -/
theorem advances {p next : Progress} (h : p.Selling a answer t)
    (hnext : a.Advances answer p.tables p.stage next) : (p.andThen next).Selling a answer t := by
  obtain ⟨stage, tables, events, calls⟩ := p
  dsimp only at hnext
  cases hnext with
  | rejected =>
    intro _ hcompleted
    cases hcompleted
  | answered _ horder =>
    obtain rfl : tables = t := h
    intro _ _ hnone
    rw [hnone] at horder
    cases horder
  | uncharged hplan htakes =>
    obtain rfl : tables = t := h
    exact ⟨hplan.payment ▸ hplan, hplan.payment ▸ .uncharged, htakes⟩
  | charging hplan htakes =>
    obtain rfl : tables = t := h
    exact ⟨hplan, htakes⟩
  | refused | unrecorded | failed =>
    intro _ hcompleted
    cases hcompleted
  | halted =>
    intro _ hcompleted
    cases hcompleted
  | charged hresponse hsettled =>
    obtain ⟨hplan, htakes⟩ := h
    exact ⟨hplan.payment ▸ hplan, hplan.payment ▸ .charged hresponse hsettled, htakes⟩
  | found horder =>
    -- the orders are those at the start, where there was none of the checkout
    intro _ _ hnone
    have hsells : a.Sells answer t _ _ tables := h
    rw [Tables.orderOf?, hsells.takes.sameGoods.orders, hsells.prepared.token] at horder
    exact absurd (hnone.symm.trans horder) (by simp)
  | created hcreates =>
    intro _ hcompleted _
    cases hcompleted
    exact ⟨_, _, _, _, h, hcreates, rfl, rfl⟩
  | released =>
    intro order hcompleted
    exact absurd hcompleted (h order)
  | stranded =>
    intro _ hcompleted
    cases hcompleted
  | ended => exact h

theorem run (n : Nat) {p : Progress} (h : p.Selling a answer t) :
    (a.run (fun payment t => (answer payment, t)) n p).Selling a answer t := by
  induction n generalizing p with
  | zero => exact h
  | succ n ih => exact ih (h.advances (a.advances answer p.stage p.tables))

end Progress.Selling

/-- The order that an attempt has ended with. -/
def Stage.order? : Stage → Option Order
  | .finished (.ok (.completed order)) => some order
  | _ => none

theorem Stage.eq_of_order? {stage : Stage} {order : Order} (h : stage.order? = some order) :
    stage = .finished (.ok (.completed order)) := by
  unfold order? at h
  split at h
  · rw [Option.some.inj h]
  · cases h

/-- The store after the copy was sold. -/
def Bookshop.sold : Progress :=
  (attempt 1).complete (fun _ t => (.ok (response false), t)) tables

/-! ## What is sold -/

/-- The ids of the order and of its lines are new, and those of the lines differ. -/
structure Attempt.HasNewIds (a : Attempt) (t : Tables) : Prop where
  order : ∀ o ∈ t.orders, o.id ≠ a.ids.order
  payments : ∀ p ∈ t.payments, p.orderId ≠ some a.ids.order
  lines : ∀ checkout, t.checkout? a.token = some checkout →
    ((List.range checkout.lines.length).map a.ids.line).Nodup

/-- A checkout, the order that has taken its place, and the rows that were added with it. -/
structure Purchase where
  checkout : Checkout
  order : Order
  lines : List OrderLine
  allocations : List Allocation
  preorders : List PreorderAllocation

namespace Purchase

/-- An order line for a line of the cart, with what it gets. -/
structure Fulfils (p : Purchase) (t : Tables) (now : Moment) (line : CartLine) (o : OrderLine) :
    Prop where
  orderId : o.orderId = p.order.id
  variantId : o.variantId = some line.variantId
  quantity : o.quantity = line.quantity
  /-- It gets what the line asks for, of the variant and by its listing in the channel. -/
  met : ∃ d : Demand, t.variant? line.variantId = some d.variant ∧
    (t.listingsOf line.variantId).find? (·.channelId = p.checkout.channelId) = some d.listing ∧
    d.quantity = line.quantity ∧ d.Met o.id now p.allocations p.preorders

/-- The tables `t'` are the tables `t` after a purchase: the order with all that belongs to it is
there, the checkout is gone, and the rest is as it was. -/
structure Closes (p : Purchase) (a : Attempt) (answer : Payment → Except Error GatewayResponse)
    (t t' : Tables) : Prop where
  checkout : t.checkout? a.token = some p.checkout
  orders : t'.orders = t.orders ++ [p.order]
  token : p.order.checkoutToken = some a.token
  orderLines : t'.orderLines = t.orderLines ++ p.lines
  /-- The lines of the order are those of the cart, one to one and in order. -/
  lines : List.Forall₂ (p.Fulfils t a.request.now) p.checkout.lines p.lines
  allocations : t'.allocations = t.allocations ++ p.allocations
  /-- Nothing is allocated but to the lines. -/
  allocated : ∀ x ∈ p.allocations, ∃ l ∈ p.lines, x.orderLineId = l.id
  preorderAllocations : t'.preorderAllocations = t.preorderAllocations ++ p.preorders
  preordered : ∀ x ∈ p.preorders, ∃ l ∈ p.lines, x.orderLineId = l.id
  stocks : t'.stocks = t.stocks.map (Stock.allocate p.allocations)
  otherStocks : ∀ r ∈ t.stocks, r.variantId ∉ p.checkout.lines.map (·.variantId) → r ∈ t'.stocks
  payments : List.Forall₂ (Payment.HandedOver answer
    (Payment.lastActive? (t.paymentsOf a.token)) a.token p.order.id) t.payments t'.payments
  checkouts : t'.checkouts = t.checkouts.filter (·.token ≠ a.token)
  giftCards : KeptBut (·.id) (· ∈ p.checkout.giftCardIds) t.giftCards t'.giftCards
  vouchers : KeptBut (·.id) (p.order.voucherId = some ·) t.vouchers t'.vouchers
  /-- One use of the voucher is taken. -/
  used : ∀ id, t'.voucher? id = (t.voucher? id).map fun v =>
    v.withUsed (v.used + if p.order.voucherId = some id then 1 else 0)
  voucherCustomers : ∃ new, t'.voucherCustomers = t.voucherCustomers ++ new ∧
    ∀ c ∈ new, p.order.voucherId = some c.voucherId
  users : KeptBut (·.id) (p.order.userId = some ·) t.users t'.users
  /-- No other table is written to. -/
  others : t' = { t with
    users := t'.users, vouchers := t'.vouchers, voucherCustomers := t'.voucherCustomers
    stocks := t'.stocks, allocations := t'.allocations
    preorderAllocations := t'.preorderAllocations, giftCards := t'.giftCards
    checkouts := t'.checkouts, payments := t'.payments, orders := t'.orders
    orderLines := t'.orderLines }

end Purchase

/-- What a creation has sold. -/
def Creation.purchase (c : Creation) (plan : OrderPlan) : Purchase where
  checkout := plan.snapshot.checkout
  order := c.order
  lines := plan.lines.map (·.line)
  allocations := c.serving.allocations
  preorders := c.preorders

/-! ## Table by table -/

theorem OrderPlan.Takes.eq_with {plan : OrderPlan} {t t' : Tables} (h : plan.Takes t t') :
    ∃ vouchers voucherCustomers, t' = { t with vouchers, voucherCustomers } := by
  cases h with
  | nothing => exact ⟨_, _, rfl⟩
  | use => exact ⟨_, _, rfl⟩

/-- Of the vouchers only that of the plan can change. -/
theorem OrderPlan.Takes.keptBut {plan : OrderPlan} {t t' : Tables} (h : plan.Takes t t') :
    KeptBut (·.id) (plan.voucher.map (·.id) = some ·) t.vouchers t'.vouchers := by
  cases h with
  | nothing => exact .refl _
  | @use v row hvoucher hrow =>
    obtain ⟨hmem, hid⟩ := find?_key (k := Voucher.id) hrow
    have hkey : row.id ∈ t.vouchers.map (·.id) := List.mem_map_of_mem hmem
    exact .upsert hkey (by simp [hvoucher, hid])

/-- Only uses of the voucher of the plan are remembered. -/
theorem OrderPlan.Takes.voucherCustomers {plan : OrderPlan} {t t' : Tables}
    (h : plan.Takes t t') :
    ∃ new, t'.voucherCustomers = t.voucherCustomers ++ new ∧
      ∀ c ∈ new, plan.voucher.map (·.id) = some c.voucherId := by
  cases h with
  | nothing => exact ⟨[], (List.append_nil _).symm, fun _ hc => nomatch hc⟩
  | @use v row hvoucher hrow =>
    have hid := Tables.voucher?_id hrow
    unfold Tables.useTaken
    cases plan.remembered? with
    | none => exact ⟨[], (List.append_nil _).symm, fun _ hc => nomatch hc⟩
    | some email => exact ⟨[⟨row.id, email⟩], rfl, by simp [hvoucher, hid]⟩

namespace Attempt

variable {a : Attempt} {answer : Payment → Except Error GatewayResponse} {t t₁ : Tables}
  {plan : OrderPlan} {settled : Option SettledPayment} {c : Creation}

/-- Of the users only the customer can change. -/
theorem usersAfter_keptBut {users : List User}
    (h : ∀ user, plan.snapshot.user = some user → user ∈ users) :
    KeptBut (·.id) (plan.snapshot.user.map (·.id) = some ·) users
      (usersAfter plan settled users) := by
  unfold usersAfter
  split
  · split
    · rename_i user _ huser
      have hkey : user.id ∈ users.map (·.id) := List.mem_map_of_mem (h user huser)
      exact .upsert hkey (by simp [huser, User.withGatewayCustomerId])
    · exact .refl _
  · exact .refl _

theorem Creates.userId (h : a.Creates plan settled t c) :
    c.order.userId = plan.snapshot.user.map (·.id) :=
  h.of_plan (·.userId) fun _ _ _ _ _ => rfl

/-- A stock of a variant that is not in the cart has nothing allocated of it. -/
theorem Creates.stock_unchanged (h : a.Creates plan settled t c)
    (hids : (t.stocks.map (·.id)).Nodup) {r : Stock} (hr : r ∈ t.stocks)
    (hother : ∀ l ∈ plan.lines, l.source.variant.id ≠ r.variantId) :
    r.allocate c.serving.allocations = r := by
  have hnone : c.serving.allocations.filter (·.stockId = r.id) = [] := by
    refine List.filter_eq_nil_iff.2 fun x hx => ?_
    obtain ⟨l, hl, -, r', hr', hid, hvariant⟩ := h.allocated hx
    rw [decide_eq_true_eq]
    intro heq
    obtain rfl := List.inj_on_of_nodup_map hids hr' hr (hid.trans heq)
    exact hother l hl hvariant.symm
  simp [Stock.allocate, Allocation.ofStock, hnone]

/-- **An order that is created takes the place of the checkout.** -/
theorem Sells.closes (h : a.Sells answer t plan settled t₁) (hc : a.Creates plan settled t₁ c)
    (hstocks : (t.stocks.map (·.id)).Nodup) (hpayments : (t.payments.map (·.id)).Nodup)
    (hids : a.HasNewIds t) : (c.purchase plan).Closes a answer t (c.tables plan t₁) := by
  have hplan := h.prepared
  have htakes := h.takes
  obtain ⟨vouchers, voucherCustomers, rfl⟩ := htakes.eq_with
  have hlines : (plan.lines.map (·.line.id)).Nodup := hplan.lineIds ▸ hids.lines _ hplan.checkout
  have horder : c.order.id = a.ids.order := hc.id.trans hplan.orderId
  have hput : Shelf.putBack t.stocks c.serving.shelves =
      t.stocks.map (Stock.allocate c.serving.allocations) := by
    rw [hc.serving]
    exact Tables.putBack_stockServing (t := { t with vouchers, voucherCustomers }) hstocks
  exact {
    checkout := hplan.checkout
    orders := hc.orders (hplan.orderId ▸ hids.order)
    token := hplan.token ▸ hc.checkoutToken
    orderLines := rfl
    lines := by
      refine List.forall₂_map_right_iff.2 (.imp ?_ (forall₂_and_right hplan.planned fun _ hl => hl))
      rintro line l ⟨⟨hread, horderId, hvariantId, hquantity⟩, hl⟩
      obtain ⟨hcart, hvariant, hid, hlisting⟩ := hread.rows
      have hsource : l.source.quantity = line.quantity := congrArg CartLine.quantity hcart
      exact ⟨horderId.trans horder.symm, hid ▸ hvariantId, hquantity.trans hsource,
        l.demand, hvariant, hlisting, hsource, hc.met hlines hl⟩
    allocations := rfl
    allocated := fun x hx => by
      obtain ⟨l, hl, hline, -⟩ := hc.allocated hx
      exact ⟨l.line, List.mem_map_of_mem hl, hline⟩
    preorderAllocations := rfl
    preordered := fun x hx => by
      obtain ⟨l, hl, hline⟩ := hc.preordered hx
      exact ⟨l.line, List.mem_map_of_mem hl, hline⟩
    stocks := hput
    otherStocks := fun r hr hother => by
      have hkept : r.allocate c.serving.allocations = r :=
        hc.stock_unchanged hstocks hr fun l hl heq =>
          hother (hplan.variants ▸ heq ▸ List.mem_map_of_mem hl)
      show r ∈ Shelf.putBack t.stocks c.serving.shelves
      rw [hput]
      exact List.mem_map.2 ⟨r, hr, hkept⟩
    payments := by
      show List.Forall₂ _ t.payments c.payments
      rw [hc.payments, orderPayments, hplan.token, ← hc.id]
      exact h.settles.handedOver rfl hpayments (horder ▸ hids.payments)
    checkouts := by rw [← hplan.token]; rfl
    giftCards := hc.giftCards.keptBut fun card hcard => by
      obtain ⟨hmem, hlisted⟩ := Tables.mem_giftCardsOf hcard
      exact ⟨List.mem_map_of_mem hmem, hlisted⟩
    vouchers := by
      show KeptBut _ (c.order.voucherId = some ·) _ _
      rw [hc.voucherId]
      exact htakes.keptBut
    used := fun id => by
      show _ = (t.voucher? id).map fun v =>
        v.withUsed (v.used + if c.order.voucherId = some id then 1 else 0)
      rw [hc.voucherId]
      exact htakes.voucher? id
    voucherCustomers := by
      show ∃ new : List VoucherCustomer, _ ∧ ∀ x ∈ new, c.order.voucherId = some x.voucherId
      rw [hc.voucherId]
      exact htakes.voucherCustomers
    users := by
      show KeptBut _ (c.order.userId = some ·) t.users c.users
      rw [hc.userId, hc.users]
      exact usersAfter_keptBut fun user huser => List.mem_of_find?_eq_some (hplan.user? huser)
    others := rfl }

/-- An attempt that runs alone and completes a checkout without an order has created the order. -/
theorem complete_sells {order : Order} (hnone : t.orderOf? a.token = none)
    (hdone : (a.complete (fun payment t => (answer payment, t)) t).stage =
      .finished (.ok (.completed order))) :
    ∃ plan settled t₁ c, a.Sells answer t plan settled t₁ ∧ a.Creates plan settled t₁ c ∧
      c.order = order ∧
      (a.complete (fun payment t => (answer payment, t)) t).tables = c.tables plan t₁ := by
  have hstart : Progress.Selling a answer t { stage := .preparing, tables := t } := rfl
  have hend := hstart.run Stage.preparing.remaining
  rw [← complete, Progress.Selling, hdone] at hend
  exact hend order rfl hnone

/-- **A checkout that is completed becomes its order** and nothing else changes, whatever the
gateway answers, as long as an attempt runs alone and there was no order before. -/
theorem complete_purchase (a : Attempt) (answer : Payment → Except Error GatewayResponse)
    (t : Tables) (order : Order) (hstocks : (t.stocks.map (·.id)).Nodup)
    (hpayments : (t.payments.map (·.id)).Nodup) (hids : a.HasNewIds t)
    (hnone : t.orderOf? a.token = none)
    (hdone : (a.complete (fun payment t => (answer payment, t)) t).stage =
      .finished (.ok (.completed order))) :
    ∃ p : Purchase, p.order = order ∧
      p.Closes a answer t (a.complete (fun payment t => (answer payment, t)) t).tables := by
  have hstart : Progress.Selling a answer t { stage := .preparing, tables := t } := rfl
  have hend := hstart.run Stage.preparing.remaining
  rw [← complete, Progress.Selling, hdone] at hend
  obtain ⟨plan, settled, t₁, c, hsells, hcreates, rfl, htables⟩ := hend order rfl hnone
  exact ⟨c.purchase plan, rfl, htables ▸ hsells.closes hcreates hstocks hpayments hids⟩

/-- The only copy is sold to a buyer whose payment is captured. -/
theorem complete_purchase_bookshop :
    (Bookshop.tables.stocks.map (·.id)).Nodup ∧ (Bookshop.tables.payments.map (·.id)).Nodup ∧
      (Bookshop.attempt 1).HasNewIds Bookshop.tables ∧
      Bookshop.tables.orderOf? (Bookshop.attempt 1).token = none ∧
      ∃ order, Bookshop.sold.stage = .finished (.ok (.completed order)) ∧
        ∃ p : Purchase, p.order = order ∧ p.Closes (Bookshop.attempt 1)
          (fun _ => .ok (Bookshop.response false)) Bookshop.tables Bookshop.sold.tables := by
  have hstocks : (Bookshop.tables.stocks.map (·.id)).Nodup := by decide
  have hpayments : (Bookshop.tables.payments.map (·.id)).Nodup := by decide
  have hids : (Bookshop.attempt 1).HasNewIds Bookshop.tables :=
    ⟨fun _ ho => (nomatch ho), by decide, fun _ hcheckout => by
      obtain rfl := Option.some.inj hcheckout
      decide⟩
  have hnone : Bookshop.tables.orderOf? (Bookshop.attempt 1).token = none := rfl
  have hsold : Bookshop.sold.stage.order?.isSome := by decide +kernel
  obtain ⟨order, horder⟩ := Option.isSome_iff_exists.1 hsold
  have hdone := Stage.eq_of_order? horder
  exact ⟨hstocks, hpayments, hids, hnone, order, hdone,
    complete_purchase (Bookshop.attempt 1) (fun _ => .ok (Bookshop.response false))
      Bookshop.tables order hstocks hpayments hids hnone hdone⟩

end Attempt

end Storefront
