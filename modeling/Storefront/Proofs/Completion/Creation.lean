import Storefront.Checkout.Completion
import Storefront.Proofs.GiftCard.Draining
import Storefront.Proofs.Stock.Serving

/-!
# What creating an order does

An order is created in one transaction, which writes to nine tables. Everything that it has written
is collected in a `Creation`.

* `Attempt.Creates`: what is true of a creation in the tables it starts from.
* `Attempt.createOrder_ok`: the transaction leaves exactly the tables of a creation behind.
* `Creation.created_events`: of the events of a creation one announces an order.
-/

namespace Storefront

/-! ## The steps -/

theorem Transaction.forM_savePayment_ok {payments : List Payment} {u : Unit} {s s' : Session}
    (h : (payments.forM savePayment).run s = (.ok u, s')) :
    s' = { s with tables := { s.tables with
      payments := payments.foldl (fun rows p => upsert (·.id) p rows) s.tables.payments } } := by
  induction payments generalizing s with
  | nil =>
    obtain ⟨-, rfl⟩ := run_pure_ok h
    rfl
  | cons p rest ih =>
    obtain ⟨_, _, hsave, hrest⟩ := run_bind_ok h
    obtain rfl := run_write_ok hsave
    exact ih hrest

namespace Attempt

variable {a : Attempt} {plan : OrderPlan} {settled : Option SettledPayment} {s s' : Session}

theorem enterPayments_ok {o o' : Order} {giftCardIds : List GiftCardId} {payments : List Payment}
    {lines : List OrderLine} (h : enterPayments o giftCardIds payments lines = .ok o') :
    ∃ totalCharged chargeStatus searchDocument, o' = { o with
      giftCardIds, totalCharged, chargeStatus, searchDocument } := by
  obtain ⟨_, hcharge, h⟩ := bind_ok h
  obtain ⟨_charged, -, hcharge⟩ := bind_ok hcharge
  cases hcharge
  cases h
  split
  · exact ⟨_, _, _, rfl⟩
  · exact ⟨_, _, _, rfl⟩

/-- The users, among them the customer with the name that a gateway knows them by. -/
def usersAfter (plan : OrderPlan) (settled : Option SettledPayment) (users : List User) :
    List User :=
  match settled with
  | some s =>
    match s.customerId, plan.snapshot.user with
    | some customerId, some user =>
      upsert (·.id) (user.withGatewayCustomerId s.payment.gateway customerId) users
    | _, _ => users
  | none => users

theorem saveCustomerId_ok {u : Unit}
    (h : (saveCustomerId plan settled).run s = (.ok u, s')) :
    s' = { s with tables := { s.tables with
      users := usersAfter plan settled s.tables.users } } := by
  unfold saveCustomerId at h
  unfold usersAfter
  cases settled with
  | none =>
    obtain ⟨-, rfl⟩ := Transaction.run_pure_ok h
    rfl
  | some settled =>
    dsimp only at h ⊢
    cases hcustomer : settled.customerId <;> cases huser : plan.snapshot.user <;>
      simp only [hcustomer, huser] at h ⊢
    case some.some => exact Transaction.run_write_ok h
    all_goals exact (Transaction.run_pure_ok h).2

end Attempt

/-! ## Creations -/

/-- What the creation of an order has written. -/
structure Creation where
  /-- The order when it was inserted, before anything had been paid. -/
  opened : Order
  order : Order
  serving : Serving
  preorders : List PreorderAllocation
  /-- All gift cards afterwards, and likewise all payments and all users. -/
  giftCards : List GiftCard
  payments : List Payment
  users : List User

/-- The tables afterwards. -/
def Creation.tables (c : Creation) (plan : OrderPlan) (t : Tables) : Tables :=
  { t with
    users := c.users
    stocks := Shelf.putBack t.stocks c.serving.shelves
    allocations := t.allocations ++ c.serving.allocations
    preorderAllocations := t.preorderAllocations ++ c.preorders
    giftCards := c.giftCards
    checkouts := t.checkouts.filter (·.token ≠ plan.snapshot.checkout.token)
    payments := c.payments
    orders := upsert (·.id) c.order (t.orders ++ [c.opened])
    orderLines := t.orderLines ++ plan.lines.map (·.line) }

/-- What is announced. -/
def Creation.events (c : Creation) (plan : OrderPlan) (settled : Option SettledPayment) :
    List Event :=
  (Shelf.emptied c.serving.shelves).map .outOfStock ++
    Attempt.announcements ⟨c.order, plan.snapshot.channel, settled.map (·.payment),
      plan.lines.map (·.line)⟩

/-- The order that an event announces as created. -/
def Event.created? : Event → Option Order
  | .orderCreated notice => some notice.order
  | _ => none

/-- A creation announces its order, once. -/
theorem Creation.created_events (c : Creation) (plan : OrderPlan)
    (settled : Option SettledPayment) :
    (c.events plan settled).filterMap Event.created? = [c.order] := by
  have hstock : ((Shelf.emptied c.serving.shelves).map Event.outOfStock).filterMap
      Event.created? = [] := by
    simp [Event.created?]
  rw [events, List.filterMap_append, hstock, Attempt.announcements]
  dsimp only
  split <;> split <;> rfl

namespace Attempt

variable {a : Attempt} {plan : OrderPlan} {settled : Option SettledPayment} {t : Tables}
  {c : Creation} {s s' : Session}

/-- `c` is what the order of a plan creates in the tables `t`. -/
structure Creates (a : Attempt) (plan : OrderPlan) (settled : Option SettledPayment) (t : Tables)
    (c : Creation) : Prop where
  first : t.orderOf? plan.snapshot.checkout.token = none
  opened : c.opened = plan.order a.settings (a.redirectUrl plan.snapshot.checkout)
    a.request.metadata a.request.now
  /-- What has been paid is all that is entered later. -/
  order : ∃ giftCardIds totalCharged chargeStatus searchDocument, c.order = { c.opened with
    giftCardIds, totalCharged, chargeStatus, searchDocument }
  /-- The order after its payments were entered. -/
  entered : enterPayments c.opened c.order.giftCardIds (orderPayments plan settled t)
    (plan.lines.map (·.line)) = .ok c.order
  serving : c.serving = t.stockServing (plan.lines.map (·.demand)) plan.snapshot.country
    plan.snapshot.channel plan.snapshot.delivery.warehouseFilter a.request.now
  served : c.serving.shortages = []
  preorders : c.preorders = Demand.preorders ((plan.lines.map (·.demand)).filter
    (·.variant.isPreorderActive a.request.now))
  preorderable : t.preorderShortages ((plan.lines.map (·.demand)).filter
    (·.variant.isPreorderActive a.request.now)) = []
  giftCards : GiftCard.Drains c.opened a.request.now plan.price.gross
    (t.giftCardsOf plan.snapshot.checkout.giftCardIds) t.giftCards c.giftCards c.order.giftCardIds
  users : c.users = usersAfter plan settled t.users
  payments : c.payments = ((orderPayments plan settled t).foldl
    (fun rows p => upsert (·.id) p rows) t.payments).map (·.detach plan.snapshot.checkout.token)

namespace Creates

/-- What paying for an order does not change is as in its plan. -/
theorem of_plan (h : a.Creates plan settled t c) {α : Type} (field : Order → α)
    (unpaid : ∀ o giftCardIds totalCharged chargeStatus searchDocument,
      field { o with giftCardIds, totalCharged, chargeStatus, searchDocument } = field o) :
    field c.order = field (plan.order a.settings (a.redirectUrl plan.snapshot.checkout)
      a.request.metadata a.request.now) := by
  obtain ⟨_, _, _, _, horder⟩ := h.order
  rw [horder, unpaid, h.opened]

theorem id (h : a.Creates plan settled t c) : c.order.id = plan.orderId :=
  h.of_plan (·.id) fun _ _ _ _ _ => rfl

theorem id_opened (h : a.Creates plan settled t c) : c.opened.id = plan.orderId := by
  rw [h.opened]
  rfl

theorem checkoutToken (h : a.Creates plan settled t c) :
    c.order.checkoutToken = some plan.snapshot.checkout.token :=
  h.of_plan (·.checkoutToken) fun _ _ _ _ _ => rfl

/-- Where its id is new, the order is the last of the orders. -/
theorem orders (h : a.Creates plan settled t c) (hnew : ∀ o ∈ t.orders, o.id ≠ plan.orderId) :
    (c.tables plan t).orders = t.orders ++ [c.order] :=
  upsert_of_split (fun o ho => h.id ▸ hnew o ho) (h.id_opened.trans h.id.symm)

/-- The total of an order is that of its plan. -/
theorem total (h : a.Creates plan settled t c) : c.order.total = plan.total :=
  h.of_plan (·.total) fun _ _ _ _ _ => rfl

theorem voucherId (h : a.Creates plan settled t c) :
    c.order.voucherId = plan.voucher.map (·.id) :=
  h.of_plan (·.voucherId) fun _ _ _ _ _ => rfl

end Creates

/-- The tables after an order was entered: all but what its payments change. -/
theorem enterOrder_ok {opened : Order} {paid : List GiftCardId}
    (h : (a.enterOrder plan opened).run s = (.ok paid, s')) :
    (∀ token, opened.checkoutToken = some token → s.tables.orderOf? token = none) ∧
      ∃ serving preorders giftCards,
        serving = s.tables.stockServing (plan.lines.map (·.demand)) plan.snapshot.country
          plan.snapshot.channel plan.snapshot.delivery.warehouseFilter a.request.now ∧
        serving.shortages = [] ∧
        preorders = Demand.preorders ((plan.lines.map (·.demand)).filter
          (·.variant.isPreorderActive a.request.now)) ∧
        s.tables.preorderShortages ((plan.lines.map (·.demand)).filter
          (·.variant.isPreorderActive a.request.now)) = [] ∧
        GiftCard.Drains opened a.request.now plan.price.gross
          (s.tables.giftCardsOf plan.snapshot.checkout.giftCardIds) s.tables.giftCards giftCards
          paid ∧
        s' = {
          tables := { s.tables with
            stocks := Shelf.putBack s.tables.stocks serving.shelves
            allocations := s.tables.allocations ++ serving.allocations
            preorderAllocations := s.tables.preorderAllocations ++ preorders
            giftCards
            orders := s.tables.orders ++ [opened]
            orderLines := s.tables.orderLines ++ plan.lines.map (·.line) }
          events := s.events ++ (Shelf.emptied serving.shelves).map .outOfStock } := by
  obtain ⟨_, _, hinsert, h⟩ := Transaction.run_bind_ok h
  obtain ⟨hfirst, rfl⟩ := Transaction.insertOrder_ok hinsert
  obtain ⟨_, _, hlines, h⟩ := Transaction.run_bind_ok h
  obtain rfl := Transaction.run_write_ok hlines
  obtain ⟨_, _, hstocks, h⟩ := Transaction.run_bind_ok h
  obtain ⟨hserved, -, rfl⟩ := allocateStocks_ok hstocks
  obtain ⟨preorders, _, hallocate, h⟩ := Transaction.run_bind_ok h
  obtain ⟨hpreorderable, hpreorders, rfl⟩ := allocatePreorders_ok hallocate
  obtain ⟨giftCards, hdrains, rfl⟩ := payWithGiftCards_ok h
  exact ⟨hfirst, _, preorders, giftCards, rfl, hserved, hpreorders, hpreorderable, hdrains, rfl⟩

theorem closeCheckout_ok {opened order : Order} {giftCardIds : List GiftCardId}
    (h : (closeCheckout plan settled opened giftCardIds).run s = (.ok order, s')) :
    enterPayments opened giftCardIds (orderPayments plan settled s.tables)
        (plan.lines.map (·.line)) = .ok order ∧
      s' = { s with tables := { s.tables with
        users := usersAfter plan settled s.tables.users
        checkouts := s.tables.checkouts.filter (·.token ≠ plan.snapshot.checkout.token)
        payments := ((orderPayments plan settled s.tables).foldl
          (fun rows p => upsert (·.id) p rows) s.tables.payments).map
            (·.detach plan.snapshot.checkout.token)
        orders := upsert (·.id) order s.tables.orders } } := by
  have h := Transaction.run_tables_bind_ok h
  obtain ⟨_, _, hpayments, h⟩ := Transaction.run_bind_ok h
  obtain rfl := Transaction.forM_savePayment_ok hpayments
  obtain ⟨_, _, hcustomer, h⟩ := Transaction.run_bind_ok h
  obtain rfl := saveCustomerId_ok hcustomer
  obtain ⟨_, hpaid, h⟩ := Transaction.run_lift_bind_ok h
  obtain ⟨_, _, hsave, h⟩ := Transaction.run_bind_ok h
  obtain rfl := Transaction.saveOrder_ok hsave
  obtain ⟨_, _, hdelete, h⟩ := Transaction.run_bind_ok h
  obtain rfl := Transaction.run_write_ok hdelete
  obtain ⟨rfl, rfl⟩ := Transaction.run_pure_ok h
  exact ⟨hpaid, rfl⟩

theorem createOrder_ok {order : Order}
    (h : (a.createOrder plan settled).run s = (.ok order, s')) :
    ∃ c, a.Creates plan settled s.tables c ∧ c.order = order ∧
      s' = ⟨c.tables plan s.tables, s.events ++ c.events plan settled⟩ := by
  obtain ⟨giftCardIds, _, henter, h⟩ := Transaction.run_bind_ok h
  obtain ⟨hfirst, serving, preorders, giftCards, hserving, hserved, hpreorders, hpreorderable,
    hdrains, rfl⟩ := enterOrder_ok henter
  obtain ⟨_, _, hclose, h⟩ := Transaction.run_bind_ok h
  obtain ⟨hentered, rfl⟩ := closeCheckout_ok hclose
  obtain ⟨_, _, hevents, h⟩ := Transaction.run_bind_ok h
  obtain rfl := Transaction.forM_onCommit_ok hevents
  obtain ⟨rfl, rfl⟩ := Transaction.run_pure_ok h
  have horder := enterPayments_ok hentered
  have hids : order.giftCardIds = giftCardIds := by
    obtain ⟨_, _, _, rfl⟩ := horder
    rfl
  refine ⟨{
    opened := plan.order a.settings (a.redirectUrl plan.snapshot.checkout) a.request.metadata
      a.request.now
    order, serving, preorders, giftCards
    payments := ((orderPayments plan settled s.tables).foldl
      (fun rows p => upsert (·.id) p rows) s.tables.payments).map
        (·.detach plan.snapshot.checkout.token)
    users := usersAfter plan settled s.tables.users }, ?_, rfl, ?_⟩
  · exact {
      first := hfirst _ rfl
      opened := rfl
      order := ⟨giftCardIds, horder⟩
      entered := hids ▸ hentered
      serving := hserving
      served := hserved
      preorders := hpreorders
      preorderable := hpreorderable
      giftCards := hids ▸ hdrains
      users := rfl
      payments := rfl }
  · rw [Creation.events, ← List.append_assoc]
    rfl

end Attempt

end Storefront
