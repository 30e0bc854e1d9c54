import Storefront.Proofs.Completion.Creation
import Storefront.Proofs.Completion.Preparing

/-!
# The stages of an attempt

`Attempt.Advances` lists what taking an attempt one stage further can come to, with everything that
was checked on the way. It is the only thing later proofs know about a stage.

* `Attempt.advances`: each stage comes to one of the ways listed.
* `Attempt.Advances.plans`: the plan that an attempt holds on to has its token and its ids.
* `Attempt.Advances.created_or_sameGoods`: orders, stock and gift cards change only where an order
  is created.
-/

namespace Storefront

/-- The tables that a stage goes on with, after the gateway has been asked. -/
def Stage.tablesAfter (gateway : Payment → Tables → Except Error GatewayResponse × Tables)
    (stage : Stage) (t : Tables) : Tables :=
  match stage with
  | .charging _ payment => (gateway payment t).2
  | _ => t

namespace Attempt

/-- `a.Advances answer t stage p`: with the tables `t` the stage may come to `p`, where the gateway
answers `answer` about a payment. -/
inductive Advances (a : Attempt) (answer : Payment → Except Error GatewayResponse) (t : Tables) :
    Stage → Progress → Prop where
  /-- The checkout cannot be completed. -/
  | rejected {e : Error} {calls : List GatewayCall} :
      Advances a answer t .preparing { stage := .finished (.error e), tables := t, calls }
  /-- The checkout is gone, but there is an order of it. -/
  | answered {order : Order} (hgone : t.checkout? a.token = none)
      (horder : t.orderOf? a.token = some order) :
      Advances a answer t .preparing { stage := .finished (.ok (.completed order)), tables := t }
  /-- There is no payment to charge. -/
  | uncharged {plan : OrderPlan} {t' : Tables} (hplan : a.Prepared t plan none)
      (htakes : plan.Takes t t') :
      Advances a answer t .preparing { stage := .ordering plan none, tables := t' }
  | charging {plan : OrderPlan} {payment : Payment} {t' : Tables}
      (hplan : a.Prepared t plan (some payment)) (htakes : plan.Takes t t') :
      Advances a answer t .preparing {
        stage := .charging plan payment, tables := t'
        calls := [a.chargeCall plan.snapshot payment] }
  /-- The payment has failed. -/
  | refused {plan : OrderPlan} {payment : Payment} {e : Error}
      (hresponse : acceptResponse (answer payment) = .error e) :
      Advances a answer t (.charging plan payment) {
        stage := .releasing plan none (.error e), tables := t
        calls := refundCalls (some payment) plan.snapshot.channel.slug }
  /-- What the gateway has done with the payment cannot be recorded. -/
  | unrecorded {plan : OrderPlan} {payment : Payment} {response : GatewayResponse} {e : Error}
      (hresponse : acceptResponse (answer payment) = .ok response)
      (hsettled : payment.apply response = .error e) :
      Advances a answer t (.charging plan payment)
        { stage := .releasing plan none (.error e), tables := t }
  /-- The customer has to act first. -/
  | halted {plan : OrderPlan} {payment settled : Payment} {response : GatewayResponse}
      (hresponse : acceptResponse (answer payment) = .ok response)
      (hsettled : payment.apply response = .ok settled) (haction : response.actionRequired = true) :
      Advances a answer t (.charging plan payment) {
        stage := .releasing plan (some settled)
          (.ok (.actionRequired response.actionRequiredData))
        tables := t }
  | charged {plan : OrderPlan} {payment settled : Payment} {response : GatewayResponse}
      (hresponse : acceptResponse (answer payment) = .ok response)
      (hsettled : payment.apply response = .ok settled)
      (haction : response.actionRequired = false) :
      Advances a answer t (.charging plan payment)
        { stage := .ordering plan (some ⟨settled, response.customerId⟩), tables := t }
  /-- Another attempt has created the order. -/
  | found {plan : OrderPlan} {settled : Option SettledPayment} {order : Order} {t' : Tables}
      (horder : t.orderOf? plan.snapshot.checkout.token = some order)
      (hback : plan.GivesBack t t') :
      Advances a answer t (.ordering plan settled)
        { stage := .finished (.ok (.completed order)), tables := t' }
  | created {plan : OrderPlan} {settled : Option SettledPayment} {c : Creation}
      (hcreates : a.Creates plan settled t c) :
      Advances a answer t (.ordering plan settled) {
        stage := .finished (.ok (.completed c.order)), tables := c.tables plan t
        events := c.events plan settled }
  /-- The order could not be created. -/
  | failed {plan : OrderPlan} {settled : Option SettledPayment} {e : Error} :
      Advances a answer t (.ordering plan settled) {
        stage := .releasing plan none (.error e), tables := t
        calls := refundCalls (settled.map (·.payment)) plan.snapshot.channel.slug }
  | released {plan : OrderPlan} {kept : Option Payment} {outcome : Except Error Completion}
      {t' : Tables} (hback : plan.GivesBack t t') :
      Advances a answer t (.releasing plan kept outcome)
        { stage := .finished outcome, tables := OrderPlan.keep t' kept }
  /-- The voucher is gone, so that no use of it can be given back. -/
  | stranded {plan : OrderPlan} {kept : Option Payment} {outcome : Except Error Completion}
      {v : Voucher} {e : Error} (hvoucher : plan.voucher = some v)
      (hgone : t.voucher? v.id = none) :
      Advances a answer t (.releasing plan kept outcome)
        { stage := .finished (.error e), tables := t }
  | ended {outcome : Except Error Completion} :
      Advances a answer t (.finished outcome) { stage := .finished outcome, tables := t }

variable {a : Attempt} {answer : Payment → Except Error GatewayResponse} {t : Tables}

/-- A look at whether there is an order precedes its creation. -/
theorem ordering_ok {plan : OrderPlan} {settled : Option SettledPayment} {order : Order}
    {s s' : Session} (h : (a.ordering plan settled).run s = (.ok order, s')) :
    (s.tables.orderOf? plan.snapshot.checkout.token = some order ∧
      ∃ t', plan.GivesBack s.tables t' ∧ s' = { s with tables := t' }) ∨
    ∃ c, a.Creates plan settled s.tables c ∧ c.order = order ∧
      s' = ⟨c.tables plan s.tables, s.events ++ c.events plan settled⟩ := by
  have h := Transaction.run_tables_bind_ok h
  cases horder : s.tables.orderOf? plan.snapshot.checkout.token with
  | some existing =>
    rw [horder] at h
    obtain ⟨_, _, hrelease, h⟩ := Transaction.run_bind_ok h
    obtain ⟨t', hback, rfl⟩ := OrderPlan.releaseVoucher_ok hrelease
    obtain ⟨rfl, rfl⟩ := Transaction.run_pure_ok h
    exact .inl ⟨rfl, t', hback, rfl⟩
  | none =>
    rw [horder] at h
    exact .inr (createOrder_ok h)

theorem advances_prepare : a.Advances answer t .preparing (a.prepare t) := by
  unfold prepare
  rcases htransact : t.transact a.preparation with ⟨_ | p, t', events⟩
  · obtain ⟨rfl, rfl⟩ := Tables.transact_error htransact
    exact .rejected
  · obtain ⟨t', hresult, hs⟩ := preparation_ok (Tables.transact_ok htransact)
    cases hs
    cases p with
    | ready plan payment =>
      obtain ⟨hplan, htakes⟩ := hresult
      cases payment with
      | none => exact .uncharged hplan htakes
      | some payment => exact .charging hplan htakes
    | alreadyOrdered order =>
      obtain ⟨hgone, horder, rfl⟩ := hresult
      exact .answered hgone horder
    | notCovered payment channelSlug =>
      obtain rfl : t' = t := hresult
      exact .rejected

theorem advances_receive {plan : OrderPlan} {payment : Payment} :
    a.Advances answer t (.charging plan payment) (receive plan payment (answer payment) t) := by
  unfold receive
  split
  · rename_i hresponse
    exact .refused hresponse
  · rename_i response hresponse
    split
    · rename_i hsettled
      exact .unrecorded hresponse hsettled
    · rename_i settled hsettled
      split
      · rename_i haction
        exact .halted hresponse hsettled haction
      · rename_i haction
        exact .charged hresponse hsettled (Bool.eq_false_iff.2 haction)

theorem advances_placeOrder {plan : OrderPlan} {settled : Option SettledPayment} :
    a.Advances answer t (.ordering plan settled) (a.placeOrder plan settled t) := by
  unfold placeOrder
  rcases htransact : t.transact (a.ordering plan settled) with ⟨_ | order, t', events⟩
  · obtain ⟨rfl, rfl⟩ := Tables.transact_error htransact
    exact .failed
  · rcases ordering_ok (Tables.transact_ok htransact) with ⟨horder, t', hback, hs⟩ |
      ⟨c, hcreates, rfl, hs⟩
    · cases hs
      exact .found horder hback
    · cases hs
      exact .created hcreates

theorem advances_release {plan : OrderPlan} {kept : Option Payment}
    {outcome : Except Error Completion} :
    a.Advances answer t (.releasing plan kept outcome) (release plan kept outcome t) := by
  unfold release
  by_cases hrow : ∀ v, plan.voucher = some v → (t.voucher? v.id).isSome
  · obtain ⟨t', hback, hrun⟩ := OrderPlan.releasing_run { tables := t } kept hrow
    rw [Tables.transact_of_run hrun]
    exact .released hback
  · obtain ⟨v, hvoucher, hgone⟩ : ∃ v, plan.voucher = some v ∧ t.voucher? v.id = none := by
      simpa using hrow
    rcases htransact : t.transact (plan.releasing kept) with ⟨e | ⟨⟩, t', events⟩
    · obtain ⟨rfl, rfl⟩ := Tables.transact_error htransact
      exact .stranded hvoucher hgone
    · obtain ⟨t', hback, hs⟩ := OrderPlan.releasing_ok (Tables.transact_ok htransact)
      cases hs
      exact .released hback

/-- Each stage comes to one of the ways listed, whatever the gateway does to the tables before it
answers. -/
theorem advances_of_gateway (a : Attempt)
    (gateway : Payment → Tables → Except Error GatewayResponse × Tables) (stage : Stage)
    (t : Tables) :
    a.Advances (fun payment => (gateway payment t).1) (stage.tablesAfter gateway t) stage
      (a.advance gateway stage t) := by
  cases stage with
  | preparing => exact advances_prepare
  | charging plan payment => exact advances_receive
  | ordering plan settled => exact advances_placeOrder
  | releasing plan kept outcome => exact advances_release
  | finished outcome => exact .ended

/-- The same for a gateway that leaves the tables alone. -/
theorem advances (a : Attempt) (answer : Payment → Except Error GatewayResponse) (stage : Stage)
    (t : Tables) :
    a.Advances answer t stage (a.advance (fun payment t => (answer payment, t)) stage t) := by
  have h := a.advances_of_gateway (fun payment t => (answer payment, t)) stage t
  cases stage <;> exact h

/-- What every stage keeps holds after any number of them. -/
theorem run_keeps {a : Attempt}
    {gateway : Payment → Tables → Except Error GatewayResponse × Tables} {P : Progress → Prop}
    (keeps : ∀ p next, P p →
      a.Advances (fun payment => (gateway payment p.tables).1)
        (p.stage.tablesAfter gateway p.tables) p.stage next → P (p.andThen next))
    (n : Nat) {p : Progress} (h : P p) : P (a.run gateway n p) := by
  induction n generalizing p with
  | zero => exact h
  | succ n ih => exact ih (keeps p _ h (a.advances_of_gateway gateway p.stage p.tables))

end Attempt

/-! ## What a stage leaves alone -/

/-- The plan that an attempt holds on to. -/
def Stage.plan? : Stage → Option OrderPlan
  | .charging plan _ | .ordering plan _ | .releasing plan _ _ => some plan
  | .preparing | .finished _ => none

/-- What a plan has from the attempt that has made it. -/
structure Attempt.Plans (a : Attempt) (plan : OrderPlan) : Prop where
  token : plan.snapshot.checkout.token = a.token
  orderId : plan.orderId = a.ids.order
  lines : ∀ l ∈ plan.lines, l.line.orderId = a.ids.order

theorem Attempt.Prepared.plans {a : Attempt} {t : Tables} {plan : OrderPlan}
    {payment : Option Payment} (h : a.Prepared t plan payment) : a.Plans plan :=
  ⟨h.token, h.orderId, h.lines⟩

/-- `t.SameGoods t'`: the two differ in nothing that belongs to an order or may be sold. -/
def Tables.SameGoods (t t' : Tables) : Prop :=
  ∃ vouchers voucherCustomers payments, t' = { t with vouchers, voucherCustomers, payments }

namespace Tables.SameGoods

variable {t t' : Tables}

theorem refl (t : Tables) : t.SameGoods t := ⟨_, _, _, rfl⟩

theorem orders (h : t.SameGoods t') : t'.orders = t.orders := by
  obtain ⟨_, _, _, rfl⟩ := h
  rfl

theorem giftCards (h : t.SameGoods t') : t'.giftCards = t.giftCards := by
  obtain ⟨_, _, _, rfl⟩ := h
  rfl

theorem users (h : t.SameGoods t') : t'.users = t.users := by
  obtain ⟨_, _, _, rfl⟩ := h
  rfl

theorem linesOf (h : t.SameGoods t') (id : OrderId) : t'.linesOf id = t.linesOf id := by
  obtain ⟨_, _, _, rfl⟩ := h
  rfl

end Tables.SameGoods

namespace OrderPlan

variable {plan : OrderPlan} {t t' : Tables}

theorem Takes.sameGoods (h : plan.Takes t t') : t.SameGoods t' := by
  cases h with
  | nothing => exact .refl t
  | use => exact ⟨_, _, _, rfl⟩

theorem GivesBack.sameGoods (h : plan.GivesBack t t') (kept : Option Payment) :
    t.SameGoods (keep t' kept) := by
  cases h with
  | nothing => cases kept <;> exact ⟨_, _, _, rfl⟩
  | use => cases kept <;> exact ⟨_, _, _, rfl⟩

end OrderPlan

namespace Attempt.Advances

variable {a : Attempt} {answer : Payment → Except Error GatewayResponse} {t : Tables}
  {stage : Stage} {next : Progress}

/-- A stage has the plan that its attempt has had before, or one that has just been prepared. -/
theorem plan_of_plan (h : a.Advances answer t stage next) {plan : OrderPlan}
    (hplan : next.stage.plan? = some plan) :
    stage.plan? = some plan ∨ ∃ payment, a.Prepared t plan payment := by
  cases h with
  | uncharged hprepared | charging hprepared =>
    cases hplan
    exact .inr ⟨_, hprepared⟩
  | refused | unrecorded | halted | charged | failed => exact .inl hplan
  | rejected | answered | found | created | released | stranded | ended => cases hplan

/-- An attempt keeps to plans of its own. -/
theorem plans (h : a.Advances answer t stage next)
    (hplans : ∀ plan, stage.plan? = some plan → a.Plans plan) :
    ∀ plan, next.stage.plan? = some plan → a.Plans plan := by
  intro plan hplan
  rcases h.plan_of_plan hplan with hbefore | ⟨_, hprepared⟩
  · exact hplans plan hbefore
  · exact hprepared.plans

/-- **A stage that creates no order sells nothing** and announces nothing. -/
theorem created_or_sameGoods (h : a.Advances answer t stage next) :
    (∃ plan settled c, stage = .ordering plan settled ∧ a.Creates plan settled t c ∧
      next = {
        stage := .finished (.ok (.completed c.order)), tables := c.tables plan t
        events := c.events plan settled }) ∨
    t.SameGoods next.tables ∧ next.events = [] := by
  cases h with
  | created hcreates => exact .inl ⟨_, _, _, rfl, hcreates, rfl⟩
  | uncharged _ htakes | charging _ htakes => exact .inr ⟨htakes.sameGoods, rfl⟩
  | found _ hback => exact .inr ⟨hback.sameGoods none, rfl⟩
  | @released _ kept _ _ hback => exact .inr ⟨hback.sameGoods kept, rfl⟩
  | rejected | answered | refused | unrecorded | halted | charged | failed | stranded | ended =>
    exact .inr ⟨.refl t, rfl⟩

end Attempt.Advances

/-! ## A shop with one book

A small store that theorems about attempts are tried on. One copy of the book is left, and its
checkout has a voucher and a payment. -/

namespace Bookshop

def channel : Channel where
  id := ⟨⟨1⟩⟩
  slug := "books"
  name := "Books"
  currency := .usd
  defaultCountry := "US"
  isActive := true
  allocationStrategy := .sortingOrder

def tables : Tables where
  channels := [channel]
  products := [⟨⟨⟨2⟩⟩, "Novel", none, []⟩]
  productListings := [⟨⟨⟨2⟩⟩, channel.id, true, true, some ⟨0⟩⟩]
  variants := [⟨⟨⟨3⟩⟩, ⟨⟨2⟩⟩, none, "Paperback", true, false, false, false, none, none⟩]
  variantListings := [⟨⟨⟨4⟩⟩, ⟨⟨3⟩⟩, channel.id, some ⟨1, .usd⟩, none, none⟩]
  warehouses := [⟨⟨⟨5⟩⟩, "Cellar", {}, .disabled, false, [channel.id], ["US"], 0⟩]
  stocks := [⟨⟨⟨6⟩⟩, ⟨⟨5⟩⟩, ⟨⟨3⟩⟩, 1, 0⟩]
  vouchers := [{
    id := ⟨⟨7⟩⟩, code := "READ", name := none, type := .entireOrder, valueType := .fixed
    usageLimit := some 2, used := 0, applyOncePerOrder := false, applyOncePerCustomer := false
    onlyForStaff := false, minCheckoutItemsQuantity := none, countries := [], startDate := ⟨0⟩
    endDate := none, productIds := [], variantIds := [], categoryIds := [], collectionIds := []
    channelListings := [⟨channel.id, 0, .usd, none⟩] }]
  checkouts := [{
    token := ⟨⟨8⟩⟩, channelId := channel.id, currency := .usd, email := some "ada@example.com"
    billingAddress := some {}, voucherCode := some "READ", lines := [⟨⟨⟨3⟩⟩, 1⟩] }]
  payments := [{
    id := ⟨⟨9⟩⟩, gateway := "bank", token := "card", total := ⟨1, .usd⟩
    captured := Money.zero .usd, status := .notCharged, isActive := true, toConfirm := false
    checkoutToken := some ⟨⟨8⟩⟩, orderId := none, pspReference := none }]

/-- The store with a voucher that each customer may use once. -/
def onceTables : Tables :=
  { tables with vouchers := tables.vouchers.map fun v => { v with applyOncePerCustomer := true } }

/-- An attempt to buy the copy, whose order would have the given number. -/
def attempt (number : BitVec 128) : Attempt where
  token := ⟨⟨8⟩⟩
  request := { additionalData := "", now := ⟨1⟩ }
  settings := {}
  taxes := []
  externalOffers _ := []
  ids := ⟨⟨⟨number⟩⟩, fun _ => ⟨⟨number⟩⟩⟩

/-- The bank captures the price, or asks the customer to act first. -/
def response (actionRequired : Bool) : GatewayResponse where
  isSuccess := true
  actionRequired := actionRequired
  actionRequiredData := none
  customerId := none
  error := none
  kind := if actionRequired then .actionToConfirm else .capture
  amount := ⟨1, .usd⟩
  pspReference := none

end Bookshop

end Storefront
