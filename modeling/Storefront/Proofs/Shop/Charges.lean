import Storefront.Proofs.Completion.Charge
import Storefront.Proofs.Shop.GiftCards
import Storefront.Proofs.Shop.Ledger

/-!
# What orders record of the money captured for them

An order is charged with what its payments have captured. An order that costs nothing is charged
with its total once more, whatever has been captured for it. Payments are charged even where gift
cards or discounts leave nothing to pay.

* `Order.RecordsCharge`: an order records what its payments have captured.
* `Shop.charge_recorded_iff`: when an order that is created does, after every schedule.
* `Shop.misrecords_bookshop`: an order that gift cards pay for as well as a payment.
-/

namespace Storefront

/-- The order is charged with what its payments have captured, and its status says how that compares
with its total. -/
def Order.RecordsCharge (o : Order) (t : Tables) : Prop :=
  Payment.totalCaptured o.currency (t.paymentsFor o.id) = .ok o.totalCharged ∧
    o.chargeStatus = .classify o.totalCharged o.total.gross

instance (o : Order) (t : Tables) : Decidable (o.RecordsCharge t) :=
  inferInstanceAs (Decidable (_ ∧ _))

/-- Where an order that costs nothing is charged with its total, it records what its payments have
captured if that is nothing as well. -/
theorem Order.recordsCharge_iff {o : Order} {t : Tables} {charged : Money}
    (hcharged : Payment.totalCaptured o.currency (t.paymentsFor o.id) = .ok charged)
    (htotal : o.totalCharged = if o.total.isZero then o.total.gross else charged)
    (hstatus : o.chargeStatus = .classify o.totalCharged o.total.gross)
    (hcurrency : o.total.gross.currency = o.currency) :
    o.RecordsCharge t ↔ (o.total.isZero = true → charged.amount = 0) := by
  rw [RecordsCharge, hcharged]
  constructor
  · rintro ⟨hsame, -⟩ hzero
    rw [Except.ok.inj hsame, htotal, if_pos hzero]
    exact Taxed.amount_gross_of_isZero hzero
  · intro hnothing
    refine ⟨congrArg Except.ok ?_, hstatus⟩
    rw [htotal]
    split
    · rename_i hzero
      have hsame : charged.currency = o.total.gross.currency :=
        (Money.currency_sum hcharged).trans hcurrency.symm
      have hamount : charged.amount = o.total.gross.amount :=
        (hnothing hzero).trans (Taxed.amount_gross_of_isZero hzero).symm
      cases charged
      exact congr (congrArg Money.mk hamount) hsame
    · rfl

namespace Shop

variable {t : Tables} {attempts : List Attempt}

/-- No payment is with an order that is about to be created. -/
theorem orderId_ne_of_ordering (hids : (t.payments.map (·.id)).Nodup) (hnew : t.NewIds attempts)
    (hunused : ∀ a ∈ attempts, ∀ p ∈ t.payments, p.orderId ≠ some a.ids.order) (moves : List Move)
    {p : Process} (hp : p ∈ ((opening t attempts).run moves).processes) {plan : OrderPlan}
    {settled : Option SettledPayment} (hstage : p.stage = .ordering plan settled) :
    ∀ q ∈ ((opening t attempts).run moves).tables.payments, q.orderId ≠ some plan.orderId := by
  have horderly := ((orderly_opening hnew).run hnew moves).1
  obtain ⟨hplan, hfresh⟩ := horderly.new hp hstage
  intro q hq
  obtain ⟨p₀, hp₀, hplaced⟩ := (ledger_run hids hnew moves).rows q hq
  cases hplaced with
  | attached h =>
    rw [h.orderId, hplan.orderId]
    exact hunused _ (horderly.attempts ▸ List.mem_map_of_mem hp) p₀ hp₀
  | moved ho _ _ _ _ horder =>
    rw [horder]
    exact fun heq => hfresh _ ho (Option.some.inj heq)

/-- **An order records the money captured for it** exactly where it costs something or nothing was
captured, whatever the attempts do in which order. -/
theorem charge_recorded_iff (t : Tables) (attempts : List Attempt) (before : List Move) (m : Move)
    (p : Process) (plan : OrderPlan) (order : Order) (hids : (t.payments.map (·.id)).Nodup)
    (hnew : t.NewIds attempts)
    (hunused : ∀ a ∈ attempts, ∀ p ∈ t.payments, p.orderId ≠ some a.ids.order)
    (hplaces : (opening t attempts).Places before m p plan order) :
    ∃ charged, Payment.totalCaptured order.currency
        (((opening t attempts).run (before ++ [m])).tables.paymentsFor order.id) = .ok charged ∧
      order.totalCharged = (if order.total.isZero then order.total.gross else charged) ∧
      order.chargeStatus = .classify order.totalCharged order.total.gross ∧
      (order.RecordsCharge ((opening t attempts).run (before ++ [m])).tables ↔
        (order.total.isZero = true → charged.amount = 0)) := by
  obtain ⟨settled, hstage⟩ := hplaces.stage
  have hp := List.mem_of_getElem? hplaces.process
  obtain ⟨c, hcreates, rfl, htables⟩ := hplaces.creates_of_stage hstage
  obtain ⟨_, _, -, hprepared⟩ := prepared_run t attempts before p hp plan (by rw [hstage]; rfl)
  have hledger := ledger_run hids hnew before
  obtain ⟨charged, hcharged, htotal, hstatus⟩ := hcreates.charged (hledger.nodup hids)
    (hledger.attached hids hp hstage hcreates.first)
    (orderId_ne_of_ordering hids hnew hunused before hp hstage)
  rw [← htables] at hcharged
  have hcurrency : c.order.total.gross.currency = c.order.currency := by
    rw [Order.currency, hcreates.total]
    exact hprepared.currency_gross
  exact ⟨charged, hcharged, htotal, hstatus,
    Order.recordsCharge_iff hcharged htotal hstatus hcurrency⟩

/-- The order of the only copy records the dollar that was captured for it. -/
theorem charge_recorded_iff_bookshop :
    (Bookshop.tables.payments.map (·.id)).Nodup ∧
      Bookshop.tables.NewIds [Bookshop.attempt 1, Bookshop.attempt 2] ∧
      (∀ a ∈ [Bookshop.attempt 1, Bookshop.attempt 2], ∀ p ∈ Bookshop.tables.payments,
        p.orderId ≠ some a.ids.order) ∧
      ∃ p plan order, (opening Bookshop.tables [Bookshop.attempt 1, Bookshop.attempt 2]).Places
          (Bookshop.race.take 4) (Bookshop.turn 0) p plan order ∧
        order.totalCharged = ⟨1, .usd⟩ ∧
        order.RecordsCharge ((opening Bookshop.tables [Bookshop.attempt 1, Bookshop.attempt 2]).run
          (Bookshop.race.take 4 ++ [Bookshop.turn 0])).tables := by
  have hids : (Bookshop.tables.payments.map (·.id)).Nodup := by decide
  have hunused : ∀ a ∈ [Bookshop.attempt 1, Bookshop.attempt 2],
      ∀ p ∈ Bookshop.tables.payments, p.orderId ≠ some a.ids.order := by
    intro a _ p hp
    obtain rfl := List.mem_singleton.1 hp
    exact nofun
  obtain ⟨p, plan, order, hplaces, hcharged, hcosts⟩ := exists_places
    (opening Bookshop.tables [Bookshop.attempt 1, Bookshop.attempt 2]) (Bookshop.race.take 4)
    (Bookshop.turn 0)
    (fun _ order => order.totalCharged = ⟨1, .usd⟩ ∧ order.total.isZero = false)
    (by decide +kernel)
  obtain ⟨_, -, -, -, hiff⟩ := charge_recorded_iff Bookshop.tables
    [Bookshop.attempt 1, Bookshop.attempt 2] (Bookshop.race.take 4) (Bookshop.turn 0) p plan order
    hids Bookshop.newIds hunused hplaces
  exact ⟨hids, Bookshop.newIds, hunused, p, plan, order, hplaces, hcharged,
    hiff.2 fun hzero => by rw [hcosts] at hzero; cases hzero⟩

/-- **Captured money may go unrecorded**: a move creates an order, which is not charged with what
its payments have captured. -/
def Misrecords (t : Tables) (attempts : List Attempt) (before : List Move) (m : Move) : Prop :=
  (t.payments.map (·.id)).Nodup ∧ t.NewIds attempts ∧
    (∀ a ∈ attempts, ∀ p ∈ t.payments, p.orderId ≠ some a.ids.order) ∧
    ∃ p plan order, (opening t attempts).Places before m p plan order ∧
      ¬order.RecordsCharge ((opening t attempts).run (before ++ [m])).tables

/-- A card pays for two copies, and the payment that the checkout has as well is captured. -/
theorem misrecords_bookshop :
    Misrecords { Bookshop.giftTables 2 1 with payments := Bookshop.tables.payments }
      [Bookshop.attempt 1] [Bookshop.turn 0, Bookshop.turn 0] (Bookshop.turn 0) := by
  refine ⟨by decide, ⟨by decide, fun _ _ _ ho => nomatch ho⟩, fun a _ p hp => ?_,
    exists_places _ _ _ _ (by decide +kernel)⟩
  obtain rfl := List.mem_singleton.1 hp
  exact nofun

end Shop

end Storefront
