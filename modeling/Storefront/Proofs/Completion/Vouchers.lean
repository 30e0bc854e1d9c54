import Storefront.Proofs.Completion.Step
import Storefront.Proofs.Voucher.Conditions

/-!
# What is asked of a voucher when its checkout is completed

A voucher is put on a checkout where it applies, and what it takes off is kept with the checkout.
Before the order is created only some of its conditions are looked at once more: its code has to
stand for an active voucher with a use left, and a customer who may use it once must not have used
it. Whether it still applies otherwise is not asked.

* `Snapshot.isVoucherRefused`: what is asked.
* `Attempt.Prepared.goes_on`: a checkout that passes all checks takes a use of its voucher.
* `Attempt.voucher_rechecked`: the checkouts that are refused because of their voucher.
* `Attempt.overlooks_minimum_bookshop`: a voucher that no longer applies is used.
-/

namespace Storefront

/-- The voucher of a checkout may not be used: its code stands for no active voucher any more, or
the customer has had the one use there is. -/
def Snapshot.isVoucherRefused (s : Snapshot) (t : Tables) : Bool :=
  match s.voucher with
  | some v => v.applyOncePerCustomer && s.customerEmail.any (t.hasUsed v.id)
  | none => s.checkout.voucherCode.isSome

namespace Snapshot

variable {s : Snapshot} {t : Tables}

theorem isVoucherRefused_of_none (h : s.voucher = none) :
    s.isVoucherRefused t = s.checkout.voucherCode.isSome := by
  simp [isVoucherRefused, h]

/-- A voucher may be used by a customer who would not be remembered twice. -/
theorem isVoucherRefused_eq_false_iff {v : Voucher} (h : s.voucher = some v) :
    s.isVoucherRefused t = false ↔
      ∀ e, v.remembered? s.customerEmail = some e → t.hasUsed v.id e = false := by
  cases honce : v.applyOncePerCustomer with
  | false => simp [isVoucherRefused, h, Voucher.remembered?, honce]
  | true =>
    cases hemail : s.customerEmail <;>
      simp [isVoucherRefused, h, Voucher.remembered?, honce, hemail]

end Snapshot

/-- The attempt has failed, and has left the tables `t` as they were. -/
structure Progress.Rejected (p : Progress) (t : Tables) : Prop where
  failed : ∃ e, p.stage = .finished (.error e)
  tables : p.tables = t
  events : p.events = []

namespace Attempt

variable {a : Attempt} {t : Tables} {plan : OrderPlan} {payment : Option Payment}
  {checkout : Checkout} {x : Snapshot}

namespace Prepared

theorem remembered?_eq (h : a.Prepared t plan payment) {v : Voucher}
    (hv : plan.snapshot.voucher = some v) :
    plan.remembered? = v.remembered? plan.snapshot.customerEmail := by
  rw [OrderPlan.remembered?, h.voucher_snapshot, hv]
  rfl

/-- No use is taken of a voucher that may not be used. -/
theorem not_refused (h : a.Prepared t plan payment) {t' : Tables} (htakes : plan.Takes t t') :
    plan.snapshot.isVoucherRefused t = false := by
  cases htakes with
  | nothing hnone =>
    rw [Snapshot.isVoucherRefused_of_none (h.voucher_snapshot.symm.trans hnone), h.code hnone]
    rfl
  | @use v _ hv _ _ hnew =>
    have hv : plan.snapshot.voucher = some v := h.voucher_snapshot.symm.trans hv
    rw [h.remembered?_eq hv] at hnew
    exact (Snapshot.isVoucherRefused_eq_false_iff hv).2 hnew

/-- A use of the voucher of a plan can be taken, if the voucher may be used. -/
theorem takeVoucher_run (h : a.Prepared t plan payment) (hids : (t.vouchers.map (·.id)).Nodup)
    (hopen : plan.snapshot.isVoucherRefused t = false) :
    ∃ t', plan.Takes t t' ∧ (a.takeVoucher plan.snapshot).run { tables := t } =
      (.ok plan.voucher, { tables := t' }) := by
  have hvoucher := h.voucher
  unfold takeVoucher
  rw [Transaction.run_bind_of_ok (Transaction.run_tables _)]
  dsimp only
  rw [← hvoucher]
  cases hv : plan.voucher with
  | none =>
    refine ⟨t, .nothing hv, ?_⟩
    simp only [h.code hv, Option.isSome_none, Bool.false_eq_true, if_false]
    rfl
  | some v =>
    have hsnapshot : plan.snapshot.voucher = some v := h.voucher_snapshot.symm.trans hv
    have hnew := (Snapshot.isVoucherRefused_eq_false_iff hsnapshot).1 hopen
    rw [hv] at hvoucher
    obtain ⟨_, -, -, hactive⟩ := Tables.of_voucherFor? hvoucher.symm
    have hrow : t.voucher? v.id = some v :=
      find?_key_of_mem (k := Voucher.id) hids (Tables.mem_of_voucherFor? hvoucher.symm)
    have hleft : v.hasUsesLeft = true := by
      simp only [Voucher.isActiveIn, Voucher.isActive, Bool.and_eq_true] at hactive
      exact hactive.1.2
    refine ⟨_, .use hv hrow hleft (h.remembered?_eq hsnapshot ▸ hnew), ?_⟩
    dsimp only
    rw [Transaction.run_bind_of_ok (Voucher.take_run hrow hleft hnew), h.remembered?_eq hsnapshot]
    rfl

/-- The transaction before the charge comes to a plan that passes all checks, if its voucher may be
used. -/
theorem preparation_run (h : a.Prepared t plan payment) (hids : (t.vouchers.map (·.id)).Nodup)
    (hopen : plan.snapshot.isVoucherRefused t = false) :
    ∃ t', plan.Takes t t' ∧
      a.preparation.run { tables := t } = (.ok (.ready plan payment), { tables := t' }) := by
  obtain ⟨t', htakes, hvoucher⟩ := h.takeVoucher_run hids hopen
  obtain ⟨total, balance, htotal, hbalance, hcover, hpriced⟩ := h.priced
  have hplan : (a.plan plan.snapshot (t.giftCardsOf plan.snapshot.checkout.giftCardIds)
      balance).run { tables := t } = (.ok plan, { tables := t' }) := by
    unfold Attempt.plan
    rw [Transaction.run_lift_bind_of_ok hpriced,
      Transaction.run_bind_of_ok (Transaction.run_tables _),
      Transaction.run_lift_bind_of_ok h.supplied, Transaction.run_lift_bind_of_ok h.giftCards,
      Transaction.run_bind_of_ok hvoucher, Transaction.run_lift_bind_of_ok h.taxed]
    rfl
  refine ⟨t', htakes, ?_⟩
  unfold preparation
  rw [Transaction.run_bind_of_ok (Transaction.run_tables _)]
  dsimp only
  rw [h.checkout]
  dsimp only
  unfold prepareCheckout
  rw [Transaction.run_bind_of_ok (Transaction.run_tables _),
    Transaction.run_lift_bind_of_ok h.snapshot, Transaction.run_lift_bind_of_ok h.valid,
    Transaction.run_lift_bind_of_ok htotal, Transaction.run_lift_bind_of_ok hbalance,
    Transaction.run_lift_bind_of_ok hcover, if_pos rfl, Transaction.run_bind_of_ok hplan,
    ← h.payment]
  rfl

/-- **A use is taken of the voucher of a checkout that passes all checks**, if the voucher may be
used. -/
theorem goes_on (h : a.Prepared t plan payment) (hids : (t.vouchers.map (·.id)).Nodup)
    (hopen : plan.snapshot.isVoucherRefused t = false) :
    (a.prepare t).stage.plan? = some plan ∧ plan.Takes t (a.prepare t).tables := by
  obtain ⟨t', htakes, hrun⟩ := h.preparation_run hids hopen
  unfold prepare
  rw [Tables.transact_of_run hrun]
  cases payment <;> exact ⟨rfl, htakes⟩

end Prepared

/-- A checkout is rejected where its voucher may not be used. -/
theorem prepare_of_refused (hcheckout : t.checkout? a.token = some checkout)
    (hx : a.snapshot t checkout = .ok x) (hrefused : x.isVoucherRefused t = true) :
    (a.prepare t).Rejected t := by
  have hnot {plan : OrderPlan} {payment : Option Payment} {t' : Tables}
      (hplan : a.Prepared t plan payment) (htakes : plan.Takes t t') : False := by
    have hopen := hplan.not_refused htakes
    rw [hplan.snapshot_eq hcheckout hx, hrefused] at hopen
    cases hopen
  have h : a.Advances (fun _ => .error .noLines) t .preparing (a.prepare t) := advances_prepare
  generalize a.prepare t = next at h
  cases h with
  | rejected => exact ⟨⟨_, rfl⟩, rfl, rfl⟩
  | answered hgone =>
    rw [hcheckout] at hgone
    cases hgone
  | uncharged hplan htakes | charging hplan htakes => exact (hnot hplan htakes).elim

/-- An attempt that has ended stays where it is. -/
theorem run_of_finished {gateway : Payment → Tables → Except Error GatewayResponse × Tables}
    {p : Progress} {outcome : Except Error Completion} (h : p.stage = .finished outcome) (n : Nat) :
    a.run gateway n p = p := by
  induction n with
  | zero => rfl
  | succ n ih =>
    have hstays : p.andThen (a.advance gateway p.stage p.tables) = p := by
      rw [h]
      simp [advance, Progress.andThen, ← h]
    rw [run, hstays, ih]

theorem complete_of_rejected {gateway : Payment → Tables → Except Error GatewayResponse × Tables}
    (h : (a.prepare t).Rejected t) : (a.complete gateway t).Rejected t := by
  obtain ⟨e, he⟩ := h.failed
  have hfirst : (Progress.andThen { stage := .preparing, tables := t } (a.prepare t)).stage =
      .finished (.error e) := he
  have hcomplete : a.complete gateway t =
      Progress.andThen { stage := .preparing, tables := t } (a.prepare t) :=
    run_of_finished hfirst 3
  rw [hcomplete]
  exact ⟨⟨e, he⟩, h.tables, h.events⟩

/-- **What completing a checkout asks of its voucher**, where it is in the snapshot that the
checkout is completed with:

* where the voucher may not be used the attempt fails, and takes no use of it;
* otherwise a use is taken as soon as the other checks are passed, whether the voucher still applies
  to the checkout or not;
* a voucher that no longer applies because the customer has used it may not be used. -/
theorem voucher_rechecked (a : Attempt)
    (gateway : Payment → Tables → Except Error GatewayResponse × Tables) (t : Tables)
    (checkout : Checkout) (x : Snapshot) (hids : (t.vouchers.map (·.id)).Nodup)
    (hcheckout : t.checkout? a.token = some checkout) (hx : a.snapshot t checkout = .ok x) :
    (x.isVoucherRefused t = true → (a.complete gateway t).Rejected t) ∧
    (x.isVoucherRefused t = false → ∀ plan payment, a.Prepared t plan payment →
      plan.voucher = x.voucher ∧ (a.prepare t).stage.plan? = some plan ∧
        plan.Takes t (a.prepare t).tables) ∧
    ∀ v, x.voucher = some v →
      x.voucherDiscount t v = .error (.notApplicable .oncePerCustomer) →
      x.isVoucherRefused t = true := by
  refine ⟨fun hrefused => ?_, fun hopen plan payment hplan => ?_, fun v hv hdiscount => ?_⟩
  · exact complete_of_rejected (prepare_of_refused hcheckout hx hrefused)
  · obtain rfl := hplan.snapshot_eq hcheckout hx
    exact ⟨hplan.voucher_snapshot, hplan.goes_on hids hopen⟩
  · obtain ⟨honce, e, hemail, hused⟩ := Snapshot.hasUsed_of_voucherDiscount hdiscount
    rw [Snapshot.isVoucherRefused, hv]
    simp [honce, hemail, hused]

end Attempt

/-! ## Two shops with a voucher -/

namespace Bookshop

/-- The customer has had the one use of the voucher that there is. -/
def usedTables : Tables :=
  { onceTables with voucherCustomers := [⟨⟨⟨7⟩⟩, "ada@example.com"⟩] }

/-- A dollar off orders for a hundred dollars or more. -/
def saleVoucher : Voucher where
  id := ⟨⟨7⟩⟩
  code := "READ"
  name := none
  type := .entireOrder
  valueType := .fixed
  usageLimit := some 2
  used := 0
  applyOncePerOrder := false
  applyOncePerCustomer := false
  onlyForStaff := false
  minCheckoutItemsQuantity := none
  countries := []
  startDate := ⟨0⟩
  endDate := none
  productIds := []
  variantIds := []
  categoryIds := []
  collectionIds := []
  channelListings := [⟨channel.id, 1, .usd, some ⟨100, .usd⟩⟩]

/-- The copy costs a hundred dollars, and half of it once the sale has begun. -/
def saleTables : Tables :=
  { tables with
    variantListings := [⟨⟨⟨4⟩⟩, ⟨⟨3⟩⟩, channel.id, some ⟨100, .usd⟩, none, none⟩]
    sales := [{
      id := ⟨⟨12⟩⟩, name := "Summer", valueType := .percentage, startDate := ⟨1⟩, endDate := none
      channelListings := [⟨channel.id, .ofInt 50, .usd⟩], productIds := [⟨⟨2⟩⟩]
      categoryIds := [], collectionIds := [], variantIds := [] }]
    vouchers := [saleVoucher]
    checkouts := tables.checkouts.map fun c => { c with voucherCode := none }
    payments := tables.payments.map fun p => { p with total := ⟨100, .usd⟩ } }

/-- The bank captures the price. -/
def bank (_ : Payment) (t : Tables) : Except Error GatewayResponse × Tables :=
  (.ok (response false), t)

end Bookshop

namespace Attempt

/-- A customer cannot use the voucher for a second time. -/
theorem voucher_rechecked_bookshop :
    (Bookshop.usedTables.vouchers.map (·.id)).Nodup ∧ ∃ checkout x,
      Bookshop.usedTables.checkout? (Bookshop.attempt 1).token = some checkout ∧
      (Bookshop.attempt 1).snapshot Bookshop.usedTables checkout = .ok x ∧
      x.isVoucherRefused Bookshop.usedTables = true ∧
      ((Bookshop.attempt 1).complete Bookshop.bank Bookshop.usedTables).Rejected
        Bookshop.usedTables := by
  have hids : (Bookshop.usedTables.vouchers.map (·.id)).Nodup := by decide
  obtain ⟨checkout, x, hcheckout, hx, hrefused⟩ : ∃ checkout x,
      Bookshop.usedTables.checkout? (Bookshop.attempt 1).token = some checkout ∧
      (Bookshop.attempt 1).snapshot Bookshop.usedTables checkout = .ok x ∧
      x.isVoucherRefused Bookshop.usedTables = true := ⟨_, _, rfl, rfl, by decide +kernel⟩
  obtain ⟨hrejected, -⟩ := voucher_rechecked (Bookshop.attempt 1) Bookshop.bank
    Bookshop.usedTables checkout x hids hcheckout hx
  exact ⟨hids, checkout, x, hcheckout, hx, hrefused, hrejected hrefused⟩

/-- **A voucher that no longer applies is used**: it is put on a checkout at an earlier time, it
does not apply any more when the checkout is completed, and yet a use of it is taken for an
order. -/
def Overlooks (a : Attempt)
    (gateway : Payment → Tables → Except Error GatewayResponse × Tables) (t : Tables)
    (earlier : Moment) (v : Voucher) : Prop :=
  ∃ checkout s s' t' x reason order, t.checkout? a.token = some checkout ∧
    t.snapshotOf checkout a.externalOffers earlier = .ok (s, []) ∧
    t.transact (addVoucher s v) = (.ok s', t', []) ∧
    a.snapshot t' s'.checkout = .ok x ∧ x.voucher = some v ∧
    x.voucherDiscount t' v = .error (.notApplicable reason) ∧
    (a.complete gateway t').events.filterMap Event.created? = [order] ∧
    order.voucherId = some v.id ∧
    (a.complete gateway t').tables.voucher? v.id = some (v.withUsed (v.used + 1))

/-- Whether a voucher is overlooked can be looked up step by step. -/
theorem overlooks_of_eval {a : Attempt}
    {gateway : Payment → Tables → Except Error GatewayResponse × Tables} {t : Tables}
    {earlier : Moment} {v : Voucher}
    (h : ((t.checkout? a.token).any fun checkout =>
      match t.snapshotOf checkout a.externalOffers earlier with
      | .ok (s, []) =>
        match t.transact (addVoucher s v) with
        | (.ok s', t', []) =>
          match a.snapshot t' s'.checkout with
          | .ok x =>
            match x.voucherDiscount t' v with
            | .error (.notApplicable _) =>
              match (a.complete gateway t').events.filterMap Event.created? with
              | [order] => x.voucher = some v ∧ order.voucherId = some v.id ∧
                (a.complete gateway t').tables.voucher? v.id = some (v.withUsed (v.used + 1))
              | _ => False
            | _ => False
          | _ => False
        | _ => False
      | _ => False) = true) : a.Overlooks gateway t earlier v := by
  obtain ⟨checkout, hcheckout, h⟩ := (Option.any_eq_true _ _).1 h
  split at h
  case h_2 => cases h
  rename_i s hs
  split at h
  case h_2 => cases h
  rename_i s' t' hadded
  split at h
  case h_2 => cases h
  rename_i x hx
  split at h
  case h_2 => cases h
  rename_i reason hreason
  split at h
  case h_2 => cases h
  rename_i order horder
  obtain ⟨hvoucher, hid, hrow⟩ := of_decide_eq_true h
  exact ⟨checkout, s, s', t', x, reason, order, hcheckout, hs, hadded, hx, hvoucher, hreason,
    horder, hid, hrow⟩

/-- The sale has begun since the voucher was put on the checkout, and the copy costs less than the
voucher asks for. -/
theorem overlooks_minimum_bookshop :
    (Bookshop.attempt 1).Overlooks Bookshop.bank Bookshop.saleTables ⟨0⟩ Bookshop.saleVoucher :=
  overlooks_of_eval (by decide +kernel)

end Attempt

end Storefront
