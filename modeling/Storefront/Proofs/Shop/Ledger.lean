import Storefront.Proofs.Completion.Payments
import Storefront.Proofs.Shop.VoucherUses

/-!
# Whom payments belong to

A payment belongs to its checkout until the order of the checkout is created, and to the order from
then on. An attempt goes on with a copy of the payment that it charges. Where the customer has to
act first the whole copy is put back, and nobody looks at whether the payment has moved in the
meantime.

* `Payment.Placed`: a payment is still with its checkout, or with the order of that.
* `Shop.Ledger`: what holds of payments and of the copies of them in every reachable state.
* `Shop.moved_stays_iff`: a payment that belongs to an order stays with it exactly as long as no
  copy of it is put back.
* `Shop.loses_bookshop`: a payment that is taken from its order.
-/

namespace Storefront

/-! ## Payments and their copies -/

namespace Payment

/-- `p.CopyOf q`: the two are the same payment of the same checkout or order. What has been done
about it may differ. -/
structure CopyOf (p q : Payment) : Prop where
  id : p.id = q.id
  checkoutToken : p.checkoutToken = q.checkoutToken
  orderId : p.orderId = q.orderId

theorem CopyOf.refl (p : Payment) : p.CopyOf p := ⟨rfl, rfl, rfl⟩

theorem CopyOf.trans {p q r : Payment} (h : p.CopyOf q) (h' : q.CopyOf r) : p.CopyOf r :=
  ⟨h.id.trans h'.id, h.checkoutToken.trans h'.checkoutToken, h.orderId.trans h'.orderId⟩

theorem copyOf_of_apply {p p' : Payment} {r : GatewayResponse} (h : p.apply r = .ok p') :
    p'.CopyOf p := by
  obtain ⟨hid, htoken, horder⟩ := of_apply h
  exact ⟨hid, htoken, horder⟩

/-- The payment is with an order, and with no checkout, and no less of it is captured. -/
def StaysWith (p : Payment) (o : OrderId) (t : Tables) : Prop :=
  ∃ p' ∈ t.payments, p'.id = p.id ∧ p'.orderId = some o ∧ p'.checkoutToken = none ∧
    p.captured.amount ≤ p'.captured.amount

instance (p : Payment) (o : OrderId) (t : Tables) : Decidable (p.StaysWith o t) :=
  inferInstanceAs (Decidable (∃ p' ∈ t.payments, _))

/-- Where the payment `p₀` may be found later: with the checkout or the order that it was with, or
with the order that its checkout has become. -/
inductive Placed (orders : List Order) (p₀ p : Payment) : Prop where
  | attached (h : p.CopyOf p₀)
  | moved {o : Order} {token : CheckoutToken} (ho : o ∈ orders)
      (htoken : o.checkoutToken = some token) (hfrom : p₀.checkoutToken = some token)
      (hid : p.id = p₀.id) (hgone : p.checkoutToken = none) (horder : p.orderId = some o.id)

namespace Placed

variable {orders orders' : List Order} {p₀ p : Payment}

theorem id (h : Placed orders p₀ p) : p.id = p₀.id := by
  cases h with
  | attached h => exact h.id
  | moved _ _ _ hid => exact hid

theorem mono (h : Placed orders p₀ p) (hsub : orders ⊆ orders') : Placed orders' p₀ p := by
  cases h with
  | attached h => exact .attached h
  | moved ho htoken hfrom hid hgone horder =>
    exact .moved (hsub ho) htoken hfrom hid hgone horder

/-- A payment that is with a checkout has not moved. -/
theorem copyOf_of_token (h : Placed orders p₀ p) {token : CheckoutToken}
    (htoken : p.checkoutToken = some token) : p.CopyOf p₀ := by
  cases h with
  | attached h => exact h
  | moved _ _ _ _ hgone =>
    rw [htoken] at hgone
    cases hgone

end Placed

theorem id_handOver (settled : Option SettledPayment) (token : CheckoutToken) (order : OrderId)
    (p : Payment) : (p.handOver settled token order).id = p.id := by
  unfold handOver
  split
  · exact p.id_settledAs settled
  · rfl

end Payment

theorem Tables.orderOf?_isSome {t : Tables} {o : Order} {token : CheckoutToken}
    (ho : o ∈ t.orders) (htoken : o.checkoutToken = some token) : (t.orderOf? token).isSome :=
  List.find?_isSome.2 ⟨o, ho, by simpa using htoken⟩

/-! ## One stage -/

/-- The copy of a payment that an attempt goes on with. -/
def Stage.copy? : Stage → Option Payment
  | .charging _ payment => some payment
  | .ordering _ settled => settled.map (·.payment)
  | .releasing _ kept _ => kept
  | .preparing | .finished _ => none

/-- The copy of a payment that the next stage puts back. -/
def Stage.kept? : Stage → Option Payment
  | .releasing _ kept _ => kept
  | .preparing | .charging .. | .ordering .. | .finished _ => none

theorem Stage.plan?_of_kept? {stage : Stage} {kept : Payment} (h : stage.kept? = some kept) :
    ∃ plan, stage.plan? = some plan ∧ stage.copy? = some kept := by
  cases stage <;> cases h
  exact ⟨_, rfl, rfl⟩

namespace Attempt.Advances

variable {a : Attempt} {answer : Payment → Except Error GatewayResponse} {t : Tables}
  {stage : Stage} {next : Progress}

/-- A copy is one that the attempt has had before, or one of a payment of the checkout. -/
theorem copy_of_copy (h : a.Advances answer t stage next) {plan : OrderPlan} {copy : Payment}
    (hplan : next.stage.plan? = some plan) (hcopy : next.stage.copy? = some copy) :
    (stage.plan? = some plan ∧ ∃ old, stage.copy? = some old ∧ copy.CopyOf old) ∨
      a.Prepared t plan (some copy) := by
  cases h with
  | charging hprepared =>
    cases hplan
    cases hcopy
    exact .inr hprepared
  | halted _ hsettled =>
    cases hcopy
    exact .inl ⟨hplan, _, rfl, Payment.copyOf_of_apply hsettled⟩
  | charged _ hsettled =>
    cases hcopy
    exact .inl ⟨hplan, _, rfl, Payment.copyOf_of_apply hsettled⟩
  | rejected | answered | uncharged | refused | unrecorded | found | created | failed | released |
    stranded | ended => cases hcopy

/-- **The payments change** where an order is created and where a copy is put back. -/
theorem created_or_keeps (h : a.Advances answer t stage next)
    (hheld : ∀ plan v, stage.plan? = some plan → plan.voucher = some v →
      (t.voucher? v.id).isSome) :
    (∃ plan settled c, stage = .ordering plan settled ∧ a.Creates plan settled t c ∧
      next.tables = c.tables plan t) ∨
    next.tables.orders = t.orders ∧
      next.tables.payments = (OrderPlan.keep t stage.kept?).payments := by
  cases h with
  | created hcreates => exact .inl ⟨_, _, _, rfl, hcreates, rfl⟩
  | uncharged _ htakes | charging _ htakes => cases htakes <;> exact .inr ⟨rfl, rfl⟩
  | found _ hback => cases hback <;> exact .inr ⟨rfl, rfl⟩
  | @released _ kept _ _ hback => cases hback <;> cases kept <;> exact .inr ⟨rfl, rfl⟩
  | stranded hvoucher hgone =>
    have hrow := hheld _ _ rfl hvoucher
    rw [hgone] at hrow
    cases hrow
  | rejected | answered | refused | unrecorded | halted | charged | failed | ended =>
    exact .inr ⟨rfl, rfl⟩

end Attempt.Advances

/-! ## Every schedule -/

namespace Shop

variable {t : Tables} {attempts : List Attempt} {s s' : Shop}

/-- What holds in every state that the attempts reach from the tables `t`. -/
structure Ledger (t : Tables) (s : Shop) : Prop where
  ids : s.tables.payments.map (·.id) = t.payments.map (·.id)
  rows : ∀ p ∈ s.tables.payments, ∃ p₀ ∈ t.payments, p₀.Placed s.tables.orders p
  /-- What is copied is a payment of the checkout as it was at the start. -/
  copies : ∀ p ∈ s.processes, ∀ plan copy, p.stage.plan? = some plan → p.stage.copy? = some copy →
    copy.checkoutToken = some plan.snapshot.checkout.token ∧ ∃ p₀ ∈ t.payments, copy.CopyOf p₀

theorem ledger_opening (t : Tables) (attempts : List Attempt) : Ledger t (opening t attempts) where
  ids := rfl
  rows p hp := ⟨p, hp, .attached (.refl p)⟩
  copies := forall_opening fun _ _ _ _ hplan => nomatch hplan

namespace Ledger

variable {p : Process} {plan : OrderPlan}

theorem nodup (hs : Ledger t s) (hids : (t.payments.map (·.id)).Nodup) :
    (s.tables.payments.map (·.id)).Nodup := hs.ids ▸ hids

theorem placed (hs : Ledger t s) (hids : (t.payments.map (·.id)).Nodup) {p₀ q : Payment}
    (hp₀ : p₀ ∈ t.payments) (hq : q ∈ s.tables.payments) (hid : q.id = p₀.id) :
    p₀.Placed s.tables.orders q := by
  obtain ⟨p₁, hp₁, hplaced⟩ := hs.rows q hq
  obtain rfl := List.inj_on_of_nodup_map hids hp₁ hp₀ (hplaced.id.symm.trans hid)
  exact hplaced

theorem exists_row (hs : Ledger t s) {p₀ : Payment} (hp₀ : p₀ ∈ t.payments) :
    ∃ q ∈ s.tables.payments, q.id = p₀.id := by
  have hmem : p₀.id ∈ s.tables.payments.map (·.id) := hs.ids ▸ List.mem_map_of_mem hp₀
  exact List.mem_map.1 hmem

/-- As long as its checkout has no order, the settled payment is one of the checkout. -/
theorem attached (hs : Ledger t s) (hids : (t.payments.map (·.id)).Nodup) (hp : p ∈ s.processes)
    {settled : Option SettledPayment} (hstage : p.stage = .ordering plan settled)
    (hfirst : s.tables.orderOf? plan.snapshot.checkout.token = none) (x : SettledPayment)
    (hx : settled = some x) : x.Attached plan.snapshot.checkout.token s.tables.payments := by
  obtain ⟨htoken, p₀, hp₀, hcopy⟩ := hs.copies p hp plan x.payment (by rw [hstage]; rfl)
    (by rw [hstage, hx]; rfl)
  refine ⟨htoken, ?_⟩
  obtain ⟨q, hq, hid⟩ := hs.exists_row hp₀
  cases hs.placed hids hp₀ hq hid with
  | attached h =>
    have hq_token : q.checkoutToken = some plan.snapshot.checkout.token :=
      h.checkoutToken.trans (hcopy.checkoutToken.symm.trans htoken)
    exact List.mem_map.2
      ⟨q, List.mem_filter.2 ⟨hq, by simpa using hq_token⟩, hid.trans hcopy.id.symm⟩
  | moved ho horder_token hfrom =>
    have hsame := hfrom.symm.trans (hcopy.checkoutToken.symm.trans htoken)
    have hordered := Tables.orderOf?_isSome ho (horder_token.trans hsame)
    rw [hfirst] at hordered
    cases hordered

/-- Handing payments over moves those of a checkout to its order and keeps the others in their
places. -/
theorem placed_handOver (hs : Ledger t s) {settled : Option SettledPayment} {o : Order}
    {token : CheckoutToken} {orders : List Order} (horders : s.tables.orders ⊆ orders)
    (ho : o ∈ orders) (htoken : o.checkoutToken = some token) {q : Payment}
    (hq : q ∈ s.tables.payments) :
    ∃ p₀ ∈ t.payments, p₀.Placed orders (q.handOver settled token o.id) := by
  obtain ⟨p₀, hp₀, hplaced⟩ := hs.rows q hq
  refine ⟨p₀, hp₀, ?_⟩
  by_cases hq_token : q.checkoutToken = some token
  · have hfrom := (hplaced.copyOf_of_token hq_token).checkoutToken.symm.trans hq_token
    refine .moved ho htoken hfrom ((q.id_handOver ..).trans hplaced.id) ?_ ?_
    all_goals rw [Payment.handOver, if_pos hq_token]
  · rw [Payment.handOver, if_neg hq_token]
    exact hplaced.mono horders

/-- **A stage keeps payments in their places**, or moves them to an order of their checkout. -/
theorem rows_after (hs : Ledger t s) (hids : (t.payments.map (·.id)).Nodup) (hp : p ∈ s.processes)
    {answer : Payment → Except Error GatewayResponse} {next : Progress}
    (hnext : p.attempt.Advances answer s.tables p.stage next)
    (hheld : ∀ plan v, p.stage.plan? = some plan → plan.voucher = some v →
      (s.tables.voucher? v.id).isSome)
    (horders : s.tables.orders ⊆ next.tables.orders) :
    next.tables.payments.map (·.id) = t.payments.map (·.id) ∧
      ∀ q ∈ next.tables.payments, ∃ p₀ ∈ t.payments, p₀.Placed next.tables.orders q := by
  rcases hnext.created_or_keeps hheld with ⟨plan, settled, c, hstage, hcreates, htables⟩ |
    ⟨-, hpayments⟩
  · have hattached := hs.attached hids hp hstage hcreates.first
    have hpayments : next.tables.payments = _ :=
      (congrArg Tables.payments htables).trans (hcreates.payments_eq_map (hs.nodup hids) hattached)
    rw [hpayments, List.map_map]
    refine ⟨hs.ids ▸ List.map_congr_left fun q _ => q.id_handOver .., fun q' hq' => ?_⟩
    obtain ⟨q, hq, rfl⟩ := List.mem_map.1 hq'
    have ho : c.order ∈ next.tables.orders := htables ▸ mem_upsert_self c.order _
    exact hs.placed_handOver horders ho hcreates.checkoutToken hq
  · have hsame (q : Payment) (hq : q ∈ s.tables.payments) :
        ∃ p₀ ∈ t.payments, p₀.Placed next.tables.orders q := by
      obtain ⟨p₀, hp₀, hplaced⟩ := hs.rows q hq
      exact ⟨p₀, hp₀, hplaced.mono horders⟩
    rw [hpayments]
    cases hkept : p.stage.kept? with
    | none => exact ⟨hs.ids, hsame⟩
    | some kept =>
      obtain ⟨plan, hplan, hcopy⟩ := Stage.plan?_of_kept? hkept
      obtain ⟨-, p₀, hp₀, hcopy⟩ := hs.copies p hp plan kept hplan hcopy
      refine ⟨(map_upsert ?_).trans hs.ids, fun q hq => ?_⟩
      · rw [hs.ids, hcopy.id]
        exact List.mem_map_of_mem hp₀
      · rcases eq_or_mem_of_mem_upsert hq with rfl | hold
        · exact ⟨p₀, hp₀, .attached hcopy⟩
        · exact hsame q hold

/-- **A step keeps the ledger.** -/
theorem steps (hs : Ledger t s) (hids : (t.payments.map (·.id)).Nodup) (h : Steps s s')
    (hheld : s.HasHeld) (horders : s.tables.orders ⊆ s'.tables.orders) : Ledger t s' := by
  have hcopies := h.forall_processes hs.copies fun p hp _ _ hnext _ plan copy hplan hcopy => by
    rcases hnext.copy_of_copy hplan hcopy with ⟨hbefore, old, hold, hof⟩ | hprepared
    · obtain ⟨htoken, p₀, hp₀, hold⟩ := hs.copies p hp plan old hbefore hold
      exact ⟨hof.checkoutToken.trans htoken, p₀, hp₀, hof.trans hold⟩
    · obtain ⟨hmem, htoken⟩ := List.mem_filter.1 (Payment.mem_of_lastActive? hprepared.payment.symm)
      have htoken : copy.checkoutToken = some p.attempt.token := by simpa using htoken
      obtain ⟨p₀, hp₀, hplaced⟩ := hs.rows copy hmem
      exact ⟨hprepared.token ▸ htoken, p₀, hp₀, hplaced.copyOf_of_token htoken⟩
  obtain @⟨_, before, after, p, next, answer, h⟩ := h
  have hp : p ∈ before ++ p :: after := by simp
  obtain ⟨hrows_ids, hrows⟩ := hs.rows_after hids hp h (hheld p hp) horders
  exact ⟨hrows_ids, hrows, hcopies⟩

end Ledger

theorem ledger_run (hids : (t.payments.map (·.id)).Nodup) (hnew : t.NewIds attempts)
    (moves : List Move) : Ledger t ((opening t attempts).run moves) := by
  induction moves using List.reverseRecOn with
  | nil => exact ledger_opening t attempts
  | append_singleton moves m ih =>
    rw [run_append]
    rcases step_eq_or_steps ((opening t attempts).run moves) m with heq | hsteps
    · show Ledger t (step _ m)
      rwa [heq]
    · have horderly := ((orderly_opening hnew).run hnew moves).1
      exact ih.steps hids hsteps (hasHeld_run t attempts moves)
        (horderly.keeps hsteps).orders.subset

/-! ## Payments that have moved -/

/-- The copy of a payment that a move puts back. -/
def putBack? (s : Shop) (m : Move) : Option Payment :=
  s.processes[m.process]?.bind (·.stage.kept?)

/-- The copies of payments that the moves of a schedule put back. -/
def putBack (s : Shop) (moves : List Move) : List Payment := s.collect putBack? moves

theorem putBack_concat (s : Shop) (moves : List Move) (m : Move) :
    s.putBack (moves ++ [m]) = s.putBack moves ++ ((s.run moves).putBack? m).toList :=
  s.collect_concat putBack? moves m

variable {m : Move}

/-- A copy that a move puts back is in the table afterwards. -/
theorem mem_step_of_putBack? (hheld : s.HasHeld) {kept : Payment} (h : s.putBack? m = some kept) :
    kept ∈ (s.step m).tables.payments := by
  obtain ⟨p, hp, hkept⟩ := Option.bind_eq_some_iff.1 h
  obtain ⟨next, hnext, -, htables⟩ := getElem?_step hp
  rcases hnext.created_or_keeps (hheld p (List.mem_of_getElem? hp)) with
    ⟨plan, settled, c, hstage, -⟩ | ⟨-, hpayments⟩
  · rw [hstage] at hkept
    cases hkept
  · rw [htables, hpayments, hkept]
    exact mem_upsert_self _ _

namespace Ledger

/-- What a move puts back is a copy of a payment that was with a checkout at the start. -/
theorem copyOf_of_putBack? (hs : Ledger t s) {kept : Payment} (h : s.putBack? m = some kept) :
    ∃ p₀ ∈ t.payments, kept.CopyOf p₀ ∧ p₀.checkoutToken.isSome := by
  obtain ⟨p, hp, hkept⟩ := Option.bind_eq_some_iff.1 h
  obtain ⟨plan, hplan, hcopy⟩ := Stage.plan?_of_kept? hkept
  obtain ⟨htoken, p₀, hp₀, hof⟩ := hs.copies p (List.mem_of_getElem? hp) plan kept hplan hcopy
  exact ⟨p₀, hp₀, hof, by rw [← hof.checkoutToken, htoken]; rfl⟩

/-- Where its checkout has an order, a payment stays as it is, unless a copy of it is put back. -/
theorem mem_step (hs : Ledger t s) (hids : (t.payments.map (·.id)).Nodup)
    (hheld : s.HasHeld) {r : Payment} (hr : r ∈ s.tables.payments)
    (hordered : ∀ token, r.checkoutToken = some token → (s.tables.orderOf? token).isSome)
    (hother : ∀ kept, s.putBack? m = some kept → kept.id ≠ r.id) :
    r ∈ (s.step m).tables.payments := by
  cases hp : s.processes[m.process]? with
  | none =>
    rw [step, hp]
    exact hr
  | some p =>
    have hmem := List.mem_of_getElem? hp
    obtain ⟨next, hnext, -, htables⟩ := getElem?_step hp
    rw [putBack?, hp, Option.bind_some] at hother
    rw [htables]
    rcases hnext.created_or_keeps (hheld p hmem) with ⟨plan, settled, c, hstage, hcreates, hnext⟩ |
      ⟨-, hpayments⟩
    · have hattached := hs.attached hids hmem hstage hcreates.first
      have htoken : r.checkoutToken ≠ some plan.snapshot.checkout.token := by
        intro htoken
        have hfound := hordered _ htoken
        rw [hcreates.first] at hfound
        cases hfound
      rw [hnext]
      show r ∈ c.payments
      rw [hcreates.payments_eq_map (hs.nodup hids) hattached]
      exact List.mem_map.2 ⟨r, hr, if_neg htoken⟩
    · rw [hpayments]
      cases hkept : p.stage.kept? with
      | none => exact hr
      | some kept => exact mem_upsert_of_ne hr (hother kept hkept).symm

end Ledger

/-- What has become of a payment `p` that belongs to an order since the state `s`: it is as it was,
or a copy of it that belongs to no order has been put in its place. -/
def Follows (s : Shop) (later : List Move) (p : Payment) : Prop :=
  ((∀ kept ∈ s.putBack later, kept.id ≠ p.id) → p ∈ (s.run later).tables.payments) ∧
    ((∃ kept ∈ s.putBack later, kept.id = p.id) →
      ∃ r ∈ (s.run later).tables.payments, r.id = p.id ∧ r.orderId = none)

/-- Where a payment belongs to an order, the checkout that it was with has an order from then on. -/
theorem ordered_run (hids : (t.payments.map (·.id)).Nodup) (hnew : t.NewIds attempts)
    (hfree : ∀ p ∈ t.payments, p.orderId.isSome → p.checkoutToken = none) (before later : List Move)
    {p : Payment} (hp : p ∈ ((opening t attempts).run before).tables.payments)
    (horder : p.orderId.isSome) :
    ∀ r ∈ ((opening t attempts).run (before ++ later)).tables.payments, r.id = p.id →
      ∀ token, r.checkoutToken = some token →
        (((opening t attempts).run (before ++ later)).tables.orderOf? token).isSome := by
  intro r hr hid token htoken
  have horderly := ((orderly_opening hnew).run hnew before).1
  have hkept := (horderly.run hnew later).2.orders.subset
  rw [← run_append] at hkept
  obtain ⟨p₀, hp₀, hplaced⟩ := (ledger_run hids hnew (before ++ later)).rows r hr
  have htoken₀ : p₀.checkoutToken = some token :=
    (hplaced.copyOf_of_token htoken).checkoutToken.symm.trans htoken
  cases (ledger_run hids hnew before).placed hids hp₀ hp (hid.symm.trans hplaced.id) with
  | attached h =>
    -- it was with the order at the start, and so with no checkout
    rw [hfree p₀ hp₀ (h.orderId ▸ horder)] at htoken₀
    cases htoken₀
  | moved ho hordered hfrom =>
    exact Tables.orderOf?_isSome (hkept ho) (hordered.trans (hfrom.symm.trans htoken₀))

theorem follows_run (hids : (t.payments.map (·.id)).Nodup) (hnew : t.NewIds attempts)
    (hfree : ∀ p ∈ t.payments, p.orderId.isSome → p.checkoutToken = none) (before later : List Move)
    {p : Payment} (hp : p ∈ ((opening t attempts).run before).tables.payments)
    (horder : p.orderId.isSome) : Follows ((opening t attempts).run before) later p := by
  induction later using List.reverseRecOn with
  | nil => exact ⟨fun _ => hp, fun ⟨_, hkept, _⟩ => nomatch hkept⟩
  | append_singleton later m ih =>
    have hordered := ordered_run hids hnew hfree before later hp horder
    have hledger := ledger_run hids hnew (before ++ later)
    have hheld := hasHeld_run t attempts (before ++ later)
    rw [run_append] at hordered hledger hheld
    unfold Follows at ih ⊢
    rw [putBack_concat, run_append]
    generalize ((opening t attempts).run before).run later = s at ih hordered hledger hheld ⊢
    refine ⟨fun hnone => ?_, fun ⟨kept, hkept, hid⟩ => ?_⟩
    · have hbefore := ih.1 fun kept hkept => hnone kept (List.mem_append_left _ hkept)
      exact hledger.mem_step hids hheld hbefore (hordered p hbefore rfl) fun kept hkept =>
        hnone kept (List.mem_append_right _ (Option.mem_toList.2 hkept))
    · by_cases hlast : ∃ kept, s.putBack? m = some kept ∧ kept.id = p.id
      · -- what is put back was with a checkout, and so with no order
        obtain ⟨kept, hkept, hid⟩ := hlast
        obtain ⟨p₀, hp₀, hcopy, htoken⟩ := hledger.copyOf_of_putBack? hkept
        have hnone : p₀.orderId = none := Option.not_isSome_iff_eq_none.1 fun hsome => by
          rw [hfree p₀ hp₀ hsome] at htoken
          cases htoken
        exact ⟨kept, mem_step_of_putBack? hheld hkept, hid, hcopy.orderId.trans hnone⟩
      · have hbefore : kept ∈ ((opening t attempts).run before).putBack later :=
          (List.mem_append.1 hkept).resolve_right fun hk =>
            hlast ⟨kept, Option.mem_toList.1 hk, hid⟩
        obtain ⟨r, hr, hr_id, hr_order⟩ := ih.2 ⟨kept, hbefore, hid⟩
        refine ⟨r, hledger.mem_step hids hheld hr (hordered r hr hr_id) fun kept' hk' heq => ?_,
          hr_id, hr_order⟩
        exact hlast ⟨kept', hk', heq.trans hr_id⟩

/-- **A payment stays with its order** exactly as long as no copy of it is put back, whatever the
attempts do in which order. -/
theorem moved_stays_iff (t : Tables) (attempts : List Attempt) (before later : List Move)
    (p : Payment) (o : OrderId) (hids : (t.payments.map (·.id)).Nodup) (hnew : t.NewIds attempts)
    (hfree : ∀ p ∈ t.payments, p.orderId.isSome → p.checkoutToken = none)
    (hp : p ∈ ((opening t attempts).run before).tables.payments) (horder : p.orderId = some o) :
    p.StaysWith o ((opening t attempts).run (before ++ later)).tables ↔
      ∀ kept ∈ ((opening t attempts).run before).putBack later, kept.id ≠ p.id := by
  have hfollows := follows_run hids hnew hfree before later hp (by rw [horder]; rfl)
  unfold Follows at hfollows
  rw [← run_append] at hfollows
  obtain ⟨hstays, hlost⟩ := hfollows
  constructor
  · rintro ⟨p', hp', hid, horder', -⟩ kept hkept heq
    obtain ⟨r, hr, hr_id, hr_order⟩ := hlost ⟨kept, hkept, heq⟩
    have hnodup := (ledger_run hids hnew (before ++ later)).nodup hids
    obtain rfl := List.inj_on_of_nodup_map hnodup hr hp' (hr_id.trans hid.symm)
    rw [hr_order] at horder'
    cases horder'
  · intro hnone
    refine ⟨p, hstays hnone, rfl, horder, ?_, Int.le_refl _⟩
    obtain ⟨p₀, hp₀, hplaced⟩ := (ledger_run hids hnew before).rows p hp
    cases hplaced with
    | attached h =>
      exact h.checkoutToken.trans (hfree p₀ hp₀ (by rw [← h.orderId, horder]; rfl))
    | moved _ _ _ _ hgone => exact hgone

/-- The payment of the first of two buyers stays with the order, which the second is answered with
after being charged as well. -/
theorem moved_stays_iff_bookshop :
    (Bookshop.tables.payments.map (·.id)).Nodup ∧
      Bookshop.tables.NewIds [Bookshop.attempt 1, Bookshop.attempt 2] ∧
      (∀ p ∈ Bookshop.tables.payments, p.orderId.isSome → p.checkoutToken = none) ∧
      ∃ p ∈ ((opening Bookshop.tables [Bookshop.attempt 1, Bookshop.attempt 2]).run
          (Bookshop.race.take 5)).tables.payments,
        p.orderId = some ⟨⟨1⟩⟩ ∧ p.StaysWith ⟨⟨1⟩⟩
          ((opening Bookshop.tables [Bookshop.attempt 1, Bookshop.attempt 2]).run
            (Bookshop.race.take 5 ++ Bookshop.race.drop 5)).tables := by
  have hids : (Bookshop.tables.payments.map (·.id)).Nodup := by decide
  have hfree : ∀ p ∈ Bookshop.tables.payments, p.orderId.isSome → p.checkoutToken = none := by
    decide
  obtain ⟨p, hp, horder⟩ : ∃ p ∈ ((opening Bookshop.tables
      [Bookshop.attempt 1, Bookshop.attempt 2]).run (Bookshop.race.take 5)).tables.payments,
      p.orderId = some ⟨⟨1⟩⟩ := by decide +kernel
  have hnone : ((opening Bookshop.tables [Bookshop.attempt 1, Bookshop.attempt 2]).run
      (Bookshop.race.take 5)).putBack (Bookshop.race.drop 5) = [] := by decide +kernel
  refine ⟨hids, Bookshop.newIds, hfree, p, hp, horder, ?_⟩
  exact (moved_stays_iff Bookshop.tables [Bookshop.attempt 1, Bookshop.attempt 2]
    (Bookshop.race.take 5) (Bookshop.race.drop 5) p ⟨⟨1⟩⟩ hids Bookshop.newIds hfree hp horder).2
    fun kept hkept => nomatch hnone ▸ hkept

/-- **A payment may be taken from its order**: it belongs to one, and some moves later it does not
any more. -/
def Loses (t : Tables) (attempts : List Attempt) (before later : List Move) : Prop :=
  (t.payments.map (·.id)).Nodup ∧ t.NewIds attempts ∧
    (∀ p ∈ t.payments, p.orderId.isSome → p.checkoutToken = none) ∧
    ∃ p ∈ ((opening t attempts).run before).tables.payments, ∃ o, p.orderId = some o ∧
      ¬p.StaysWith o ((opening t attempts).run (before ++ later)).tables

/-- The bank captures the price for the first buyer, who has bought the copy by the time that the
second buyer, who is asked to act first, puts the payment back. -/
theorem loses_bookshop :
    Loses Bookshop.tables [Bookshop.attempt 1, Bookshop.attempt 2]
      (Bookshop.race.take 3 ++
        [⟨1, .ok (Bookshop.response true)⟩, ⟨0, .ok (Bookshop.response true)⟩])
      [⟨1, .ok (Bookshop.response true)⟩] := by
  refine ⟨by decide, Bookshop.newIds, by decide, ?_⟩
  decide +kernel

end Shop

end Storefront
