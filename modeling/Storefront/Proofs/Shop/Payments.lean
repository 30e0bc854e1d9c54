import Storefront.Proofs.Completion.Payments
import Storefront.Proofs.Shop.Schedule

/-!
# What becomes of captured money

A gateway cannot be rolled back. Once it has settled a payment, the attempt has to end with an order
that has the payment, or to ask for the payment to be given back. Two ways out do neither: where
what the gateway has done cannot be recorded, and where another attempt has created the order.

* `Process.Fate`: what may have become of an attempt since its payment was settled.
* `Shop.settled_accounted`: the money is accounted for, but for those two ways out.
* `Shop.strands_bookshop`: both of them are taken.
-/

namespace Storefront

def GatewayCall.isRefund : GatewayCall → Bool
  | .refundOrVoid .. => true
  | .process .. | .confirm .. => false

namespace Process

/-- The process has not asked for any payment to be given back. -/
def Quiet (p : Process) : Prop := ∀ call ∈ p.calls, call.isRefund = false

/-- The process has asked for a payment to be given back. -/
def Refunds (p : Process) (id : PaymentId) : Prop :=
  ∃ payment slug, .refundOrVoid payment slug ∈ p.calls ∧ payment.id = id

/-- The process has ended with an order that it has created itself, and when it did the payment was
stored with the order. -/
def Keeps (p : Process) (s : Shop) (moves : List Move) (payment : Payment) : Prop :=
  ∃ order, p.created = [order] ∧ p.stage = .finished (.ok (.completed order)) ∧
    ∃ earlier, earlier <+: moves ∧ order ∈ (s.run earlier).tables.orders ∧
      { payment with checkoutToken := none, orderId := some order.id } ∈
        (s.run earlier).tables.payments

/-- The money of a payment is accounted for: the process has kept the payment as it was settled, or
has asked for it to be given back. -/
def AccountsFor (p : Process) (s : Shop) (moves : List Move) (payment : Payment)
    (response : GatewayResponse) : Prop :=
  (∃ settled, payment.apply response = .ok settled ∧ p.Keeps s moves settled) ∨
    p.Refunds payment.id

/-- The process fails, and has only a use of a voucher to give back. -/
def Fails (p : Process) : Prop :=
  ∃ e, p.stage = .finished (.error e) ∨ ∃ plan, p.stage = .releasing plan none (.error e)

/-- What may have become of a process that had asked for a payment to be settled, by the moves
since the answer. -/
inductive Fate (s : Shop) (plan : OrderPlan) (payment : Payment) (response : GatewayResponse)
    (moves : List Move) (p : Process) : Prop where
  /-- The order is still to be created. -/
  | waiting {settled : Payment} (hsettled : payment.apply response = .ok settled)
      (hstage : p.stage = .ordering plan (some ⟨settled, response.customerId⟩))
      (hcreated : p.created = []) (hquiet : p.Quiet)
  | kept {settled : Payment} (hsettled : payment.apply response = .ok settled)
      (hkeeps : p.Keeps s moves settled)
  | refunded {settled : Payment} (hsettled : payment.apply response = .ok settled)
      (hrefund : .refundOrVoid settled plan.snapshot.channel.slug ∈ p.calls)
      (hfails : p.Fails)
  /-- The order is one that another attempt has created. -/
  | found {settled : Payment} {order : Order} (hsettled : payment.apply response = .ok settled)
      (hstage : p.stage = .finished (.ok (.completed order))) (hcreated : p.created = [])
      (hquiet : p.Quiet)
  | unrecorded {e : Error} (hsettled : payment.apply response = .error e) (hfails : p.Fails)
      (hquiet : p.Quiet)

variable {p : Process} {next : Progress} {t : Tables} {s : Shop} {m : Move}
  {answer : Payment → Except Error GatewayResponse} {plan : OrderPlan} {payment : Payment}
  {response : GatewayResponse} {moves : List Move}

theorem Quiet.after (h : p.Quiet) (hcalls : next.calls = []) : (p.after next).Quiet := by
  intro call hcall
  rw [Process.after, hcalls, List.append_nil] at hcall
  exact h call hcall

theorem Quiet.not_refunds (h : p.Quiet) {id : PaymentId} : ¬p.Refunds id := fun ⟨_, _, hcall, _⟩ => by
  cases h _ hcall

/-- Without an order of its own a process has to ask for the money to be given back. -/
theorem Quiet.not_accountsFor (h : p.Quiet) (hcreated : p.created = []) :
    ¬p.AccountsFor s moves payment response := by
  rintro (⟨_, -, order, hown, -⟩ | hrefunds)
  · rw [hcreated] at hown
    cases hown
  · exact h.not_refunds hrefunds

/-- A process that fails goes on to fail, and does nothing else. -/
theorem Fails.after (h : p.Fails) (hnext : p.attempt.Advances answer t p.stage next) :
    (p.after next).Fails ∧ next.calls = [] := by
  obtain ⟨e, hstage | ⟨plan, hstage⟩⟩ := h
  · rw [hstage] at hnext
    cases hnext
    exact ⟨⟨e, .inl rfl⟩, rfl⟩
  · rw [hstage] at hnext
    cases hnext with
    | released => exact ⟨⟨e, .inl rfl⟩, rfl⟩
    | stranded => exact ⟨⟨_, .inl rfl⟩, rfl⟩

/-- What is kept stays kept. -/
theorem Keeps.append (h : p.Keeps s moves payment) (more : List Move) :
    p.Keeps s (moves ++ more) payment := by
  obtain ⟨order, hcreated, hstage, earlier, hearlier, hstored⟩ := h
  exact ⟨order, hcreated, hstage, earlier, hearlier.trans (List.prefix_append _ _), hstored⟩

namespace Fate

theorem waits (h : p.Fate s plan payment response moves) :
    p.Fate s plan payment response (moves ++ [m]) := by
  cases h with
  | waiting hsettled hstage hcreated hquiet => exact .waiting hsettled hstage hcreated hquiet
  | kept hsettled hkeeps => exact .kept hsettled (hkeeps.append _)
  | refunded hsettled hrefund hfails => exact .refunded hsettled hrefund hfails
  | found hsettled hstage hcreated hquiet => exact .found hsettled hstage hcreated hquiet
  | unrecorded hsettled hfails hquiet => exact .unrecorded hsettled hfails hquiet

/-- **One stage decides it.** The order is created with the payment, or the payment is given back
because it could not be created, or there was an order before. -/
theorem goes (h : p.Fate s plan payment response moves)
    (hids : ((s.run moves).tables.payments.map (·.id)).Nodup)
    (htoken : payment.checkoutToken = some plan.snapshot.checkout.token)
    (hnext : p.attempt.Advances answer (s.run moves).tables p.stage next)
    (htables : (s.run (moves ++ [m])).tables = next.tables) :
    (p.after next).Fate s plan payment response (moves ++ [m]) := by
  cases h with
  | waiting hsettled hstage hcreated hquiet =>
    rw [hstage] at hnext
    cases hnext with
    | found =>
      exact .found hsettled rfl (by rw [created_after_of_silent _ rfl, hcreated])
        (hquiet.after rfl)
    | @created _ _ c hcreates =>
      have hpaid := (Payment.of_apply hsettled).2.1.trans htoken
      refine .kept hsettled ⟨c.order, ?_, rfl, _, List.prefix_rfl, ?_, ?_⟩
      · rw [created_after, hcreated, Creation.created_events]
        rfl
      · rw [htables]
        exact mem_upsert_self _ _
      · rw [htables]
        exact hcreates.settled_stored hids hpaid
    | failed =>
      exact .refunded hsettled (List.mem_append_right _ List.mem_cons_self) ⟨_, .inr ⟨_, rfl⟩⟩
  | kept hsettled hkeeps =>
    have hmore := hkeeps.append [m]
    obtain ⟨order, hcreated, hstage, hstored⟩ := hmore
    rw [hstage] at hnext
    cases hnext
    exact .kept hsettled ⟨order, (created_after_of_silent _ rfl).trans hcreated, rfl, hstored⟩
  | refunded hsettled hrefund hfails =>
    exact .refunded hsettled (List.mem_append_left _ hrefund) (hfails.after hnext).1
  | found hsettled hstage hcreated hquiet =>
    rw [hstage] at hnext
    cases hnext
    exact .found hsettled rfl (by rw [created_after_of_silent _ rfl, hcreated]) (hquiet.after rfl)
  | unrecorded hsettled hfails hquiet =>
    obtain ⟨hfails', hcalls⟩ := hfails.after hnext
    exact .unrecorded hsettled hfails' (hquiet.after hcalls)

/-- The fate of a process that has come to an end. -/
theorem accounted (h : p.Fate s plan payment response moves)
    {outcome : Except Error Completion} (hend : p.stage = .finished outcome) :
    p.AccountsFor s moves payment response ↔
      (∃ settled, payment.apply response = .ok settled) ∧
        (p.created = [] → ∀ order, outcome ≠ .ok (.completed order)) := by
  cases h with
  | waiting _ hstage =>
    rw [hstage] at hend
    cases hend
  | kept hsettled hkeeps =>
    refine iff_of_true (.inl ⟨_, hsettled, hkeeps⟩) ⟨⟨_, hsettled⟩, fun hnone => ?_⟩
    obtain ⟨order, hcreated, -⟩ := hkeeps
    rw [hcreated] at hnone
    cases hnone
  | refunded hsettled hrefund hfails =>
    refine iff_of_true (.inr ⟨_, _, hrefund, Payment.id_of_apply hsettled⟩)
      ⟨⟨_, hsettled⟩, fun _ order hcompleted => ?_⟩
    obtain ⟨e, hstage | ⟨_, hstage⟩⟩ := hfails
    all_goals
      rw [hend] at hstage
      cases hstage
    cases hcompleted
  | found hsettled hstage hcreated hquiet =>
    exact iff_of_false (hquiet.not_accountsFor hcreated) fun hall =>
      hall.2 hcreated _ (Stage.finished.inj (hend.symm.trans hstage))
  | unrecorded hsettled hfails hquiet =>
    refine iff_of_false ?_ fun ⟨⟨_, hok⟩, _⟩ => ?_
    · rintro (⟨_, hok, -⟩ | hrefunds)
      · rw [hsettled] at hok
        cases hok
      · exact hquiet.not_refunds hrefunds
    · rw [hsettled] at hok
      cases hok

end Fate

/-- What is true of a process until its payment has been settled. -/
def Asks (p : Process) : Prop :=
  match p.stage with
  | .preparing => p.calls = []
  | .charging plan payment =>
    p.Quiet ∧ payment.checkoutToken = some plan.snapshot.checkout.token
  | .ordering .. | .releasing .. | .finished _ => True

theorem Asks.after (h : p.Asks) (hnext : p.attempt.Advances answer t p.stage next) :
    (p.after next).Asks := by
  obtain ⟨a, stage, events, calls⟩ := p
  dsimp only at hnext
  cases hnext with
  | charging hplan =>
    obtain rfl : calls = [] := h
    refine ⟨fun call hcall => ?_, ?_⟩
    · obtain rfl := List.mem_singleton.1 hcall
      unfold Attempt.chargeCall
      split <;> rfl
    · have hmem := Payment.mem_of_lastActive? hplan.payment.symm
      rw [hplan.token]
      simpa using (List.mem_filter.1 hmem).2
  | _ => trivial

end Process

/-! ## Whole runs -/

def Stage.isCharging : Stage → Bool
  | .charging .. => true
  | .preparing | .ordering .. | .releasing .. | .finished _ => false

def Stage.isFinished : Stage → Bool
  | .finished _ => true
  | .preparing | .charging .. | .ordering .. | .releasing .. => false

theorem Stage.eq_of_isCharging {stage : Stage} (h : stage.isCharging = true) :
    ∃ plan payment, stage = .charging plan payment := by
  cases stage with
  | charging plan payment => exact ⟨plan, payment, rfl⟩
  | _ => cases h

theorem Stage.eq_of_isFinished {stage : Stage} (h : stage.isFinished = true) :
    ∃ outcome, stage = .finished outcome := by
  cases stage with
  | finished outcome => exact ⟨outcome, rfl⟩
  | _ => cases h

/-- An attempt goes on, and the bank captures a unit of a currency if it is asked. -/
def Bookshop.captures (process : Nat) (currency : Currency) : Move :=
  ⟨process, .ok { response false with amount := ⟨1, currency⟩ }⟩

/-- Payments keep ids of their own. -/
theorem Attempt.Advances.nodup_payments {a : Attempt}
    {answer : Payment → Except Error GatewayResponse} {t : Tables} {stage : Stage}
    {next : Progress} (h : a.Advances answer t stage next)
    (hids : (t.payments.map (·.id)).Nodup) : (next.tables.payments.map (·.id)).Nodup := by
  cases h with
  | uncharged _ htakes | charging _ htakes =>
    cases htakes <;> exact hids
  | found _ hback => cases hback <;> exact hids
  | created hcreates => exact hcreates.nodup_payments hids
  | @released _ kept _ _ hback =>
    cases kept with
    | none => cases hback <;> exact hids
    | some payment => cases hback <;> exact nodup_upsert hids
  | rejected | answered | refused | unrecorded | halted | charged | failed | stranded | ended =>
    exact hids

namespace Shop

theorem nodup_payments_run {s : Shop} (hids : (s.tables.payments.map (·.id)).Nodup)
    (moves : List Move) : ((s.run moves).tables.payments.map (·.id)).Nodup :=
  run_induction (P := fun s => (s.tables.payments.map (·.id)).Nodup) hids
    (fun hs h => by
      obtain ⟨h⟩ := h
      exact h.nodup_payments hs) moves

theorem asks_run (t : Tables) (attempts : List Attempt) (moves : List Move) :
    ∀ p ∈ ((opening t attempts).run moves).processes, p.Asks :=
  run_induction (P := fun s => ∀ p ∈ s.processes, p.Asks) (forall_opening fun _ _ => rfl)
    (fun hs h => h.forall_processes hs fun p hp _ _ hnext _ => (hs p hp).after hnext) moves

/-- **Settled money is accounted for**, whatever the schedule: from the answer of the gateway `m`
on, an attempt that comes to an end has kept the payment with an order of its own or asked for it to
be given back, unless what the gateway did could not be recorded or the order was another's. In both
of these cases it has done neither. -/
theorem settled_accounted (t : Tables) (attempts : List Attempt) (before after : List Move)
    (m : Move) (p : Process) (plan : OrderPlan) (payment : Payment) (response : GatewayResponse)
    (hids : (t.payments.map (·.id)).Nodup)
    (hp : ((opening t attempts).run before).processes[m.process]? = some p)
    (hstage : p.stage = .charging plan payment) (hanswer : m.answer = .ok response)
    (hsuccess : response.isSuccess = true) (haction : response.actionRequired = false) :
    ∃ p', ((opening t attempts).run (before ++ m :: after)).processes[m.process]? = some p' ∧
      ∀ outcome, p'.stage = .finished outcome →
        (p'.AccountsFor (opening t attempts) (before ++ m :: after) payment response ↔
          (∃ settled, payment.apply response = .ok settled) ∧
            (p'.created = [] → ∀ order, outcome ≠ .ok (.completed order))) := by
  have hmem := List.mem_of_getElem? hp
  have hasks := asks_run t attempts before p hmem
  have hcreated : p.created = [] := by
    rcases answers_run t attempts before p hmem with hnone | ⟨_, -, hfinished⟩
    · exact hnone
    · rw [hstage] at hfinished
      cases hfinished
  rw [Process.Asks, hstage] at hasks
  obtain ⟨hquiet, htoken⟩ := hasks
  -- the answer is recorded, or it is not and the attempt fails
  obtain ⟨next, hnext, hprocess, -⟩ := getElem?_step hp
  have hfate : (p.after next).Fate (opening t attempts) plan payment response (before ++ [m]) := by
    have haccepted : Attempt.acceptResponse m.answer = .ok response := by
      rw [hanswer]
      exact if_pos hsuccess
    rw [hstage] at hnext
    cases hnext with
    | refused hresponse =>
      rw [haccepted] at hresponse
      cases hresponse
    | unrecorded hresponse hsettled =>
      obtain rfl := Except.ok.inj (haccepted.symm.trans hresponse)
      exact .unrecorded hsettled ⟨_, .inr ⟨_, rfl⟩⟩ (hquiet.after rfl)
    | halted hresponse _ hhalted =>
      obtain rfl := Except.ok.inj (haccepted.symm.trans hresponse)
      rw [haction] at hhalted
      cases hhalted
    | charged hresponse hsettled =>
      obtain rfl := Except.ok.inj (haccepted.symm.trans hresponse)
      exact .waiting hsettled rfl ((p.created_after_of_silent rfl).trans hcreated)
        (hquiet.after rfl)
  have hlast : (opening t attempts).run (before ++ [m]) = ((opening t attempts).run before).step m :=
    run_append _ before [m]
  rw [← hlast] at hprocess
  obtain ⟨p', hp', hfate'⟩ := run_process
    (P := fun since p' => p'.Fate (opening t attempts) plan payment response (before ++ [m] ++ since))
    hprocess (by rwa [List.append_nil]) (fun since m p' h => List.append_assoc .. ▸ h.waits)
    (fun since m' p' next' h hnext' htables => by
      rw [← run_append] at hnext' htables
      rw [← List.append_assoc] at htables ⊢
      exact h.goes (nodup_payments_run hids _) htoken hnext' htables) after
  rw [← run_append, ← List.append_cons] at hp'
  rw [← List.append_cons] at hfate'
  exact ⟨p', hp', fun outcome hend => hfate'.accounted hend⟩

/-- The buyer of the only copy has paid for it. -/
theorem settled_accounted_bookshop :
    (Bookshop.tables.payments.map (·.id)).Nodup ∧
      ∃ p plan payment,
        ((opening Bookshop.tables [Bookshop.attempt 1]).run [Bookshop.captures 0 .usd]).processes[0]? =
          some p ∧
        p.stage = .charging plan payment ∧ ∃ p',
          ((opening Bookshop.tables [Bookshop.attempt 1]).run [Bookshop.captures 0 .usd,
            Bookshop.captures 0 .usd, Bookshop.captures 0 .usd]).processes[0]? = some p' ∧
          ∀ outcome, p'.stage = .finished outcome →
            (p'.AccountsFor (opening Bookshop.tables [Bookshop.attempt 1]) [Bookshop.captures 0 .usd,
              Bookshop.captures 0 .usd, Bookshop.captures 0 .usd] payment (Bookshop.response false) ↔
            (∃ settled, payment.apply (Bookshop.response false) = .ok settled) ∧
              (p'.created = [] → ∀ order, outcome ≠ .ok (.completed order))) := by
  have hids : (Bookshop.tables.payments.map (·.id)).Nodup := by decide
  have hasked : ((opening Bookshop.tables [Bookshop.attempt 1]).run
      [Bookshop.captures 0 .usd]).processes[0]?.any (·.stage.isCharging) = true := by decide +kernel
  obtain ⟨p, hp, hcharging⟩ := (Option.any_eq_true _ _).1 hasked
  obtain ⟨plan, payment, hstage⟩ := Stage.eq_of_isCharging hcharging
  exact ⟨hids, p, plan, payment, hp, hstage,
    settled_accounted Bookshop.tables [Bookshop.attempt 1] [Bookshop.captures 0 .usd]
      [Bookshop.captures 0 .usd] (Bookshop.captures 0 .usd) p plan payment
      (Bookshop.response false) hids hp hstage rfl rfl rfl⟩

/-- **Settled money may be stranded**: an attempt that the gateway has answered with success comes to
an end, and its money is not accounted for. -/
def Strands (t : Tables) (attempts : List Attempt) (before : List Move) (m : Move)
    (after : List Move) : Prop :=
  ∃ p plan payment response p' outcome,
    ((opening t attempts).run before).processes[m.process]? = some p ∧
    p.stage = .charging plan payment ∧ m.answer = .ok response ∧ response.isSuccess = true ∧
    response.actionRequired = false ∧
    ((opening t attempts).run (before ++ m :: after)).processes[m.process]? = some p' ∧
    p'.stage = .finished outcome ∧
    ¬p'.AccountsFor (opening t attempts) (before ++ m :: after) payment response

theorem strands_of_silent {t : Tables} {attempts : List Attempt} {before after : List Move}
    {m : Move} {response : GatewayResponse} (hanswer : m.answer = .ok response)
    (hsuccess : response.isSuccess = true) (haction : response.actionRequired = false)
    (hasked : ((opening t attempts).run before).processes[m.process]?.any (·.stage.isCharging) =
      true)
    (hend : ((opening t attempts).run (before ++ m :: after)).processes[m.process]?.any (fun p =>
      p.stage.isFinished && p.created.isEmpty && p.calls.all (!·.isRefund)) = true) :
    Strands t attempts before m after := by
  obtain ⟨p, hp, hcharging⟩ := (Option.any_eq_true _ _).1 hasked
  obtain ⟨plan, payment, hstage⟩ := Stage.eq_of_isCharging hcharging
  obtain ⟨p', hp', hsilent⟩ := (Option.any_eq_true _ _).1 hend
  simp only [Bool.and_eq_true, List.isEmpty_iff, List.all_eq_true, Bool.not_eq_true'] at hsilent
  obtain ⟨⟨hfinished, hcreated⟩, hquiet⟩ := hsilent
  obtain ⟨outcome, houtcome⟩ := Stage.eq_of_isFinished hfinished
  exact ⟨p, plan, payment, response, p', outcome, hp, hstage, hanswer, hsuccess, haction, hp',
    houtcome, Process.Quiet.not_accountsFor hquiet hcreated⟩

/-- Both ways out strand the money of a buyer: the bank has captured another currency than that of
the payment, and another attempt has created the order in the meantime. -/
theorem strands_bookshop :
    Strands Bookshop.tables [Bookshop.attempt 1] [Bookshop.captures 0 .usd]
      (Bookshop.captures 0 .eur) [Bookshop.captures 0 .usd] ∧
    Strands Bookshop.tables [Bookshop.attempt 1, Bookshop.attempt 2] (Bookshop.race.take 3)
      (Bookshop.captures 1 .usd) (Bookshop.race.drop 4) :=
  ⟨strands_of_silent rfl rfl rfl (by decide +kernel) (by decide +kernel),
    strands_of_silent rfl rfl rfl (by decide +kernel) (by decide +kernel)⟩

end Shop

end Storefront
