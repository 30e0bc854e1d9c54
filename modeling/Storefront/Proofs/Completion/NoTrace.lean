import Storefront.Proofs.Completion.Payments
import Storefront.Proofs.Completion.Step

/-!
# Attempts without an order leave no trace

The first transaction of an attempt is committed before the gateway is asked, so an attempt that
comes to nothing has to undo it. Run alone it leaves the tables as it has found them, but for a
payment that the customer has to act on.

* `Progress.Alone`: what holds at every stage of an attempt that runs alone. Up to the last
  transaction the tables are those at the start with the use of the voucher taken, and nothing has
  been announced.
* `Attempt.complete_traceless`: what this comes to at the end.
-/

namespace Storefront

namespace Attempt

variable {a : Attempt} {answer : Payment → Except Error GatewayResponse} {t : Tables}

/-- `a.Keeps answer t kept outcome`: the payment that an attempt without an order may keep, by its
outcome. -/
inductive Keeps (a : Attempt) (answer : Payment → Except Error GatewayResponse) (t : Tables) :
    Option Payment → Except Error Completion → Prop where
  | nothing {e : Error} : Keeps a answer t none (.error e)
  | settled {payment settled : Payment} {response : GatewayResponse}
      (hpayment : Payment.lastActive? (t.paymentsOf a.token) = some payment)
      (hresponse : acceptResponse (answer payment) = .ok response)
      (hsettled : payment.apply response = .ok settled) :
      Keeps a answer t (some settled) (.ok (.actionRequired response.actionRequiredData))

end Attempt

/-- Where an attempt may stand that has started from the tables `t` and runs alone. -/
def Progress.Alone (a : Attempt) (answer : Payment → Except Error GatewayResponse) (t : Tables)
    (p : Progress) : Prop :=
  match p.stage with
  | .preparing => p.tables = t ∧ p.events = []
  | .charging plan payment =>
    plan.Takes t p.tables ∧ p.events = [] ∧
      Payment.lastActive? (t.paymentsOf a.token) = some payment
  | .ordering plan _ => plan.Takes t p.tables ∧ p.events = []
  | .releasing plan kept outcome =>
    plan.Takes t p.tables ∧ p.events = [] ∧ a.Keeps answer t kept outcome
  | .finished outcome =>
    (∃ order, outcome = .ok (.completed order)) ∨
      ∃ kept, a.Keeps answer t kept outcome ∧ p.tables = OrderPlan.keep t kept ∧ p.events = []

namespace Progress.Alone

variable {a : Attempt} {answer : Payment → Except Error GatewayResponse} {t : Tables}

/-- **One stage keeps it.** Each way out of an attempt gives back exactly what was taken. -/
theorem advances {p next : Progress} (h : p.Alone a answer t)
    (hnext : a.Advances answer p.tables p.stage next) : (p.andThen next).Alone a answer t := by
  obtain ⟨stage, tables, events, calls⟩ := p
  dsimp only at hnext
  cases hnext with
  | rejected =>
    obtain ⟨rfl, rfl⟩ := h
    exact .inr ⟨none, .nothing, rfl, rfl⟩
  | answered hgone horder => exact .inl ⟨_, rfl⟩
  | uncharged hplan htakes =>
    obtain ⟨rfl, rfl⟩ := h
    exact ⟨htakes, rfl⟩
  | charging hplan htakes =>
    obtain ⟨rfl, rfl⟩ := h
    exact ⟨htakes, rfl, hplan.payment.symm⟩
  | refused | unrecorded =>
    obtain ⟨htakes, rfl, -⟩ := h
    exact ⟨htakes, rfl, .nothing⟩
  | halted hresponse hsettled =>
    obtain ⟨htakes, rfl, hpayment⟩ := h
    exact ⟨htakes, rfl, .settled hpayment hresponse hsettled⟩
  | charged =>
    obtain ⟨htakes, rfl, -⟩ := h
    exact ⟨htakes, rfl⟩
  | found => exact .inl ⟨_, rfl⟩
  | created => exact .inl ⟨_, rfl⟩
  | failed =>
    obtain ⟨htakes, rfl⟩ := h
    exact ⟨htakes, rfl, .nothing⟩
  | released hback =>
    obtain ⟨htakes, rfl, hkeeps⟩ := h
    obtain rfl := htakes.undo hback
    exact .inr ⟨_, hkeeps, rfl, rfl⟩
  | stranded hvoucher hgone =>
    -- the row of the voucher is there, since a use of it has been taken
    obtain ⟨htakes, -, -⟩ := h
    have hrow := htakes.voucher?_isSome hvoucher
    rw [hgone] at hrow
    cases hrow
  | ended =>
    rw [Progress.andThen]
    rcases h with hcompleted | ⟨kept, hkeeps, htables, hevents⟩
    · exact .inl hcompleted
    · exact .inr ⟨kept, hkeeps, htables, by simpa using hevents⟩

theorem run (n : Nat) {p : Progress} (h : p.Alone a answer t) :
    (a.run (fun payment t => (answer payment, t)) n p).Alone a answer t := by
  induction n generalizing p with
  | zero => exact h
  | succ n ih => exact ih (h.advances (a.advances answer p.stage p.tables))

end Progress.Alone

/-! ## Whole attempts -/

/-- What an attempt without an order leaves behind in the tables `t`. -/
structure Progress.Traceless (a : Attempt) (answer : Payment → Except Error GatewayResponse)
    (t : Tables) (p : Progress) : Prop where
  /-- A failure leaves nothing. -/
  failed : ∀ e, p.stage = .finished (.error e) → p.tables = t ∧ p.events = []
  /-- Where the customer has to act, the row of the payment is what the gateway has made of it, and
  all else is as it was. -/
  halted : ∀ data, p.stage = .finished (.ok (.actionRequired data)) →
    p.events = [] ∧ ∃ before payment after response settled,
      t.payments = before ++ payment :: after ∧
      Payment.lastActive? (t.paymentsOf a.token) = some payment ∧
      Attempt.acceptResponse (answer payment) = .ok response ∧
      payment.apply response = .ok settled ∧
      p.tables = { t with payments := before ++ settled :: after }

/-- Keeping a payment changes one row. -/
theorem OrderPlan.keep_of_split {t : Tables} {payment settled : Payment}
    {before after : List Payment} (hids : (t.payments.map (·.id)).Nodup)
    (hsplit : t.payments = before ++ payment :: after) (hid : settled.id = payment.id) :
    keep t (some settled) = { t with payments := before ++ settled :: after } := by
  rw [hsplit] at hids
  have hbefore : ∀ p ∈ before, p.id ≠ settled.id := fun p hp =>
    hid ▸ key_ne_of_split (k := Payment.id) hids p (List.mem_append_left _ hp)
  rw [keep, hsplit, upsert_of_split hbefore hid.symm]

theorem Progress.Alone.traceless {a : Attempt}
    {answer : Payment → Except Error GatewayResponse} {t : Tables} {p : Progress}
    (h : p.Alone a answer t) (hids : (t.payments.map (·.id)).Nodup) : p.Traceless a answer t where
  failed e hstage := by
    rw [Progress.Alone, hstage] at h
    rcases h with ⟨_, horder⟩ | ⟨kept, hkeeps, htables, hevents⟩
    · cases horder
    · cases hkeeps
      exact ⟨htables, hevents⟩
  halted data hstage := by
    rw [Progress.Alone, hstage] at h
    rcases h with ⟨_, horder⟩ | ⟨kept, hkeeps, htables, hevents⟩
    · cases horder
    · cases hkeeps with
      | settled hpayment hresponse hsettled =>
        have hmem := (List.mem_filter.1 (Payment.mem_of_lastActive? hpayment)).1
        obtain ⟨before, after, hsplit⟩ := List.append_of_mem hmem
        rw [OrderPlan.keep_of_split hids hsplit (Payment.id_of_apply hsettled)] at htables
        exact ⟨hevents, before, _, after, _, _, hsplit, hpayment, hresponse, hsettled, htables⟩

namespace Attempt

theorem finished_of_remaining {stage : Stage} (h : stage.remaining = 0) :
    ∃ outcome, stage = .finished outcome := by
  cases stage with
  | finished outcome => exact ⟨outcome, rfl⟩
  | _ => cases h

/-- **An attempt without an order leaves no trace**, whatever the gateway answers and wherever the
attempt fails. -/
theorem complete_traceless (a : Attempt) (answer : Payment → Except Error GatewayResponse)
    (t : Tables) (hids : (t.payments.map (·.id)).Nodup) :
    (∃ outcome,
      (a.complete (fun payment t => (answer payment, t)) t).stage = .finished outcome) ∧
      (a.complete (fun payment t => (answer payment, t)) t).Traceless a answer t := by
  have hstart : Progress.Alone a answer t { stage := .preparing, tables := t } := ⟨rfl, rfl⟩
  exact ⟨finished_of_remaining (a.remaining_complete _ t),
    (hstart.run Stage.preparing.remaining).traceless hids⟩

/-- Nothing is taken for a buyer who still has to act. -/
theorem complete_traceless_bookshop :
    (Bookshop.tables.payments.map (·.id)).Nodup ∧
      ((∃ outcome, ((Bookshop.attempt 1).complete
        (fun _ t => (.ok (Bookshop.response true), t)) Bookshop.tables).stage =
          .finished outcome) ∧
      ((Bookshop.attempt 1).complete
        (fun _ t => (.ok (Bookshop.response true), t)) Bookshop.tables).Traceless
          (Bookshop.attempt 1) (fun _ => .ok (Bookshop.response true)) Bookshop.tables) :=
  ⟨by decide, complete_traceless (Bookshop.attempt 1) (fun _ => .ok (Bookshop.response true))
    Bookshop.tables (by decide)⟩

end Attempt

end Storefront
