import Mathlib.Data.List.Induction
import Storefront.Proofs.Completion.Step

/-!
# Many attempts at one store

A `Shop` is a store with the attempts at it. A `Move` lets one of the attempts go one stage further,
and says what the gateway answers if it is asked. Any list of moves is a schedule, so what holds
after all of them holds for every interleaving.

* `Shop.run`: the moves of a schedule one after the other.
* `Shop.Steps`: what one move may do, by the stages of `Attempt.Advances`.
* `Shop.collect`: what is noted about each of the moves of a schedule.
* `Shop.run_induction`: what each step keeps holds after every schedule.
* `Shop.run_process`: the same for one of the processes, with the states that have been gone
  through.
* `Shop.prepared_run`: where the plans come from that processes go on with.
* `Shop.Places`: a move that creates an order.
-/

namespace Storefront

/-- An attempt on its way, with what it has done so far. -/
structure Process where
  attempt : Attempt
  stage : Stage := .preparing
  events : List Event := []
  calls : List GatewayCall := []

namespace Process

/-- The process one stage later. -/
def after (p : Process) (next : Progress) : Process :=
  { p with
    stage := next.stage
    events := p.events ++ next.events
    calls := p.calls ++ next.calls }

/-- The orders that the process has created. -/
def created (p : Process) : List Order := p.events.filterMap Event.created?

theorem created_after (p : Process) (next : Progress) :
    (p.after next).created = p.created ++ next.events.filterMap Event.created? := by
  simp [created, after]

theorem created_after_of_silent (p : Process) {next : Progress} (h : next.events = []) :
    (p.after next).created = p.created := by
  rw [created_after, h]
  exact List.append_nil _

/-- A process has created no order, or has ended with the one it has created. -/
def Answers (p : Process) : Prop :=
  p.created = [] ∨
    ∃ order, p.created = [order] ∧ p.stage = .finished (.ok (.completed order))

variable {p : Process} {next : Progress} {t : Tables}
  {answer : Payment → Except Error GatewayResponse}

/-- Before it orders a process has created nothing. -/
theorem Answers.created_of_ordering (hp : p.Answers) {plan : OrderPlan}
    {settled : Option SettledPayment} (hstage : p.stage = .ordering plan settled) :
    p.created = [] := by
  rcases hp with hnone | ⟨order, -, hfinished⟩
  · exact hnone
  · rw [hstage] at hfinished
    cases hfinished

theorem Answers.after (hp : p.Answers) (h : p.attempt.Advances answer t p.stage next) :
    (p.after next).Answers := by
  rcases h.created_or_sameGoods with ⟨plan, settled, c, hstage, -, rfl⟩ | ⟨-, hevents⟩
  · refine .inr ⟨c.order, ?_, rfl⟩
    rw [created_after, hp.created_of_ordering hstage, Creation.created_events]
    rfl
  · have hcreated := p.created_after_of_silent hevents
    rcases hp with hnone | ⟨order, horder, hstage⟩
    · exact .inl (hcreated.trans hnone)
    · rw [hstage] at h
      cases h
      exact .inr ⟨order, hcreated.trans horder, rfl⟩

end Process

structure Shop where
  tables : Tables
  processes : List Process

/-- The number of a process that goes on, and what the gateway answers. -/
structure Move where
  process : Nat
  answer : Except Error GatewayResponse

namespace Shop

/-- A store before any of the attempts has begun. -/
def opening (t : Tables) (attempts : List Attempt) : Shop where
  tables := t
  processes := attempts.map fun attempt => { attempt }

/-- Takes a process one stage further. -/
def step (s : Shop) (m : Move) : Shop :=
  match s.processes[m.process]? with
  | some p =>
    let next := p.attempt.advance (fun _ t => (m.answer, t)) p.stage s.tables
    { tables := next.tables, processes := s.processes.set m.process (p.after next) }
  | none => s

def run (s : Shop) (moves : List Move) : Shop := moves.foldl step s

/-- The orders created so far. -/
def created (s : Shop) : List Order := s.processes.flatMap (·.created)

/-- What holds of every attempt before it begins. -/
theorem forall_opening {t : Tables} {attempts : List Attempt} {Q : Process → Prop}
    (h : ∀ a ∈ attempts, Q { attempt := a }) : ∀ p ∈ (opening t attempts).processes, Q p :=
  List.forall_mem_map.2 h

theorem created_opening (t : Tables) (attempts : List Attempt) :
    (opening t attempts).created = [] :=
  List.flatMap_eq_nil_iff.2 (forall_opening fun _ _ => rfl)

/-! ## Steps -/

/-- `Steps s s'`: one of the processes of `s` has gone one stage further in `s'`. -/
inductive Steps : Shop → Shop → Prop where
  | go {t : Tables} {before after : List Process} {p : Process} {next : Progress}
      {answer : Payment → Except Error GatewayResponse}
      (h : p.attempt.Advances answer t p.stage next) :
      Steps ⟨t, before ++ p :: after⟩ ⟨next.tables, before ++ p.after next :: after⟩

/-- The processes after a step are those before, but for the one that has gone on. -/
theorem Steps.forall_processes {s s' : Shop} {Q : Process → Prop} (h : Steps s s')
    (others : ∀ p ∈ s.processes, Q p)
    (moved : ∀ p ∈ s.processes, ∀ next answer, p.attempt.Advances answer s.tables p.stage next →
      s'.tables = next.tables → Q (p.after next)) : ∀ p ∈ s'.processes, Q p := by
  obtain ⟨h⟩ := h
  obtain ⟨hbefore, hrest⟩ := List.forall_mem_append.1 others
  obtain ⟨-, hafter⟩ := List.forall_mem_cons.1 hrest
  exact List.forall_mem_append.2
    ⟨hbefore, List.forall_mem_cons.2 ⟨moved _ (by simp) _ _ h rfl, hafter⟩⟩

/-- What a step adds to the orders created so far. -/
theorem created_perm (t t' : Tables) (before after : List Process) (p : Process)
    (next : Progress) :
    (created ⟨t', before ++ p.after next :: after⟩).Perm
      (created ⟨t, before ++ p :: after⟩ ++ next.events.filterMap Event.created?) := by
  simp only [created, List.flatMap_append, List.flatMap_cons, Process.created_after,
    List.append_assoc]
  exact ((List.perm_append_comm.append_left _).append_left _)

theorem Steps.attempts {s s' : Shop} (h : Steps s s') :
    s'.processes.map (·.attempt) = s.processes.map (·.attempt) := by
  obtain ⟨h⟩ := h
  simp [Process.after]

/-- A step that creates no order sells nothing. -/
theorem Steps.created_or_sameGoods {s s' : Shop} (h : Steps s s') :
    (∃ a plan settled c, Attempt.Creates a plan settled s.tables c ∧
      s'.tables = c.tables plan s.tables) ∨ s.tables.SameGoods s'.tables := by
  obtain ⟨h⟩ := h
  rcases h.created_or_sameGoods with ⟨plan, settled, c, -, hcreates, rfl⟩ | ⟨hsame, -⟩
  · exact .inl ⟨_, plan, settled, c, hcreates, rfl⟩
  · exact .inr hsame

/-- A move lets the process that it names go on. -/
theorem step_of_split {t : Tables} {before after : List Process} {p : Process} {m : Move}
    (hm : m.process = before.length) :
    (step ⟨t, before ++ p :: after⟩ m) =
      let next := p.attempt.advance (fun _ t => (m.answer, t)) p.stage t
      ⟨next.tables, before ++ p.after next :: after⟩ := by
  simp [step, hm]

theorem split_of_getElem? {s : Shop} {i : Nat} {p : Process} (h : s.processes[i]? = some p) :
    ∃ before after, s = ⟨s.tables, before ++ p :: after⟩ ∧ i = before.length := by
  obtain ⟨hi, rfl⟩ := List.getElem?_eq_some_iff.1 h
  refine ⟨s.processes.take i, s.processes.drop (i + 1), ?_, by simp; omega⟩
  rw [List.getElem_cons_drop, List.take_append_drop]

theorem step_eq_or_steps (s : Shop) (m : Move) : s.step m = s ∨ Steps s (s.step m) := by
  cases hp : s.processes[m.process]? with
  | none => exact .inl (by rw [step, hp])
  | some p =>
    obtain ⟨before, after, hs, hi⟩ := split_of_getElem? hp
    rw [hs, step_of_split hi]
    exact .inr (.go (p.attempt.advances (fun _ => m.answer) p.stage s.tables))

/-- **What every step keeps holds after every schedule.** -/
theorem run_induction {P : Shop → Prop} {s : Shop} (start : P s)
    (keeps : ∀ {s s'}, P s → Steps s s' → P s') (moves : List Move) : P (s.run moves) := by
  induction moves generalizing s with
  | nil => exact start
  | cons m rest ih =>
    rcases step_eq_or_steps s m with heq | hsteps
    · exact ih (heq.symm ▸ start)
    · exact ih (keeps start hsteps)

/-- The process that a move names goes one stage further. -/
theorem getElem?_step {s : Shop} {m : Move} {p : Process}
    (hp : s.processes[m.process]? = some p) :
    ∃ next, p.attempt.Advances (fun _ => m.answer) s.tables p.stage next ∧
      (s.step m).processes[m.process]? = some (p.after next) ∧
      (s.step m).tables = next.tables := by
  obtain ⟨before, after, hs, hi⟩ := split_of_getElem? hp
  have hstep : step ⟨s.tables, before ++ p :: after⟩ m = _ := step_of_split hi
  rw [← hs] at hstep
  refine ⟨_, p.attempt.advances (fun _ => m.answer) p.stage s.tables, ?_, hstep ▸ rfl⟩
  rw [hstep]
  simp [hi]

/-- A move changes no other process. -/
theorem getElem?_step_of_ne {s : Shop} {m : Move} {i : Nat} (h : m.process ≠ i) :
    (s.step m).processes[i]? = s.processes[i]? := by
  unfold step
  split
  · exact List.getElem?_set_ne h
  · rfl

theorem run_append (s : Shop) (moves moves' : List Move) :
    s.run (moves ++ moves') = (s.run moves).run moves' :=
  List.foldl_append

/-- What is to be noted about the moves of a schedule, one after the other. -/
def collect {α : Type} (note : Shop → Move → Option α) (s : Shop) : List Move → List α
  | [] => []
  | m :: rest => (note s m).toList ++ (s.step m).collect note rest

theorem collect_concat {α : Type} (note : Shop → Move → Option α) (s : Shop) (moves : List Move)
    (m : Move) :
    s.collect note (moves ++ [m]) = s.collect note moves ++ (note (s.run moves) m).toList := by
  induction moves generalizing s with
  | nil => exact List.append_nil _
  | cons first rest ih =>
    rw [List.cons_append, collect, ih, ← List.append_assoc]
    rfl

/-- **The way of one process**, while others move in between. What is claimed of the process may
speak of the moves so far, and so of each state that they have gone through. -/
theorem run_process {P : List Move → Process → Prop} {s : Shop} {i : Nat} {p : Process}
    (hp : s.processes[i]? = some p) (start : P [] p)
    (waits : ∀ moves m p, P moves p → P (moves ++ [m]) p)
    (goes : ∀ moves m p next, P moves p →
      p.attempt.Advances (fun _ => m.answer) (s.run moves).tables p.stage next →
      (s.run (moves ++ [m])).tables = next.tables → P (moves ++ [m]) (p.after next))
    (moves : List Move) : ∃ p', (s.run moves).processes[i]? = some p' ∧ P moves p' := by
  induction moves using List.reverseRecOn with
  | nil => exact ⟨p, hp, start⟩
  | append_singleton moves m ih =>
    obtain ⟨p', hp', hP⟩ := ih
    have hlast : s.run (moves ++ [m]) = (s.run moves).step m := run_append s moves [m]
    by_cases hm : m.process = i
    · subst hm
      obtain ⟨next, hnext, hprocess, htables⟩ := getElem?_step hp'
      rw [← hlast] at hprocess htables
      exact ⟨p'.after next, hprocess, goes moves m p' next hP hnext htables⟩
    · exact ⟨p', by rw [hlast, getElem?_step_of_ne hm, hp'], waits moves m p' hP⟩

theorem attempts_run (s : Shop) (moves : List Move) :
    (s.run moves).processes.map (·.attempt) = s.processes.map (·.attempt) :=
  run_induction (P := fun s' => s'.processes.map (·.attempt) = s.processes.map (·.attempt)) rfl
    (fun hs h => h.attempts.trans hs) moves

/-- The same for all of the processes. -/
theorem run_processes {P : List Move → Process → Prop} {s : Shop}
    (start : ∀ p ∈ s.processes, P [] p) (waits : ∀ moves m p, P moves p → P (moves ++ [m]) p)
    (goes : ∀ moves m p next, P moves p →
      p.attempt.Advances (fun _ => m.answer) (s.run moves).tables p.stage next →
      (s.run (moves ++ [m])).tables = next.tables → P (moves ++ [m]) (p.after next))
    (moves : List Move) : ∀ p ∈ (s.run moves).processes, P moves p := by
  intro p hp
  obtain ⟨i, hi, rfl⟩ := List.getElem_of_mem hp
  have hlength : (s.run moves).processes.length = s.processes.length := by
    simpa using congrArg List.length (attempts_run s moves)
  obtain ⟨p', hp', hP⟩ := run_process (List.getElem?_eq_getElem (hlength ▸ hi))
    (start _ (List.getElem_mem _)) waits goes moves
  rwa [Option.some.inj ((List.getElem?_eq_getElem hi).symm.trans hp')]

/-- What an attempt goes on with was prepared at some time before. -/
theorem prepared_run (t : Tables) (attempts : List Attempt) (moves : List Move) :
    ∀ p ∈ ((opening t attempts).run moves).processes, ∀ plan, p.stage.plan? = some plan →
      ∃ earlier payment, earlier <+: moves ∧
        p.attempt.Prepared ((opening t attempts).run earlier).tables plan payment := by
  refine run_processes (P := fun moves p => ∀ plan, p.stage.plan? = some plan →
    ∃ earlier payment, earlier <+: moves ∧
      p.attempt.Prepared ((opening t attempts).run earlier).tables plan payment)
    (forall_opening fun a _ plan hplan => nomatch hplan) ?_ ?_ moves
  · intro moves m p h plan hplan
    obtain ⟨earlier, payment, hearlier, hprepared⟩ := h plan hplan
    exact ⟨earlier, payment, hearlier.trans (List.prefix_append _ _), hprepared⟩
  · intro moves m p next h hnext _ plan hplan
    rcases hnext.plan_of_plan hplan with hbefore | ⟨payment, hprepared⟩
    · obtain ⟨earlier, payment, hearlier, hprepared⟩ := h plan hbefore
      exact ⟨earlier, payment, hearlier.trans (List.prefix_append _ _), hprepared⟩
    · exact ⟨moves, payment, List.prefix_append _ _, hprepared⟩

theorem answers_run (t : Tables) (attempts : List Attempt) (moves : List Move) :
    ∀ p ∈ ((opening t attempts).run moves).processes, p.Answers :=
  run_induction (P := fun s => ∀ p ∈ s.processes, p.Answers) (forall_opening fun _ _ => .inl rfl)
    (fun hs h => h.forall_processes hs fun p hp _ _ hnext _ => (hs p hp).after hnext) moves

/-! ## Creating an order -/

variable {s : Shop} {before : List Move} {m : Move} {p : Process} {plan : OrderPlan}
  {order : Order}

/-- The move `m` after the moves `before` lets the process `p` create the order of a plan. -/
structure Places (s : Shop) (before : List Move) (m : Move) (p : Process) (plan : OrderPlan)
    (order : Order) : Prop where
  process : (s.run before).processes[m.process]? = some p
  stage : ∃ settled, p.stage = .ordering plan settled
  created : ∃ p', (s.run (before ++ [m])).processes[m.process]? = some p' ∧
    p'.created = p.created ++ [order]

theorem Places.creates_of_stage (h : s.Places before m p plan order)
    {settled : Option SettledPayment} (hstage : p.stage = .ordering plan settled) :
    ∃ c, p.attempt.Creates plan settled (s.run before).tables c ∧ c.order = order ∧
      (s.run (before ++ [m])).tables = c.tables plan (s.run before).tables := by
  obtain ⟨p', hp', hcreated⟩ := h.created
  obtain ⟨next, hnext, hprocess, htables⟩ := getElem?_step h.process
  rw [run_append] at hp' ⊢
  obtain rfl := Option.some.inj (hprocess.symm.trans hp')
  rw [Process.created_after] at hcreated
  have horder := List.append_cancel_left hcreated
  rw [hstage] at hnext
  cases hnext with
  | found | failed => cases horder
  | created hcreates =>
    rw [Creation.created_events] at horder
    exact ⟨_, hcreates, List.head_eq_of_cons_eq horder, htables⟩

theorem Places.creates (h : s.Places before m p plan order) :
    ∃ settled c, p.attempt.Creates plan settled (s.run before).tables c ∧ c.order = order ∧
      (s.run (before ++ [m])).tables = c.tables plan (s.run before).tables := by
  obtain ⟨settled, hstage⟩ := h.stage
  exact ⟨settled, h.creates_of_stage hstage⟩

/-- An order that a move creates can be looked for among the processes. -/
theorem exists_places (s : Shop) (before : List Move) (m : Move) (Q : OrderPlan → Order → Prop)
    [∀ plan order, Decidable (Q plan order)]
    (h : ((s.run before).processes[m.process]?.any fun p =>
      match p.stage with
      | .ordering plan _ => (s.run (before ++ [m])).processes[m.process]?.any fun p' =>
        p'.created.any fun order => p'.created = p.created ++ [order] ∧ Q plan order
      | _ => false) = true) :
    ∃ p plan order, s.Places before m p plan order ∧ Q plan order := by
  obtain ⟨p, hp, h⟩ := (Option.any_eq_true _ _).1 h
  split at h
  · rename_i plan settled hstage
    obtain ⟨p', hp', h⟩ := (Option.any_eq_true _ _).1 h
    obtain ⟨order, -, h⟩ := List.any_eq_true.1 h
    obtain ⟨hcreated, hq⟩ := of_decide_eq_true h
    exact ⟨p, plan, order, ⟨hp, ⟨settled, hstage⟩, p', hp', hcreated⟩, hq⟩
  · cases h

end Shop

/-- Two attempts to buy the last copy go on in turn, and the bank captures the price for both. -/
def Bookshop.race : List Move :=
  [0, 1, 0, 1, 0, 1].map fun process => ⟨process, .ok (Bookshop.response false)⟩

end Storefront
