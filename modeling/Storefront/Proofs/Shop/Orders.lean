import Storefront.Proofs.Shop.Schedule

/-!
# A checkout becomes one order

Two attempts at one checkout may both be validated, and both be charged, before either creates the
order. The order is looked for once more in the transaction that creates it, so that the second
attempt answers with the order of the first.

* `Tables.OneOrderEach`: a checkout has one order at most.
* `Shop.Orderly`: what holds of orders and attempts in every reachable state.
* `Shop.Keeps`: what one state has of the orders of an earlier one.
* `Shop.ordered_once`: what both come to.
-/

namespace Storefront

/-- No checkout has two orders. -/
def Tables.OneOrderEach (t : Tables) : Prop :=
  ∀ token, (t.orders.filter (·.checkoutToken = some token)).length ≤ 1

/-- The ids that the attempts have for their orders are new, each to the store and to the others. -/
structure Tables.NewIds (t : Tables) (attempts : List Attempt) : Prop where
  distinct : (attempts.map (·.ids.order)).Nodup
  unused : ∀ a ∈ attempts, ∀ o ∈ t.orders, o.id ≠ a.ids.order

theorem Bookshop.newIds : tables.NewIds [attempt 1, attempt 2] :=
  ⟨by decide, fun _ _ _ ho => nomatch ho⟩

/-- What an attempt answers, or is about to answer. -/
def Stage.outcome? : Stage → Option (Except Error Completion)
  | .releasing _ _ outcome | .finished outcome => some outcome
  | .preparing | .charging .. | .ordering .. => none

namespace Tables.OneOrderEach

variable {t : Tables} {token : CheckoutToken} {o o' : Order}

/-- Two orders of one checkout are the same. -/
theorem eq (h : t.OneOrderEach) (ho : o ∈ t.orders) (ho' : o' ∈ t.orders)
    (htoken : o.checkoutToken = some token) (htoken' : o'.checkoutToken = some token) :
    o = o' := by
  have hmem : o ∈ t.orders.filter (·.checkoutToken = some token) :=
    List.mem_filter.2 ⟨ho, by simpa using htoken⟩
  have hmem' : o' ∈ t.orders.filter (·.checkoutToken = some token) :=
    List.mem_filter.2 ⟨ho', by simpa using htoken'⟩
  have hle := h token
  generalize t.orders.filter (·.checkoutToken = some token) = found at hmem hmem' hle
  match found with
  | [] => cases hmem
  | [x] => exact (List.mem_singleton.1 hmem).trans (List.mem_singleton.1 hmem').symm
  | x :: y :: rest => simp at hle

end Tables.OneOrderEach

theorem Tables.mem_of_orderOf? {t : Tables} {token : CheckoutToken} {o : Order}
    (h : t.orderOf? token = some o) : o ∈ t.orders ∧ o.checkoutToken = some token :=
  ⟨List.mem_of_find?_eq_some h, by simpa using List.find?_some h⟩

/-! ## Creating an order -/

namespace Attempt.Creates

variable {a : Attempt} {plan : OrderPlan} {settled : Option SettledPayment} {t : Tables}
  {c : Creation}

/-- An order is created only where its checkout has none. -/
theorem oneOrderEach (h : a.Creates plan settled t c)
    (hnew : ∀ o ∈ t.orders, o.id ≠ plan.orderId) (ht : t.OneOrderEach) :
    (c.tables plan t).OneOrderEach := by
  intro token
  rw [h.orders hnew, List.filter_append, List.length_append]
  by_cases htoken : c.order.checkoutToken = some token
  · have hnone : t.orders.filter (·.checkoutToken = some token) = [] := by
      rw [h.checkoutToken] at htoken
      have hfirst := h.first
      rw [Option.some.inj htoken] at hfirst
      exact List.filter_eq_nil_iff.2 (List.find?_eq_none.1 hfirst)
    rw [hnone, List.length_nil, Nat.zero_add]
    exact List.length_filter_le _ [c.order]
  · have hother : [c.order].filter (·.checkoutToken = some token) = [] := by simp [htoken]
    rw [hother]
    exact ht token

end Attempt.Creates

/-- The lines of other orders are not touched. -/
theorem Creation.linesOf {a : Attempt} {plan : OrderPlan} (c : Creation) (t : Tables)
    (hplan : a.Plans plan) {o : Order} (hne : o.id ≠ plan.orderId) :
    (c.tables plan t).linesOf o.id = t.linesOf o.id := by
  have hnone : (plan.lines.map (·.line)).filter (·.orderId = o.id) = [] := by
    refine List.filter_eq_nil_iff.2 fun line hline => ?_
    obtain ⟨l, hl, rfl⟩ := List.mem_map.1 hline
    rw [hplan.lines l hl, ← hplan.orderId]
    simpa using hne.symm
  show (t.orderLines ++ plan.lines.map (·.line)).filter (·.orderId = o.id) = _
  rw [List.filter_append, hnone, List.append_nil]
  rfl

/-- A stage answers with an order that it has found or created. -/
theorem Attempt.Advances.answer {a : Attempt} {answer : Payment → Except Error GatewayResponse}
    {t : Tables} {stage : Stage} {next : Progress} (h : a.Advances answer t stage next)
    (hplans : ∀ plan, stage.plan? = some plan → a.Plans plan) {o : Order}
    (ho : next.stage.outcome? = some (.ok (.completed o))) :
    stage.outcome? = some (.ok (.completed o)) ∨ t.orderOf? a.token = some o ∨
      ∃ plan settled c, a.Creates plan settled t c ∧ a.Plans plan ∧
        next.tables = c.tables plan t ∧ o = c.order := by
  cases h with
  | answered _ horder =>
    cases ho
    exact .inr (.inl horder)
  | found horder =>
    cases ho
    have hplan := hplans _ rfl
    exact .inr (.inl (hplan.token ▸ horder))
  | created hcreates =>
    cases ho
    exact .inr (.inr ⟨_, _, _, hcreates, hplans _ rfl, rfl, rfl⟩)
  | released | ended => exact .inl ho
  | rejected | uncharged | charging | refused | unrecorded | halted | charged | failed | stranded =>
    cases ho

/-! ## Every schedule -/

namespace Shop

variable {t : Tables} {attempts : List Attempt} {s s' : Shop}

/-- What holds in every state that the attempts reach from the tables `t`. -/
structure Orderly (t : Tables) (attempts : List Attempt) (s : Shop) : Prop where
  attempts : s.processes.map (·.attempt) = attempts
  plans : ∀ p ∈ s.processes, ∀ plan, p.stage.plan? = some plan → p.attempt.Plans plan
  answers : ∀ p ∈ s.processes, p.Answers
  /-- As long as a process has created no order, there is none with its id. -/
  unused : ∀ p ∈ s.processes, p.created = [] →
    ∀ o ∈ s.tables.orders, o.id ≠ p.attempt.ids.order
  /-- The answer of a process is the order of its checkout. -/
  answered : ∀ p ∈ s.processes, ∀ o, p.stage.outcome? = some (.ok (.completed o)) →
    o ∈ s.tables.orders ∧ o.checkoutToken = some p.attempt.token
  /-- The orders are those at the start and those created since. -/
  orders : s.tables.orders.Perm (t.orders ++ s.created)

theorem orderly_opening (hids : t.NewIds attempts) :
    Orderly t attempts (opening t attempts) where
  attempts := by
    rw [opening, List.map_map]
    exact List.map_id _
  plans := forall_opening fun _ _ _ hplan => (nomatch hplan)
  answers := forall_opening fun _ _ => .inl rfl
  unused := forall_opening fun a ha _ => hids.unused a ha
  answered := forall_opening fun _ _ _ ho => (nomatch ho)
  orders := by
    rw [created_opening, List.append_nil]
    exact .refl _

/-- What a later state has of the orders of a state: all of them in their places, with their
lines. -/
structure Keeps (s s' : Shop) : Prop where
  orders : s.tables.orders <+: s'.tables.orders
  lines : ∀ o ∈ s.tables.orders, s'.tables.linesOf o.id = s.tables.linesOf o.id

theorem Keeps.refl (s : Shop) : Keeps s s := ⟨List.prefix_refl _, fun _ _ => rfl⟩

theorem Keeps.trans {s'' : Shop} (h : Keeps s s') (h' : Keeps s' s'') : Keeps s s'' where
  orders := h.orders.trans h'.orders
  lines o ho := (h'.lines o (h.orders.subset ho)).trans (h.lines o ho)

namespace Orderly

/-- The id of an order that is about to be created is new. -/
theorem new (hs : Orderly t attempts s) {p : Process} (hp : p ∈ s.processes) {plan : OrderPlan}
    {settled : Option SettledPayment} (hstage : p.stage = .ordering plan settled) :
    p.attempt.Plans plan ∧ ∀ o ∈ s.tables.orders, o.id ≠ plan.orderId := by
  have hplan : p.attempt.Plans plan := hs.plans p hp plan (by rw [hstage]; rfl)
  refine ⟨hplan, fun o ho => ?_⟩
  rw [hplan.orderId]
  exact hs.unused p hp ((hs.answers p hp).created_of_ordering hstage) o ho

/-- A step creates an order with a new id, or leaves the orders alone. -/
theorem orders_of_steps (hs : Orderly t attempts s) (h : Steps s s') :
    (∃ before p after plan settled c, s.processes = before ++ p :: after ∧
      p.attempt.Creates plan settled s.tables c ∧ p.attempt.Plans plan ∧
      (∀ o ∈ s.tables.orders, o.id ≠ plan.orderId) ∧
      s'.tables = c.tables plan s.tables ∧ s'.created.Perm (s.created ++ [c.order]) ∧
      ∃ p', p'.created = p.created ++ [c.order] ∧ s'.processes = before ++ p' :: after) ∨
    s.tables.SameGoods s'.tables ∧ s'.created = s.created := by
  obtain @⟨_, before, after, p, next, _, h⟩ := h
  rcases h.created_or_sameGoods with ⟨plan, settled, c, hstage, hcreates, rfl⟩ | ⟨hsame, hevents⟩
  · obtain ⟨hplan, hnew⟩ := hs.new (by simp) hstage
    refine .inl ⟨before, p, after, plan, settled, c, rfl, hcreates, hplan, hnew, rfl, ?_,
      _, ?_, rfl⟩
    · rw [← c.created_events plan settled]
      exact created_perm _ _ before after p _
    · rw [Process.created_after, Creation.created_events]
  · refine .inr ⟨hsame, ?_⟩
    simp [created, Process.created_after, hevents]

/-- **A step keeps the orders there are.** -/
theorem keeps (hs : Orderly t attempts s) (h : Steps s s') : Keeps s s' := by
  rcases hs.orders_of_steps h with
    ⟨_, _, _, _, _, c, -, hcreates, hplan, hnew, htables, -⟩ | ⟨hsame, -⟩
  · exact ⟨⟨[c.order], htables ▸ (hcreates.orders hnew).symm⟩,
      fun o ho => htables ▸ c.linesOf s.tables hplan (hnew o ho)⟩
  · exact ⟨hsame.orders ▸ List.prefix_refl _, fun o _ => hsame.linesOf o.id⟩

/-- Two processes do not create orders with the same id. -/
theorem unused_of_steps (hids : t.NewIds attempts) (hs : Orderly t attempts s)
    (h : Steps s s') : ∀ p ∈ s'.processes, p.created = [] →
      ∀ o ∈ s'.tables.orders, o.id ≠ p.attempt.ids.order := by
  rcases hs.orders_of_steps h with
    ⟨before, p, after, plan, _, c, hsplit, hcreates, hplan, hnew, htables, -, p', hp', hsplit'⟩ |
    ⟨hsame, -⟩
  · have hdistinct : ((before ++ p :: after).map (·.attempt.ids.order)).Nodup := by
      have hattempts : (before ++ p :: after).map (·.attempt.ids.order) =
          attempts.map (·.ids.order) := by
        rw [← hsplit, ← hs.attempts, List.map_map]
        rfl
      exact hattempts ▸ hids.distinct
    have hothers : ∀ q ∈ before ++ after, q.created = [] →
        ∀ o ∈ s'.tables.orders, o.id ≠ q.attempt.ids.order := by
      intro q hq hnone o ho
      rw [htables, hcreates.orders hnew] at ho
      rcases List.mem_append.1 ho with hold | hlast
      · refine hs.unused q ?_ hnone o hold
        rw [hsplit]
        exact ((List.sublist_cons_self p after).append_left before).subset hq
      · obtain rfl := List.mem_singleton.1 hlast
        rw [hcreates.id, hplan.orderId]
        exact (key_ne_of_split hdistinct q hq).symm
    rw [hsplit']
    refine List.forall_mem_append.2 ⟨fun q hq => hothers q (List.mem_append_left _ hq),
      List.forall_mem_cons.2 ⟨fun hnone => ?_, fun q hq => hothers q (List.mem_append_right _ hq)⟩⟩
    rw [hp'] at hnone
    simp at hnone
  · rw [hsame.orders]
    refine h.forall_processes hs.unused fun p hp next _ _ _ hnone => ?_
    rw [Process.created_after] at hnone
    exact hs.unused p hp (List.append_eq_nil_iff.1 hnone).1

/-- A process answers with an order that is there. -/
theorem answered_of_steps (hs : Orderly t attempts s) (h : Steps s s') :
    ∀ p ∈ s'.processes, ∀ o, p.stage.outcome? = some (.ok (.completed o)) →
      o ∈ s'.tables.orders ∧ o.checkoutToken = some p.attempt.token := by
  have hsub := (hs.keeps h).orders.subset
  refine h.forall_processes (fun p hp o ho => ?_) fun p hp next answer hnext htables o ho => ?_
  · obtain ⟨hmem, htoken⟩ := hs.answered p hp o ho
    exact ⟨hsub hmem, htoken⟩
  · rcases hnext.answer (hs.plans p hp) ho with hbefore | hfound |
      ⟨plan, settled, c, hcreates, hplan, hcreated, rfl⟩
    · obtain ⟨hmem, htoken⟩ := hs.answered p hp o hbefore
      exact ⟨hsub hmem, htoken⟩
    · obtain ⟨hmem, htoken⟩ := Tables.mem_of_orderOf? hfound
      exact ⟨hsub hmem, htoken⟩
    · rw [htables, hcreated]
      exact ⟨mem_upsert_self _ _, hplan.token ▸ hcreates.checkoutToken⟩

/-- **A step keeps everything orderly.** -/
theorem steps (hids : t.NewIds attempts) (hs : Orderly t attempts s) (h : Steps s s') :
    Orderly t attempts s' where
  attempts := h.attempts.trans hs.attempts
  plans := h.forall_processes hs.plans fun p hp _ _ hnext _ => hnext.plans (hs.plans p hp)
  answers := h.forall_processes hs.answers fun p hp _ _ hnext _ => (hs.answers p hp).after hnext
  unused := hs.unused_of_steps hids h
  answered := hs.answered_of_steps h
  orders := by
    rcases hs.orders_of_steps h with
      ⟨_, _, _, _, _, c, -, hcreates, -, hnew, htables, hcreated, -⟩ | ⟨hsame, hcreated⟩
    · rw [htables, hcreates.orders hnew]
      refine (hs.orders.append_right [c.order]).trans ?_
      rw [List.append_assoc]
      exact hcreated.symm.append_left t.orders
    · rw [hsame.orders, hcreated]
      exact hs.orders

/-- A step creates no second order of a checkout. -/
theorem oneOrderEach_of_steps (hs : Orderly t attempts s) (h : Steps s s')
    (honce : s.tables.OneOrderEach) : s'.tables.OneOrderEach := by
  rcases hs.orders_of_steps h with
    ⟨_, _, _, _, _, _, -, hcreates, -, hnew, htables, -⟩ | ⟨hsame, -⟩
  · rw [htables]
    exact hcreates.oneOrderEach hnew honce
  · intro token
    rw [hsame.orders]
    exact honce token

theorem run (hids : t.NewIds attempts) (hs : Orderly t attempts s) (moves : List Move) :
    Orderly t attempts (s.run moves) ∧ Keeps s (s.run moves) := by
  refine run_induction (P := fun s' => Orderly t attempts s' ∧ Keeps s s') ⟨hs, .refl s⟩
    (fun ⟨horderly, hkeeps⟩ hsteps => ?_) moves
  exact ⟨horderly.steps hids hsteps, hkeeps.trans (horderly.keeps hsteps)⟩

theorem oneOrderEach_run (hids : t.NewIds attempts) (hs : Orderly t attempts s)
    (honce : s.tables.OneOrderEach) (moves : List Move) :
    (s.run moves).tables.OneOrderEach := by
  refine (run_induction (P := fun s' => Orderly t attempts s' ∧ s'.tables.OneOrderEach)
    ⟨hs, honce⟩ (fun ⟨horderly, hone⟩ hsteps => ?_) moves).2
  exact ⟨horderly.steps hids hsteps, horderly.oneOrderEach_of_steps hsteps hone⟩

/-- Where its checkout has an order, an attempt sells nothing. -/
theorem sameGoods_of_ordered (hs : Orderly t attempts s) {m : Move} {p : Process}
    (hp : s.processes[m.process]? = some p)
    (hordered : (s.tables.orderOf? p.attempt.token).isSome) :
    s.tables.SameGoods (s.step m).tables := by
  obtain ⟨before, after, hsplit, hm⟩ := split_of_getElem? hp
  have hmem : p ∈ s.processes := List.mem_of_getElem? hp
  rw [hsplit, step_of_split hm]
  rcases (p.attempt.advances (fun _ => m.answer) p.stage s.tables).created_or_sameGoods with
    ⟨plan, settled, c, hstage, hcreates, -⟩ | ⟨hsame, -⟩
  · have hplan := (hs.new hmem hstage).1
    rw [← hplan.token, hcreates.first] at hordered
    cases hordered
  · exact hsame

end Orderly

/-- Every checkout has become one order at most, and stays so. -/
structure OrderedOnce (s : Shop) : Prop where
  /-- No checkout has two orders. -/
  once : s.tables.OneOrderEach
  /-- The attempts that complete a checkout answer with the same order. -/
  agreed : ∀ p ∈ s.processes, ∀ q ∈ s.processes, p.attempt.token = q.attempt.token → ∀ o o',
    p.stage = .finished (.ok (.completed o)) → q.stage = .finished (.ok (.completed o')) → o = o'
  /-- An attempt at a checkout that has an order adds neither orders nor lines nor allocations, and
  charges no gift card. -/
  found : ∀ m p, s.processes[m.process]? = some p →
    (s.tables.orderOf? p.attempt.token).isSome → s.tables.SameGoods (s.step m).tables
  /-- An order and its lines stay as they are. -/
  kept : ∀ later, Keeps s (s.run later)

/-- **Every checkout becomes one order at most**, whatever the attempts at it do in which order. -/
theorem ordered_once (t : Tables) (attempts : List Attempt) (moves : List Move)
    (honce : t.OneOrderEach) (hids : t.NewIds attempts) :
    ((opening t attempts).run moves).OrderedOnce := by
  have hstart := orderly_opening hids
  have hs : Orderly t attempts ((opening t attempts).run moves) := (hstart.run hids moves).1
  have hone : ((opening t attempts).run moves).tables.OneOrderEach :=
    hstart.oneOrderEach_run hids honce moves
  exact {
    once := hone
    agreed := fun p hp q hq htoken o o' ho ho' => by
      obtain ⟨hmem, htoken₁⟩ := hs.answered p hp o (by rw [ho]; rfl)
      obtain ⟨hmem', htoken₂⟩ := hs.answered q hq o' (by rw [ho']; rfl)
      exact hone.eq hmem hmem' htoken₁ (htoken ▸ htoken₂)
    found := fun m p hp hordered => hs.sameGoods_of_ordered hp hordered
    kept := fun later => (hs.run hids later).2 }

/-- Both buyers of the last copy are answered with the order of the first. -/
theorem ordered_once_bookshop :
    Bookshop.tables.OneOrderEach ∧
      Bookshop.tables.NewIds [Bookshop.attempt 1, Bookshop.attempt 2] ∧
      ((opening Bookshop.tables [Bookshop.attempt 1, Bookshop.attempt 2]).run
        Bookshop.race).OrderedOnce :=
  have honce : Bookshop.tables.OneOrderEach := fun _ => Nat.zero_le 1
  ⟨honce, Bookshop.newIds, ordered_once Bookshop.tables _ Bookshop.race honce Bookshop.newIds⟩

end Shop

end Storefront
