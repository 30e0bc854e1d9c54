import Storefront.Proofs.Shop.Orders

/-!
# Counting the uses of a voucher

A use is taken before the payment is charged, and given back where no order comes of it. So at any
time a voucher has been used once for each order that was created with it, and once for each attempt
that is still under way with it.

* `Process.uses`: the uses that are due to one process.
* `Process.voucher?_after`: a stage changes the count of a voucher by what it changes of these.
* `Shop.voucher_uses`: the count of every voucher after every schedule.
-/

namespace Storefront

/-- The count of the voucher lies within its limit. -/
def Voucher.withinLimit (v : Voucher) : Bool := v.usageLimit.all (v.used ≤ ·)

/-- The count of a voucher lies within its limit, if there is such a voucher. -/
def Tables.WithinLimit (t : Tables) (id : VoucherId) : Prop :=
  ∀ row, t.voucher? id = some row → row.withinLimit

theorem Voucher.withinLimit_iff {v : Voucher} :
    v.withinLimit ↔ ∀ limit, v.usageLimit = some limit → v.used ≤ limit := by
  cases h : v.usageLimit <;> simp [withinLimit, h]

theorem map_withUsed_congr {x : Option Voucher} {f g : Voucher → Nat}
    (h : ∀ row, f row = g row) :
    (x.map fun row => row.withUsed (f row)) = x.map fun row => row.withUsed (g row) := by
  simp only [h]

namespace OrderPlan

variable {p : OrderPlan} {t t' : Tables} {id : VoucherId}

/-- A use is taken only where there is one left. -/
theorem Takes.withinLimit (h : p.Takes t t') (ht : t.WithinLimit id) : t'.WithinLimit id := by
  cases h with
  | nothing => exact ht
  | @use v old _ hrow hleft _ =>
    intro row hnew
    rw [Tables.voucher?_useTaken] at hnew
    split at hnew
    · cases hnew
      refine Voucher.withinLimit_iff.2 fun limit hlimit => ?_
      have hlimit : old.usageLimit = some limit := hlimit
      simpa [Voucher.hasUsesLeft, hlimit, Nat.succ_le_iff] using hleft
    · exact ht row hnew

theorem GivesBack.withinLimit (h : p.GivesBack t t') (ht : t.WithinLimit id) :
    t'.WithinLimit id := by
  intro row hnew
  rw [h.voucher?] at hnew
  obtain ⟨old, hold, rfl⟩ := Option.map_eq_some_iff.1 hnew
  refine Voucher.withinLimit_iff.2 fun limit hlimit => ?_
  have hle : old.used ≤ limit := Voucher.withinLimit_iff.1 (ht old hold) limit hlimit
  exact Nat.le_trans (Nat.sub_le _ _) hle

end OrderPlan

/-! ## One process -/

namespace Process

/-- The process has taken a use of a voucher and may still give it back. -/
def holds (p : Process) (id : VoucherId) : Bool :=
  p.stage.plan?.any fun plan => plan.voucher.map (·.id) = some id

/-- The uses that are due to the process: one for an order of its own, or one that it holds. -/
def uses (p : Process) (id : VoucherId) : Nat :=
  p.created.countP (·.voucherId = some id) + if p.holds id then 1 else 0

variable {p : Process} {next : Progress} {t : Tables}
  {answer : Payment → Except Error GatewayResponse}

theorem uses_of_plan (p : Process) {plan : OrderPlan} (hplan : p.stage.plan? = some plan)
    (id : VoucherId) :
    p.uses id = p.created.countP (·.voucherId = some id) + plan.usesOf id := by
  simp [uses, holds, hplan, OrderPlan.usesOf]

theorem uses_of_noPlan (p : Process) (hplan : p.stage.plan? = none) (id : VoucherId) :
    p.uses id = p.created.countP (·.voucherId = some id) := by
  simp [uses, holds, hplan]

/-- Without an order a process that has ended has used nothing. -/
theorem uses_of_finished {outcome : Except Error Completion} (id : VoucherId)
    (hstage : p.stage = .finished outcome) (hnone : p.created = []) : p.uses id = 0 := by
  rw [p.uses_of_noPlan (by rw [hstage]; rfl), hnone, List.countP_nil]

/-- A stage that creates no order and keeps the plan leaves the uses as they are. -/
theorem uses_after_of_plan_eq (hevents : next.events = [])
    (hplan : next.stage.plan? = p.stage.plan?) (id : VoucherId) :
    (p.after next).uses id = p.uses id := by
  rw [uses, uses, created_after_of_silent p hevents, holds, holds, ← hplan]
  rfl

/-- **A stage changes the count of a voucher by what it changes of the uses.** -/
theorem voucher?_after (h : p.attempt.Advances answer t p.stage next) (id : VoucherId) :
    next.tables.voucher? id = (t.voucher? id).map fun row =>
      row.withUsed (row.used + (p.after next).uses id - p.uses id) := by
  have hfree (hplan : p.stage.plan? = none) := p.uses_of_noPlan hplan id
  have hheld {plan : OrderPlan} (hplan : p.stage.plan? = some plan) := p.uses_of_plan hplan id
  generalize hstage : p.stage = stage at h hfree hheld
  cases h with
  | rejected | answered | refused | unrecorded | halted | charged | failed | ended =>
    rw [uses_after_of_plan_eq rfl (by simp [hstage, Stage.plan?])]
    simp
  | uncharged _ htakes | charging _ htakes =>
    rw [htakes.voucher?, hfree rfl, uses_of_plan _ rfl, created_after_of_silent p rfl]
    exact map_withUsed_congr fun row => by omega
  | found _ hback =>
    rw [hback.voucher?, hheld rfl, uses_of_noPlan _ rfl, created_after_of_silent p rfl]
    exact map_withUsed_congr fun row => by omega
  | released hback =>
    rw [OrderPlan.voucher?_keep, hback.voucher?, hheld rfl, uses_of_noPlan _ rfl,
      created_after_of_silent p rfl]
    exact map_withUsed_congr fun row => by omega
  | @created plan settled c hcreates =>
    -- the use that was held is now that of the order
    have horder : [c.order].countP (·.voucherId = some id) = plan.usesOf id := by
      rw [List.countP_singleton, hcreates.voucherId, OrderPlan.usesOf]
      simp
    rw [hheld rfl, uses_of_noPlan _ rfl, created_after, Creation.created_events,
      List.countP_append, horder]
    simp [Creation.tables, Tables.voucher?]
  | @stranded plan _ _ v _ hvoucher hgone =>
    by_cases hid : v.id = id
    · rw [← hid, hgone]
      rfl
    · have hnone : plan.usesOf id = 0 := by simp [OrderPlan.usesOf, hvoucher, hid]
      rw [hheld rfl, hnone, uses_of_noPlan _ rfl, created_after_of_silent p rfl]
      simp

end Process

/-- A stage keeps the count of a voucher within its limit. -/
theorem Attempt.Advances.withinLimit {a : Attempt}
    {answer : Payment → Except Error GatewayResponse} {t : Tables} {stage : Stage}
    {next : Progress} {id : VoucherId} (h : a.Advances answer t stage next)
    (ht : t.WithinLimit id) : next.tables.WithinLimit id := by
  cases h with
  | uncharged _ htakes | charging _ htakes => exact htakes.withinLimit ht
  | found _ hback => exact hback.withinLimit ht
  | @released _ kept _ _ hback =>
    intro row hrow
    rw [OrderPlan.voucher?_keep] at hrow
    exact hback.withinLimit ht row hrow
  | rejected | answered | refused | unrecorded | halted | charged | created | failed | stranded |
    ended =>
    exact ht

/-! ## Every schedule -/

namespace Shop

variable {t : Tables} {s s' : Shop} {id : VoucherId}

/-- The number of orders created so far with a voucher. -/
def ordersWith (s : Shop) (id : VoucherId) : Nat := s.created.countP (·.voucherId = some id)

/-- The number of processes that hold a use of a voucher. -/
def holders (s : Shop) (id : VoucherId) : Nat := s.processes.countP (·.holds id)

/-- The orders and the processes of some kind change by those of the process that goes on. -/
theorem count_of_steps (ofOrder : Order → Bool) (ofProcess : Process → Bool) (t t' : Tables)
    (before after : List Process) (p p' : Process) :
    (created ⟨t', before ++ p' :: after⟩).countP ofOrder +
        (before ++ p' :: after).countP ofProcess +
        (p.created.countP ofOrder + if ofProcess p then 1 else 0) =
      (created ⟨t, before ++ p :: after⟩).countP ofOrder +
        (before ++ p :: after).countP ofProcess +
        (p'.created.countP ofOrder + if ofProcess p' then 1 else 0) := by
  simp only [created, List.flatMap_append, List.flatMap_cons, List.countP_append,
    List.countP_cons]
  omega

/-- The count of each voucher is what it was in the tables `t` and the uses since. -/
def Counted (t : Tables) (s : Shop) (id : VoucherId) : Prop :=
  s.tables.voucher? id = (t.voucher? id).map fun row =>
    row.withUsed (row.used + s.ordersWith id + s.holders id)

theorem Steps.counted (h : Steps s s') (hs : Counted t s id) : Counted t s' id := by
  obtain @⟨t₁, before, after, p, next, _, h⟩ := h
  have hsum := count_of_steps (·.voucherId = some id) (·.holds id) t₁ next.tables before after p
    (p.after next)
  unfold Counted at hs ⊢
  rw [p.voucher?_after h, hs, Option.map_map]
  refine map_withUsed_congr fun row => ?_
  simp only [Voucher.used_withUsed, ordersWith, holders, Process.uses] at hsum ⊢
  omega

theorem counted_opening (t : Tables) (attempts : List Attempt) (id : VoucherId) :
    Counted t (opening t attempts) id := by
  have horders : (opening t attempts).ordersWith id = 0 := by
    rw [ordersWith, created_opening, List.countP_nil]
  have hholders : (opening t attempts).holders id = 0 :=
    List.countP_eq_zero.2 (forall_opening fun _ _ => by simp [Process.holds, Stage.plan?])
  unfold Counted
  rw [horders, hholders]
  simp [opening]

theorem counted_run (t : Tables) (attempts : List Attempt) (moves : List Move)
    (id : VoucherId) : Counted t ((opening t attempts).run moves) id :=
  run_induction (P := fun s => Counted t s id) (counted_opening t attempts id)
    (fun hs h => h.counted hs) moves

/-- The vouchers of which processes hold a use are there. -/
def HasHeld (s : Shop) : Prop :=
  ∀ p ∈ s.processes, ∀ plan v, p.stage.plan? = some plan → plan.voucher = some v →
    (s.tables.voucher? v.id).isSome

theorem hasHeld_run (t : Tables) (attempts : List Attempt) (moves : List Move) :
    HasHeld ((opening t attempts).run moves) := by
  intro p hp plan v hplan hv
  obtain ⟨earlier, _, -, hprepared⟩ := prepared_run t attempts moves p hp plan hplan
  have hmem : v ∈ ((opening t attempts).run earlier).tables.vouchers :=
    Tables.mem_of_voucherFor? (hprepared.voucher ▸ hv)
  have hbefore : (((opening t attempts).run earlier).tables.voucher? v.id).isSome :=
    List.find?_isSome.2 ⟨v, hmem, by simp⟩
  rw [counted_run, Option.isSome_map] at hbefore ⊢
  exact hbefore

theorem withinLimit_run {attempts : List Attempt} (moves : List Move) (ht : t.WithinLimit id) :
    ((opening t attempts).run moves).tables.WithinLimit id := by
  refine run_induction (P := fun s => s.tables.WithinLimit id) ht (fun hs h => ?_) moves
  obtain ⟨h⟩ := h
  exact h.withinLimit hs

/-- **The uses of a voucher are accounted for**, whatever the attempts do in which order:

* since the start it has been used once for each order that was created with it, and once for each
  attempt that is still under way with it;
* its count stays within its limit;
* an attempt creates one order at most, and one that has ended without has used nothing;
* the orders that were created are the new rows of the store. -/
theorem voucher_uses (t : Tables) (attempts : List Attempt) (moves : List Move)
    (id : VoucherId) :
    let s := (opening t attempts).run moves
    (s.tables.voucher? id = (t.voucher? id).map fun row =>
      row.withUsed (row.used + s.ordersWith id + s.holders id)) ∧
    (t.WithinLimit id → s.tables.WithinLimit id) ∧
    (∀ p ∈ s.processes, p.Answers ∧
      ∀ outcome, p.stage = .finished outcome → p.created = [] → p.uses id = 0) ∧
    (t.NewIds attempts → s.tables.orders.Perm (t.orders ++ s.created)) := by
  refine ⟨counted_run t attempts moves id, withinLimit_run moves, fun p hp => ?_,
    fun hids => ((orderly_opening hids).run hids moves).1.orders⟩
  exact ⟨answers_run t attempts moves p hp,
    fun outcome hstage hnone => Process.uses_of_finished id hstage hnone⟩

/-- Two attempts share a voucher that may be used twice. -/
theorem voucher_uses_bookshop :
    Bookshop.tables.WithinLimit ⟨⟨7⟩⟩ ∧
      Bookshop.tables.NewIds [Bookshop.attempt 1, Bookshop.attempt 2] ∧
      let s := (opening Bookshop.tables [Bookshop.attempt 1, Bookshop.attempt 2]).run Bookshop.race
      s.tables.WithinLimit ⟨⟨7⟩⟩ ∧
        s.tables.orders.Perm (Bookshop.tables.orders ++ s.created) := by
  have hlimit : Bookshop.tables.WithinLimit ⟨⟨7⟩⟩ := fun row hrow => by
    cases hrow
    decide
  obtain ⟨-, hwithin, -, horders⟩ := voucher_uses Bookshop.tables
    [Bookshop.attempt 1, Bookshop.attempt 2] Bookshop.race ⟨⟨7⟩⟩
  exact ⟨hlimit, Bookshop.newIds, hwithin hlimit, horders Bookshop.newIds⟩

/-- Half way both attempts hold a use. In the end the second has given its use back. -/
example : let s := opening Bookshop.tables [Bookshop.attempt 1, Bookshop.attempt 2]
    (s.run (Bookshop.race.take 4)).tables.vouchers.map (·.used) = [2] ∧
      (s.run Bookshop.race).tables.vouchers.map (·.used) = [1] := by
  decide +kernel

end Shop

end Storefront
