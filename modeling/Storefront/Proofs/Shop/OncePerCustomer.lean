import Storefront.Proofs.Shop.VoucherUses

/-!
# Vouchers that each customer may use once

A voucher may be limited to one use for each customer. Taking a use then leaves a record of the
customer, and giving the use back removes every record of the customer, not only one's own. No
attempt removes the record of another, because there is never more than one use to be recorded.

* `OrderPlan.Takes.recordsOf`, `OrderPlan.GivesBack.recordsOf`: what taking and giving back a use
  does to the records of a customer.
* `Process.recordsOf_after`: a stage changes the records of a customer by what it changes of the
  uses.
* `Shop.used_once`: the uses and the records after every schedule.
-/

namespace Storefront

/-- The rows of a voucher allow each customer one use. -/
def Tables.OncePerCustomer (t : Tables) (id : VoucherId) : Prop :=
  ∀ row ∈ t.vouchers, row.id = id → row.applyOncePerCustomer = true

instance (t : Tables) (id : VoucherId) : Decidable (t.OncePerCustomer id) :=
  inferInstanceAs (Decidable (∀ row ∈ t.vouchers, _))

/-- How often it is recorded that a customer has used a voucher. -/
def Tables.recordsOf (t : Tables) (id : VoucherId) (email : String) : Nat :=
  t.voucherCustomers.count ⟨id, email⟩

/-- The order is a use of a voucher by a customer. -/
def Order.isUse (o : Order) (id : VoucherId) (email : String) : Bool :=
  o.voucherId = some id && o.userEmail = some email

theorem Tables.recordsOf_eq_zero_iff {t : Tables} {id : VoucherId} {email : String} :
    t.recordsOf id email = 0 ↔ t.hasUsed id email = false := by
  rw [recordsOf, List.count_eq_zero, hasUsed, List.any_eq_false]
  refine ⟨fun h c hc hsame => ?_, fun h hmem => ?_⟩
  · obtain ⟨hid, hemail⟩ : c.voucherId = id ∧ c.customerEmail = email := by simpa using hsame
    exact h (hid ▸ hemail ▸ hc)
  · exact h _ hmem (by simp)

/-! ## One plan -/

namespace OrderPlan

variable {p : OrderPlan} {t t' : Tables} {id : VoucherId} {email : String}

/-- An order of the plan would be a use of a voucher by a customer. -/
def isUse (p : OrderPlan) (id : VoucherId) (email : String) : Bool :=
  p.voucher.map (·.id) = some id && p.snapshot.customerEmail = some email

/-- What a plan knows of a voucher: that each customer may use it once, and that there is a row of
it. -/
def Knows (p : OrderPlan) (t : Tables) (id : VoucherId) : Prop :=
  ∀ v, p.voucher = some v → v.id = id →
    v.applyOncePerCustomer = true ∧ (t.voucher? id).isSome = true

/-- A plan without a voucher is a use of none. -/
theorem isUse_of_none (h : p.voucher = none) : p.isUse id email = false := by
  simp [isUse, h]

/-- The plan is a use by the customer that it would remember. -/
theorem isUse_iff {v : Voucher} (hvoucher : p.voucher = some v) (hknows : p.Knows t id) :
    p.isUse id email = true ↔ v.id = id ∧ p.remembered? = some email := by
  have hremembered : p.remembered? = v.remembered? p.snapshot.customerEmail := by
    simp [remembered?, hvoucher]
  rw [isUse, hvoucher, hremembered, Voucher.remembered?]
  by_cases hid : v.id = id
  · simp [hid, (hknows v hvoucher hid).1]
  · simp [hid]

/-- **Taking a use records it**, where there is no record yet. -/
theorem Takes.recordsOf (h : p.Takes t t') (hknows : p.Knows t id) (email : String) :
    t'.recordsOf id email = t.recordsOf id email + (if p.isUse id email then 1 else 0) ∧
      (p.isUse id email = true → t.recordsOf id email = 0) := by
  cases h with
  | nothing hvoucher => simp [isUse_of_none hvoucher]
  | @use v row hvoucher hrow _ hnew =>
    have hiff : p.isUse id email = true ↔ v.id = id ∧ p.remembered? = some email :=
      isUse_iff hvoucher hknows
    have hid : row.id = v.id := Tables.voucher?_id hrow
    refine ⟨?_, fun huse => ?_⟩
    · cases hremembered : p.remembered? with
      | none =>
        have hnot : ¬p.isUse id email = true := by simp [hiff, hremembered]
        rw [if_neg hnot]
        rfl
      | some e =>
        have hrecord : ((⟨row.id, e⟩ : VoucherCustomer) == ⟨id, email⟩) = p.isUse id email := by
          rw [Bool.eq_iff_iff, hiff, hremembered, hid]
          simp
        show (t.voucherCustomers ++ [(⟨row.id, e⟩ : VoucherCustomer)]).count _ = _
        rw [List.count_append, List.count_singleton, hrecord]
        rfl
    · obtain ⟨rfl, hemail⟩ := hiff.1 huse
      exact Tables.recordsOf_eq_zero_iff.2 (hnew email hemail)

/-- **Giving a use back removes all records of it**, and no others. -/
theorem GivesBack.recordsOf (h : p.GivesBack t t') (hknows : p.Knows t id) :
    t'.recordsOf id email = if p.isUse id email then 0 else t.recordsOf id email := by
  cases h with
  | nothing hvoucher => simp [isUse_of_none hvoucher]
  | @use v row hvoucher hrow =>
    have hiff : p.isUse id email = true ↔ v.id = id ∧ p.remembered? = some email :=
      isUse_iff hvoucher hknows
    have hid : row.id = v.id := Tables.voucher?_id hrow
    cases hremembered : p.remembered? with
    | none =>
      have hnot : ¬p.isUse id email = true := by simp [hiff, hremembered]
      rw [if_neg hnot]
      rfl
    | some e =>
      rw [hremembered] at hiff
      show (t.voucherCustomers.filter fun c =>
        !(c.voucherId = row.id && c.customerEmail = e)).count _ = _
      by_cases huse : p.isUse id email = true
      · obtain ⟨hsame, hemail⟩ := hiff.1 huse
        rw [if_pos huse, List.count_eq_zero]
        intro hmem
        have hkept := (List.mem_filter.1 hmem).2
        simp [hid, hsame, Option.some.inj hemail] at hkept
      · rw [if_neg huse]
        refine List.count_filter ?_
        rw [Bool.not_eq_true', ← Bool.not_eq_true, Bool.and_eq_true, decide_eq_true_eq,
          decide_eq_true_eq, hid]
        rintro ⟨hsame, hemail⟩
        exact huse (hiff.2 ⟨hsame.symm, congrArg some hemail.symm⟩)

/-- Where there is one record at most, giving a use back removes that of the use. -/
theorem GivesBack.recordsOf_add (h : p.GivesBack t t') (hknows : p.Knows t id)
    (huse : (if p.isUse id email then 1 else 0) ≤ t.recordsOf id email)
    (hone : t.recordsOf id email ≤ 1) :
    t'.recordsOf id email + (if p.isUse id email then 1 else 0) = t.recordsOf id email := by
  rw [h.recordsOf hknows]
  by_cases hthis : p.isUse id email = true
  · simp only [if_pos hthis] at huse ⊢
    omega
  · simp only [if_neg hthis]
    rfl

theorem recordsOf_keep (t : Tables) (kept : Option Payment) (id : VoucherId) (email : String) :
    (keep t kept).recordsOf id email = t.recordsOf id email := by
  cases kept <;> rfl

end OrderPlan

/-! ## The rows of the vouchers -/

/-- `t.Recounts t'`: the vouchers of the tables `t'` are those of `t`, but for how often they have
been used. -/
def Tables.Recounts (t t' : Tables) : Prop :=
  ∀ row ∈ t'.vouchers, ∃ old ∈ t.vouchers, ∃ used, row = old.withUsed used

namespace Tables.Recounts

variable {t t' : Tables} {id : VoucherId}

theorem refl (t : Tables) : t.Recounts t := fun row hrow => ⟨row, hrow, row.used, rfl⟩

theorem of_upsert {row : Voucher} {used : Nat} (hrow : t.voucher? id = some row)
    (hvouchers : t'.vouchers = upsert (·.id) (row.withUsed used) t.vouchers) : t.Recounts t' := by
  intro r hr
  rw [hvouchers] at hr
  rcases eq_or_mem_of_mem_upsert hr with rfl | hmem
  · exact ⟨row, List.mem_of_find?_eq_some hrow, used, rfl⟩
  · exact refl t r hmem

theorem oncePerCustomer (h : t.Recounts t') (ht : t.OncePerCustomer id) :
    t'.OncePerCustomer id := by
  intro row hrow hid
  obtain ⟨old, hold, used, rfl⟩ := h row hrow
  exact ht old hold hid

end Tables.Recounts

namespace OrderPlan

variable {p : OrderPlan} {t t' : Tables}

theorem Takes.recounts (h : p.Takes t t') : t.Recounts t' := by
  cases h with
  | nothing => exact .refl t
  | use _ hrow => exact .of_upsert hrow rfl

theorem GivesBack.recounts (h : p.GivesBack t t') (kept : Option Payment) :
    t.Recounts (keep t' kept) := by
  cases h with
  | nothing => cases kept <;> exact .refl t
  | use _ hrow => cases kept <;> exact .of_upsert hrow rfl

end OrderPlan

namespace Attempt

variable {a : Attempt} {answer : Payment → Except Error GatewayResponse} {t : Tables}
  {stage : Stage} {next : Progress} {plan : OrderPlan} {payment : Option Payment}
  {settled : Option SettledPayment} {c : Creation} {id : VoucherId} {email : String}

theorem Creates.userEmail (h : a.Creates plan settled t c) :
    c.order.userEmail = plan.snapshot.customerEmail :=
  h.of_plan (·.userEmail) fun _ _ _ _ _ => rfl

theorem Creates.isUse (h : a.Creates plan settled t c) :
    c.order.isUse id email = plan.isUse id email := by
  rw [Order.isUse, h.voucherId, h.userEmail, OrderPlan.isUse]

/-- The voucher of a plan that has been prepared is one of the rows. -/
theorem Prepared.knows (h : a.Prepared t plan payment) (ht : t.OncePerCustomer id) :
    plan.Knows t id := by
  intro v hv hid
  have hmem : v ∈ t.vouchers := Tables.mem_of_voucherFor? (h.voucher ▸ hv)
  refine ⟨ht v hmem hid, ?_⟩
  exact List.find?_isSome.2 ⟨v, hmem, by simpa using hid⟩

/-- A stage leaves the rows of the vouchers as they are, but for the counts. -/
theorem Advances.recounts (h : a.Advances answer t stage next) : t.Recounts next.tables := by
  cases h with
  | uncharged _ htakes | charging _ htakes => exact htakes.recounts
  | found _ hback => exact hback.recounts none
  | @released _ kept _ _ hback => exact hback.recounts kept
  | rejected | answered | refused | unrecorded | halted | charged | created | failed | stranded |
    ended =>
    exact .refl t

end Attempt

/-! ## One process -/

namespace Process

variable {p : Process} {next : Progress} {t : Tables} {id : VoucherId} {email : String}
  {answer : Payment → Except Error GatewayResponse}

/-- The process has taken a use of a voucher for a customer and may still give it back. -/
def holdsFor (p : Process) (id : VoucherId) (email : String) : Bool :=
  p.stage.plan?.any (·.isUse id email)

/-- The uses of a voucher by a customer that are due to the process. -/
def usesFor (p : Process) (id : VoucherId) (email : String) : Nat :=
  p.created.countP (·.isUse id email) + if p.holdsFor id email then 1 else 0

theorem usesFor_of_plan (p : Process) {plan : OrderPlan} (hplan : p.stage.plan? = some plan) :
    p.usesFor id email =
      p.created.countP (·.isUse id email) + if plan.isUse id email then 1 else 0 := by
  simp [usesFor, holdsFor, hplan]

theorem usesFor_of_noPlan (p : Process) (hplan : p.stage.plan? = none) :
    p.usesFor id email = p.created.countP (·.isUse id email) := by
  simp [usesFor, holdsFor, hplan]

theorem usesFor_after_of_plan_eq (hevents : next.events = [])
    (hplan : next.stage.plan? = p.stage.plan?) :
    (p.after next).usesFor id email = p.usesFor id email := by
  rw [usesFor, usesFor, created_after_of_silent p hevents, holdsFor, holdsFor, ← hplan]
  rfl

/-- **A stage changes the records of a customer by what it changes of the uses**, and leaves one
record at most. -/
theorem recordsOf_after (h : p.attempt.Advances answer t p.stage next)
    (honce : t.OncePerCustomer id)
    (hplans : ∀ plan, p.stage.plan? = some plan → plan.Knows t id)
    (huses : p.usesFor id email ≤ t.recordsOf id email) (hone : t.recordsOf id email ≤ 1) :
    next.tables.recordsOf id email + p.usesFor id email =
        t.recordsOf id email + (p.after next).usesFor id email ∧
      next.tables.recordsOf id email ≤ 1 := by
  have hfree (hplan : p.stage.plan? = none) :
      p.usesFor id email = p.created.countP (·.isUse id email) := p.usesFor_of_noPlan hplan
  have hheld {plan : OrderPlan} (hplan : p.stage.plan? = some plan) :
      p.usesFor id email =
        p.created.countP (·.isUse id email) + if plan.isUse id email then 1 else 0 :=
    p.usesFor_of_plan hplan
  generalize hstage : p.stage = stage at h hfree hheld hplans
  cases h with
  | rejected | answered | refused | unrecorded | halted | charged | failed | ended =>
    rw [usesFor_after_of_plan_eq rfl (by simp [hstage, Stage.plan?])]
    exact ⟨rfl, hone⟩
  | uncharged hprepared htakes | charging hprepared htakes =>
    obtain ⟨hrecords, hnone⟩ := htakes.recordsOf (hprepared.knows honce) email
    rw [hrecords, hfree rfl, usesFor_of_plan _ rfl, created_after_of_silent p rfl]
    refine ⟨by omega, ?_⟩
    split
    · rename_i huse
      exact Nat.le_of_eq (congrArg (· + 1) (hnone huse))
    · exact hone
  | found _ hback =>
    rw [hheld rfl] at huses ⊢
    rw [usesFor_of_noPlan _ rfl, created_after_of_silent p rfl]
    have hrecords := hback.recordsOf_add (hplans _ rfl) (by omega) hone
    dsimp only
    omega
  | released hback =>
    rw [hheld rfl] at huses ⊢
    rw [OrderPlan.recordsOf_keep, usesFor_of_noPlan _ rfl, created_after_of_silent p rfl]
    have hrecords := hback.recordsOf_add (hplans _ rfl) (by omega) hone
    omega
  | @created plan settled c hcreates =>
    -- the use that was held is now that of the order
    have horder : [c.order].countP (·.isUse id email) =
        if plan.isUse id email then 1 else 0 := by
      rw [List.countP_singleton, hcreates.isUse]
    rw [hheld rfl, usesFor_of_noPlan _ rfl, created_after, Creation.created_events,
      List.countP_append, horder]
    exact ⟨rfl, hone⟩
  | @stranded plan _ _ v _ hvoucher hgone =>
    -- the row of this voucher is not gone
    have hnot : plan.isUse id email = false := by
      rw [← Bool.not_eq_true, OrderPlan.isUse_iff hvoucher (hplans _ rfl)]
      rintro ⟨hid, -⟩
      have hrow := (hplans _ rfl v hvoucher hid).2
      rw [← hid, hgone] at hrow
      cases hrow
    rw [hheld rfl, hnot, usesFor_of_noPlan _ rfl, created_after_of_silent p rfl]
    exact ⟨rfl, hone⟩

/-- What the plan of a process knows of a voucher stays true. -/
theorem knows_after (h : p.attempt.Advances answer t p.stage next) {plan : OrderPlan}
    (hknows : plan.Knows t id) : plan.Knows next.tables id := by
  intro v hv hid
  obtain ⟨honce, hrow⟩ := hknows v hv hid
  refine ⟨honce, ?_⟩
  rwa [p.voucher?_after h, Option.isSome_map]

end Process

/-! ## Every schedule -/

namespace Shop

variable {t : Tables} {s s' : Shop} {id : VoucherId} {email : String}

/-- The number of orders created so far with a voucher by a customer. -/
def ordersFor (s : Shop) (id : VoucherId) (email : String) : Nat :=
  s.created.countP (·.isUse id email)

/-- The number of processes that hold a use of a voucher for a customer. -/
def holdersFor (s : Shop) (id : VoucherId) (email : String) : Nat :=
  s.processes.countP (·.holdsFor id email)

/-- What holds of a voucher that each customer may use once, and of a customer, in every state. -/
structure Recorded (s : Shop) (id : VoucherId) (email : String) : Prop where
  oncePerCustomer : s.tables.OncePerCustomer id
  plans : ∀ p ∈ s.processes, ∀ plan, p.stage.plan? = some plan → plan.Knows s.tables id
  /-- Each use is recorded, and nothing else is. -/
  records : s.tables.recordsOf id email = s.ordersFor id email + s.holdersFor id email
  atMostOne : s.tables.recordsOf id email ≤ 1

theorem recorded_opening (attempts : List Attempt) (honce : t.OncePerCustomer id)
    (hnew : t.hasUsed id email = false) : Recorded (opening t attempts) id email := by
  have horders : (opening t attempts).ordersFor id email = 0 := by
    rw [ordersFor, created_opening, List.countP_nil]
  have hholders : (opening t attempts).holdersFor id email = 0 :=
    List.countP_eq_zero.2 (forall_opening fun _ _ => by simp [Process.holdsFor, Stage.plan?])
  have hnone : t.recordsOf id email = 0 := Tables.recordsOf_eq_zero_iff.2 hnew
  exact {
    oncePerCustomer := honce
    plans := forall_opening fun _ _ _ hplan => by cases hplan
    records := by rw [horders, hholders]; exact hnone
    atMostOne := Nat.le_trans (Nat.le_of_eq hnone) (Nat.zero_le 1) }

theorem Recorded.steps (hs : Recorded s id email) (h : Steps s s') : Recorded s' id email := by
  have hplans : ∀ p ∈ s'.processes, ∀ plan, p.stage.plan? = some plan →
      plan.Knows s'.tables id := by
    obtain ⟨h⟩ := h
    refine List.forall_mem_append.2 ⟨?_, List.forall_mem_cons.2 ⟨?_, ?_⟩⟩
    · exact fun q hq plan hplan =>
        Process.knows_after h (hs.plans q (List.mem_append_left _ hq) plan hplan)
    · intro plan hplan
      rcases h.plan_of_plan hplan with hbefore | ⟨payment, hprepared⟩
      · exact Process.knows_after h (hs.plans _ (by simp) plan hbefore)
      · exact Process.knows_after h (hprepared.knows hs.oncePerCustomer)
    · exact fun q hq plan hplan => Process.knows_after h
        (hs.plans q (List.mem_append_right _ (List.mem_cons_of_mem _ hq)) plan hplan)
  obtain @⟨t₁, before, after, p, next, _, h⟩ := h
  have hsum := count_of_steps (·.isUse id email) (·.holdsFor id email) t₁ next.tables before after
    p (p.after next)
  have hrecords := hs.records
  simp only [ordersFor, holdersFor] at hrecords
  have huses : p.usesFor id email ≤ t₁.recordsOf id email := by
    simp only [hrecords, created, List.flatMap_append, List.flatMap_cons, List.countP_append,
      List.countP_cons, Process.usesFor]
    omega
  obtain ⟨hchange, hone⟩ := p.recordsOf_after h hs.oncePerCustomer
    (fun plan hplan => hs.plans p (by simp) plan hplan) huses hs.atMostOne
  refine ⟨h.recounts.oncePerCustomer hs.oncePerCustomer, hplans, ?_, hone⟩
  simp only [ordersFor, holdersFor, Process.usesFor] at hchange ⊢
  omega

theorem recorded_run (attempts : List Attempt) (honce : t.OncePerCustomer id)
    (hnew : t.hasUsed id email = false) (moves : List Move) :
    Recorded ((opening t attempts).run moves) id email :=
  run_induction (P := fun s => Recorded s id email) (recorded_opening attempts honce hnew)
    (fun hs h => hs.steps h) moves

/-- **A voucher that each customer may use once is used at most once by each customer**, whatever
the attempts do in which order. A customer who has not used it at the start has created one order
with it, or has one attempt under way with it, and is then recorded, or neither of them. The orders
that were created are those that the store has now of the customer with the voucher. -/
theorem used_once (t : Tables) (attempts : List Attempt) (moves : List Move) (id : VoucherId)
    (email : String) (honce : t.OncePerCustomer id) (hnew : t.hasUsed id email = false) :
    let s := (opening t attempts).run moves
    s.ordersFor id email + s.holdersFor id email ≤ 1 ∧
      (⟨id, email⟩ ∈ s.tables.voucherCustomers ↔
        s.ordersFor id email + s.holdersFor id email = 1) ∧
      (t.NewIds attempts → (∀ o ∈ t.orders, o.isUse id email = false) →
        s.tables.orders.countP (·.isUse id email) = s.ordersFor id email) := by
  have hs : Recorded ((opening t attempts).run moves) id email :=
    recorded_run attempts honce hnew moves
  have hrecords := hs.records
  have hone := hs.atMostOne
  refine ⟨hrecords ▸ hone, ?_, fun hids hnone => ?_⟩
  · rw [← hrecords, ← List.count_pos_iff]
    exact ⟨fun hpos => Nat.le_antisymm hone hpos, fun h => Nat.lt_of_lt_of_eq Nat.one_pos h.symm⟩
  · have horders := ((orderly_opening hids).run hids moves).1.orders
    rw [horders.countP_eq, List.countP_append, List.countP_eq_zero.2 (fun o ho => by
      simp [hnone o ho]), Nat.zero_add]
    rfl

/-- The first of two attempts to use the voucher twice creates an order. -/
theorem used_once_bookshop :
    Bookshop.onceTables.OncePerCustomer ⟨⟨7⟩⟩ ∧
      Bookshop.onceTables.hasUsed ⟨⟨7⟩⟩ "ada@example.com" = false ∧
      let s := (opening Bookshop.onceTables [Bookshop.attempt 1, Bookshop.attempt 2]).run
        Bookshop.race
      s.ordersFor ⟨⟨7⟩⟩ "ada@example.com" + s.holdersFor ⟨⟨7⟩⟩ "ada@example.com" ≤ 1 := by
  have honce : Bookshop.onceTables.OncePerCustomer ⟨⟨7⟩⟩ := by decide
  have hnew : Bookshop.onceTables.hasUsed ⟨⟨7⟩⟩ "ada@example.com" = false := rfl
  exact ⟨honce, hnew, (used_once Bookshop.onceTables _ Bookshop.race _ _ honce hnew).1⟩

/-- The second attempt is rejected while the first is under way. -/
example : let s := opening Bookshop.onceTables [Bookshop.attempt 1, Bookshop.attempt 2]
    (s.run (Bookshop.race.take 2)).holdersFor ⟨⟨7⟩⟩ "ada@example.com" = 1 ∧
      (s.run Bookshop.race).ordersFor ⟨⟨7⟩⟩ "ada@example.com" = 1 := by
  decide +kernel

end Shop

end Storefront
