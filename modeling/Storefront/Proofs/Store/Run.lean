import Storefront.Proofs.Store.Rows
import Storefront.Store.Transaction

/-!
# Running transactions

A transaction that fails is rolled back, so what counts is what one has done that succeeds. The
rules `run_…_ok` take a successful run apart: `run_bind_ok` for a sequence, and one rule for each
read and write of `Storefront.Store.Transaction`.

* `Tables.transact_ok`, `Tables.transact_error`: what a whole transaction leaves behind.
-/

namespace Storefront

/-- Of two steps that succeed the first has succeeded, and then the second. -/
theorem bind_ok {α β : Type} {x : Except Error α} {f : α → Except Error β} {b : β}
    (h : (x >>= f) = .ok b) : ∃ a, x = .ok a ∧ f a = .ok b := by
  cases x with
  | error e => cases h
  | ok a => exact ⟨a, rfl, h⟩

theorem map_ok {α β : Type} {x : Except Error α} {f : α → β} {b : β} (h : f <$> x = .ok b) :
    ∃ a, x = .ok a ∧ b = f a := by
  cases x with
  | error e => cases h
  | ok a =>
    cases h
    exact ⟨a, rfl, rfl⟩

theorem mapError_ok {α : Type} {x : Except Error α} {f : Error → Error} {a : α}
    (h : x.mapError f = .ok a) : x = .ok a := by
  cases x with
  | error e => cases h
  | ok b =>
    cases h
    rfl

/-- A step that succeeds is followed by the next. -/
theorem ok_bind {α β : Type} (a : α) (f : α → Except Error β) : (.ok a >>= f) = f a := rfl

/-- A result that can be computed can be looked at. -/
theorem ok_of_any {α : Type} {x : Except Error α} {p : α → Bool}
    (h : x.toOption.any p = true) : ∃ a, x = .ok a ∧ p a = true := by
  cases x with
  | error e => cases h
  | ok a => exact ⟨a, rfl, h⟩

/-- A check that is passed because what it forbids is not so. -/
theorem guard_ok {α : Type} {c : Prop} [Decidable c] {e : Error} {next : Unit → Except Error α}
    {a : α} (h : (if c then do let u ← throw e; next u else next ()) = .ok a) :
    ¬c ∧ next () = .ok a := by
  split at h
  · cases h
  · exact ⟨‹_›, h⟩

/-- A check that is passed because what it asks for is so. -/
theorem unless_ok {α : Type} {c : Prop} [Decidable c] {e : Error} {next : Unit → Except Error α}
    {a : α} (h : (if c then next () else do let u ← throw e; next u) = .ok a) :
    c ∧ next () = .ok a := by
  split at h
  · exact ⟨‹_›, h⟩
  · cases h

namespace Transaction

variable {α β : Type} {s s' : Session}

/-! ## Sequences -/

theorem run_bind (x : Transaction α) (f : α → Transaction β) (s : Session) :
    (x >>= f).run s = match x.run s with
      | (.ok a, s₁) => (f a).run s₁
      | (.error e, s₁) => (.error e, s₁) := by
  rw [ExceptT.run_bind]
  simp only [bind, StateT.bind]
  rcases x.run s with ⟨_ | _, _⟩ <;> rfl

/-- Of a sequence that succeeds the first part has succeeded, and then the second. -/
theorem run_bind_ok {x : Transaction α} {f : α → Transaction β} {b : β}
    (h : (x >>= f).run s = (.ok b, s')) :
    ∃ a s₁, x.run s = (.ok a, s₁) ∧ (f a).run s₁ = (.ok b, s') := by
  rw [run_bind] at h
  split at h
  · exact ⟨_, _, ‹_›, h⟩
  · cases h

/-- A first part that succeeds is followed by the second. -/
theorem run_bind_of_ok {x : Transaction α} {f : α → Transaction β} {a : α} {s₁ : Session}
    (h : x.run s = (.ok a, s₁)) : (x >>= f).run s = (f a).run s₁ := by
  rw [run_bind, h]

theorem run_pure_ok {a b : α} (h : (pure a : Transaction α).run s = (.ok b, s')) :
    b = a ∧ s' = s := by
  cases h
  exact ⟨rfl, rfl⟩

theorem run_throw_ok {e : Error} {a : α} (h : (throw e : Transaction α).run s = (.ok a, s')) :
    False := by
  cases h

/-- A check in a transaction that is passed because what it forbids is not so. -/
theorem run_guard_ok {c : Prop} [Decidable c] {e : Error} {next : Unit → Transaction α} {a : α}
    (h : (if c then do let u ← throw e; next u else next ()).run s = (.ok a, s')) :
    ¬c ∧ (next ()).run s = (.ok a, s') := by
  split at h
  · obtain ⟨_, _, hthrow, -⟩ := run_bind_ok h
    exact (run_throw_ok hthrow).elim
  · exact ⟨‹_›, h⟩

/-- A check in a transaction that is passed because what it asks for is so. -/
theorem run_unless_ok {c : Prop} [Decidable c] {e : Error} {next : Unit → Transaction α} {a : α}
    (h : (if c then next () else do let u ← throw e; next u).run s = (.ok a, s')) :
    c ∧ (next ()).run s = (.ok a, s') := by
  split at h
  · exact ⟨‹_›, h⟩
  · obtain ⟨_, _, hthrow, -⟩ := run_bind_ok h
    exact (run_throw_ok hthrow).elim

/-- What cannot read or write leaves the session alone. -/
theorem run_lift_ok {x : Except Error α} {a : α}
    (h : (liftM x : Transaction α).run s = (.ok a, s')) : x = .ok a ∧ s' = s := by
  cases x <;> cases h
  exact ⟨rfl, rfl⟩

theorem run_lift_bind_ok {x : Except Error α} {f : α → Transaction β} {b : β}
    (h : ((liftM x : Transaction α) >>= f).run s = (.ok b, s')) :
    ∃ a, x = .ok a ∧ (f a).run s = (.ok b, s') := by
  obtain ⟨a, _, hlift, hf⟩ := run_bind_ok h
  obtain ⟨hx, rfl⟩ := run_lift_ok hlift
  exact ⟨a, hx, hf⟩

theorem run_lift_bind_of_ok {x : Except Error α} {f : α → Transaction β} {a : α}
    (h : x = .ok a) : ((liftM x : Transaction α) >>= f).run s = (f a).run s := by
  rw [h]
  rfl

theorem run_orFail_bind_ok {x : Option α} {e : Error} {f : α → Transaction β} {b : β}
    (h : ((liftM (orFail e x) : Transaction α) >>= f).run s = (.ok b, s')) :
    ∃ a, x = some a ∧ (f a).run s = (.ok b, s') := by
  obtain ⟨a, hx, hf⟩ := run_lift_bind_ok h
  cases x with
  | none => cases hx
  | some _ =>
    cases hx
    exact ⟨_, rfl, hf⟩

theorem run_orFail_bind_of_some {x : Option α} {e : Error} {f : α → Transaction β} {a : α}
    (h : x = some a) :
    ((liftM (orFail e x) : Transaction α) >>= f).run s = (f a).run s := by
  rw [h]
  rfl

/-! ## Reads and writes -/

theorem run_tables (s : Session) : tables.run s = (.ok s.tables, s) := rfl

/-- What follows a look at the tables. -/
theorem run_tables_bind_ok {f : Tables → Transaction α} {a : α}
    (h : (tables >>= f).run s = (.ok a, s')) : (f s.tables).run s = (.ok a, s') := by
  rw [run_bind_of_ok (run_tables s)] at h
  exact h

theorem run_write_ok {f : Tables → Tables} {u : Unit} (h : (write f).run s = (.ok u, s')) :
    s' = { s with tables := f s.tables } := by
  cases h
  rfl

theorem onCommit_ok {e : Event} {u : Unit} (h : (onCommit e).run s = (.ok u, s')) :
    s' = { s with events := s.events ++ [e] } := by
  cases h
  rfl

/-- Announcing events in turn announces them all. -/
theorem forM_onCommit_ok {events : List Event} {u : Unit}
    (h : (events.forM onCommit).run s = (.ok u, s')) :
    s' = { s with events := s.events ++ events } := by
  induction events generalizing s with
  | nil =>
    obtain ⟨-, rfl⟩ := run_pure_ok h
    simp
  | cons e rest ih =>
    obtain ⟨_, s₁, he, hrest⟩ := run_bind_ok h
    obtain rfl := onCommit_ok he
    rw [ih hrest]
    simp

theorem saveStock_ok {stock : Stock} {u : Unit} (h : (saveStock stock).run s = (.ok u, s')) :
    s' = { s with tables := { s.tables with stocks := upsert (·.id) stock s.tables.stocks } } := by
  have h := run_tables_bind_ok h
  obtain ⟨rows, hrows, h⟩ := run_orFail_bind_ok h
  obtain rfl := run_write_ok h
  rw [upsert_of_replace? hrows]

/-- A new order is the first of its checkout. -/
theorem insertOrder_ok {order : Order} {u : Unit}
    (h : (insertOrder order).run s = (.ok u, s')) :
    (∀ token, order.checkoutToken = some token → s.tables.orderOf? token = none) ∧
      s' = { s with tables := { s.tables with orders := s.tables.orders ++ [order] } } := by
  unfold insertOrder at h
  split at h
  · rename_i token htoken
    have h := run_tables_bind_ok h
    obtain ⟨hnone, h⟩ := run_guard_ok h
    obtain rfl := run_write_ok h
    refine ⟨fun token' htoken' => ?_, rfl⟩
    rw [htoken] at htoken'
    cases htoken'
    simpa using hnone
  · rename_i hnone
    obtain rfl := run_write_ok h
    exact ⟨fun token htoken => absurd htoken (hnone token), rfl⟩

theorem saveOrder_ok {order : Order} {u : Unit} (h : (saveOrder order).run s = (.ok u, s')) :
    s' = { s with tables := { s.tables with orders := upsert (·.id) order s.tables.orders } } := by
  have h := run_tables_bind_ok h
  obtain ⟨rows, hrows, h⟩ := run_orFail_bind_ok h
  obtain rfl := run_write_ok h
  rw [upsert_of_replace? hrows]

end Transaction

/-! ## Whole transactions -/

namespace Tables

variable {α : Type} {t t' : Tables} {tx : Transaction α} {events : List Event}

theorem transact_ok {a : α} (h : t.transact tx = (.ok a, t', events)) :
    tx.run { tables := t } = (.ok a, ⟨t', events⟩) := by
  unfold transact at h
  split at h
  · rename_i hrun
    cases h
    exact hrun
  · cases h

/-- A transaction that fails changes and announces nothing. -/
theorem transact_error {e : Error} (h : t.transact tx = (.error e, t', events)) :
    t' = t ∧ events = [] := by
  unfold transact at h
  split at h
  · cases h
  · cases h
    exact ⟨rfl, rfl⟩

theorem transact_of_run {a : α} {s' : Session} (h : tx.run { tables := t } = (.ok a, s')) :
    t.transact tx = (.ok a, s'.tables, s'.events) := by
  unfold transact
  rw [h]

end Tables

end Storefront
