import Storefront.Proofs.Order.Repricing

/-!
# Steps that fail

A record that is changed step by step keeps what the steps before a failure have made of it. Where
each step computes a value and stores it, the step that fails has not changed anything yet.

* `Updating.inOrder`, `Updating.Taken`: steps one after the other, and the first of them.
* `Updating.stopsAt_of_error`: steps that fail have been taken up to one of them.
* `Updating.Taken.invariant`: what each step keeps is kept by some of them.
* `ifDone`: what steps come to where they do not fail.
-/

namespace Storefront

/-- What has been done in full. After a failure it does not matter what there is by then. -/
def ifDone {σ α : Type} : Except Error α × σ → Except Error (α × σ)
  | (.ok a, s) => .ok (a, s)
  | (.error e, _) => .error e

namespace Updating

variable {σ : Type}

/-- Steps that are taken one after the other, as far as they succeed. -/
def inOrder : List (Updating σ Unit) → Updating σ Unit
  | [] => pure ()
  | step :: rest => do
    step
    inOrder rest

/-- The first of some steps have been taken, and have made one record into another. -/
def Taken (steps : List (Updating σ Unit)) (count : Nat) (s s' : σ) : Prop :=
  (inOrder (steps.take count)).run s = (.ok (), s')

/-- The steps have been taken up to one that fails, which has changed nothing. -/
structure StopsAt (steps : List (Updating σ Unit)) (count : Nat) (e : Error) (s s' : σ) : Prop where
  taken : Taken steps count s s'
  fails : ∃ step, steps[count]? = some step ∧ step.run s' = (.error e, s')

theorem run_inOrder_cons (step : Updating σ Unit) (rest : List (Updating σ Unit)) (s : σ) :
    (inOrder (step :: rest)).run s = match step.run s with
      | (.ok (), s₁) => (inOrder rest).run s₁
      | (.error e, s₁) => (.error e, s₁) := by
  rw [inOrder, run_bind]
  rcases step.run s with ⟨_ | _, _⟩ <;> rfl

theorem ifDone_nil (s : σ) : ifDone ((inOrder []).run s) = .ok ((), s) := rfl

theorem ifDone_cons {α : Type} (compute : σ → Except Error α) (put : σ → α → σ)
    (rest : List (Updating σ Unit)) (s : σ) :
    ifDone ((inOrder (store compute put :: rest)).run s) =
      compute s >>= fun a => ifDone ((inOrder rest).run (put s a)) := by
  rw [run_inOrder_cons, run_store]
  cases compute s <;> rfl

/-- A step that changes nothing where it fails. -/
def IsWhole (step : Updating σ Unit) : Prop :=
  ∀ s e s', step.run s = (.error e, s') → s' = s

theorem isWhole_store {α : Type} (compute : σ → Except Error α) (put : σ → α → σ) :
    IsWhole (store compute put) := by
  intro s e s' h
  rw [run_store] at h
  split at h
  · cases h
  · exact (Prod.mk.inj h).2.symm

theorem run_store_ok {α : Type} {compute : σ → Except Error α} {put : σ → α → σ} {s s' : σ}
    (h : (store compute put).run s = (.ok (), s')) : ∃ a, compute s = .ok a ∧ s' = put s a := by
  rw [run_store] at h
  split at h
  · exact ⟨_, ‹_›, (Prod.mk.inj h).2.symm⟩
  · cases h

/-- **Steps that fail** have been taken up to one of them, if each of them changes nothing where it
fails. -/
theorem stopsAt_of_error {steps : List (Updating σ Unit)} (hwhole : ∀ step ∈ steps, step.IsWhole)
    {s s' : σ} {e : Error} (h : (inOrder steps).run s = (.error e, s')) :
    ∃ count, StopsAt steps count e s s' := by
  induction steps generalizing s with
  | nil => cases h
  | cons step rest ih =>
    obtain ⟨hstep, hrest⟩ := List.forall_mem_cons.1 hwhole
    rw [run_inOrder_cons] at h
    cases hfirst : step.run s with
    | mk result s₁ =>
      rw [hfirst] at h
      cases result with
      | error e' =>
        obtain ⟨he, rfl⟩ := Prod.mk.inj h
        obtain rfl := Except.error.inj he
        obtain rfl := hstep s e' s₁ hfirst
        exact ⟨0, rfl, step, rfl, hfirst⟩
      | ok u =>
        obtain ⟨count, htaken, hfails⟩ := ih hrest h
        refine ⟨count + 1, ?_, hfails⟩
        rw [Taken, List.take_succ_cons, run_inOrder_cons, hfirst]
        exact htaken

/-- What each step keeps holds after some of them. -/
theorem Taken.invariant {P : σ → Prop} {steps : List (Updating σ Unit)} {count : Nat} {s s' : σ}
    (h : Taken steps count s s') (hs : P s)
    (hstep : ∀ step ∈ steps.take count, ∀ s s₁, P s → step.run s = (.ok (), s₁) → P s₁) :
    P s' := by
  unfold Taken at h
  generalize steps.take count = taken at h hstep
  induction taken generalizing s with
  | nil =>
    cases h
    exact hs
  | cons step rest ih =>
    obtain ⟨hfirst, hrest⟩ := List.forall_mem_cons.1 hstep
    rw [run_inOrder_cons] at h
    cases hrun : step.run s with
    | mk result s₁ =>
      rw [hrun] at h
      cases result with
      | error e => cases h
      | ok u => exact ih (hfirst s s₁ hs hrun) h hrest

/-- What is taken of steps that stop is in front of the last one. -/
theorem StopsAt.take_subset {steps : List (Updating σ Unit)} {count : Nat} {e : Error} {s s' : σ}
    (h : StopsAt steps count e s s') : steps.take count ⊆ steps.dropLast := by
  obtain ⟨step, hstep, -⟩ := h.fails
  obtain ⟨hcount, -⟩ := List.getElem?_eq_some_iff.1 hstep
  rw [List.dropLast_eq_take]
  exact (List.take_prefix_take_left (Nat.le_sub_one_of_lt hcount)).subset

end Updating

end Storefront
