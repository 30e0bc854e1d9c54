import Storefront.Checkout.Completion
import Storefront.Proofs.Store.Run

/-!
# Uses of vouchers in the tables

Taking a use of a voucher changes the row of the voucher and, for a voucher that each customer may
use only once, records the customer. Giving the use back undoes both.

* `Voucher.take_ok`, `Voucher.take_run`, `Voucher.giveBack_ok`, `Voucher.giveBack_run`: what the two
  transactions do, and when they can be carried out.
* `OrderPlan.Takes`, `OrderPlan.GivesBack`: the same for the voucher of a plan, if it has one.
* `OrderPlan.Takes.undo`: giving back what was taken restores the tables.
* `OrderPlan.Takes.voucher?`, `OrderPlan.GivesBack.voucher?`: what they do to the row of a voucher.
* `OrderPlan.releasing_ok`, `OrderPlan.releasing_run`: the transaction that gives the use back.
-/

namespace Storefront

namespace Tables

/-- The tables after a use of a voucher has been taken and remembered for a customer. -/
def useTaken (t : Tables) (row : Voucher) (customer : Option String) : Tables :=
  { t with
    vouchers := upsert (·.id) (row.withUsed (row.used + 1)) t.vouchers
    voucherCustomers := match customer with
      | some email => t.voucherCustomers ++ [⟨row.id, email⟩]
      | none => t.voucherCustomers }

/-- The tables after a use of a voucher has been given back and forgotten for a customer. -/
def useGivenBack (t : Tables) (row : Voucher) (customer : Option String) : Tables :=
  { t with
    vouchers := upsert (·.id) (row.withUsed (row.used - 1)) t.vouchers
    voucherCustomers := match customer with
      | some email => t.voucherCustomers.filter fun c =>
          !(c.voucherId = row.id && c.customerEmail = email)
      | none => t.voucherCustomers }

variable {t : Tables} {row : Voucher} {customer : Option String}

theorem voucher?_id {id : VoucherId} (h : t.voucher? id = some row) : row.id = id :=
  (find?_key h).2

theorem voucher?_useTaken (id : VoucherId) :
    (t.useTaken row customer).voucher? id =
      if row.id = id then some (row.withUsed (row.used + 1)) else t.voucher? id :=
  find?_upsert (row.withUsed (row.used + 1)) t.vouchers id

theorem voucher?_useGivenBack (id : VoucherId) :
    (t.useGivenBack row customer).voucher? id =
      if row.id = id then some (row.withUsed (row.used - 1)) else t.voucher? id :=
  find?_upsert (row.withUsed (row.used - 1)) t.vouchers id

/-- The voucher of a checkout has its code, and is active in its channel. -/
theorem of_voucherFor? {checkout : Checkout} {now : Moment} {v : Voucher}
    (h : t.voucherFor? checkout now = some v) : ∃ code, checkout.voucherCode = some code ∧
      t.voucherByCode? code = some v ∧ v.isActiveIn checkout.channelId now = true := by
  obtain ⟨code, hcode, h⟩ := Option.bind_eq_some_iff.1 h
  obtain ⟨w, hw, h⟩ := Option.bind_eq_some_iff.1 h
  obtain ⟨hactive, rfl⟩ : w.isActiveIn checkout.channelId now = true ∧ w = v := by
    simpa using h
  exact ⟨code, hcode, hw, hactive⟩

theorem mem_of_voucherFor? {checkout : Checkout} {now : Moment} {v : Voucher}
    (h : t.voucherFor? checkout now = some v) : v ∈ t.vouchers := by
  obtain ⟨_, -, hcode, -⟩ := of_voucherFor? h
  exact List.mem_of_find?_eq_some hcode

/-- Nobody is recorded twice, so forgetting the last record restores the records. -/
theorem filter_voucherCustomers {id : VoucherId} {email : String}
    (hnew : t.hasUsed id email = false) :
    (t.voucherCustomers ++ [(⟨id, email⟩ : VoucherCustomer)]).filter
      (fun c => !(c.voucherId = id && c.customerEmail = email)) = t.voucherCustomers := by
  rw [List.filter_append, List.filter_eq_self.2]
  · simp
  · intro c hc
    rw [Bool.not_eq_true']
    exact Bool.eq_false_iff.2 (List.any_eq_false.1 hnew c hc)

/-- Giving back the use that was just taken restores the tables. -/
theorem useGivenBack_useTaken {id : VoucherId} (hrow : t.voucher? id = some row)
    (hnew : ∀ e, customer = some e → t.hasUsed id e = false) :
    (t.useTaken row customer).useGivenBack (row.withUsed (row.used + 1)) customer = t := by
  obtain rfl := voucher?_id hrow
  let t₁ := (t.useTaken row customer).useGivenBack (row.withUsed (row.used + 1)) customer
  have hvouchers : t₁.vouchers = t.vouchers :=
    (upsert_upsert (k := Voucher.id) (by rfl) t.vouchers).trans (upsert_self hrow)
  have hcustomers : t₁.voucherCustomers = t.voucherCustomers := by
    cases customer with
    | none => rfl
    | some email => exact filter_voucherCustomers (hnew email rfl)
  calc t₁ = { t with vouchers := t₁.vouchers, voucherCustomers := t₁.voucherCustomers } := by
        cases customer <;> rfl
    _ = t := by rw [hvouchers, hcustomers]

end Tables

/-! ## The transactions -/

namespace Transaction

variable {s s' : Session} {id : VoucherId} {f : Voucher → Voucher}

theorem updateVoucher_ok {u : Unit} (h : (updateVoucher id f).run s = (.ok u, s')) :
    ∃ row, s.tables.voucher? id = some row ∧
      s' = { s with tables := { s.tables with
        vouchers := upsert (·.id) (f row) s.tables.vouchers } } := by
  have h := run_tables_bind_ok h
  obtain ⟨row, hrow, h⟩ := run_orFail_bind_ok h
  exact ⟨row, hrow, run_write_ok h⟩

theorem updateVoucher_run {row : Voucher} (hrow : s.tables.voucher? id = some row) :
    (updateVoucher id f).run s = (.ok (), { s with tables := { s.tables with
      vouchers := upsert (·.id) (f row) s.tables.vouchers } }) := by
  unfold updateVoucher
  rw [run_bind_of_ok (run_tables s), hrow]
  rfl

end Transaction

namespace Voucher

variable {v : Voucher} {email : Option String} {s s' : Session}

theorem countUse_ok {u : Unit} (h : v.countUse.run s = (.ok u, s')) :
    ∃ row, s.tables.voucher? v.id = some row ∧ row.hasUsesLeft = true ∧
      s' = { s with tables := { s.tables with
        vouchers := upsert (·.id) (row.withUsed (row.used + 1)) s.tables.vouchers } } := by
  obtain ⟨left, s₁, htake, hrest⟩ := Transaction.run_bind_ok h
  have htake := Transaction.run_tables_bind_ok htake
  obtain ⟨row, hrow, htake⟩ := Transaction.run_orFail_bind_ok htake
  split at htake
  · rename_i hleft
    obtain ⟨_, s₂, hupdate, htake⟩ := Transaction.run_bind_ok htake
    obtain ⟨rfl, rfl⟩ := Transaction.run_pure_ok htake
    obtain ⟨row', hrow', rfl⟩ := Transaction.updateVoucher_ok hupdate
    obtain rfl : row = row' := Option.some.inj (hrow.symm.trans hrow')
    obtain ⟨-, rfl⟩ := Transaction.run_pure_ok hrest
    exact ⟨row, hrow, hleft, rfl⟩
  · obtain ⟨rfl, rfl⟩ := Transaction.run_pure_ok htake
    exact (Transaction.run_throw_ok hrest).elim

/-- A use is taken from a voucher that has one left, for a customer who has not had one. -/
theorem take_ok {u : Unit} (h : (v.take email).run s = (.ok u, s')) :
    ∃ row, s.tables.voucher? v.id = some row ∧ row.hasUsesLeft = true ∧
      (∀ e, v.remembered? email = some e → s.tables.hasUsed v.id e = false) ∧
      s' = { s with tables := s.tables.useTaken row (v.remembered? email) } := by
  obtain ⟨_, s₁, hcount, h⟩ := Transaction.run_bind_ok h
  obtain ⟨row, hrow, hleft, rfl⟩ := countUse_ok hcount
  have hid := Tables.voucher?_id hrow
  refine ⟨row, hrow, hleft, ?_⟩
  generalize v.remembered? email = customer at h ⊢
  cases customer with
  | none =>
    obtain ⟨-, rfl⟩ := Transaction.run_pure_ok h
    exact ⟨fun e he => (nomatch he), rfl⟩
  | some e =>
    have h := Transaction.run_tables_bind_ok h
    obtain ⟨hnew, h⟩ := Transaction.run_guard_ok h
    have h := Transaction.run_tables_bind_ok h
    obtain ⟨-, h⟩ := Transaction.run_guard_ok h
    obtain rfl := Transaction.run_write_ok h
    refine ⟨fun e' he' => ?_, ?_⟩
    · cases he'
      simpa [Tables.hasUsed] using hnew
    · rw [Tables.useTaken, hid]

theorem rememberCustomer_run {e : String} (hnew : s.tables.hasUsed v.id e = false) :
    (v.rememberCustomer e).run s = (.ok (), { s with tables := { s.tables with
      voucherCustomers := s.tables.voucherCustomers ++ [⟨v.id, e⟩] } }) := by
  unfold rememberCustomer Transaction.addVoucherCustomer
  rw [Transaction.run_bind_of_ok (Transaction.run_tables s), hnew, if_neg Bool.false_ne_true,
    Transaction.run_bind_of_ok (Transaction.run_tables s), hnew, if_neg Bool.false_ne_true]
  rfl

theorem countUse_run {row : Voucher} (hrow : s.tables.voucher? v.id = some row)
    (hleft : row.hasUsesLeft = true) :
    v.countUse.run s = (.ok (), { s with tables := { s.tables with
      vouchers := upsert (·.id) (row.withUsed (row.used + 1)) s.tables.vouchers } }) := by
  have htake : (Transaction.takeUse v.id).run s = (.ok true, { s with tables := { s.tables with
      vouchers := upsert (·.id) (row.withUsed (row.used + 1)) s.tables.vouchers } }) := by
    unfold Transaction.takeUse
    rw [Transaction.run_bind_of_ok (Transaction.run_tables s),
      Transaction.run_orFail_bind_of_some hrow, if_pos hleft,
      Transaction.run_bind_of_ok (Transaction.updateVoucher_run hrow)]
    rfl
  unfold countUse
  rw [Transaction.run_bind_of_ok htake]
  rfl

/-- A use can be taken for a customer who has not had one. -/
theorem take_run {row : Voucher} (hrow : s.tables.voucher? v.id = some row)
    (hleft : row.hasUsesLeft = true)
    (hnew : ∀ e, v.remembered? email = some e → s.tables.hasUsed v.id e = false) :
    (v.take email).run s =
      (.ok (), { s with tables := s.tables.useTaken row (v.remembered? email) }) := by
  have hid := Tables.voucher?_id hrow
  unfold take
  rw [Transaction.run_bind_of_ok (countUse_run hrow hleft)]
  cases hremembered : v.remembered? email with
  | none => rfl
  | some e =>
    have hrecord := rememberCustomer_run (v := v) (s := { s with tables := { s.tables with
      vouchers := upsert (·.id) (row.withUsed (row.used + 1)) s.tables.vouchers } })
      (hnew e hremembered)
    rw [Tables.useTaken, hid]
    exact hrecord

theorem giveBack_run {row : Voucher} (hrow : s.tables.voucher? v.id = some row) :
    (v.giveBack email).run s =
      (.ok (), { s with tables := s.tables.useGivenBack row (v.remembered? email) }) := by
  have hid := Tables.voucher?_id hrow
  unfold giveBack Transaction.giveBackUse
  rw [Transaction.run_bind_of_ok (Transaction.updateVoucher_run hrow)]
  cases v.remembered? email with
  | none => rfl
  | some e =>
    rw [Tables.useGivenBack, hid]
    rfl

theorem giveBack_ok {u : Unit} (h : (v.giveBack email).run s = (.ok u, s')) :
    ∃ row, s.tables.voucher? v.id = some row ∧
      s' = { s with tables := s.tables.useGivenBack row (v.remembered? email) } := by
  obtain ⟨_, s₁, hupdate, -⟩ := Transaction.run_bind_ok h
  obtain ⟨row, hrow, -⟩ := Transaction.updateVoucher_ok hupdate
  rw [giveBack_run hrow] at h
  exact ⟨row, hrow, (Prod.ext_iff.1 h).2.symm⟩

end Voucher

/-! ## The voucher of a plan -/

namespace OrderPlan

/-- The customer that the use of the voucher of a plan is remembered for. -/
def remembered? (p : OrderPlan) : Option String :=
  p.voucher.bind (·.remembered? p.snapshot.customerEmail)

/-- `Takes p t t'`: the tables `t'` are `t` with a use of the voucher of the plan taken. -/
inductive Takes (p : OrderPlan) (t : Tables) : Tables → Prop where
  | nothing (hvoucher : p.voucher = none) : Takes p t t
  | use {v row : Voucher} (hvoucher : p.voucher = some v) (hrow : t.voucher? v.id = some row)
      (hleft : row.hasUsesLeft = true)
      (hnew : ∀ e, p.remembered? = some e → t.hasUsed v.id e = false) :
      Takes p t (t.useTaken row p.remembered?)

/-- `GivesBack p t t'`: the tables `t'` are `t` with the use of the voucher of the plan given
back. -/
inductive GivesBack (p : OrderPlan) (t : Tables) : Tables → Prop where
  | nothing (hvoucher : p.voucher = none) : GivesBack p t t
  | use {v row : Voucher} (hvoucher : p.voucher = some v) (hrow : t.voucher? v.id = some row) :
      GivesBack p t (t.useGivenBack row p.remembered?)

variable {p : OrderPlan} {t t' t'' : Tables} {s s' : Session}

/-- **Giving back undoes taking.** -/
theorem Takes.undo (h : p.Takes t t') (h' : p.GivesBack t' t'') : t'' = t := by
  cases h with
  | nothing hvoucher =>
    cases h' with
    | nothing _ => rfl
    | use hvoucher' _ => rw [hvoucher] at hvoucher'; cases hvoucher'
  | @use v row hvoucher hrow _ hnew =>
    cases h' with
    | nothing hvoucher' => rw [hvoucher] at hvoucher'; cases hvoucher'
    | @use v' row' hvoucher' hrow' =>
      obtain rfl : v = v' := Option.some.inj (hvoucher.symm.trans hvoucher')
      rw [Tables.voucher?_useTaken, if_pos (Tables.voucher?_id hrow)] at hrow'
      obtain rfl := Option.some.inj hrow'
      exact Tables.useGivenBack_useTaken hrow hnew

/-- The voucher of which a use is taken has a row afterwards. -/
theorem Takes.voucher?_isSome (h : p.Takes t t') {v : Voucher} (hv : p.voucher = some v) :
    (t'.voucher? v.id).isSome := by
  cases h with
  | nothing hvoucher => rw [hvoucher] at hv; cases hv
  | @use v' row hvoucher hrow _ _ =>
    obtain rfl : v' = v := Option.some.inj (hvoucher.symm.trans hv)
    rw [Tables.voucher?_useTaken, if_pos (Tables.voucher?_id hrow)]
    rfl

/-- How many uses of a voucher an order of the plan takes. -/
def usesOf (p : OrderPlan) (id : VoucherId) : Nat :=
  if p.voucher.map (·.id) = some id then 1 else 0

/-- A change of the count of the row of the voucher, as a change of any row by the uses of it. -/
theorem voucher?_map_withUsed {v row : Voucher} (hvoucher : p.voucher = some v)
    (hrow : t.voucher? v.id = some row) (f : Nat → Nat → Nat) (hf : ∀ n, f n 0 = n)
    (id : VoucherId) :
    (if row.id = id then some (row.withUsed (f row.used 1)) else t.voucher? id) =
      (t.voucher? id).map fun old => old.withUsed (f old.used (p.usesOf id)) := by
  have hid := Tables.voucher?_id hrow
  by_cases hv : row.id = id
  · rw [if_pos hv, ← hv, hid, hrow]
    simp [usesOf, hvoucher]
  · rw [if_neg hv]
    simp [usesOf, hvoucher, ← hid, hv, hf]

theorem Takes.voucher? (h : p.Takes t t') (id : VoucherId) :
    t'.voucher? id = (t.voucher? id).map fun row => row.withUsed (row.used + p.usesOf id) := by
  cases h with
  | nothing hvoucher => simp [usesOf, hvoucher]
  | use hvoucher hrow =>
    rw [Tables.voucher?_useTaken]
    exact voucher?_map_withUsed hvoucher hrow (· + ·) Nat.add_zero id

theorem GivesBack.voucher? (h : p.GivesBack t t') (id : VoucherId) :
    t'.voucher? id = (t.voucher? id).map fun row => row.withUsed (row.used - p.usesOf id) := by
  cases h with
  | nothing hvoucher => simp [usesOf, hvoucher]
  | use hvoucher hrow =>
    rw [Tables.voucher?_useGivenBack]
    exact voucher?_map_withUsed hvoucher hrow (· - ·) Nat.sub_zero id

theorem releaseVoucher_ok {u : Unit} (h : p.releaseVoucher.run s = (.ok u, s')) :
    ∃ t', p.GivesBack s.tables t' ∧ s' = { s with tables := t' } := by
  unfold releaseVoucher at h
  cases hv : p.voucher with
  | none =>
    rw [hv] at h
    obtain ⟨-, rfl⟩ := Transaction.run_pure_ok h
    exact ⟨_, .nothing hv, rfl⟩
  | some v =>
    rw [hv] at h
    obtain ⟨row, hrow, rfl⟩ := Voucher.giveBack_ok h
    have hcustomer : v.remembered? p.snapshot.customerEmail = p.remembered? := by
      simp [remembered?, hv]
    exact ⟨_, .use hv hrow, by rw [hcustomer]⟩

/-- A use can be given back as long as the voucher has a row. -/
theorem releaseVoucher_run (h : ∀ v, p.voucher = some v → (s.tables.voucher? v.id).isSome) :
    ∃ t', p.GivesBack s.tables t' ∧ p.releaseVoucher.run s = (.ok (), { s with tables := t' }) := by
  unfold releaseVoucher
  cases hv : p.voucher with
  | none => exact ⟨_, .nothing hv, rfl⟩
  | some v =>
    obtain ⟨row, hrow⟩ := Option.isSome_iff_exists.1 (h v hv)
    have hcustomer : v.remembered? p.snapshot.customerEmail = p.remembered? := by
      simp [remembered?, hv]
    exact ⟨_, .use hv hrow, hcustomer ▸ Voucher.giveBack_run hrow⟩

/-! ## Giving back and keeping a payment -/

/-- The tables with a payment kept, if there is one to keep. -/
def keep (t : Tables) : Option Payment → Tables
  | some payment => { t with payments := upsert (·.id) payment t.payments }
  | none => t

theorem voucher?_keep (t : Tables) (kept : Option Payment) (id : VoucherId) :
    (keep t kept).voucher? id = t.voucher? id := by
  cases kept <;> rfl

theorem releasing_ok {kept : Option Payment} {u : Unit}
    (h : (p.releasing kept).run s = (.ok u, s')) :
    ∃ t', p.GivesBack s.tables t' ∧ s' = { s with tables := keep t' kept } := by
  obtain ⟨_, s₁, hrelease, h⟩ := Transaction.run_bind_ok h
  obtain ⟨t', ht', rfl⟩ := releaseVoucher_ok hrelease
  cases kept with
  | none =>
    obtain ⟨-, rfl⟩ := Transaction.run_pure_ok h
    exact ⟨t', ht', rfl⟩
  | some payment =>
    obtain rfl := Transaction.run_write_ok h
    exact ⟨t', ht', rfl⟩

theorem releasing_run (s : Session) (kept : Option Payment)
    (h : ∀ v, p.voucher = some v → (s.tables.voucher? v.id).isSome) :
    ∃ t', p.GivesBack s.tables t' ∧
      (p.releasing kept).run s = (.ok (), { s with tables := keep t' kept }) := by
  obtain ⟨t', ht', hrun⟩ := releaseVoucher_run h
  refine ⟨t', ht', ?_⟩
  unfold releasing
  rw [Transaction.run_bind_of_ok hrun]
  cases kept <;> rfl

end OrderPlan

end Storefront
