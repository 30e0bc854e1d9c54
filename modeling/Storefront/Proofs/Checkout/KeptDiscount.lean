import Storefront.Checkout.VoucherDiscount
import Storefront.Proofs.Store.Rows
import Storefront.Proofs.Store.Run

/-!
# The discount that is kept with a checkout

What a voucher takes off is computed when the voucher is put on the checkout, and again when the
checkout has changed. In between it is a number that is stored.

* `addVoucher_ok`, `removeVoucher_ok`: what putting a voucher on a checkout stores, and what taking
  it off does.
* `Snapshot.Recalculated`: what computing the discount again comes to.
-/

namespace Storefront

variable {s s' : Snapshot} {t t' : Tables} {v : Voucher} {events : List Event}

/-- The tables with a checkout stored. -/
def Tables.withCheckout (t : Tables) (checkout : Checkout) : Tables :=
  { t with checkouts := upsert (·.token) checkout t.checkouts }

/-- Storing the checkout of a snapshot does nothing else. -/
theorem saveCheckout_ok {z z' : Session} {s s' : Snapshot}
    (h : (do Transaction.saveCheckout s.checkout; return s : Transaction Snapshot).run z =
      (.ok s', z')) : s' = s ∧ z' = { z with tables := z.tables.withCheckout s.checkout } := by
  obtain ⟨_, _, hsave, h⟩ := Transaction.run_bind_ok h
  obtain ⟨rfl, rfl⟩ := Transaction.run_pure_ok h
  exact ⟨rfl, Transaction.run_write_ok hsave⟩

theorem addVoucher_ok (h : t.transact (addVoucher s v) = (.ok s', t', events)) :
    ∃ discount, s.voucherDiscount t v = .ok discount ∧
      s' = s.withVoucher (some v) (some v.code) v.name discount ∧
      t' = t.withCheckout s'.checkout ∧ events = [] := by
  have h := Transaction.run_tables_bind_ok (Tables.transact_ok h)
  obtain ⟨discount, hdiscount, h⟩ := Transaction.run_lift_bind_ok h
  obtain ⟨rfl, htables⟩ := saveCheckout_ok h
  cases htables
  exact ⟨discount, hdiscount, rfl, rfl, rfl⟩

/-- Putting a voucher on a checkout can be tried. -/
theorem addVoucher_of_any {p : Snapshot → Bool}
    (h : (t.transact (addVoucher s v)).1.toOption.any p = true) :
    ∃ s' t', t.transact (addVoucher s v) = (.ok s', t', []) ∧ p s' = true := by
  obtain ⟨s', hs', hp⟩ := ok_of_any h
  obtain ⟨_, -, -, -, hevents⟩ := addVoucher_ok (Prod.ext hs' rfl)
  exact ⟨s', _, Prod.ext hs' (Prod.ext rfl hevents), hp⟩

theorem removeVoucher_ok (h : t.transact (removeVoucher s) = (.ok s', t', events)) :
    s' = s.withVoucher none none none (Money.zero s.checkout.currency) ∧
      t' = t.withCheckout s'.checkout ∧ events = [] := by
  obtain ⟨rfl, htables⟩ := saveCheckout_ok (Tables.transact_ok h)
  cases htables
  exact ⟨rfl, rfl, rfl⟩

/-- The row of a checkout that has been stored is that checkout. -/
theorem Tables.checkout?_withCheckout (t : Tables) (checkout : Checkout) :
    (t.withCheckout checkout).checkout? checkout.token = some checkout :=
  (find?_upsert checkout t.checkouts checkout.token).trans (if_pos rfl)

namespace Snapshot

/-- `s.Recalculated t s'`: the discount of the checkout of `s` is computed again. A voucher that
does not apply is taken off, and what a voucher takes off the lines is limited by their price. -/
inductive Recalculated (s : Snapshot) (t : Tables) : Snapshot → Prop
  | noVoucher (hnone : s.voucher = none) :
    Recalculated s t
      (s.withVoucher none s.checkout.voucherCode none (Money.zero s.checkout.currency))
  | takenOff {v : Voucher} {reason : Ineligibility} (hv : s.voucher = some v)
      (hreason : s.voucherDiscount t v = .error (.notApplicable reason)) :
    Recalculated s t (s.withVoucher none none none (Money.zero s.checkout.currency))
  | shipping {v : Voucher} {discount : Money} (hv : s.voucher = some v)
      (htype : v.type = .shipping) (hdiscount : s.voucherDiscount t v = .ok discount) :
    Recalculated s t (s.withVoucher (some v) s.checkout.voucherCode v.name discount)
  | limited {v : Voucher} {discount subtotal : Money} (hv : s.voucher = some v)
      (htype : v.type ≠ .shipping) (hdiscount : s.voucherDiscount t v = .ok discount)
      (hsubtotal : s.subtotalWithSales = .ok subtotal) :
    Recalculated s t
      (s.withVoucher (some v) s.checkout.voucherCode v.name (discount.min subtotal))

theorem recalculateDiscount_ok
    (h : t.transact (recalculateDiscount s) = (.ok s', t', events)) :
    s.Recalculated t s' ∧ t' = t.withCheckout s'.checkout ∧ events = [] := by
  have hrun := Tables.transact_ok h
  unfold recalculateDiscount at hrun
  split at hrun
  · rename_i hnone
    obtain ⟨rfl, htables⟩ := saveCheckout_ok hrun
    cases htables
    exact ⟨.noVoucher hnone, rfl, rfl⟩
  · rename_i v hv
    have hrun := Transaction.run_tables_bind_ok hrun
    dsimp only at hrun
    split at hrun
    · rename_i reason hreason
      obtain ⟨rfl, htables⟩ := saveCheckout_ok hrun
      cases htables
      exact ⟨.takenOff hv hreason, rfl, rfl⟩
    · exact (Transaction.run_throw_ok hrun).elim
    · rename_i discount hdiscount
      obtain ⟨kept, hkept, hrun⟩ := Transaction.run_lift_bind_ok hrun
      obtain ⟨rfl, htables⟩ := saveCheckout_ok hrun
      cases htables
      have hkept : (if v.type = .shipping then .ok discount else
          s.subtotalWithSales >>= fun subtotal => .ok (discount.min subtotal)) =
          Except.ok (ε := Error) kept := hkept
      split at hkept
      · rename_i htype
        cases hkept
        exact ⟨.shipping hv htype hdiscount, rfl, rfl⟩
      · rename_i htype
        obtain ⟨subtotal, hsubtotal, hkept⟩ := bind_ok hkept
        cases hkept
        exact ⟨.limited hv htype hdiscount hsubtotal, rfl, rfl⟩

/-- Where there is no voucher, nothing is taken off after the discount has been computed again. -/
theorem recalculateDiscount_of_none (hnone : s.voucher = none) (t : Tables) :
    ∃ t', t.transact (recalculateDiscount s) = (.ok (s.withVoucher none s.checkout.voucherCode none
      (Money.zero s.checkout.currency)), t', []) := by
  generalize hkept : s.withVoucher none s.checkout.voucherCode none
    (Money.zero s.checkout.currency) = kept
  have hrun : (recalculateDiscount s).run { tables := t } =
      (.ok kept, { tables := t.withCheckout kept.checkout }) := by
    unfold recalculateDiscount
    rw [hnone]
    dsimp only
    rw [hkept]
    rfl
  exact ⟨_, Tables.transact_of_run hrun⟩

end Snapshot

end Storefront
