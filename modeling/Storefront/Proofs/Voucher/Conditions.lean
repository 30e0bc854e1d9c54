import Storefront.Checkout.VoucherDiscount
import Storefront.Proofs.Store.Run

/-!
# The customer among the conditions of a voucher

What a voucher takes off a checkout may fail for many reasons. One of them looks at more than the
checkout and the voucher: the customer may have used the voucher before. No computation of a price
fails for that reason.

* `IgnoresUses`: a computation that does not fail because of an earlier use.
* `Snapshot.hasUsed_of_voucherDiscount`: a voucher that does not apply because of an earlier use has
  been used by the customer.
-/

namespace Storefront

/-- The computation does not fail because a customer has used a voucher before. -/
structure IgnoresUses {α : Type} (x : Except Error α) : Prop where
  ne : x ≠ .error (.notApplicable .oncePerCustomer)

namespace IgnoresUses

variable {α β : Type} {x : Except Error α}

theorem ok (a : α) : IgnoresUses (.ok a) := ⟨fun h => nomatch h⟩

theorem error {e : Error} (he : e ≠ .notApplicable .oncePerCustomer) :
    IgnoresUses (.error e : Except Error α) :=
  ⟨fun h => he (Except.error.inj h)⟩

/-- A failure is passed on. -/
theorem of_error {e : Error} (h : IgnoresUses (.error e : Except Error α)) :
    IgnoresUses (.error e : Except Error β) :=
  .error fun he => h.ne (congrArg Except.error he)

theorem bind {f : α → Except Error β} (hx : IgnoresUses x) (hf : ∀ a, IgnoresUses (f a)) :
    IgnoresUses (x >>= f) := by
  cases x with
  | error e => exact hx.of_error
  | ok a => exact hf a

theorem map {f : α → β} (hx : IgnoresUses x) : IgnoresUses (x.map f) := by
  cases x with
  | error e => exact hx.of_error
  | ok a => exact ok _

theorem orFail {e : Error} (x : Option α) (he : e ≠ .notApplicable .oncePerCustomer) :
    IgnoresUses (orFail e x) := by
  cases x with
  | none => exact .error he
  | some a => exact ok a

/-- A check that fails for another reason. -/
theorem guard {c : Prop} [Decidable c] {e : Error} {next : Unit → Except Error α}
    (he : e ≠ .notApplicable .oncePerCustomer) (hnext : IgnoresUses (next ())) :
    IgnoresUses (if c then do let u ← throw e; next u else next ()) := by
  split
  · exact .error he
  · exact hnext

theorem require {c : Prop} [Decidable c] {e : Error} {next : Unit → Except Error α}
    (he : e ≠ .notApplicable .oncePerCustomer) (hnext : IgnoresUses (next ())) :
    IgnoresUses (if c then next () else do let u ← throw e; next u) := by
  split
  · exact hnext
  · exact .error he

theorem mapM {f : α → Except Error β} (hf : ∀ a, IgnoresUses (f a)) (l : List α) :
    IgnoresUses (l.mapM f) := by
  induction l with
  | nil => exact ok _
  | cons a rest ih =>
    rw [List.mapM_cons]
    exact (hf a).bind fun b => ih.bind fun bs => ok _

theorem foldlM {f : β → α → Except Error β} (hf : ∀ b a, IgnoresUses (f b a)) (l : List α)
    (b : β) : IgnoresUses (l.foldlM f b) := by
  induction l generalizing b with
  | nil => exact ok b
  | cons a rest ih =>
    rw [List.foldlM_cons]
    exact (hf b a).bind fun b => ih b

end IgnoresUses

open IgnoresUses (ok)

/-! ## Prices -/

namespace Money

theorem ignoresUses_combine (op : Decimal → Decimal → Option Decimal) (a b : Money) :
    IgnoresUses (combine op a b) := by
  unfold combine
  split
  · exact .map (.orFail _ (by simp))
  · exact .error (by simp)

theorem ignoresUses_add (a b : Money) : IgnoresUses (a.add b) := ignoresUses_combine _ a b

theorem ignoresUses_sub (a b : Money) : IgnoresUses (a.sub b) := ignoresUses_combine _ a b

theorem ignoresUses_times (m : Money) (quantity : Nat) : IgnoresUses (m.times quantity) :=
  .map (.orFail _ (by simp))

theorem ignoresUses_sum (currency : Currency) (amounts : List Money) :
    IgnoresUses (sum currency amounts) :=
  .foldlM ignoresUses_add _ _

end Money

theorem Discount.ignoresUses_ofValue (type : DiscountType) (value : Decimal)
    (currency : Currency) : IgnoresUses (ofValue type value currency) := by
  cases type with
  | fixed => exact ok _
  | percentage => exact .map (.orFail _ (by simp))

theorem Discount.ignoresUses_apply (d : Discount) (price : Money) :
    IgnoresUses (d.apply price) := by
  cases d with
  | fixed amount => exact (price.ignoresUses_sub amount).bind fun _ => ok _
  | percentage fraction =>
    exact (IgnoresUses.orFail _ (by simp)).bind fun _ =>
      (IgnoresUses.orFail _ (by simp)).bind fun _ => ok _

theorem Sale.ignoresUses_discountOn (s : Sale) (product : Product)
    (collections : List CollectionId) (channel : ChannelId) (variant : Option VariantId) :
    IgnoresUses (s.discountOn product collections channel variant) := by
  unfold discountOn
  split
  · unfold discountFor
    split
    · exact Discount.ignoresUses_ofValue ..
    · exact .error (by simp)
  · exact .error (by simp)

theorem Sale.ignoresUses_best (sales : List Sale) (product : Product) (price : Money)
    (collections : List CollectionId) (channel : ChannelId) (variant : Option VariantId) :
    IgnoresUses (best sales product price collections channel variant) := by
  refine (IgnoresUses.foldlM (fun found s => ?_) sales none).bind fun found => ?_
  · unfold consider
    have hdiscount := s.ignoresUses_discountOn product collections channel variant
    split
    · exact .map (Discount.ignoresUses_apply ..)
    · exact ok _
    · rename_i e _ he
      rw [he] at hdiscount
      exact hdiscount.of_error
  · split <;> exact ok _

theorem Voucher.ignoresUses_amountFor (v : Voucher) (price : Money) (channel : ChannelId) :
    IgnoresUses (v.amountFor price channel) := by
  have hdiscount : IgnoresUses (v.discountFor channel) := by
    unfold discountFor
    split
    · exact Discount.ignoresUses_ofValue ..
    · exact .error (by simp)
  exact hdiscount.bind fun d => (d.ignoresUses_apply price).bind fun discounted =>
    (price.ignoresUses_sub discounted).bind fun _ => ok _

theorem Voucher.ignoresUses_productsDiscount (v : Voucher) (prices : List Money)
    (channel : ChannelId) (currency : Currency) :
    IgnoresUses (v.productsDiscount prices channel currency) := by
  unfold productsDiscount
  split
  · exact .error (by simp)
  · split
    · exact v.ignoresUses_amountFor _ channel
    · exact (IgnoresUses.mapM (v.ignoresUses_amountFor · channel) _).bind fun amounts =>
        (Money.ignoresUses_sum currency amounts).bind fun _ => ok _

namespace CheckoutLine

variable (l : CheckoutLine) (channel : ChannelId) (sales : List Sale)

theorem ignoresUses_afterVoucher (v : Voucher) (price : Money) :
    IgnoresUses (afterVoucher v price channel) := by
  have hrest : ∀ off, IgnoresUses (price.sub off >>= fun left => .ok left.floorAtZero) :=
    fun off => (price.ignoresUses_sub off).bind fun _ => ok _
  unfold afterVoucher
  split
  · exact hrest _
  · exact (v.ignoresUses_amountFor price channel).bind hrest

theorem ignoresUses_exactUnitPrice : IgnoresUses (l.exactUnitPrice channel sales) := by
  refine (Sale.ignoresUses_best ..).bind fun found => ?_
  dsimp only
  split
  · split
    · exact ok _
    · exact (ignoresUses_afterVoucher ..).bind fun _ => ok _
  · exact ok _

theorem ignoresUses_unitPrice : IgnoresUses (l.unitPrice channel sales) :=
  (l.ignoresUses_exactUnitPrice channel sales).bind fun _ => ok _

theorem ignoresUses_totalPrice : IgnoresUses (l.totalPrice channel sales) := by
  refine (l.ignoresUses_exactUnitPrice channel sales).bind fun unit => ?_
  have hrest : ∀ withDiscounts, IgnoresUses (unit.undiscounted.times l.quantity >>=
      fun undiscounted => unit.withSale.times l.quantity >>= fun withSale =>
        .ok (LinePrice.quantize ⟨undiscounted, withSale, withDiscounts⟩)) := fun _ =>
    (Money.ignoresUses_times ..).bind fun _ => (Money.ignoresUses_times ..).bind fun _ => ok _
  dsimp only
  split
  · split
    · exact (ignoresUses_afterVoucher ..).bind fun once => (Money.ignoresUses_times ..).bind
        fun others => (others.ignoresUses_add once).bind hrest
    · exact (Money.ignoresUses_times ..).bind hrest
  · exact (Money.ignoresUses_times ..).bind hrest

end CheckoutLine

/-! ## Vouchers on checkouts -/

/-- A condition of a voucher that fails because of an earlier use fails for a customer who has used
the voucher. -/
theorem Tables.hasUsed_of_checkVoucher {t : Tables} {v : Voucher} {total : Money} {quantity : Nat}
    {email : Option String} {channel : ChannelId} {user : Option User}
    (h : t.checkVoucher v total quantity email channel user =
      .error (.notApplicable .oncePerCustomer)) :
    v.applyOncePerCustomer = true ∧ ∃ e, email = some e ∧ t.hasUsed v.id e = true := by
  by_contra hunused
  refine absurd h (IgnoresUses.bind ?_ fun _ => IgnoresUses.bind ?_ fun _ => ?_).ne
  · unfold Voucher.checkMinimumSpent
    split
    · split
      · exact .error (by simp)
      · exact ok _
    · exact ok _
  · unfold Voucher.checkMinimumQuantity
    split
    · split
      · exact .error (by simp)
      · exact ok _
    · exact ok _
  · split
    · rename_i hused
      rw [Bool.and_eq_true, Option.any_eq_true] at hused
      exact absurd hused hunused
    · unfold Voucher.checkStaff
      split
      · exact .error (by simp)
      · exact ok _

namespace Snapshot

variable (s : Snapshot)

theorem ignoresUses_subtotalWithSales : IgnoresUses s.subtotalWithSales :=
  (IgnoresUses.mapM (fun l => (l.ignoresUses_totalPrice ..).bind fun _ => ok _) _).bind
    fun totals => Money.ignoresUses_sum _ totals

theorem ignoresUses_itemPrices (lines : List CheckoutLine) : IgnoresUses (s.itemPrices lines) :=
  (IgnoresUses.mapM (fun l => (l.ignoresUses_unitPrice ..).bind fun _ => ok _) _).bind
    fun _ => ok _

theorem ignoresUses_shippingDiscount (v : Voucher) : IgnoresUses (s.shippingDiscount v) :=
  .require (by simp) (.guard (by simp) (.require (by simp) (v.ignoresUses_amountFor ..)))

/-- **A voucher that does not apply because of an earlier use** has been used by the customer. -/
theorem hasUsed_of_voucherDiscount {s : Snapshot} {t : Tables} {v : Voucher}
    (h : s.voucherDiscount t v = .error (.notApplicable .oncePerCustomer)) :
    v.applyOncePerCustomer = true ∧ ∃ e, s.customerEmail = some e ∧ t.hasUsed v.id e = true := by
  by_contra hunused
  refine absurd h (s.ignoresUses_subtotalWithSales.bind fun subtotal => IgnoresUses.bind
    ⟨fun hcheck => hunused (Tables.hasUsed_of_checkVoucher hcheck)⟩ fun _ => ?_).ne
  split
  · split
    · exact (s.ignoresUses_itemPrices _).bind fun _ => v.ignoresUses_productsDiscount ..
    · exact v.ignoresUses_amountFor ..
  · exact s.ignoresUses_shippingDiscount v
  · exact (s.ignoresUses_itemPrices _).bind fun _ => v.ignoresUses_productsDiscount ..

end Snapshot

end Storefront
