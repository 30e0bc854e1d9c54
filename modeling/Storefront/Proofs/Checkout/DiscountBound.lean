import Storefront.Proofs.Checkout.ItemPrices

/-!
# How large the discount of a checkout is

A voucher is put on a checkout and taken off again, and its discount is computed again when the
checkout has changed. The discount that is kept is never negative, and no larger than what it comes
off: the price of the lines with sales, or that of the delivery.

There is one exception. A voucher for selected products takes something off each single item, and
items that are rounded up cost more together than their line. What such a voucher takes off when it
is put on a checkout is not limited by the price of the lines.

* `Snapshot.voucherDiscount_le`: what a voucher takes off at one time.
* `VoucherOperation.run_ok`: what an operation keeps.
* `VoucherRound.discount_bounded`: the discount after each of many operations.
* `VoucherRound.exceeds_bookshop`: three copies that cost a cent less together than one by one.
-/

namespace Storefront

/-- Whether the voucher takes something off each single item of the selected products. -/
def Voucher.isPerItem (v : Voucher) : Bool := v.type = .specificProduct && !v.applyOncePerOrder

namespace Snapshot

variable {s : Snapshot} {t : Tables} {v : Voucher} {discount : Money}

/-- What a voucher takes something off: the delivery, or the lines with sales. -/
def discountedPrice (s : Snapshot) (v : Voucher) : Except Error Money :=
  if v.type = .shipping then .ok s.deliveryPrice else s.subtotalWithSales

/-- The price of the single items that a voucher selects. -/
def selectedItemsPrice (s : Snapshot) (v : Voucher) : Except Error Money := do
  Money.sum s.checkout.currency (← s.itemPrices (s.selectedLines v))

/-- The items that a voucher selects cost no more together than their lines: none of them is rounded
up, and they are not too large to be added up. -/
structure ItemsRoundDown (s : Snapshot) (v : Voucher) : Prop where
  lines : ∀ l ∈ s.selectedLines v, ∀ unit,
    l.exactUnitPrice s.channel.id s.sales = .ok unit → l.RoundsDown unit
  inRange : ∀ items, s.itemPrices (s.selectedLines v) = .ok items →
    Money.InRange s.checkout.currency items

/-! ## What a voucher takes off -/

/-- A voucher takes something off the price that it is for, or off the items of some lines. -/
theorem voucherDiscount_parts (h : s.voucherDiscount t v = .ok discount) :
    ∃ price, s.discountedPrice v = .ok price ∧
      (v.isPerItem = false ∧ v.amountFor price s.channel.id = .ok discount ∨
        v.type ≠ .shipping ∧ ∃ keep items, s.itemPrices (s.lines.filter keep) = .ok items ∧
          v.productsDiscount items s.channel.id s.checkout.currency = .ok discount ∧
          (v.applyOncePerOrder = true ∨
            v.isPerItem = true ∧ s.lines.filter keep = s.selectedLines v)) := by
  obtain ⟨subtotal, hsubtotal, h⟩ := bind_ok h
  obtain ⟨_, -, h⟩ := bind_ok h
  cases htype : v.type with
  | entireOrder =>
    rw [htype] at h
    refine ⟨subtotal, by rw [discountedPrice, if_neg (by simp [htype]), hsubtotal], ?_⟩
    cases honce : v.applyOncePerOrder with
    | true =>
      rw [honce] at h
      obtain ⟨items, hitems, h⟩ := bind_ok h
      exact .inr ⟨by simp, fun _ => true, items, by rwa [List.filter_true], h, .inl rfl⟩
    | false =>
      rw [honce] at h
      exact .inl ⟨by simp [Voucher.isPerItem, htype], h⟩
  | shipping =>
    rw [htype] at h
    obtain ⟨-, h⟩ := unless_ok h
    obtain ⟨-, h⟩ := guard_ok h
    obtain ⟨-, h⟩ := unless_ok h
    exact ⟨s.deliveryPrice, by rw [discountedPrice, if_pos htype],
      .inl ⟨by simp [Voucher.isPerItem, htype], h⟩⟩
  | specificProduct =>
    rw [htype] at h
    obtain ⟨items, hitems, h⟩ := bind_ok h
    refine ⟨subtotal, by rw [discountedPrice, if_neg (by simp [htype]), hsubtotal],
      .inr ⟨by simp, _, items, hitems, h, ?_⟩⟩
    cases honce : v.applyOncePerOrder with
    | true => exact .inl rfl
    | false => exact .inr ⟨by simp [Voucher.isPerItem, htype, honce], rfl⟩

theorem subtotalWithSales_of_discountedPrice {price : Money} (htype : v.type ≠ .shipping)
    (h : s.discountedPrice v = .ok price) : s.subtotalWithSales = .ok price := by
  rwa [discountedPrice, if_neg htype] at h

/-- What vouchers take something off is not negative. -/
theorem PricesNonneg.discountedPrice {price : Money} (hprices : s.PricesNonneg)
    (h : s.discountedPrice v = .ok price) : 0 ≤ price.amount := by
  unfold Snapshot.discountedPrice at h
  split at h
  · cases h
    exact hprices.deliveryPrice
  · exact hprices.subtotalWithSales h

/-- **A voucher does not add anything.** -/
theorem voucherDiscount_nonneg (hprices : s.PricesNonneg)
    (h : s.voucherDiscount t v = .ok discount) : 0 ≤ discount.amount := by
  obtain ⟨price, hprice, ⟨-, hamount⟩ | ⟨htype, keep, items, hitems, hdiscount, -⟩⟩ :=
    voucherDiscount_parts h
  · exact Voucher.amountFor_nonneg (hprices.discountedPrice hprice) hamount
  · have hsubtotal := subtotalWithSales_of_discountedPrice htype hprice
    exact Voucher.productsDiscount_nonneg (fun m hm =>
      (item_le_subtotal hprices hsubtotal List.filter_sublist.subset hitems hm).1) hdiscount

/-- **A voucher takes off no more than there is**: no more than the items cost that it selects where
it is for each of them, and no more than the price it is for where it is not, or where those items
cost no more than their lines. -/
theorem voucherDiscount_le (hprices : s.PricesNonneg) (h : s.voucherDiscount t v = .ok discount) :
    ∃ price, s.discountedPrice v = .ok price ∧
      ((v.isPerItem = true → s.ItemsRoundDown v) → discount.amount ≤ price.amount) ∧
      ∀ items, v.isPerItem = true → s.selectedItemsPrice v = .ok items →
        discount.amount ≤ items.amount := by
  obtain ⟨price, hprice, ⟨hlevel, hamount⟩ | ⟨htype, keep, items, hitems, hdiscount, hkeep⟩⟩ :=
    voucherDiscount_parts h
  · exact ⟨price, hprice, fun _ => Voucher.amountFor_le hamount,
      fun items hitem => absurd hlevel (by simp [hitem])⟩
  have hsubtotal := subtotalWithSales_of_discountedPrice htype hprice
  have hitem (m : Money) (hm : m ∈ items) :=
    item_le_subtotal hprices hsubtotal List.filter_sublist.subset hitems hm
  refine ⟨price, hprice, ?_⟩
  rcases hkeep with honce | ⟨heach, hlines⟩
  · obtain ⟨m, hm, hle⟩ := Voucher.productsDiscount_le_item honce hdiscount
    exact ⟨fun _ => Int.le_trans hle (hitem m hm).2,
      fun items hitem => absurd hitem (by simp [Voucher.isPerItem, honce])⟩
  have honce : v.applyOncePerOrder = false := by
    simp only [Voucher.isPerItem, Bool.and_eq_true, Bool.not_eq_true'] at heach
    exact heach.2
  have htotal {total : Money} (h : Money.sum s.checkout.currency items = .ok total) :
      discount.amount ≤ total.amount :=
    Voucher.productsDiscount_le_sum honce (fun m hm => (hitem m hm).1) hdiscount h
  refine ⟨fun hround => ?_, fun total _ h => ?_⟩
  · have hround := hround heach
    obtain ⟨total, hsum, hle⟩ := items_le_subtotal hprices hsubtotal hitems
      (fun l hl hkeep => hround.lines l (hlines ▸ List.mem_filter.2 ⟨hl, hkeep⟩))
      (hround.inRange items (hlines ▸ hitems))
    exact Int.le_trans (htotal hsum) hle
  · rw [selectedItemsPrice, ← hlines, hitems] at h
    exact htotal h

end Snapshot

/-! ## One operation -/

/-- What can be done with the voucher of a checkout. -/
inductive VoucherOperation where
  | add (v : Voucher)
  | remove
  | recalculate

namespace VoucherOperation

/-- The operation on a snapshot of the checkout. -/
def run (s : Snapshot) : VoucherOperation → Transaction Snapshot
  | .add v => addVoucher s v
  | .remove => removeVoucher s
  | .recalculate => recalculateDiscount s

/-- `op.Keeps s t s'`: what an operation makes of a snapshot. There is no voucher and no discount
after it, or there is a voucher with its code, and what it takes off. That is limited by the price
of the lines where the discount was computed again for a voucher that is not for shipping. -/
inductive Keeps (op : VoucherOperation) (s : Snapshot) (t : Tables) : Snapshot → Prop
  | cleared (code : Option String) :
    Keeps op s t (s.withVoucher none code none (Money.zero s.checkout.currency))
  | unlimited {v : Voucher} {discount : Money} (code : String)
      (hdiscount : s.voucherDiscount t v = .ok discount) (hop : op = .add v ∨ v.type = .shipping) :
    Keeps op s t (s.withVoucher (some v) (some code) v.name discount)
  | limited {v : Voucher} {discount subtotal : Money} (code : String)
      (hdiscount : s.voucherDiscount t v = .ok discount) (htype : v.type ≠ .shipping)
      (hsubtotal : s.subtotalWithSales = .ok subtotal) :
    Keeps op s t (s.withVoucher (some v) (some code) v.name (discount.min subtotal))

variable {op : VoucherOperation} {s s' : Snapshot} {t t' : Tables} {events : List Event}

/-- **What an operation keeps is stored**, and nothing else. -/
theorem run_ok (hvoucher : s.voucher.isSome → s.checkout.voucherCode.isSome)
    (h : t.transact (op.run s) = (.ok s', t', events)) :
    op.Keeps s t s' ∧ t' = t.withCheckout s'.checkout ∧ events = [] := by
  cases op with
  | add v =>
    obtain ⟨discount, hdiscount, rfl, hstored⟩ := addVoucher_ok h
    exact ⟨.unlimited v.code hdiscount (.inl rfl), hstored⟩
  | remove =>
    obtain ⟨rfl, hstored⟩ := removeVoucher_ok h
    exact ⟨.cleared none, hstored⟩
  | recalculate =>
    obtain ⟨hkept, hstored⟩ := Snapshot.recalculateDiscount_ok h
    have hcode {v : Voucher} (hv : s.voucher = some v) :
        ∃ code, s.checkout.voucherCode = some code :=
      Option.isSome_iff_exists.1 (hvoucher (by rw [hv]; rfl))
    refine ⟨?_, hstored⟩
    cases hkept with
    | noVoucher hnone => exact .cleared _
    | takenOff hv hreason => exact .cleared none
    | shipping hv htype hdiscount =>
      obtain ⟨code, hcode⟩ := hcode hv
      rw [hcode]
      exact .unlimited code hdiscount (.inr htype)
    | limited hv htype hdiscount hsubtotal =>
      obtain ⟨code, hcode⟩ := hcode hv
      rw [hcode]
      exact .limited code hdiscount htype hsubtotal

end VoucherOperation

/-- Without a voucher code there is no discount and no name of one, and no discount is negative. -/
structure Checkout.HasSoundDiscount (c : Checkout) : Prop where
  discount : c.voucherCode = none → c.discount = Money.zero c.currency
  discountName : c.voucherCode = none → c.discountName = none
  nonneg : 0 ≤ c.discount.amount

theorem Checkout.hasSoundDiscount_of_noDiscount {c : Checkout} (hname : c.discountName = none)
    (hdiscount : c.discount = Money.zero c.currency) : c.HasSoundDiscount :=
  ⟨fun _ => hdiscount, fun _ => hname, hdiscount ▸ Int.le_refl 0⟩

/-- The discount of a snapshot after an operation on another one is no larger than what it comes
off. A voucher that takes something off each item is limited where it is not put on the checkout, or
where the items cost no more than their lines, and by the price of the items in any case. -/
structure Snapshot.Limits (s : Snapshot) (op : VoucherOperation) (s' : Snapshot) : Prop where
  noVoucher : s'.voucher = none → s'.checkout.discount = Money.zero s.checkout.currency
  voucher : ∀ v, s'.voucher = some v → ∃ price, s.discountedPrice v = .ok price ∧
    ((op = .add v → v.isPerItem = true → s.ItemsRoundDown v) →
      s'.checkout.discount.amount ≤ price.amount)
  items : ∀ v items, s'.voucher = some v → v.isPerItem = true →
    s.selectedItemsPrice v = .ok items → s'.checkout.discount.amount ≤ items.amount

namespace VoucherOperation.Keeps

variable {op : VoucherOperation} {s s' : Snapshot} {t : Tables}

theorem hasSoundDiscount (h : op.Keeps s t s') (hprices : s.PricesNonneg) :
    s'.checkout.HasSoundDiscount := by
  cases h with
  | cleared code => exact ⟨fun _ => rfl, fun _ => rfl, Int.le_refl 0⟩
  | unlimited code hdiscount hop =>
    exact ⟨nofun, nofun, Snapshot.voucherDiscount_nonneg hprices hdiscount⟩
  | limited code hdiscount htype hsubtotal =>
    refine ⟨nofun, nofun, ?_⟩
    have hnonneg := Snapshot.voucherDiscount_nonneg hprices hdiscount
    rw [Decimal.le_def, Decimal.units_zero]
    show 0 ≤ (Money.min _ _).amount.units
    rw [Money.units_min]
    exact le_min hnonneg (hprices.subtotalWithSales hsubtotal)

/-- **The discount after an operation** is no larger than what it comes off. -/
theorem limits (h : op.Keeps s t s') (hprices : s.PricesNonneg) : s.Limits op s' := by
  cases h with
  | cleared code => exact ⟨fun _ => rfl, fun _ hv => (by cases hv), fun _ _ hv => (by cases hv)⟩
  | @unlimited v discount code hdiscount hop =>
    obtain ⟨price, hprice, hle, hitems⟩ := Snapshot.voucherDiscount_le hprices hdiscount
    refine ⟨fun hnone => (by cases hnone), ?_, ?_⟩
    · rintro _ ⟨⟩
      refine ⟨price, hprice, fun hround => hle fun heach => ?_⟩
      rcases hop with hadd | htype
      · exact hround hadd heach
      · simp [Voucher.isPerItem, htype] at heach
    · rintro _ items ⟨⟩ heach h
      exact hitems items heach h
  | @limited v discount subtotal code hdiscount htype hsubtotal =>
    obtain ⟨-, -, -, hitems⟩ := Snapshot.voucherDiscount_le hprices hdiscount
    have hmin : (discount.min subtotal).amount ≤ discount.amount ∧
        (discount.min subtotal).amount ≤ subtotal.amount := by
      rw [Decimal.le_def, Decimal.le_def, Money.units_min]
      exact ⟨Int.min_le_left .., Int.min_le_right ..⟩
    refine ⟨fun hnone => (by cases hnone), ?_, ?_⟩
    · rintro _ ⟨⟩
      exact ⟨subtotal, by rw [Snapshot.discountedPrice, if_neg htype, hsubtotal], fun _ => hmin.2⟩
    · rintro _ items ⟨⟩ heach h
      exact Int.le_trans hmin.1 (hitems items heach h)

end VoucherOperation.Keeps

/-! ## Many operations -/

/-- An operation with the snapshot that it is run on and the tables at that time. -/
structure VoucherRound where
  operation : VoucherOperation
  snapshot : Snapshot
  tables : Tables

/-- A snapshot has the voucher fields of a checkout, and no voucher where the checkout has no code.
All else may be different. -/
structure Snapshot.ReadsVoucher (s : Snapshot) (c : Checkout) : Prop where
  token : s.checkout.token = c.token
  currency : s.checkout.currency = c.currency
  voucherCode : s.checkout.voucherCode = c.voucherCode
  discount : s.checkout.discount = c.discount
  discountName : s.checkout.discountName = c.discountName
  voucher : s.voucher.isSome → c.voucherCode.isSome

/-- A snapshot reads the voucher of its own checkout. -/
theorem Snapshot.readsVoucher_self {s : Snapshot}
    (hvoucher : s.voucher.isSome → s.checkout.voucherCode.isSome) : s.ReadsVoucher s.checkout :=
  ⟨rfl, rfl, rfl, rfl, rfl, hvoucher⟩

namespace VoucherRound

def result (r : VoucherRound) : Except Error Snapshot × Tables × List Event :=
  r.tables.transact (r.operation.run r.snapshot)

/-- The checkout after a round. A round that fails leaves it as it was. -/
def kept (r : VoucherRound) : Checkout :=
  match r.result.1 with
  | .ok s' => s'.checkout
  | .error _ => r.snapshot.checkout

/-- Rounds one after the other, of which the first one reads the voucher of a checkout, and the
others the voucher that was kept before. -/
def Follow : Checkout → List VoucherRound → Prop
  | _, [] => True
  | c, r :: rest => r.snapshot.ReadsVoucher c ∧ Follow r.kept rest

variable {r : VoucherRound} {c : Checkout} {s' : Snapshot} {t' : Tables} {events : List Event}

theorem keeps (hread : r.snapshot.ReadsVoucher c) (h : r.result = (.ok s', t', events)) :
    r.operation.Keeps r.snapshot r.tables s' ∧ t' = r.tables.withCheckout s'.checkout := by
  have hvoucher : r.snapshot.voucher.isSome → r.snapshot.checkout.voucherCode.isSome :=
    hread.voucherCode ▸ hread.voucher
  obtain ⟨hkeeps, hstored, -⟩ := VoucherOperation.run_ok hvoucher h
  exact ⟨hkeeps, hstored⟩

/-- A round leaves a sound discount sound, whether it fails or not. -/
theorem hasSoundDiscount_kept (hread : r.snapshot.ReadsVoucher c)
    (hprices : r.snapshot.PricesNonneg) (hc : c.HasSoundDiscount) :
    r.kept.HasSoundDiscount := by
  unfold kept
  split
  · rename_i s' hs'
    exact (keeps hread (Prod.ext hs' rfl)).1.hasSoundDiscount hprices
  · refine ⟨fun hcode => ?_, fun hcode => ?_, hread.discount ▸ hc.nonneg⟩
    · rw [hread.discount, hread.currency]
      exact hc.discount (hread.voucherCode ▸ hcode)
    · rw [hread.discountName]
      exact hc.discountName (hread.voucherCode ▸ hcode)

/-- **The discount of a checkout after each of many operations**, which are run on snapshots without
negative prices: without a voucher code there is none, it is not negative, what an operation that
has not failed returns is what it stores, and its discount is no larger than what it comes off. -/
theorem discount_bounded {c : Checkout} {rounds : List VoucherRound}
    (hc : c.HasSoundDiscount) (hrounds : Follow c rounds)
    (hprices : ∀ r ∈ rounds, r.snapshot.PricesNonneg) :
    ∀ r ∈ rounds, r.kept.HasSoundDiscount ∧
      ∀ s' t' events, r.result = (.ok s', t', events) →
        s'.checkout = r.kept ∧ t'.checkout? s'.checkout.token = some s'.checkout ∧
          r.snapshot.Limits r.operation s' := by
  induction rounds generalizing c with
  | nil => simp
  | cons r rest ih =>
    obtain ⟨hread, hrest⟩ := hrounds
    obtain ⟨hr, hothers⟩ := List.forall_mem_cons.1 hprices
    have hkept := hasSoundDiscount_kept hread hr hc
    refine List.forall_mem_cons.2 ⟨⟨hkept, fun s' t' events h => ?_⟩, ih hkept hrest hothers⟩
    obtain ⟨hkeeps, rfl⟩ := keeps hread h
    refine ⟨?_, Tables.checkout?_withCheckout _ _, hkeeps.limits hr⟩
    unfold kept
    rw [h]

end VoucherRound

/-! ## Three copies -/

namespace Bookshop

/-- Takes up to a hundred dollars off each copy. -/
def perItem : Voucher :=
  { saleVoucher with
    type := .specificProduct, channelListings := [⟨channel.id, 100, .usd, none⟩] }

/-- Three copies are in the cart, and they are half off. -/
def threeCopies (price : Decimal) : Tables :=
  { saleTables with
    variantListings := [⟨⟨⟨4⟩⟩, ⟨⟨3⟩⟩, channel.id, some ⟨price, .usd⟩, none, none⟩]
    vouchers := [perItem]
    checkouts := saleTables.checkouts.map fun c => { c with lines := [⟨⟨⟨3⟩⟩, 3⟩] } }

/-- An amount in cents. -/
def cents (n : Int) : Decimal := (Decimal.ofMantissa? n 2).getD 0

end Bookshop

namespace VoucherRound

/-- A copy costs five dollars with the sale, and the voucher takes off fifteen. -/
theorem discount_bounded_bookshop :
    ∃ checkout ∈ (Bookshop.threeCopies (.ofInt 10)).checkouts, ∃ s s₁ t₁,
      checkout.HasSoundDiscount ∧ s.PricesNonneg ∧ s.ItemsRoundDown Bookshop.perItem ∧
      Follow checkout [⟨.add Bookshop.perItem, s, Bookshop.threeCopies (.ofInt 10)⟩,
        ⟨.recalculate, s₁, t₁⟩] ∧
      (Bookshop.threeCopies (.ofInt 10)).transact (addVoucher s Bookshop.perItem) =
        (.ok s₁, t₁, []) ∧
      s₁.checkout.HasSoundDiscount ∧
      ∃ price, s.discountedPrice Bookshop.perItem = .ok price ∧
        s₁.checkout.discount.amount ≤ price.amount := by
  have heval : ∃ checkout ∈ (Bookshop.threeCopies (.ofInt 10)).checkouts,
      checkout.discountName = none ∧ checkout.discount = Money.zero checkout.currency ∧
      ((Bookshop.threeCopies (.ofInt 10)).snapshotOf checkout (fun _ => [])
        ⟨1⟩).toOption.any (fun read =>
          read.1.checkout = checkout ∧ read.1.voucher = none ∧
          (∀ l ∈ read.1.lines, 0 ≤ l.price.amount) ∧
          (∀ price ∈ read.1.delivery.price?, 0 ≤ price.amount) ∧
          (∀ l ∈ read.1.selectedLines Bookshop.perItem,
            (l.exactUnitPrice read.1.channel.id read.1.sales).toOption.all fun unit =>
              unit.withSale.quantize.amount ≤ unit.withSale.amount) ∧
          ((read.1.itemPrices (read.1.selectedLines Bookshop.perItem)).toOption.all fun items =>
            Money.InRange read.1.checkout.currency items) ∧
          ((Bookshop.threeCopies (.ofInt 10)).transact
            (addVoucher read.1 Bookshop.perItem)).1.toOption.any fun _ => true) = true := by
    decide +kernel
  obtain ⟨checkout, hcheckout, hname, hdiscount, hread⟩ := heval
  obtain ⟨⟨s, _⟩, -, hread⟩ := ok_of_any hread
  obtain ⟨hsame, hnone, hlines, hdelivery, hround, hrange, hadded⟩ := of_decide_eq_true hread
  obtain ⟨s₁, t₁, hadded, -⟩ := addVoucher_of_any hadded
  obtain rfl := hsame
  have hnone : s.voucher = none := hnone
  have hprices : s.PricesNonneg := ⟨hlines, hdelivery⟩
  have hitems : s.ItemsRoundDown Bookshop.perItem := by
    refine ⟨fun l hl unit hunit => .inr ?_, fun items h => ?_⟩
    · have hround := hround l hl
      rw [hunit] at hround
      exact of_decide_eq_true hround
    · rw [h] at hrange
      exact of_decide_eq_true hrange
  obtain ⟨discount, -, hs₁, -, -⟩ := addVoucher_ok hadded
  have hprices₁ : s₁.PricesNonneg := hs₁ ▸ ⟨hprices.lines, hprices.delivery⟩
  generalize hr : (⟨.add Bookshop.perItem, s, Bookshop.threeCopies (.ofInt 10)⟩ : VoucherRound) = r
  have hresult : r.result = (.ok s₁, t₁, []) := hr ▸ hadded
  have hkept : r.kept = s₁.checkout := by rw [kept, hresult]
  have hrounds : Follow s.checkout [r, ⟨.recalculate, s₁, t₁⟩] := by
    refine ⟨?_, ?_, trivial⟩
    · rw [← hr]
      exact Snapshot.readsVoucher_self (by simp [hnone])
    · rw [hkept]
      exact Snapshot.readsVoucher_self fun _ => by rw [hs₁]; rfl
  have hsound := Checkout.hasSoundDiscount_of_noDiscount hname hdiscount
  have hbounded := discount_bounded hsound hrounds (by simp [← hr, hprices, hprices₁])
  obtain ⟨hsound₁, hafter⟩ := hbounded r List.mem_cons_self
  obtain ⟨-, -, hlimits⟩ := hafter s₁ t₁ [] hresult
  obtain ⟨price, hprice, hle⟩ := hlimits.voucher Bookshop.perItem (by rw [hs₁]; rfl)
  subst hr
  exact ⟨s.checkout, hcheckout, s, s₁, t₁, hsound, hprices, hitems, hrounds, hadded,
    hkept ▸ hsound₁, price, hprice, hle fun _ _ => hitems⟩

/-- **A discount that is larger than the lines**: a copy costs ten dollars and a cent, and half of
that with the sale. Each of the three is rounded up, and their line is rounded up once. -/
theorem exceeds_bookshop :
    Bookshop.perItem.isPerItem = true ∧
    ∃ checkout ∈ (Bookshop.threeCopies (Bookshop.cents 1001)).checkouts, ∃ s s₁ t₁,
      checkout.HasSoundDiscount ∧ s.PricesNonneg ∧
      Follow checkout [⟨.add Bookshop.perItem, s, Bookshop.threeCopies (Bookshop.cents 1001)⟩] ∧
      (Bookshop.threeCopies (Bookshop.cents 1001)).transact (addVoucher s Bookshop.perItem) =
        (.ok s₁, t₁, []) ∧
      s.subtotalWithSales = .ok ⟨Bookshop.cents 1502, .usd⟩ ∧
      s₁.checkout.discount = ⟨Bookshop.cents 1503, .usd⟩ := by
  have heval : ∃ checkout ∈ (Bookshop.threeCopies (Bookshop.cents 1001)).checkouts,
      checkout.discountName = none ∧ checkout.discount = Money.zero checkout.currency ∧
      ((Bookshop.threeCopies (Bookshop.cents 1001)).snapshotOf checkout (fun _ => [])
        ⟨1⟩).toOption.any (fun read =>
          read.1.checkout = checkout ∧ read.1.voucher = none ∧
          (∀ l ∈ read.1.lines, 0 ≤ l.price.amount) ∧
          (∀ price ∈ read.1.delivery.price?, 0 ≤ price.amount) ∧
          read.1.subtotalWithSales = .ok ⟨Bookshop.cents 1502, .usd⟩ ∧
          ((Bookshop.threeCopies (Bookshop.cents 1001)).transact
            (addVoucher read.1 Bookshop.perItem)).1.toOption.any fun s₁ =>
              s₁.checkout.discount = ⟨Bookshop.cents 1503, .usd⟩) = true := by
    decide +kernel
  obtain ⟨checkout, hcheckout, hname, hdiscount, hread⟩ := heval
  obtain ⟨⟨s, _⟩, -, hread⟩ := ok_of_any hread
  obtain ⟨hsame, hnone, hlines, hdelivery, hsubtotal, hadded⟩ := of_decide_eq_true hread
  obtain ⟨s₁, t₁, hadded, hkept⟩ := addVoucher_of_any hadded
  obtain rfl := hsame
  have hnone : s.voucher = none := hnone
  refine ⟨rfl, s.checkout, hcheckout, s, s₁, t₁,
    Checkout.hasSoundDiscount_of_noDiscount hname hdiscount, ⟨hlines, hdelivery⟩, ⟨?_, trivial⟩,
    hadded, hsubtotal, of_decide_eq_true hkept⟩
  exact Snapshot.readsVoucher_self (by simp [hnone])

end VoucherRound

end Storefront
