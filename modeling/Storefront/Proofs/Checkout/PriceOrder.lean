import Storefront.Proofs.Checkout.DiscountBound
import Storefront.Proofs.Money.Part

/-!
# The three prices before tax

A price with a sale is no higher than the price without it, and a voucher lowers it further. This
holds for one item, for a line and for all lines, as long as no value of a sale or of a voucher is
negative and nothing is rounded on the way to the minor unit.

* `Discount.apply_part`, `Sale.best_part`, `CheckoutLine.afterVoucher_part`: each discount leaves a
  part of the price, and the lemmas that end in `_run` say that there is one.
* `CheckoutLine.totalPrice_run`: **a line has three prices in their order**.
* `Snapshot.basePrices_ordered`: the prices of all lines, and what they come to.
-/

namespace Storefront

open Decimal (Fits unitsPerOne)

/-! ## Discounts -/

namespace Discount

/-- What a discount takes off a price is a decimal. -/
def IsExactOn (price : Money) : Discount → Prop
  | fixed _ => True
  | percentage fraction =>
    ∃ part : Decimal, fraction.units * price.amount.units = part.units * unitsPerOne

instance (price : Money) : (d : Discount) → Decidable (d.IsExactOn price)
  | fixed _ => isTrue trivial
  | percentage fraction =>
    decidable_of_iff (∃ part ∈ fraction.mul? price.amount,
        fraction.units * price.amount.units = part.units * unitsPerOne)
      ⟨fun ⟨part, _, hpart⟩ => ⟨part, hpart⟩,
        fun ⟨part, hpart⟩ => ⟨part, Decimal.mul?_of_units hpart, hpart⟩⟩

/-- **A discount leaves a part of a price**, if its value is not negative. -/
theorem apply_part {type : DiscountType} {value : Decimal} {currency : Currency}
    {price left : Money} {d : Discount} (hprice : 0 ≤ price.amount) (hvalue : 0 ≤ value)
    (hd : ofValue type value currency = .ok d) (h : d.apply price = .ok left) :
    left.IsPartOf price := by
  cases type with
  | fixed =>
    cases hd
    obtain ⟨rest, hrest, h⟩ := bind_ok h
    cases h
    exact .of_sub hprice hvalue hrest
  | percentage =>
    obtain ⟨fraction, hfraction, hnonneg⟩ := value.div?_hundred
    rw [ofValue, hfraction] at hd
    cases hd
    obtain ⟨part, hpart, h⟩ := bind_ok h
    obtain ⟨rest, hrest, h⟩ := bind_ok h
    cases h
    refine .floorAtZero hprice rfl (Decimal.sub?_le ?_ (orFail_ok hrest))
    exact Decimal.mul?_nonneg (hnonneg hvalue) hprice (orFail_ok hpart)

/-- A discount can be applied where what it takes off is a decimal. -/
theorem apply_run {type : DiscountType} {value : Decimal} {currency : Currency} {price : Money}
    (hprice : 0 ≤ price.amount) (hcurrency : currency = price.currency) (hvalue : 0 ≤ value)
    (hexact : ∀ d ∈ (ofValue type value currency).toOption, d.IsExactOn price) :
    ∃ d left, ofValue type value currency = .ok d ∧ d.apply price = .ok left := by
  cases type with
  | fixed =>
    obtain ⟨left, hleft⟩ :=
      Money.sub_of_nonneg (b := ⟨value, currency⟩) hcurrency.symm hprice hvalue
    refine ⟨fixed ⟨value, currency⟩, left.floorAtZero, rfl, ?_⟩
    rw [apply, applyFixed, hleft]
    rfl
  | percentage =>
    obtain ⟨fraction, hfraction, hnonneg⟩ := value.div?_hundred
    have hd : ofValue .percentage value currency = .ok (percentage fraction) := by
      rw [ofValue, hfraction]
      rfl
    obtain ⟨part, hpart⟩ := hexact _ (by rw [hd]; rfl)
    have hmul : fraction.mul? price.amount = some part := Decimal.mul?_of_units hpart
    obtain ⟨left, hleft⟩ :=
      Decimal.sub?_of_nonneg hprice (Decimal.mul?_nonneg (hnonneg hvalue) hprice hmul)
    refine ⟨percentage fraction, Money.floorAtZero ⟨left, price.currency⟩, hd, ?_⟩
    rw [apply, applyPercentage, hmul, orFail, ok_bind, hleft]
    rfl

end Discount

/-- **What a voucher takes off a price is a part of it.** -/
theorem Voucher.amountFor_isPartOf {v : Voucher} {price off : Money} {channel : ChannelId}
    (hprice : 0 ≤ price.amount) (h : v.amountFor price channel = .ok off) : off.IsPartOf price where
  currency := by
    obtain ⟨_, -, h⟩ := bind_ok h
    obtain ⟨_, -, h⟩ := bind_ok h
    obtain ⟨rest, hrest, h⟩ := bind_ok h
    cases h
    split
    · rfl
    · exact (Money.sub_ok hrest).2.1
  nonneg := amountFor_nonneg hprice h
  le := amountFor_le h

namespace Sale

variable {product : Product} {price : Money} {collections : List CollectionId}
  {channel : ChannelId} {variant : Option VariantId}

/-- The discount of a sale is that of its listing in the channel. -/
theorem discountOn_ok {s : Sale} {d : Discount}
    (h : s.discountOn product collections channel variant = .ok d) :
    ∃ x ∈ s.listing? channel, Discount.ofValue s.valueType x.discountValue x.currency = .ok d := by
  unfold discountOn at h
  split at h
  · unfold discountFor at h
    split at h
    · rename_i x hx
      exact ⟨x, hx, h⟩
    · cases h
  · cases h

/-- **The best sale leaves a part of the price**, if no value of a sale is negative. -/
theorem best_part {sales : List Sale} {id : Option SaleId} {lowest : Money}
    (hprice : 0 ≤ price.amount)
    (hvalues : ∀ s ∈ sales, ∀ x ∈ s.listing? channel, 0 ≤ x.discountValue)
    (h : best sales product price collections channel variant = .ok (id, lowest)) :
    lowest.IsPartOf price := by
  rcases best_ok h with rfl | ⟨s, hs, d, hd, hleft⟩
  · exact .self hprice
  · obtain ⟨x, hx, hd⟩ := discountOn_ok hd
    exact Discount.apply_part hprice (hvalues s hs x hx) hd hleft

/-- One more sale can be looked at where what it takes off is a decimal. -/
theorem consider_run {s : Sale} (found : Option (SaleId × Money)) (hprice : 0 ≤ price.amount)
    (hlisting : ∀ x ∈ s.listing? channel, x.currency = price.currency ∧ 0 ≤ x.discountValue)
    (hexact : ∀ d ∈ (s.discountOn product collections channel variant).toOption,
      d.IsExactOn price) :
    ∃ next, consider product price collections channel variant found s = .ok next := by
  have hskip {reason : Ineligibility}
      (h : s.discountOn product collections channel variant = .error (.notApplicable reason)) :
      ∃ next, consider product price collections channel variant found s = .ok next :=
    ⟨found, by rw [consider, h]⟩
  cases hcovers : s.covers product collections variant with
  | false => exact hskip (if_neg (ne_true_of_eq_false hcovers))
  | true =>
    have hon : s.discountOn product collections channel variant = s.discountFor channel :=
      if_pos hcovers
    cases hlisted : s.listing? channel with
    | none =>
      exact hskip (hon.trans (by rw [discountFor, hlisted]))
    | some x =>
      obtain ⟨hcurrency, hvalue⟩ := hlisting x hlisted
      have hfor :
          s.discountFor channel = Discount.ofValue s.valueType x.discountValue x.currency := by
        rw [discountFor, hlisted]
      rw [hon, hfor] at hexact
      obtain ⟨d, left, hd, hleft⟩ := Discount.apply_run hprice hcurrency hvalue hexact
      rw [consider, hon.trans (hfor.trans hd)]
      dsimp only
      rw [hleft]
      exact ⟨_, rfl⟩

/-- There is a best sale where what each takes off is a decimal. -/
theorem best_run {sales : List Sale} (hprice : 0 ≤ price.amount)
    (hlistings : ∀ s ∈ sales, ∀ x ∈ s.listing? channel,
      x.currency = price.currency ∧ 0 ≤ x.discountValue)
    (hexact : ∀ s ∈ sales, ∀ d ∈ (s.discountOn product collections channel variant).toOption,
      d.IsExactOn price) :
    ∃ id lowest, best sales product price collections channel variant = .ok (id, lowest) := by
  have hfold : ∀ acc : Option (SaleId × Money), ∃ found,
      sales.foldlM (consider product price collections channel variant) acc = .ok found := by
    induction sales with
    | nil => exact fun acc => ⟨acc, rfl⟩
    | cons s rest ih =>
      intro acc
      obtain ⟨hlisting, hlistings⟩ := List.forall_mem_cons.1 hlistings
      obtain ⟨hexact, hexacts⟩ := List.forall_mem_cons.1 hexact
      obtain ⟨next, hnext⟩ := consider_run acc hprice hlisting hexact
      rw [List.foldlM_cons, hnext]
      exact ih hlistings hexacts next
  obtain ⟨found, hfound⟩ := hfold none
  rw [best, hfound]
  cases found with
  | none => exact ⟨none, price, rfl⟩
  | some x => exact ⟨some x.1, x.2, rfl⟩

end Sale

/-! ## Lines -/

/-- Each discount lowers the price, which does not become negative. -/
structure LinePrice.IsOrdered (p : LinePrice) : Prop where
  withSale : p.withSale.IsPartOf p.undiscounted
  withDiscounts : p.withDiscounts.IsPartOf p.withSale

theorem LinePrice.IsOrdered.quantize {p : LinePrice} (h : p.IsOrdered) : p.quantize.IsOrdered :=
  ⟨h.withSale.quantize, h.withDiscounts.quantize⟩

/-- The prices are multiples of the minor unit of a currency. -/
structure LinePrice.InMinorUnits (p : LinePrice) (currency : Currency) : Prop where
  undiscounted : (currency.minor : Int) ∣ p.undiscounted.amount.units
  withSale : (currency.minor : Int) ∣ p.withSale.amount.units
  withDiscounts : (currency.minor : Int) ∣ p.withDiscounts.amount.units

theorem LinePrice.IsOrdered.inMinorUnits_quantize {p : LinePrice} (h : p.IsOrdered) :
    p.quantize.InMinorUnits p.undiscounted.currency where
  undiscounted := Int.dvd_mul_left ..
  withSale := h.withSale.currency ▸ Int.dvd_mul_left ..
  withDiscounts := h.withSale.currency ▸ h.withDiscounts.currency ▸ Int.dvd_mul_left ..

namespace CheckoutLine

variable {l : CheckoutLine} {channel : ChannelId} {sales : List Sale} {currency : Currency}

/-- **A voucher leaves a part of the price**, whether it is listed in the channel or not. -/
theorem afterVoucher_part {v : Voucher} {price left : Money} (hprice : 0 ≤ price.amount)
    (h : afterVoucher v price channel = .ok left) : left.IsPartOf price := by
  have hlast (off : Money) (hoff : 0 ≤ off.amount)
      (h : (price.sub off >>= fun rest => .ok rest.floorAtZero) = Except.ok (ε := Error) left) :
      left.IsPartOf price := by
    obtain ⟨rest, hrest, h⟩ := bind_ok h
    cases h
    exact .of_sub hprice hoff hrest
  unfold afterVoucher at h
  split at h
  · exact hlast (.zero price.currency) (Int.le_refl 0) h
  · obtain ⟨off, hoff, h⟩ := bind_ok h
    exact hlast off (Voucher.amountFor_nonneg hprice hoff) h

/-- There is a price after a voucher where what it takes off is a decimal. -/
theorem afterVoucher_run {v : Voucher} {price : Money} (hprice : 0 ≤ price.amount)
    (hlisting : ∀ x ∈ v.listing? channel, x.currency = price.currency ∧ 0 ≤ x.discountValue)
    (hexact : ∀ d ∈ (v.discountFor channel).toOption, d.IsExactOn price) :
    ∃ left, afterVoucher v price channel = .ok left := by
  have hlast {off : Money} (hcurrency : price.currency = off.currency) (hoff : 0 ≤ off.amount) :
      ∃ left, (price.sub off >>= fun rest => .ok rest.floorAtZero) =
        Except.ok (ε := Error) left := by
    obtain ⟨rest, hrest⟩ := Money.sub_of_nonneg hcurrency hprice hoff
    exact ⟨_, by rw [hrest]; rfl⟩
  cases hlisted : v.listing? channel with
  | none =>
    have hamount : v.amountFor price channel =
        .error (.notApplicable .voucherNotInChannel) := by
      rw [Voucher.amountFor, Voucher.discountFor, hlisted]
      rfl
    rw [afterVoucher, hamount]
    exact hlast rfl (Int.le_refl 0)
  | some x =>
    obtain ⟨hcurrency, hvalue⟩ := hlisting x hlisted
    have hfor :
        v.discountFor channel = Discount.ofValue v.valueType x.discountValue x.currency := by
      rw [Voucher.discountFor, hlisted]
    rw [hfor] at hexact
    obtain ⟨d, discounted, hd, happly⟩ := Discount.apply_run hprice hcurrency hvalue hexact
    -- what is taken off is the difference to the price, so that it is a part as well
    obtain ⟨off, hoff, hpart⟩ := (Discount.apply_part hprice hvalue hd happly).sub
    have hsign : off.amount.isNegative = false := decide_eq_false (Int.not_lt.2 hpart.nonneg)
    have hamount : v.amountFor price channel = .ok off := by
      rw [Voucher.amountFor, hfor, hd, ok_bind, happly, ok_bind, hoff, ok_bind, hsign]
      rfl
    rw [afterVoucher, hamount]
    exact hlast hpart.currency.symm hpart.nonneg

/-- The prices of one item are in their order, if no value of a sale is negative. -/
theorem exactUnitPrice_part {unit : LinePrice} (hprice : 0 ≤ l.price.amount)
    (hvalues : ∀ s ∈ sales, ∀ x ∈ s.listing? channel, 0 ≤ x.discountValue)
    (h : l.exactUnitPrice channel sales = .ok unit) : unit.IsOrdered := by
  obtain ⟨⟨_, withSale⟩, hsale, h⟩ := bind_ok h
  have hwithSale := Sale.best_part hprice hvalues hsale
  dsimp only at h
  split at h
  · split at h
    · cases h
      exact ⟨hwithSale, .self hwithSale.nonneg⟩
    · obtain ⟨withDiscounts, hafter, h⟩ := bind_ok h
      cases h
      exact ⟨hwithSale, afterVoucher_part hwithSale.nonneg hafter⟩
  · cases h
    exact ⟨hwithSale, .self hwithSale.nonneg⟩

/-- The line has a price that is not negative, and so are the values of the sales and of its voucher
in the channel. All are in one currency. -/
structure IsSound (l : CheckoutLine) (channel : ChannelId) (sales : List Sale)
    (currency : Currency) : Prop where
  inCurrency : l.price.currency = currency
  nonneg : 0 ≤ l.price.amount
  onSale : ∀ s ∈ sales, ∀ x ∈ s.listing? channel, x.currency = currency ∧ 0 ≤ x.discountValue
  withVoucher : ∀ v ∈ l.voucher, ∀ x ∈ v.listing? channel,
    x.currency = currency ∧ 0 ≤ x.discountValue

/-- What is taken off the prices of the line, and what its items cost together, are decimals. -/
structure IsExact (l : CheckoutLine) (channel : ChannelId) (sales : List Sale) : Prop where
  items : Fits (l.price.amount.units * l.quantity)
  onSale : ∀ s ∈ sales, ∀ d ∈ (s.discountOn l.product l.product.collectionIds channel
    (some l.variant.id)).toOption, d.IsExactOn l.price
  withVoucher : ∀ v ∈ l.voucher, ∀ best ∈ (l.salePrice channel sales).toOption,
    ∀ d ∈ (v.discountFor channel).toOption, d.IsExactOn best.2
  /-- The items that a voucher leaves out that applies once. -/
  others : ∀ best ∈ (l.salePrice channel sales).toOption,
    Fits (best.2.amount.units * (l.quantity - 1 : Nat))

/-- There are prices of one item where what is taken off them is a decimal. -/
theorem exactUnitPrice_run (hsound : l.IsSound channel sales currency)
    (hexact : l.IsExact channel sales) :
    ∃ unit id, l.exactUnitPrice channel sales = .ok unit ∧ unit.IsOrdered ∧
      unit.undiscounted = l.price ∧ l.salePrice channel sales = .ok (id, unit.withSale) := by
  obtain rfl := hsound.inCurrency
  have hvalues : ∀ s ∈ sales, ∀ x ∈ s.listing? channel, 0 ≤ x.discountValue :=
    fun s hs x hx => (hsound.onSale s hs x hx).2
  obtain ⟨id, withSale, hsale⟩ := Sale.best_run hsound.nonneg hsound.onSale hexact.onSale
  have hwithSale := Sale.best_part hsound.nonneg hvalues hsale
  have hsale : l.salePrice channel sales = .ok (id, withSale) := hsale
  have hdone (withDiscounts : Money)
      (hunit : l.exactUnitPrice channel sales = .ok ⟨l.price, withSale, withDiscounts⟩) :
      ∃ unit id, l.exactUnitPrice channel sales = .ok unit ∧ unit.IsOrdered ∧
        unit.undiscounted = l.price ∧ l.salePrice channel sales = .ok (id, unit.withSale) :=
    ⟨_, id, hunit, exactUnitPrice_part hsound.nonneg hvalues hunit, rfl, hsale⟩
  cases hvoucher : l.voucher with
  | none =>
    refine hdone withSale ?_
    rw [exactUnitPrice, hsale, ok_bind, hvoucher]
    rfl
  | some v =>
    cases honce : v.applyOncePerOrder with
    | true =>
      refine hdone withSale ?_
      rw [exactUnitPrice, hsale, ok_bind, hvoucher]
      dsimp only
      rw [if_pos honce]
      rfl
    | false =>
      obtain ⟨left, hleft⟩ := afterVoucher_run hwithSale.nonneg
        (hwithSale.currency ▸ hsound.withVoucher v hvoucher)
        (hexact.withVoucher v hvoucher (id, withSale) (by rw [hsale]; rfl))
      refine hdone left ?_
      rw [exactUnitPrice, hsale, ok_bind, hvoucher]
      dsimp only
      rw [if_neg (ne_true_of_eq_false honce), hleft]
      rfl

/-- All items are one item and the others. -/
theorem mul_others_add_one (units : Int) {quantity : Nat} (hpos : 0 < quantity) :
    units * quantity = units * (quantity - 1 : Nat) + units := by
  obtain ⟨n, rfl⟩ := Nat.exists_eq_succ_of_ne_zero (Nat.ne_of_gt hpos)
  rw [Nat.succ_sub_one, Nat.succ_eq_add_one, Int.natCast_add, Int.mul_add, Int.natCast_one,
    Int.mul_one]

/-- One item with a voucher and the others without cost no more than all of them without. -/
theorem once_add_others {price once all : Money} {quantity : Nat} (hpos : 0 < quantity)
    (honce : once.IsPartOf price) (hfits : Fits (price.amount.units * (quantity - 1 : Nat)))
    (hall : price.times quantity = .ok all) :
    ∃ others total, price.times (quantity - 1) = .ok others ∧ others.add once = .ok total ∧
      total.IsPartOf all := by
  obtain ⟨others, hothers, hunits⟩ := Money.times_of_fits hfits
  have hothersCurrency := (Money.times_ok hothers).1
  have hnonneg := Money.times_nonneg honce.whole_nonneg hothers
  have hle : others.amount.units + once.amount.units ≤ price.amount.units * quantity := by
    rw [hunits, mul_others_add_one _ hpos]
    exact Int.add_le_add_left honce.le _
  obtain ⟨total, htotal, hle⟩ := Money.add_of_le_times
    (hothersCurrency.trans honce.currency.symm) (Int.add_nonneg hnonneg honce.nonneg) hle hall
  exact ⟨others, total, hothers, htotal,
    (Money.add_ok htotal).2.1.trans (hothersCurrency.trans (Money.times_ok hall).1.symm),
    Money.add_nonneg hnonneg honce.nonneg htotal, hle⟩

/-- **A line has three prices in their order.** -/
theorem totalPrice_run (hsound : l.IsSound channel sales currency)
    (hexact : l.IsExact channel sales) :
    ∃ total : LinePrice, l.totalPrice channel sales = .ok total.quantize ∧ total.IsOrdered ∧
      l.price.times l.quantity = .ok total.undiscounted := by
  obtain ⟨unit, id, hunit, hordered, hundiscounted, hsale⟩ := exactUnitPrice_run hsound hexact
  obtain ⟨undiscounted, htimes, -⟩ := Money.times_of_fits hexact.items
  obtain ⟨withSale, hwithSale, hpart⟩ := hordered.withSale.times (hundiscounted ▸ htimes)
  have hdone {withDiscounts : Money} (h : withDiscounts.IsPartOf withSale)
      (htotal : l.totalPrice channel sales =
        .ok (LinePrice.quantize ⟨undiscounted, withSale, withDiscounts⟩)) :
      ∃ total : LinePrice, l.totalPrice channel sales = .ok total.quantize ∧ total.IsOrdered ∧
        l.price.times l.quantity = .ok total.undiscounted :=
    ⟨_, htotal, ⟨hpart, h⟩, htimes⟩
  obtain ⟨each, heach, heachPart⟩ := hordered.withDiscounts.times hwithSale
  rw [← hundiscounted] at htimes
  cases hvoucher : l.voucher with
  | none =>
    refine hdone heachPart ?_
    rw [totalPrice, hunit, ok_bind, hvoucher]
    dsimp only
    rw [heach, ok_bind, htimes, ok_bind, hwithSale]
    rfl
  | some v =>
    cases honce : v.applyOncePerOrder && decide (0 < l.quantity) with
    | true =>
      have hpos : 0 < l.quantity := of_decide_eq_true (Bool.and_eq_true_iff.1 honce).2
      have hbest : (id, unit.withSale) ∈ (l.salePrice channel sales).toOption := by
        rw [hsale]
        rfl
      have hcurrency := hordered.withSale.currency.trans
        ((congrArg Money.currency hundiscounted).trans hsound.inCurrency)
      have hnonneg : 0 ≤ unit.withSale.amount := hordered.withSale.nonneg
      obtain ⟨once, hafter⟩ := afterVoucher_run hnonneg
        (hcurrency ▸ hsound.withVoucher v hvoucher)
        (hexact.withVoucher v hvoucher (id, unit.withSale) hbest)
      have honcePart := afterVoucher_part hnonneg hafter
      obtain ⟨others, withDiscounts, hothers, hadd, hwithDiscounts⟩ :=
        once_add_others hpos honcePart (hexact.others (id, unit.withSale) hbest) hwithSale
      refine hdone hwithDiscounts ?_
      rw [totalPrice, hunit, ok_bind, hvoucher]
      dsimp only
      rw [if_pos honce, hafter, ok_bind, hothers, ok_bind, hadd, ok_bind, htimes, ok_bind,
        hwithSale]
      rfl
    | false =>
      refine hdone heachPart ?_
      rw [totalPrice, hunit, ok_bind, hvoucher]
      dsimp only
      rw [if_neg (ne_true_of_eq_false honce), heach, ok_bind, htimes, ok_bind, hwithSale]
      rfl

end CheckoutLine

/-! ## All lines -/

/-- Two computations that succeed for each item, with results that are related. -/
theorem mapM_run₂ {α β : Type} {f g : α → Except Error β} {R : β → β → Prop} {items : List α}
    (h : ∀ x ∈ items, ∃ a b, f x = .ok a ∧ g x = .ok b ∧ R a b) :
    ∃ as bs, items.mapM f = .ok as ∧ items.mapM g = .ok bs ∧ List.Forall₂ R as bs := by
  have hsecond : List.Forall₂ (fun x y => ∃ b, g x = .ok b ∧ ∃ a, f y = .ok a ∧ R a b)
      items items := by
    refine List.forall₂_same.2 fun x hx => ?_
    obtain ⟨a, b, ha, hb, hab⟩ := h x hx
    exact ⟨b, hb, a, ha, hab⟩
  obtain ⟨bs, hbs, hfirst⟩ := mapM_of_forall₂ hsecond
  obtain ⟨as, has, hall⟩ := mapM_of_forall₂ hfirst.flip
  exact ⟨as, bs, has, hbs, hall⟩

namespace Snapshot

variable {s : Snapshot}

/-- The undiscounted price of a line, in units of decimals. -/
def undiscountedUnits (s : Snapshot) (l : CheckoutLine) : Int :=
  s.checkout.currency.round (l.price.amount.units * l.quantity)

/-- The lines have prices that are not negative, in the currency of the checkout, and nothing is
rounded in them but to the minor unit. -/
structure HasExactPrices (s : Snapshot) : Prop where
  sound : ∀ l ∈ s.lines, l.IsSound s.channel.id s.sales s.checkout.currency
  exact : ∀ l ∈ s.lines, l.IsExact s.channel.id s.sales

/-- Nothing is rounded where the undiscounted prices of the lines, which are computed without sales,
are added up. -/
structure HasExactTotals (s : Snapshot) : Prop where
  withoutSales : ∀ l ∈ s.lines, l.IsExact s.channel.id []
  sums : ∀ front, front <+: s.lines → Fits (front.map s.undiscountedUnits).sum

namespace HasExactPrices

/-- The price of a line with discounts is a part of the undiscounted one, which is computed without
any sales. -/
theorem line (h : s.HasExactPrices) (htotals : s.HasExactTotals) {l : CheckoutLine}
    (hl : l ∈ s.lines) :
    ∃ total bare, l.totalPrice s.channel.id s.sales = .ok total ∧
      l.totalPrice s.channel.id [] = .ok bare ∧
      total.withDiscounts.IsPartOf bare.undiscounted ∧
      bare.undiscounted.currency = s.checkout.currency ∧
      bare.undiscounted.amount.units = s.undiscountedUnits l := by
  have hsound := h.sound l hl
  obtain ⟨total, htotal, hordered, htimes⟩ := CheckoutLine.totalPrice_run hsound (h.exact l hl)
  have hbareSound : l.IsSound s.channel.id [] s.checkout.currency :=
    ⟨hsound.inCurrency, hsound.nonneg, by simp, hsound.withVoucher⟩
  obtain ⟨bare, hbare, -, hbareTimes⟩ :=
    CheckoutLine.totalPrice_run hbareSound (htotals.withoutSales l hl)
  obtain ⟨all, hall, hunits⟩ := Money.times_of_fits (h.exact l hl).items
  have hsame : total.undiscounted = bare.undiscounted :=
    Except.ok.inj (htimes.symm.trans hbareTimes)
  have hbareUnits : bare.undiscounted.amount.units = l.price.amount.units * l.quantity := by
    rw [← hunits, Except.ok.inj (hall.symm.trans hbareTimes)]
  have hcurrency : bare.undiscounted.currency = s.checkout.currency :=
    (Money.times_ok hbareTimes).1.trans hsound.inCurrency
  refine ⟨total.quantize, bare.quantize, htotal, hbare, ?_, hcurrency, ?_⟩
  · exact (hsame ▸ hordered.withDiscounts.trans hordered.withSale).quantize
  · rw [undiscountedUnits, ← hcurrency, ← hbareUnits]
    rfl

/-- **The lines together** cost no more with discounts than without. -/
theorem subtotals (h : s.HasExactPrices) (htotals : s.HasExactTotals) :
    ∃ subtotal undiscounted, s.subtotal = .ok subtotal ∧
      s.undiscountedSubtotal = .ok undiscounted ∧ subtotal.IsPartOf undiscounted := by
  obtain ⟨parts, wholes, hparts, hwholes, hall⟩ :
      ∃ parts wholes, s.lines.mapM (fun l => do
          return (← l.totalPrice s.channel.id s.sales).withDiscounts) = .ok parts ∧
        s.lines.mapM (fun l => do
          return (← l.totalPrice s.channel.id []).undiscounted) = .ok wholes ∧
        List.Forall₂ Money.IsPartOf parts wholes := by
    refine mapM_run₂ fun l hl => ?_
    obtain ⟨total, bare, htotal, hbare, hpart, -⟩ := h.line htotals hl
    exact ⟨_, _, by rw [htotal]; rfl, by rw [hbare]; rfl, hpart⟩
  have hlines : List.Forall₂ (fun (l : CheckoutLine) (whole : Money) =>
      whole.currency = s.checkout.currency ∧ whole.amount.units = s.undiscountedUnits l)
      s.lines wholes := by
    refine ((List.forall₂_and_left _ _).2 ⟨fun l hl => hl, forall₂_of_mapM hwholes⟩).imp ?_
    rintro l whole ⟨hl, hwhole⟩
    obtain ⟨_, bare, -, hbare, -, hcurrency, hunits⟩ := h.line htotals hl
    rw [hbare] at hwhole
    cases hwhole
    exact ⟨hcurrency, hunits⟩
  have hunits : wholes.map (·.amount.units) = s.lines.map s.undiscountedUnits := by
    rw [← List.forall₂_eq_eq_eq, List.forall₂_map_left_iff, List.forall₂_map_right_iff]
    exact hlines.flip.imp fun _ _ h => h.2
  have hcurrency : ∀ whole ∈ wholes, whole.currency = s.checkout.currency := fun whole hwhole => by
    obtain ⟨_, _, h, -⟩ := forall₂_exists_left hlines hwhole
    exact h
  obtain ⟨undiscounted, hundiscounted⟩ := Money.foldlM_add_of_fits (.zero s.checkout.currency)
    hcurrency fun front hfront => by
      rw [Money.zero, Decimal.units_zero, Int.zero_add, List.prefix_iff_eq_take.1 hfront,
        List.map_take, hunits, ← List.map_take]
      exact htotals.sums _ (List.take_prefix ..)
  have hzero : (Money.zero s.checkout.currency).IsPartOf (.zero s.checkout.currency) :=
    .self (Int.le_refl 0)
  obtain ⟨subtotal, hsubtotal, hpart⟩ := Money.IsPartOf.foldlM_add hall hzero hundiscounted
  refine ⟨subtotal, undiscounted, ?_, ?_, hpart⟩
  · rw [Snapshot.subtotal, CheckoutLine.subtotal, hparts]
    exact hsubtotal
  · rw [undiscountedSubtotal, hwholes]
    exact hundiscounted

end HasExactPrices

/-- **The three prices before tax are in their order**: the price with discounts is no higher than
that with sales, which is no higher than the undiscounted one. So it is for one item and for each
line, and the lines together cost no more with discounts than without. -/
theorem basePrices_ordered (s : Snapshot) (h : s.HasExactPrices) :
    (∀ l ∈ s.lines, ∃ unit total, l.unitPrice s.channel.id s.sales = .ok unit ∧
      l.totalPrice s.channel.id s.sales = .ok total ∧
      unit.IsOrdered ∧ unit.InMinorUnits s.checkout.currency ∧
      total.IsOrdered ∧ total.InMinorUnits s.checkout.currency) ∧
    (s.HasExactTotals → ∃ subtotal undiscounted, s.subtotal = .ok subtotal ∧
      s.undiscountedSubtotal = .ok undiscounted ∧ subtotal.IsPartOf undiscounted) := by
  refine ⟨fun l hl => ?_, h.subtotals⟩
  have hsound := h.sound l hl
  obtain ⟨unit, _, hunit, hordered, hprice, -⟩ :=
    CheckoutLine.exactUnitPrice_run hsound (h.exact l hl)
  obtain ⟨total, htotal, htotalOrdered, htimes⟩ :=
    CheckoutLine.totalPrice_run hsound (h.exact l hl)
  have hunitCurrency : unit.undiscounted.currency = s.checkout.currency :=
    hprice ▸ hsound.inCurrency
  have htotalCurrency : total.undiscounted.currency = s.checkout.currency :=
    (Money.times_ok htimes).1.trans hsound.inCurrency
  refine ⟨unit.quantize, total.quantize, ?_, htotal, hordered.quantize,
    hunitCurrency ▸ hordered.inMinorUnits_quantize, htotalOrdered.quantize,
    htotalCurrency ▸ htotalOrdered.inMinorUnits_quantize⟩
  rw [CheckoutLine.unitPrice, hunit]
  rfl

end Snapshot

/-! ## A sale and two vouchers -/

namespace Bookshop

/-- So many copies of a book for ten dollars and a cent each. -/
def copies (quantity : Nat) (voucher : Option Voucher) : CheckoutLine :=
  { (default : CheckoutLine) with
    cart := ⟨⟨⟨3⟩⟩, quantity⟩
    product := { (default : Product) with id := ⟨⟨2⟩⟩ }
    price := ⟨cents 1001, .usd⟩
    voucher }

/-- Books that are half off. A voucher takes a dollar off one of three copies, another takes all off
two copies and is not listed in the channel of a third line. The last line is empty. -/
def saleCart : Snapshot :=
  { (default : Snapshot) with
    checkout := { (default : Checkout) with currency := .usd }
    channel
    sales := saleTables.sales
    lines := [copies 3 (some { saleVoucher with applyOncePerOrder := true }),
      copies 2 (some perItem), copies 1 (some { perItem with channelListings := [] }),
      copies 0 (some saleVoucher)] }

end Bookshop

/-- The prices of books. -/
theorem Snapshot.basePrices_ordered_bookshop :
    Bookshop.saleCart.HasExactPrices ∧ Bookshop.saleCart.HasExactTotals ∧
    (∀ l ∈ Bookshop.saleCart.lines, ∃ unit total,
      l.unitPrice Bookshop.saleCart.channel.id Bookshop.saleCart.sales = .ok unit ∧
      l.totalPrice Bookshop.saleCart.channel.id Bookshop.saleCart.sales = .ok total ∧
      unit.IsOrdered ∧ unit.InMinorUnits .usd ∧ total.IsOrdered ∧ total.InMinorUnits .usd) ∧
    ∃ subtotal undiscounted, Bookshop.saleCart.subtotal = .ok subtotal ∧
      Bookshop.saleCart.undiscountedSubtotal = .ok undiscounted ∧
      subtotal.IsPartOf undiscounted := by
  have hexact : Bookshop.saleCart.HasExactPrices := by
    refine ⟨fun l hl => ⟨?_, ?_, ?_, ?_⟩, fun l hl => ⟨?_, ?_, ?_, ?_⟩⟩
    all_goals
      revert l
      decide +kernel
  have htotals : Bookshop.saleCart.HasExactTotals := by
    refine ⟨fun l hl => ⟨?_, ?_, ?_, ?_⟩, fun front hfront => ?_⟩
    case refine_5 =>
      rw [← List.mem_inits] at hfront
      revert front
      decide +kernel
    all_goals
      revert l
      decide +kernel
  obtain ⟨hlines, hsubtotals⟩ := Snapshot.basePrices_ordered Bookshop.saleCart hexact
  exact ⟨hexact, htotals, hlines, hsubtotals htotals⟩

/-- Half of thirty dollars and three cents less a dollar, nothing, and five dollars and a cent. -/
example : Bookshop.saleCart.subtotal = .ok ⟨Bookshop.cents 1903, .usd⟩ := by
  decide +kernel

end Storefront
