import Storefront.Order.Prices
import Storefront.Proofs.Checkout.KeptDiscount
import Storefront.Proofs.Checkout.OrderLines
import Storefront.Proofs.Checkout.Reading
import Storefront.Proofs.Completion.Total

/-!
# The discount of an order and that of its checkout

What a voucher takes off is computed for a checkout, from its lines with the sales of the moment and
from the delivery that was chosen. It can be computed for the order as well, from what the order
keeps: the totals of its lines and the price of its delivery. For a voucher that does not work on
lines both come to the same.

* `Voucher.amountFor_le`: no more is taken off a price than the price itself.
* `CheckoutLine.totalPrice_bare`: without a voucher on it a line costs what it costs with sales.
* `Snapshot.Agrees`: two snapshots that the same prices before tax are computed from.
* `Order.voucherDiscount_of_checkout`: the computation for the order.
* `Attempt.complete_voucherDiscount`: it comes to what is recorded in the order.
-/

namespace Storefront

/-! ## What vouchers take off -/

/-- What is left after a discount is not negative. -/
theorem Discount.apply_nonneg {d : Discount} {price left : Money}
    (h : d.apply price = .ok left) : 0 ≤ left.amount.units := by
  cases d with
  | fixed amount =>
    obtain ⟨difference, -, h⟩ := bind_ok h
    cases h
    rw [Money.units_floorAtZero]
    exact Int.le_max_left _ _
  | percentage fraction =>
    obtain ⟨_part, -, h⟩ := bind_ok h
    obtain ⟨_left, -, h⟩ := bind_ok h
    cases h
    rw [Money.units_floorAtZero]
    exact Int.le_max_left _ _

namespace Voucher

variable {v : Voucher}

/-- **No more is taken off a price than the price itself.** -/
theorem amountFor_le {price amount : Money} {channel : ChannelId}
    (h : v.amountFor price channel = .ok amount) : amount.amount ≤ price.amount := by
  obtain ⟨discount, -, h⟩ := bind_ok h
  obtain ⟨left, hleft, h⟩ := bind_ok h
  obtain ⟨off, hoff, h⟩ := bind_ok h
  have hnonneg := Discount.apply_nonneg hleft
  cases h
  split
  · exact Int.le_refl _
  · refine Decimal.sub?_mono ?_ (Money.sub_ok hoff).2.2 price.amount.sub?_zero
    rw [Decimal.units_zero]
    omega

/-- A voucher that does not work on lines is for the order or for its shipping. -/
theorem type_of_not_lineLevel (h : v.isLineLevel = false) :
    v.applyOncePerOrder = false ∧ (v.type = .entireOrder ∨ v.type = .shipping) := by
  obtain ⟨htype, honce⟩ := Bool.or_eq_false_iff.1 h
  refine ⟨honce, ?_⟩
  cases hv : v.type with
  | entireOrder => exact .inl rfl
  | shipping => exact .inr rfl
  | specificProduct => exact absurd hv (of_decide_eq_false htype)

end Voucher

/-! ## Lines -/

/-- **Without a voucher on it a line costs what it costs with sales.** -/
theorem CheckoutLine.totalPrice_bare {l : CheckoutLine} {channel : ChannelId} {sales : List Sale}
    {p : LinePrice} (h : l.totalPrice channel sales = .ok p) :
    l.bare.totalPrice channel sales = .ok { p with withDiscounts := p.withSale } := by
  obtain ⟨unit, undiscounted, withSale, withDiscounts, hunit, hundiscounted, hwithSale, rfl, -⟩ :=
    totalPrice_ok h
  obtain ⟨saleId, hsale, hprice⟩ := exactUnitPrice_ok hunit
  have hbare : l.bare.exactUnitPrice channel sales =
      .ok ⟨l.price, unit.withSale, unit.withSale⟩ := by
    rw [exactUnitPrice, show l.bare.salePrice channel sales = _ from hsale]
    rfl
  rw [hprice] at hundiscounted
  have hwithSale : unit.withSale.times l.bare.quantity = .ok withSale := hwithSale
  have hundiscounted : l.price.times l.bare.quantity = .ok undiscounted := hundiscounted
  rw [totalPrice, hbare, ok_bind]
  show (unit.withSale.times l.bare.quantity >>= fun withDiscounts => _) = _
  rw [hwithSale, ok_bind]
  show (l.price.times l.bare.quantity >>= fun undiscounted => _) = _
  rw [hundiscounted]
  rfl

namespace Snapshot

variable {s x : Snapshot} {chain : TaxChain} {ids : FreshIds}

/-- The price of lines with sales is what they cost without vouchers. -/
theorem mapM_bare {lines : List CheckoutLine} {totals : List Money}
    (h : lines.mapM (fun l => do return (← l.totalPrice s.channel.id s.sales).withSale) =
      .ok totals) :
    (lines.map CheckoutLine.bare).mapM
      (fun l => do return (← l.totalPrice s.channel.id s.sales).withDiscounts) = .ok totals := by
  induction lines generalizing totals with
  | nil => exact h
  | cons l rest ih =>
    rw [List.mapM_cons] at h
    obtain ⟨total, htotal, h⟩ := bind_ok h
    obtain ⟨p, hp, htotal⟩ := bind_ok htotal
    obtain ⟨others, hothers, h⟩ := bind_ok h
    cases htotal
    cases h
    rw [List.map_cons, List.mapM_cons, CheckoutLine.totalPrice_bare hp, ih hothers]
    rfl

/-! ## Delivery -/

/-- An external method is looked for among the offers of the provider, if any are made. -/
theorem find?_offers (s : Snapshot) (id : String) :
    s.offers.find? (·.key = .external id) =
      if s.offersShipping then s.externalOffers.find? (·.key = .external id) else none := by
  rw [offers, offersShipping]
  cases s.checkout.shippingAddress with
  | none => rw [Option.isSome_none, Bool.and_false]; rfl
  | some address =>
    rw [Option.isSome_some, Bool.and_true]
    cases s.shippingRequired with
    | false => rfl
    | true =>
      dsimp only
      rw [if_pos rfl, if_pos rfl, List.find?_append, List.find?_eq_none.2 fun own hown => ?_,
        Option.none_or]
      obtain ⟨hown, -⟩ := List.mem_filter.1 hown
      obtain ⟨_, -, rfl⟩ := List.mem_map.1 hown
      simp [ShippingOffer.ofListing]

/-- An external method is found among the offers of the provider. -/
theorem find?_offers_external {id : String} {offer : ShippingOffer}
    (h : s.offers.find? (·.key = .external id) = some offer) :
    s.externalOffers.find? (·.key = .external id) = some offer := by
  rw [find?_offers] at h
  split at h
  · exact h
  · cases h

/-- `x.Agrees s`: all that prices before tax depend on is the same in two snapshots, apart from
vouchers on lines. -/
structure Agrees (x s : Snapshot) : Prop where
  lines : x.lines.map CheckoutLine.bare = s.lines.map CheckoutLine.bare
  cart : x.checkout.lines = s.checkout.lines
  channelId : x.channel.id = s.channel.id
  sales : x.sales = s.sales
  currency : x.checkout.currency = s.checkout.currency
  deliveryChoice : x.checkout.deliveryChoice = s.checkout.deliveryChoice
  shippingMethods : x.shippingMethods = s.shippingMethods
  externalOffers : x.externalOffers = s.externalOffers

theorem Agrees.shippingRequired (h : x.Agrees s) : x.shippingRequired = s.shippingRequired := by
  have hbare (lines : List CheckoutLine) :
      CheckoutLine.anyShipped (lines.map CheckoutLine.bare) = CheckoutLine.anyShipped lines :=
    List.any_map
  rw [Snapshot.shippingRequired, ← hbare, h.lines, hbare]
  rfl

/-- **The price of a chosen delivery** is the same where it is there in both snapshots. -/
theorem Agrees.deliveryPrice (h : x.Agrees s) (hpriced : s.delivery.price?.isSome)
    (hselected : x.delivery.isSelected) : x.deliveryPrice = s.deliveryPrice := by
  suffices hprice : x.delivery.price? = s.delivery.price? by
    unfold Snapshot.deliveryPrice
    rw [hprice, h.shippingRequired, h.currency]
  unfold delivery at hpriced hselected ⊢
  dsimp only at hpriced hselected ⊢
  rw [h.deliveryChoice] at hselected ⊢
  cases hchosen : s.checkout.deliveryChoice with
  | none => rfl
  | shipping id =>
    rw [h.shippingMethods]
    dsimp only
    cases s.shippingMethods.find? (·.1.id = id) <;> rfl
  | external id =>
    rw [hchosen] at hpriced hselected
    dsimp only at hpriced hselected ⊢
    cases hoffer : s.offers.find? (·.key = .external id) with
    | none =>
      rw [hoffer] at hpriced
      cases hpriced
    | some offer =>
      cases hoffer' : x.offers.find? (·.key = .external id) with
      | none =>
        rw [hoffer'] at hselected
        cases hselected
      | some offer' =>
        have hfound := find?_offers_external hoffer'
        rw [h.externalOffers, find?_offers_external hoffer] at hfound
        cases hfound
        rfl
  | collectionPoint id =>
    rw [hchosen] at hpriced
    dsimp only at hpriced
    split at hpriced <;> cases hpriced

/-- A checkout that is to be shipped is not completed without a delivery. -/
theorem isSelected_of_validate {t : Tables} {redirectUrl : Option String} {allowed : List String}
    (h : s.validate t redirectUrl allowed = .ok ()) (hshipped : s.shippingRequired = true) :
    s.delivery.isSelected = true := by
  obtain ⟨-, h⟩ := unless_ok h
  obtain ⟨_, hdelivery, -⟩ := bind_ok h
  rw [validateDelivery, hshipped] at hdelivery
  by_contra hnone
  rw [Bool.not_eq_true] at hnone
  simp [hnone] at hdelivery

/-! ## The two computations -/

/-- What a voucher that does not work on lines takes off a checkout: something off the price of the
lines with sales, or off the price of the delivery. -/
theorem voucherDiscount_ok {t : Tables} {v : Voucher} {discount : Money}
    (h : s.voucherDiscount t v = .ok discount) (hlevel : v.isLineLevel = false) :
    ∃ subtotal, s.subtotalWithSales = .ok subtotal ∧
      v.checkMinimumSpent subtotal s.channel.id = .ok () ∧
      v.checkMinimumQuantity s.checkout.quantity = .ok () ∧
      (v.type = .entireOrder ∧ v.amountFor subtotal s.channel.id = .ok discount ∨
        v.type = .shipping ∧ s.shippingRequired = true ∧ s.delivery.price?.isSome = true ∧
          v.amountFor s.deliveryPrice s.channel.id = .ok discount) := by
  obtain ⟨subtotal, hsubtotal, h⟩ := bind_ok h
  obtain ⟨_, hcheck, h⟩ := bind_ok h
  obtain ⟨_, hspent, hcheck⟩ := bind_ok hcheck
  obtain ⟨_, hquantity, -⟩ := bind_ok hcheck
  refine ⟨subtotal, hsubtotal, hspent, hquantity, ?_⟩
  obtain ⟨honce, htype | htype⟩ := Voucher.type_of_not_lineLevel hlevel
  · rw [htype, honce] at h
    exact .inl ⟨htype, h⟩
  · rw [htype] at h
    obtain ⟨hshipped, h⟩ := unless_ok h
    obtain ⟨hpriced, h⟩ := guard_ok h
    obtain ⟨-, h⟩ := unless_ok h
    exact .inr ⟨htype, hshipped, by simpa [Option.isSome_iff_ne_none] using hpriced, h⟩

end Snapshot

/-- What a voucher that does not work on lines takes off an order, from the prices that the order
keeps. -/
theorem Order.voucherDiscount_of {o : Order} {lines : List OrderLine} {v : Voucher}
    {subtotal discount : Money} (hlevel : v.isLineLevel = false)
    (hsubtotal : o.baseSubtotal lines = .ok subtotal)
    (hspent : v.checkMinimumSpent subtotal o.channelId = .ok ())
    (hquantity : v.checkMinimumQuantity (Quantity.total (lines.map (·.quantity))) = .ok ())
    (h : v.type = .entireOrder ∧ v.amountFor subtotal o.channelId = .ok discount ∨
      v.type = .shipping ∧ v.amountFor o.baseShippingPrice o.channelId = .ok discount) :
    o.voucherDiscount lines v = .ok discount := by
  rw [voucherDiscount, hsubtotal, ok_bind, hspent, ok_bind, hquantity, ok_bind, hlevel]
  rcases h with ⟨htype, h⟩ | ⟨htype, h⟩
  · rw [htype]
    exact h
  · rw [htype]
    exact h

/-! ## From the checkout to the order -/

/-- A checkout still has the cart, the delivery, the voucher and the discount of another one. What
the customer has told since may differ. -/
structure Checkout.Keeps (checkout kept : Checkout) : Prop where
  channelId : checkout.channelId = kept.channelId
  currency : checkout.currency = kept.currency
  lines : checkout.lines = kept.lines
  deliveryChoice : checkout.deliveryChoice = kept.deliveryChoice
  voucherCode : checkout.voucherCode = kept.voucherCode
  discount : checkout.discount = kept.discount

/-- What was read of one cart and one catalog agrees. -/
theorem Tables.Reads.agrees {t t' : Tables} {external external' : Checkout → List ShippingOffer}
    {now : Moment} {s x : Snapshot} {v : Option Voucher} {code name : Option String}
    {discount : Money} (hs : t.Reads external now s) (hx : t'.Reads external' now x)
    (hcatalog : t.SamePriceList t')
    (hkeeps : x.checkout.Keeps (s.withVoucher v code name discount).checkout)
    (hoffers : external' x.checkout = external s.checkout) : x.Agrees s := by
  have hchannel : x.channel.id = s.channel.id :=
    hx.channelId.trans (hkeeps.channelId.trans hs.channelId.symm)
  exact {
    lines := hs.lines_eq hx hcatalog hkeeps.channelId hkeeps.lines
    cart := hkeeps.lines
    channelId := hchannel
    sales := by rw [hx.sales, hs.sales, hcatalog.sales]
    currency := hkeeps.currency
    deliveryChoice := hkeeps.deliveryChoice
    shippingMethods := by
      rw [hx.shippingMethods, hs.shippingMethods, hchannel, hcatalog.shippingMethodsOf]
    externalOffers := by rw [hx.externalOffers, hs.externalOffers, hoffers] }

/-- `s.Stores t v kept`: the voucher was put on the checkout of `s`, or its discount was computed
again, and the checkout became that of `kept`. -/
def Snapshot.Stores (s : Snapshot) (t : Tables) (v : Voucher) (kept : Snapshot) : Prop :=
  (∃ t', t.transact (addVoucher s v) = (.ok kept, t', [])) ∨
    (∃ t', t.transact (recalculateDiscount s) = (.ok kept, t', [])) ∧ kept.voucher = some v

namespace Snapshot

variable {s kept : Snapshot} {t : Tables} {external : Checkout → List ShippingOffer}
  {now : Moment} {v : Voucher}

/-- A voucher that does not work on lines keeps the price of the lines from limiting it: what is
stored is what it takes off. -/
theorem Stores.discount (h : s.Stores t v kept) (hread : t.Reads external now s)
    (hlevel : v.isLineLevel = false) : ∃ discount, s.voucherDiscount t v = .ok discount ∧
      kept = s.withVoucher (some v) (some v.code) v.name discount := by
  rcases h with ⟨t', hadded⟩ | ⟨⟨t', hrecalculated⟩, hv⟩
  · obtain ⟨discount, hdiscount, hkept, -⟩ := addVoucher_ok hadded
    exact ⟨discount, hdiscount, hkept⟩
  · have hcode {w : Voucher} (hw : s.voucher = some w) : s.checkout.voucherCode = some w.code := by
      obtain ⟨code, hcode, hrow, -⟩ := Tables.of_voucherFor? (hread.voucher.symm.trans hw)
      rw [hcode, (find?_key (k := Voucher.code) hrow).2]
    cases (recalculateDiscount_ok hrecalculated).1 with
    | noVoucher | takenOff => cases hv
    | shipping hw htype hdiscount =>
      cases hv
      exact ⟨_, hdiscount, by rw [hcode hw]⟩
    | @limited _ discount subtotal hw htype hdiscount hsubtotal =>
      cases hv
      refine ⟨discount, hdiscount, ?_⟩
      obtain ⟨_, hsame, -, -, ⟨-, hamount⟩ | ⟨hshipping, -⟩⟩ := voucherDiscount_ok hdiscount hlevel
      · obtain rfl := Except.ok.inj (hsubtotal.symm.trans hsame)
        have hmin : discount.min subtotal = discount :=
          if_neg (Int.not_lt.2 (Voucher.amountFor_le hamount))
        rw [hcode hw, hmin]
      · exact absurd hshipping htype

end Snapshot

namespace Attempt

variable {a : Attempt} {t : Tables} {plan : OrderPlan} {payment : Option Payment}

/-- The lines of an order are for as many items as those of the cart. -/
theorem Prepared.quantities (h : a.Prepared t plan payment) :
    plan.lines.map (·.line.quantity) = plan.snapshot.checkout.lines.map (·.quantity) := by
  have hsame : List.Forall₂ Eq (plan.snapshot.checkout.lines.map (·.quantity))
      (plan.lines.map (·.line.quantity)) := by
    rw [List.forall₂_map_left_iff, List.forall₂_map_right_iff]
    refine h.planned.imp fun line l hl => ?_
    rw [hl.2.2.2, CheckoutLine.quantity, hl.1.rows.1]
  rw [List.forall₂_eq_eq_eq] at hsame
  exact hsame.symm

variable {s : Snapshot} {v : Voucher} {settled : Option SettledPayment} {t₀ t' : Tables}
  {c : Creation} {discount : Money}

/-- The price of the lines of an order before tax is that of the lines of a snapshot that agrees,
with sales. -/
theorem Prepared.sum_baseTotalPrice (h : a.Prepared t plan payment)
    (hlevel : ∀ w, plan.voucher = some w → w.isLineLevel = false)
    (hagrees : plan.snapshot.Agrees s) {subtotal : Money}
    (hsubtotal : s.subtotalWithSales = .ok subtotal) :
    Money.sum plan.snapshot.checkout.currency
      ((plan.lines.map (·.line)).map (·.baseTotalPrice)) = .ok subtotal := by
  obtain ⟨_, _, -, -, -, hplan⟩ := h.priced
  have hplanned := Snapshot.mapM_baseTotalPrice (Snapshot.plan_ok hplan).2.2.2
  obtain ⟨totals, htotals, hsum⟩ := bind_ok hsubtotal
  rw [h.voucher_snapshot] at hlevel
  rw [← (snapshot_reads h.snapshot).bare_of_not_lineLevel hlevel, hagrees.lines,
    hagrees.channelId, hagrees.sales, Snapshot.mapM_bare htotals] at hplanned
  rw [List.map_map, hagrees.currency]
  exact Except.ok.inj hplanned ▸ hsum

/-- **What a voucher takes off an order** is what it takes off a snapshot that agrees. -/
theorem Prepared.voucherDiscount (h : a.Prepared t plan payment) (hc : a.Creates plan settled t' c)
    (hlevel : ∀ w, plan.voucher = some w → w.isLineLevel = false)
    (hagrees : plan.snapshot.Agrees s) (hv : v.isLineLevel = false)
    (hdiscount : s.voucherDiscount t₀ v = .ok discount) :
    c.order.voucherDiscount (plan.lines.map (·.line)) v = .ok discount := by
  obtain ⟨_, _, -, -, -, hplan⟩ := h.priced
  obtain ⟨subtotal, hsubtotal, hspent, hquantity, hamount⟩ :=
    Snapshot.voucherDiscount_ok hdiscount hv
  have hchannel : c.order.channelId = s.channel.id :=
    (hc.of_plan (·.channelId) fun _ _ _ _ _ => rfl).trans hagrees.channelId
  have hbase : c.order.baseShippingPrice = plan.snapshot.deliveryPrice :=
    (hc.of_plan (·.baseShippingPrice) fun _ _ _ _ _ => rfl).trans (Snapshot.plan_shipping hplan).1
  have hitems : (plan.lines.map (·.line)).map (·.quantity) =
      s.checkout.lines.map (·.quantity) := by
    rw [List.map_map, ← hagrees.cart]
    exact h.quantities
  rw [← hchannel] at hspent hamount
  rw [Checkout.quantity, ← hitems] at hquantity
  refine Order.voucherDiscount_of hv ?_ hspent hquantity ?_
  · rw [Order.baseSubtotal, Order.currency, hc.prices.1, h.currency_total]
    exact h.sum_baseTotalPrice hlevel hagrees hsubtotal
  · rcases hamount with horder | ⟨htype, hshipped, hpriced, hamount⟩
    · exact .inl horder
    · have hselected := Snapshot.isSelected_of_validate h.valid
        (hagrees.shippingRequired.trans hshipped)
      rw [hbase, hagrees.deliveryPrice hpriced hselected]
      exact .inr ⟨htype, hamount⟩

/-- A voucher that does not work on lines is recorded with the discount of the checkout. -/
theorem Prepared.recorded (hc : a.Creates plan settled t' c) (hvoucher : plan.voucher = some v)
    (hlevel : v.isLineLevel = false) :
    c.order.discounts.map (·.amount) = [plan.snapshot.checkout.discount] := by
  rw [hc.prices.2.2, OrderPlan.discounts, hvoucher]
  simp [Option.filter, hlevel]

/-- **The discount of an order is what its voucher takes off the order.** The discount of a checkout
was stored for a voucher that does not work on lines, and a checkout with the same cart is completed
at the same time, with the same catalog, the same row of the voucher but for its uses, and the same
offers of the external provider. If an order is created, then the computation for the order, from
the prices that it keeps, comes to the discount that is recorded in it. -/
theorem complete_voucherDiscount (a : Attempt)
    (gateway : Payment → Tables → Except Error GatewayResponse × Tables) (t₀ t : Tables)
    (external : Checkout → List ShippingOffer) (checkout₀ checkout : Checkout) (s kept : Snapshot)
    (unavailable : List VariantId) (v : Voucher) (notice : OrderNotice)
    (hlevel : v.isLineLevel = false)
    (hread : t₀.snapshotOf checkout₀ external a.request.now = .ok (s, unavailable))
    (hstored : s.Stores t₀ v kept) (hcatalog : t₀.SamePriceList t)
    (hvoucher : ∀ w, t.voucherByCode? v.code = some w → ∃ used, w = v.withUsed used)
    (hcheckout : t.checkout? a.token = some checkout) (hkeeps : checkout.Keeps kept.checkout)
    (hoffers : a.externalOffers checkout = external checkout₀)
    (hcreated : .orderCreated notice ∈ (a.complete gateway t).events) :
    ∃ discount, notice.order.voucherDiscount notice.lines v = .ok discount ∧
      notice.order.discounts.map (·.amount) = [discount] := by
  obtain ⟨plan, payment, settled, t', c, hprepared, hcreates, rfl, -, -⟩ :=
    (a.announced_complete gateway t).orders notice hcreated
  obtain rfl : plan.snapshot.checkout = checkout :=
    Option.some.inj (hprepared.checkout.symm.trans hcheckout)
  obtain ⟨rfl, hs⟩ := Tables.snapshotOf_reads hread
  obtain ⟨discount, hdiscount, rfl⟩ := hstored.discount hs hlevel
  -- the voucher of the plan is the same but for its uses
  obtain ⟨used, hused⟩ : ∃ used, plan.voucher = some (v.withUsed used) := by
    cases hw : plan.voucher with
    | none => cases hkeeps.voucherCode.symm.trans (hprepared.code hw)
    | some w =>
      obtain ⟨code, hcode, hrow, -⟩ := Tables.of_voucherFor? (hprepared.voucher.symm.trans hw)
      obtain rfl : v.code = code := Option.some.inj (hkeeps.voucherCode.symm.trans hcode)
      obtain ⟨used, rfl⟩ := hvoucher w hrow
      exact ⟨used, rfl⟩
  have hagrees : plan.snapshot.Agrees s :=
    hs.agrees (snapshot_reads hprepared.snapshot) hcatalog hkeeps hoffers
  refine ⟨discount,
    hprepared.voucherDiscount hcreates (fun w hw => ?_) hagrees hlevel hdiscount, ?_⟩
  · cases hused.symm.trans hw
    exact hlevel
  · rw [← show plan.snapshot.checkout.discount = discount from hkeeps.discount]
    exact Prepared.recorded hcreates hused hlevel

end Attempt

/-- The copy is half off, and there is a voucher for a dollar. -/
def Bookshop.dollarTables : Tables :=
  { saleTables with
    vouchers := saleTables.vouchers.map fun v =>
      { v with channelListings := [⟨channel.id, 1, .usd, none⟩] } }

/-- The dollar is put on the checkout and recorded in the order. -/
theorem Attempt.complete_voucherDiscount_bookshop :
    ∃ checkout ∈ Bookshop.dollarTables.checkouts, ∃ v ∈ Bookshop.dollarTables.vouchers,
      ∃ s kept unavailable notice, v.isLineLevel = false ∧
      Bookshop.dollarTables.snapshotOf checkout (fun _ => []) ⟨1⟩ = .ok (s, unavailable) ∧
      s.Stores Bookshop.dollarTables v kept ∧
      .orderCreated notice ∈ ((Bookshop.attempt 1).complete Bookshop.bank
        (Bookshop.dollarTables.withCheckout kept.checkout)).events ∧
      ∃ discount, notice.order.voucherDiscount notice.lines v = .ok discount ∧
        notice.order.discounts.map (·.amount) = [discount] := by
  have heval : ∃ checkout ∈ Bookshop.dollarTables.checkouts, ∃ v ∈ Bookshop.dollarTables.vouchers,
      v.isLineLevel = false ∧
      Bookshop.dollarTables.voucherByCode? v.code = some (v.withUsed v.used) ∧
      (Bookshop.dollarTables.snapshotOf checkout (fun _ => []) ⟨1⟩).toOption.any (fun read =>
        (Bookshop.dollarTables.transact (addVoucher read.1 v)).1.toOption.any
          fun (kept : Snapshot) =>
          (Bookshop.dollarTables.withCheckout kept.checkout).checkout?
            (Bookshop.attempt 1).token = some kept.checkout ∧
          ∃ notice ∈ ((Bookshop.attempt 1).complete Bookshop.bank
            (Bookshop.dollarTables.withCheckout kept.checkout)).events.filterMap Event.notice?,
            notice.order.discounts.length = 1) = true := by
    decide +kernel
  obtain ⟨checkout, hcheckout, v, hv, hlevel, hrow, hread⟩ := heval
  obtain ⟨⟨s, unavailable⟩, hread, hadded⟩ := ok_of_any hread
  obtain ⟨kept, t₁, hadded, hrest⟩ := addVoucher_of_any hadded
  obtain ⟨hstored, notice, hnotice, -⟩ := of_decide_eq_true hrest
  have hevent := Event.mem_of_notice? hnotice
  have hsame : Bookshop.dollarTables.SamePriceList (Bookshop.dollarTables.withCheckout
    kept.checkout) := ⟨rfl, rfl, rfl, rfl, rfl, rfl, rfl, rfl⟩
  have hdiscount := complete_voucherDiscount (Bookshop.attempt 1) Bookshop.bank
    Bookshop.dollarTables (Bookshop.dollarTables.withCheckout kept.checkout) (fun _ => []) checkout
    kept.checkout s kept unavailable v notice hlevel hread (.inl ⟨t₁, hadded⟩) hsame
    (fun w hw => ⟨v.used, Option.some.inj (hw.symm.trans hrow)⟩) hstored
    ⟨rfl, rfl, rfl, rfl, rfl, rfl⟩ rfl hevent
  exact ⟨checkout, hcheckout, v, hv, s, kept, unavailable, notice, hlevel, hread,
    .inl ⟨t₁, hadded⟩, hevent, hdiscount⟩

end Storefront
