import Storefront.Proofs.Checkout.Attachment
import Storefront.Proofs.Checkout.LostVoucher
import Storefront.Proofs.Tax.ZeroRate

/-!
# Vouchers for shipping

A voucher for shipping takes something off the price of the delivery. When the checkout is read
again the lines cost what they cost with sales, and the total is lower by what was stored. This does
not hold if the voucher applies once per order: then it is put on the cheapest line, and takes
nothing off the delivery.

* `Tables.snapshotOf_reread`: the cart is read again with a voucher that does not work on lines.
* `Snapshot.Agrees.deliveryPrice_of_address`: the delivery costs the same.
* `Snapshot.total_of_noDiscount`, `Snapshot.total_lowered`: totals without and with a discount.
* `Snapshot.shipping_discounted`: **what a voucher for shipping does to a checkout**.
* `Snapshot.discounts_line_bookshop`: one that lowers the price of a line.
-/

namespace Storefront

/-! ## Lines without vouchers -/

namespace CheckoutLine

variable {l : CheckoutLine} {channel : ChannelId} {sales : List Sale} {p : LinePrice}

/-- Without a voucher on it an item costs what it costs with sales. -/
theorem exactUnitPrice_of_noVoucher (hnone : l.voucher = none)
    (h : l.exactUnitPrice channel sales = .ok p) : p.withDiscounts = p.withSale := by
  obtain ⟨⟨_, withSale⟩, -, h⟩ := bind_ok h
  rw [hnone] at h
  cases h
  rfl

/-- **A line without voucher is not discounted**, neither for one item nor for all of them. -/
theorem bare_prices (h : l.totalPrice channel sales = .ok p) :
    ∃ unit total, l.bare.unitPrice channel sales = .ok unit ∧
      l.bare.totalPrice channel sales = .ok total ∧
      unit.withDiscounts = unit.withSale ∧ total.withDiscounts = total.withSale := by
  have htotal := totalPrice_bare h
  obtain ⟨exact, hexact, -⟩ := bind_ok htotal
  have hunit : l.bare.unitPrice channel sales = .ok exact.quantize := by
    rw [unitPrice, hexact]
    rfl
  exact ⟨_, _, hunit, htotal,
    congrArg Money.quantize (exactUnitPrice_of_noVoucher rfl hexact), rfl⟩

end CheckoutLine

/-! ## Reading the cart again -/

namespace Snapshot

/-- The snapshot of another checkout with the same cart, which has no voucher on its lines. -/
def reread (s : Snapshot) (checkout : Checkout) (voucher : Option Voucher) (subtotal : Money) :
    Snapshot :=
  { s with checkout, voucher, lines := s.lines.map CheckoutLine.bare, baseSubtotal := subtotal }

variable {s x : Snapshot}

/-- **The delivery costs the same** for the same address. -/
theorem Agrees.delivery_price? (h : x.Agrees s)
    (haddress : x.checkout.shippingAddress = s.checkout.shippingAddress) :
    x.delivery.price? = s.delivery.price? := by
  have hoffers : x.offersShipping = s.offersShipping := by
    rw [offersShipping, offersShipping, h.shippingRequired, haddress]
  unfold delivery
  dsimp only
  rw [h.deliveryChoice]
  cases s.checkout.deliveryChoice with
  | none => rfl
  | shipping id =>
    rw [h.shippingMethods]
    dsimp only
    cases s.shippingMethods.find? (·.1.id = id) <;> rfl
  | external id =>
    dsimp only
    rw [find?_offers, find?_offers, hoffers, h.externalOffers]
    cases (if s.offersShipping then s.externalOffers.find? (·.key = .external id) else none) <;>
      rfl
  | collectionPoint id =>
    dsimp only
    cases x.warehouses.find? (·.id = id) <;> cases s.warehouses.find? (·.id = id) <;> rfl

theorem Agrees.deliveryPrice_of_address (h : x.Agrees s)
    (haddress : x.checkout.shippingAddress = s.checkout.shippingAddress) :
    x.deliveryPrice = s.deliveryPrice := by
  unfold Snapshot.deliveryPrice
  rw [h.delivery_price? haddress, h.shippingRequired, h.currency]

theorem Agrees.pricesNonneg (h : x.Agrees s)
    (haddress : x.checkout.shippingAddress = s.checkout.shippingAddress)
    (hprices : s.PricesNonneg) : x.PricesNonneg where
  lines l hl := by
    have hbare : l.bare ∈ s.lines.map CheckoutLine.bare := h.lines ▸ List.mem_map_of_mem hl
    obtain ⟨l', hl', hsame⟩ := List.mem_map.1 hbare
    have hprice : l'.price = l.price := congrArg (·.price) hsame
    exact hprice ▸ hprices.lines l' hl'
  delivery := h.delivery_price? haddress ▸ hprices.delivery

end Snapshot

/-- The checkout with another voucher code and discount. -/
def Checkout.withDiscount (c : Checkout) (code name : Option String) (discount : Money) :
    Checkout :=
  { c with voucherCode := code, discountName := name, discount }

namespace Tables

variable {t : Tables} {checkout stored : Checkout} {now : Moment} {s : Snapshot}
  {external : Checkout → List ShippingOffer} {unavailable : List VariantId} {subtotal : Money}
  {code name : Option String} {discount : Money}

/-- The lines are read without vouchers if the voucher does not work on lines. -/
theorem checkoutLines_reread {channel : ChannelId} {sales : List Sale} {lines : List CheckoutLine}
    (h : t.checkoutLines checkout channel sales now = .ok (lines, unavailable))
    (hlevel : ∀ v, (t.withCheckout stored).voucherFor? (checkout.withDiscount code name discount)
      now = some v → v.isLineLevel = false) :
    (t.withCheckout stored).checkoutLines (checkout.withDiscount code name discount) channel sales
      now = .ok (lines.map CheckoutLine.bare, unavailable) := by
  have hbare : (checkout.lines.filterMap (t.checkoutLine? channel now)).map CheckoutLine.bare =
      checkout.lines.filterMap (t.checkoutLine? channel now) := by
    refine (List.map_congr_left fun l hl => ?_).trans (List.map_id _)
    obtain ⟨_, -, hread⟩ := List.mem_filterMap.1 hl
    exact bare_of_checkoutLine? hread
  rw [checkoutLines_bare h, hbare, (checkoutLines_attached h).1, checkoutLines]
  cases hv : (t.withCheckout stored).voucherFor? (checkout.withDiscount code name discount) now with
  | none => rfl
  | some v =>
    dsimp only
    rw [CheckoutLine.attach, hlevel v hv]
    rfl

/-- **A cart is read again** after its checkout was stored with another code and discount. If the
voucher does not work on lines, none of them has it. -/
theorem snapshotOf_reread (stored : Checkout) (code name : Option String) (discount : Money)
    (h : t.snapshotOf checkout external now = .ok (s, unavailable))
    (hsubtotal : s.subtotalWithSales = .ok subtotal)
    (hexternal : external (checkout.withDiscount code name discount) = external checkout)
    (hlevel : ∀ v, (t.withCheckout stored).voucherFor? (checkout.withDiscount code name discount)
      now = some v → v.isLineLevel = false) :
    (t.withCheckout stored).snapshotOf (checkout.withDiscount code name discount) external now =
      .ok (s.reread (checkout.withDiscount code name discount) ((t.withCheckout stored).voucherFor?
        (checkout.withDiscount code name discount) now) subtotal, unavailable) := by
  obtain ⟨channel, hchannel, h⟩ := bind_ok h
  obtain ⟨⟨lines, gone⟩, hlines, h⟩ := bind_ok h
  obtain ⟨read, hread, h⟩ := bind_ok h
  obtain ⟨base, -, hread⟩ := bind_ok hread
  cases hread
  cases h
  obtain ⟨totals, htotals, hsum⟩ := bind_ok hsubtotal
  have hbase : CheckoutLine.subtotal (lines.map CheckoutLine.bare) channel.id
      (Sale.activeAt t.sales now) checkout.currency = .ok subtotal := by
    rw [CheckoutLine.subtotal, Snapshot.mapM_bare htotals]
    exact hsum
  unfold snapshotOf
  rw [show (t.withCheckout stored).channel (checkout.withDiscount code name discount).channelId =
    .ok channel from hchannel, ok_bind]
  dsimp only
  rw [show (t.withCheckout stored).checkoutLines _ channel.id
      (Sale.activeAt (t.withCheckout stored).sales now) now = _ from
    checkoutLines_reread hlines hlevel, ok_bind]
  dsimp only
  unfold snapshot
  rw [show CheckoutLine.subtotal _ channel.id (Sale.activeAt (t.withCheckout stored).sales now)
    (checkout.withDiscount code name discount).currency = _ from hbase, ok_bind, hexternal]
  rfl

end Tables

theorem Snapshot.reread_agrees (s : Snapshot) (code name : Option String) (discount : Money)
    (voucher : Option Voucher) (subtotal : Money) :
    (s.reread (s.checkout.withDiscount code name discount) voucher subtotal).Agrees s where
  lines := by
    rw [reread, List.map_map]
    rfl
  cart := rfl
  channelId := rfl
  sales := rfl
  currency := rfl
  deliveryChoice := rfl
  shippingMethods := rfl
  externalOffers := rfl

/-! ## Totals -/

namespace Snapshot

variable {s x clear : Snapshot} {t : Tables} {v : Voucher} {discount : Money}

/-- What is taken off shipping is taken off the price of the delivery, once per order or not. -/
theorem voucherDiscount_shipping (htype : v.type = .shipping)
    (h : s.voucherDiscount t v = .ok discount) :
    (∃ subtotal, s.subtotalWithSales = .ok subtotal) ∧ s.shippingRequired = true ∧
      v.amountFor s.deliveryPrice s.channel.id = .ok discount := by
  obtain ⟨subtotal, hsubtotal, h⟩ := bind_ok h
  obtain ⟨_, -, h⟩ := bind_ok h
  rw [htype] at h
  obtain ⟨hshipped, h⟩ := unless_ok h
  obtain ⟨-, h⟩ := guard_ok h
  obtain ⟨-, h⟩ := unless_ok h
  exact ⟨⟨subtotal, hsubtotal⟩, hshipped, h⟩

/-- **A total before a discount** is the price of the lines and of the delivery. -/
theorem total_of_noDiscount (hprices : s.PricesNonneg)
    (hdiscount : s.discount = Money.zero s.checkout.currency) :
    s.total [] = (do
      let both ← (← s.subtotal).add s.deliveryPrice
      return .untaxed both) := by
  rw [total_eq, beforeTax]
  cases hsubtotal : s.subtotal with
  | error e => rfl
  | ok subtotal =>
    rw [ok_bind, ok_bind, baseTotal]
    cases hboth : subtotal.add s.deliveryPrice with
    | error e => rfl
    | ok both =>
      have hcurrency : both.currency = s.checkout.currency :=
        (Money.add_ok hboth).2.1.trans (currency_subtotal hsubtotal)
      have hnonneg : 0 ≤ both.amount :=
        Money.add_nonneg (hprices.subtotal hsubtotal) hprices.deliveryPrice hboth
      have hwhole : both.quantize = both :=
        Money.quantize_add (quantize_subtotal hsubtotal) s.quantize_deliveryPrice hboth
      rw [ok_bind, hdiscount, Money.sub_zero hcurrency, ok_bind, ok_bind,
        Money.floorAtZero_of_nonneg hnonneg]
      show Except.ok (Taxed.untaxed both).quantize.floorAtZero = .ok (.untaxed both)
      rw [Taxed.quantize_untaxed, Taxed.floorAtZero_untaxed, hwhole,
        Money.floorAtZero_of_nonneg hnonneg]

/-- **A discount that is no larger than the price of the delivery** comes off the total as it is,
and the result is rounded. -/
theorem total_lowered (hprices : x.PricesNonneg)
    (hsubtotal : clear.subtotal = x.subtotal) (hdelivery : clear.deliveryPrice = x.deliveryPrice)
    (hclear : clear.total [] = (do
      let both ← (← clear.subtotal).add clear.deliveryPrice
      return .untaxed both))
    (hdiscount : x.discount.IsPartOf x.deliveryPrice) :
    x.total [] = (do
      let price ← clear.total []
      let left ← price.gross.sub x.discount
      return .untaxed left.quantize) := by
  rw [hclear, hsubtotal, hdelivery, total_eq, beforeTax]
  cases hlines : x.subtotal with
  | error e => rfl
  | ok subtotal =>
    rw [ok_bind, ok_bind, baseTotal]
    cases hboth : subtotal.add x.deliveryPrice with
    | error e => rfl
    | ok both =>
      obtain ⟨hsame, hcurrency, hsum⟩ := Money.add_ok hboth
      have hlinesNonneg := hprices.subtotal hlines
      have hreach : x.deliveryPrice.amount ≤ both.amount :=
        Money.le_add hboth (Int.le_add_of_nonneg_left hlinesNonneg)
      have hpart : x.discount.IsPartOf both :=
        hdiscount.trans ⟨hsame.symm.trans hcurrency.symm, hprices.deliveryPrice, hreach⟩
      obtain ⟨left, hleft, hrest⟩ := hpart.sub
      rw [ok_bind, hleft, ok_bind, Money.floorAtZero_of_nonneg hrest.nonneg]
      have hgross : (Taxed.untaxed both).gross = both := rfl
      show Except.ok (Taxed.untaxed left).quantize.floorAtZero =
        ((Taxed.untaxed both).gross.sub x.discount >>= fun left =>
          Except.ok (Taxed.untaxed left.quantize))
      rw [Taxed.quantize_untaxed, Taxed.floorAtZero_untaxed,
        Money.floorAtZero_of_nonneg (Money.quantize_nonneg hrest.nonneg), hgross, hleft]
      rfl

/-- A voucher that was put on a checkout and applies once per order is on the cheapest line when the
checkout is read again, and the delivery is paid in full. -/
theorem once_discounted {t₁ : Tables} {checkout : Checkout}
    {external : Checkout → List ShippingOffer} {now : Moment} {unavailable : List VariantId}
    (hprices : x.PricesNonneg) (htype : v.type = .shipping) (honce : v.applyOncePerOrder = true)
    (hactive : t₁.voucherFor? checkout now = some v) (hshipped : x.shippingRequired = true)
    (hx : t₁.snapshotOf checkout external now = .ok (x, unavailable)) :
    x.discount = Money.zero x.checkout.currency ∧
    (∃ i price,
      Money.IsLowest (CheckoutLine.eligiblePrice? v x.channel.id x.sales) x.lines i price ∧
      ∀ j l, x.lines[j]? = some l → l.voucher = if j = i then some v else none) ∧
    x.total [] = (do
      let both ← (← x.subtotal).add x.deliveryPrice
      return .untaxed both) := by
  obtain ⟨rfl, hreads⟩ := Tables.snapshotOf_reads hx
  have hlevel : v.isLineLevel = true := by rw [Voucher.isLineLevel, honce, Bool.or_true]
  have hdiscount : x.discount = Money.zero x.checkout.currency := by
    rw [Snapshot.discount, hreads.voucher, hactive]
    exact if_pos hlevel
  refine ⟨hdiscount, ?_, total_of_noDiscount hprices hdiscount⟩
  obtain ⟨_, hlines⟩ := hreads.lines
  have hcarry := Tables.checkoutLines_carry hlines
  rw [hactive] at hcarry
  cases hcarry with
  | other hnot => exact absurd (hnot.symm.trans hlevel) Bool.false_ne_true
  | selected _ hnot => exact absurd (hnot.symm.trans honce) Bool.false_ne_true
  | noneEligible _ hnone =>
    obtain ⟨l, hl, -⟩ := List.any_eq_true.1 hshipped
    have heligible : CheckoutLine.isEligible v l = true := by simp [CheckoutLine.isEligible, htype]
    exact absurd ((hnone l hl).symm.trans heligible) Bool.false_ne_true
  | cheapest _ hlowest h => exact ⟨_, _, hlowest, h⟩

/-- No line is discounted after a checkout was read again without vouchers on its lines. -/
theorem prices_of_bare {subtotal : Money} (h : s.subtotalWithSales = .ok subtotal) :
    ∀ l ∈ s.lines.map CheckoutLine.bare, ∃ unit total,
      l.unitPrice s.channel.id s.sales = .ok unit ∧ l.totalPrice s.channel.id s.sales = .ok total ∧
      unit.withDiscounts = unit.withSale ∧ total.withDiscounts = total.withSale := by
  obtain ⟨totals, htotals, -⟩ := bind_ok h
  refine List.forall_mem_map.2 fun l hl => ?_
  obtain ⟨total, -, htotal⟩ := forall₂_exists_left (forall₂_of_mapM htotals).flip hl
  obtain ⟨p, hp, -⟩ := bind_ok htotal
  exact CheckoutLine.bare_prices hp

/-- A checkout that was read again costs less by a discount that is a part of the price of the
delivery. -/
theorem reread_total {subtotal : Money} (hprices : s.PricesNonneg)
    (hpart : discount.IsPartOf s.deliveryPrice) (hlevel : v.isLineLevel = false)
    (code name : Option String) :
    (s.reread (s.checkout.withDiscount code name discount) (some v) subtotal).total [] = (do
      let price ← (s.reread (s.checkout.withDiscount none name (Money.zero s.checkout.currency))
        none subtotal).total []
      let left ← price.gross.sub discount
      return .untaxed left.quantize) := by
  have hagrees := s.reread_agrees code name discount (some v) subtotal
  have hclear := s.reread_agrees none name (Money.zero s.checkout.currency) none subtotal
  have hdiscount : (s.reread (s.checkout.withDiscount code name discount) (some v)
      subtotal).discount = discount := if_neg (ne_true_of_eq_false hlevel)
  have hsubtotal : (s.reread (s.checkout.withDiscount none name (Money.zero s.checkout.currency))
      none subtotal).subtotal = (s.reread (s.checkout.withDiscount code name discount) (some v)
      subtotal).subtotal := rfl
  have hundiscounted := total_of_noDiscount (hclear.pricesNonneg rfl hprices) rfl
  have hdelivery := (hclear.deliveryPrice_of_address rfl).trans
    (hagrees.deliveryPrice_of_address rfl).symm
  have hlowered := total_lowered (hagrees.pricesNonneg rfl hprices)
    hsubtotal hdelivery hundiscounted
    (by rw [hdiscount, hagrees.deliveryPrice_of_address rfl]; exact hpart)
  rwa [hdiscount] at hlowered

/-- **What a voucher for shipping does to a checkout.** What is stored for it is a part of the price
of the delivery.

* If it does not apply once per order, no line is discounted when the checkout is read again, and
  without taxes the total is lower by what was stored.
* If it applies once per order, it is on the cheapest line then, and nothing comes off the total of
  the lines and the delivery. -/
theorem shipping_discounted {t t₁ : Tables} {checkout : Checkout} {s s₁ : Snapshot}
    {external : Checkout → List ShippingOffer} {now : Moment} {unavailable : List VariantId}
    (hread : t.snapshotOf checkout external now = .ok (s, unavailable))
    (hprices : s.PricesNonneg) (htype : v.type = .shipping)
    (hadded : t.transact (addVoucher s v) = (.ok s₁, t₁, []))
    (hactive : t₁.voucherFor? s₁.checkout now = some v)
    (hexternal : external s₁.checkout = external checkout)
    (hwithout : external s₁.checkout.withoutVoucher = external checkout) :
    s₁.checkout.discount.IsPartOf s.deliveryPrice ∧
    (v.applyOncePerOrder = false → ∃ x clear,
      t₁.snapshotOf s₁.checkout external now = .ok (x, unavailable) ∧
      t₁.snapshotOf s₁.checkout.withoutVoucher external now = .ok (clear, unavailable) ∧
      (∀ l ∈ x.lines, ∃ unit total, l.unitPrice x.channel.id x.sales = .ok unit ∧
        l.totalPrice x.channel.id x.sales = .ok total ∧
        unit.withDiscounts = unit.withSale ∧ total.withDiscounts = total.withSale) ∧
      x.total [] = (do
        let price ← clear.total []
        let left ← price.gross.sub s₁.checkout.discount
        return .untaxed left.quantize)) ∧
    (v.applyOncePerOrder = true → ∀ x gone,
      t₁.snapshotOf s₁.checkout external now = .ok (x, gone) →
      x.discount = Money.zero x.checkout.currency ∧
      (∃ i price,
        Money.IsLowest (CheckoutLine.eligiblePrice? v x.channel.id x.sales) x.lines i price ∧
        ∀ j l, x.lines[j]? = some l → l.voucher = if j = i then some v else none) ∧
      x.total [] = (do
        let both ← (← x.subtotal).add s.deliveryPrice
        return .untaxed both)) := by
  obtain ⟨discount, hdiscount, rfl, rfl, -⟩ := addVoucher_ok hadded
  obtain ⟨⟨subtotal, hsubtotal⟩, hshipped, hamount⟩ := voucherDiscount_shipping htype hdiscount
  obtain ⟨rfl, hreads⟩ := Tables.snapshotOf_reads hread
  have hpart : discount.IsPartOf s.deliveryPrice :=
    Voucher.amountFor_isPartOf hprices.deliveryPrice hamount
  refine ⟨hpart, fun honce => ?_, fun honce x gone hx => ?_⟩
  · have hlevel : v.isLineLevel = false := by simp [Voucher.isLineLevel, htype, honce]
    have hx := Tables.snapshotOf_reread (s.checkout.withDiscount (some v.code) v.name discount)
      (some v.code) v.name discount hread hsubtotal hexternal fun w hw => by
        obtain rfl := Option.some.inj (hactive.symm.trans hw)
        exact hlevel
    have hnone :
        (t.withCheckout (s.checkout.withDiscount (some v.code) v.name discount)).voucherFor?
          (s.checkout.withDiscount none v.name (Money.zero s.checkout.currency)) now = none := rfl
    have hclear := Tables.snapshotOf_reread (s.checkout.withDiscount (some v.code) v.name discount)
      none v.name (Money.zero s.checkout.currency) hread hsubtotal hwithout fun w hw => by
        cases hnone.symm.trans hw
    rw [show (t.withCheckout (s.checkout.withDiscount (some v.code) v.name discount)).voucherFor?
      (s.checkout.withDiscount (some v.code) v.name discount) now = some v from hactive] at hx
    exact ⟨_, _, hx, hclear, prices_of_bare hsubtotal, reread_total hprices hpart hlevel _ _⟩
  · obtain ⟨hcheckout, hreads'⟩ := Tables.snapshotOf_reads hx
    have hkeeps :
        x.checkout.Keeps (s.withVoucher (some v) (some v.code) v.name discount).checkout :=
      hcheckout ▸ ⟨rfl, rfl, rfl, rfl, rfl, rfl⟩
    have hagrees : x.Agrees s := hreads.agrees hreads' ⟨rfl, rfl, rfl, rfl, rfl, rfl, rfl, rfl⟩
      hkeeps (hcheckout ▸ hexternal)
    have haddress : x.checkout.shippingAddress = s.checkout.shippingAddress := hcheckout ▸ rfl
    have honce := once_discounted (hagrees.pricesNonneg haddress hprices) htype honce hactive
      (hagrees.shippingRequired.trans hshipped) hx
    rwa [hagrees.deliveryPrice_of_address haddress] at honce

end Snapshot

/-! ## A delivery for less -/

namespace Bookshop

/-- Takes eight dollars off shipping. -/
def cheapVan (once : Bool) : Voucher :=
  { saleVoucher with
    type := .shipping, applyOncePerOrder := once
    channelListings := [⟨channel.id, cents 800, .usd, none⟩] }

/-- The copy costs ten dollars and its delivery five, and there is a voucher for shipping. -/
def vanTables (once : Bool) : Tables :=
  { shippedTables with
    vouchers := [cheapVan once]
    checkouts := shippedTables.checkouts.map fun c => { c with voucherCode := none } }

end Bookshop

namespace Snapshot

/-- The delivery is for nothing, and the copy costs what it costs. -/
theorem shipping_discounted_bookshop :
    ∃ checkout ∈ (Bookshop.vanTables false).checkouts, ∃ s s₁ t₁ unavailable,
      s.PricesNonneg ∧
      (Bookshop.vanTables false).snapshotOf checkout (fun _ => []) ⟨0⟩ = .ok (s, unavailable) ∧
      (Bookshop.vanTables false).transact (addVoucher s (Bookshop.cheapVan false)) =
        (.ok s₁, t₁, []) ∧
      t₁.voucherFor? s₁.checkout ⟨0⟩ = some (Bookshop.cheapVan false) ∧
      s₁.checkout.discount.IsPartOf s.deliveryPrice ∧
      ∃ x clear, t₁.snapshotOf s₁.checkout (fun _ => []) ⟨0⟩ = .ok (x, unavailable) ∧
        t₁.snapshotOf s₁.checkout.withoutVoucher (fun _ => []) ⟨0⟩ = .ok (clear, unavailable) ∧
        x.total [] = (do
          let price ← clear.total []
          let left ← price.gross.sub s₁.checkout.discount
          return .untaxed left.quantize) := by
  have heval : ∃ checkout ∈ (Bookshop.vanTables false).checkouts,
      ((Bookshop.vanTables false).snapshotOf checkout (fun _ => []) ⟨0⟩).toOption.any (fun read =>
        (∀ l ∈ read.1.lines, 0 ≤ l.price.amount) ∧
        (∀ price ∈ read.1.delivery.price?, 0 ≤ price.amount) ∧
        ((Bookshop.vanTables false).transact
          (addVoucher read.1 (Bookshop.cheapVan false))).1.toOption.any fun s₁ =>
            ((Bookshop.vanTables false).withCheckout s₁.checkout).voucherFor? s₁.checkout ⟨0⟩ =
              some (Bookshop.cheapVan false)) = true := by
    decide +kernel
  obtain ⟨checkout, hcheckout, hread⟩ := heval
  obtain ⟨⟨s, unavailable⟩, hread, hadded⟩ := ok_of_any hread
  obtain ⟨hlines, hdelivery, hadded⟩ := of_decide_eq_true hadded
  obtain ⟨s₁, t₁, hadded, hactive⟩ := addVoucher_of_any hadded
  obtain ⟨-, -, -, rfl, -⟩ := addVoucher_ok hadded
  have hactive := of_decide_eq_true hactive
  have hprices : s.PricesNonneg := ⟨hlines, hdelivery⟩
  obtain ⟨hpart, hreread, -⟩ :=
    shipping_discounted hread hprices rfl hadded hactive rfl rfl
  obtain ⟨x, clear, hx, hclear, -, htotal⟩ := hreread rfl
  exact ⟨checkout, hcheckout, s, s₁, _, unavailable, hprices, hread, hadded, hactive, hpart, x,
    clear, hx, hclear, htotal⟩

/-- **A voucher for shipping that lowers the price of a line.** It applies once per order, and five
dollars are stored for it. When the checkout is read again it is on the line of the copy, and eight
dollars come off that. -/
theorem discounts_line_bookshop :
    ∃ checkout ∈ (Bookshop.vanTables true).checkouts, ∃ s s₁ t₁ x clear unavailable gone lost,
      s.PricesNonneg ∧ (Bookshop.cheapVan true).type = .shipping ∧
      (Bookshop.vanTables true).snapshotOf checkout (fun _ => []) ⟨0⟩ = .ok (s, unavailable) ∧
      (Bookshop.vanTables true).transact (addVoucher s (Bookshop.cheapVan true)) =
        (.ok s₁, t₁, []) ∧
      t₁.snapshotOf s₁.checkout (fun _ => []) ⟨0⟩ = .ok (x, gone) ∧
      t₁.snapshotOf s₁.checkout.withoutVoucher (fun _ => []) ⟨0⟩ = .ok (clear, lost) ∧
      (∃ l ∈ x.lines, ∃ total, l.totalPrice x.channel.id x.sales = .ok total ∧
        total.withSale = ⟨.ofInt 10, .usd⟩ ∧ total.withDiscounts = ⟨.ofInt 2, .usd⟩) ∧
      s₁.checkout.discount = ⟨.ofInt 5, .usd⟩ ∧
      clear.total [] = .ok (.untaxed ⟨.ofInt 15, .usd⟩) ∧
      x.total [] = .ok (.untaxed ⟨.ofInt 7, .usd⟩) := by
  have heval : ∃ checkout ∈ (Bookshop.vanTables true).checkouts,
      ((Bookshop.vanTables true).snapshotOf checkout (fun _ => []) ⟨0⟩).toOption.any (fun read =>
        (∀ l ∈ read.1.lines, 0 ≤ l.price.amount) ∧
        (∀ price ∈ read.1.delivery.price?, 0 ≤ price.amount) ∧
        ((Bookshop.vanTables true).transact
          (addVoucher read.1 (Bookshop.cheapVan true))).1.toOption.any fun s₁ =>
            s₁.checkout.discount = ⟨.ofInt 5, .usd⟩ ∧
            (((Bookshop.vanTables true).withCheckout s₁.checkout).snapshotOf s₁.checkout
              (fun _ => []) ⟨0⟩).toOption.any (fun later =>
                (∃ l ∈ later.1.lines,
                  (l.totalPrice later.1.channel.id later.1.sales).toOption.any fun total =>
                    total.withSale = ⟨.ofInt 10, .usd⟩ ∧
                    total.withDiscounts = ⟨.ofInt 2, .usd⟩) ∧
                later.1.total [] = .ok (.untaxed ⟨.ofInt 7, .usd⟩)) ∧
            (((Bookshop.vanTables true).withCheckout s₁.checkout).snapshotOf
              s₁.checkout.withoutVoucher (fun _ => []) ⟨0⟩).toOption.any fun clear =>
                clear.1.total [] = .ok (.untaxed ⟨.ofInt 15, .usd⟩)) = true := by
    decide +kernel
  obtain ⟨checkout, hcheckout, hread⟩ := heval
  obtain ⟨⟨s, unavailable⟩, hread, hadded⟩ := ok_of_any hread
  obtain ⟨hlines, hdelivery, hadded⟩ := of_decide_eq_true hadded
  obtain ⟨s₁, t₁, hadded, hlater⟩ := addVoucher_of_any hadded
  obtain ⟨-, -, -, rfl, -⟩ := addVoucher_ok hadded
  obtain ⟨hdiscount, hreread, hwithout⟩ := of_decide_eq_true hlater
  obtain ⟨⟨x, gone⟩, hx, hreread⟩ := ok_of_any hreread
  obtain ⟨⟨l, hl, hline⟩, htotal⟩ := of_decide_eq_true hreread
  obtain ⟨total, hline, hprice⟩ := ok_of_any hline
  obtain ⟨⟨clear, lost⟩, hclear, hwithout⟩ := ok_of_any hwithout
  exact ⟨checkout, hcheckout, s, s₁, _, x, clear, unavailable, gone, lost, ⟨hlines, hdelivery⟩, rfl,
    hread, hadded, hx, hclear, ⟨l, hl, total, hline, of_decide_eq_true hprice⟩, hdiscount,
    of_decide_eq_true hwithout, htotal⟩

end Snapshot

end Storefront
