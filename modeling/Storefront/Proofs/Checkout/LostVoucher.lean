import Storefront.Proofs.Checkout.KeptDiscount
import Storefront.Proofs.Checkout.Untaxed
import Storefront.Proofs.Completion.Vouchers
import Storefront.Proofs.Money.Whole
import Storefront.Proofs.Tax.Chain

/-!
# Vouchers that are gone

A voucher may be gone by the time its checkout is priced again: its time is over, its uses are used
up, it is not in the channel any more, or there is no such code. The lines are priced without it
then. The discount that is kept with the checkout comes off the total all the same, until it is
computed again.

* `Tables.snapshotOf_withoutVoucher`: apart from the discount, the checkout is as without voucher.
* `Snapshot.lost_voucher_total`: what it costs, and what it costs without voucher.
* `Tables.outlives_bookshop`: a discount outlives its voucher.
-/

namespace Storefront

open Decimal (Fits)

/-- The checkout with no voucher code and no discount. -/
def Checkout.withoutVoucher (c : Checkout) : Checkout :=
  { c with voucherCode := none, discount := Money.zero c.currency }

/-! ## Reading -/

namespace Tables

variable {t : Tables} {checkout : Checkout} {now : Moment}
  {external : Checkout → List ShippingOffer}

/-- The lines are read as without voucher once the voucher is gone. -/
theorem checkoutLines_withoutVoucher (hgone : t.voucherFor? checkout now = none)
    (channel : ChannelId) (sales : List Sale) :
    t.checkoutLines checkout.withoutVoucher channel sales now =
      t.checkoutLines checkout channel sales now := by
  have hnone : t.voucherFor? checkout.withoutVoucher now = none := rfl
  unfold checkoutLines
  rw [hgone, hnone]
  rfl

theorem snapshot_withoutVoucher {channel : Channel} {lines : List CheckoutLine}
    {sales : List Sale} {x : Snapshot} (hgone : t.voucherFor? checkout now = none)
    (hexternal : external checkout.withoutVoucher = external checkout)
    (h : t.snapshot checkout channel lines sales external now = .ok x) :
    x.voucher = none ∧ x.checkout = checkout ∧
      t.snapshot checkout.withoutVoucher channel lines sales external now =
        .ok { x with checkout := checkout.withoutVoucher } := by
  have hnone : t.voucherFor? checkout.withoutVoucher now = none := rfl
  obtain ⟨base, hbase, h⟩ := bind_ok h
  cases h
  refine ⟨hgone, rfl, ?_⟩
  unfold snapshot
  rw [show CheckoutLine.subtotal lines channel.id sales checkout.withoutVoucher.currency =
    .ok base from hbase, ok_bind, hnone, hgone, hexternal]
  rfl

/-- **Lines and delivery are as without voucher** once the voucher of a checkout is gone. -/
theorem snapshotOf_withoutVoucher {x : Snapshot} {unavailable : List VariantId}
    (hgone : t.voucherFor? checkout now = none)
    (hexternal : external checkout.withoutVoucher = external checkout)
    (h : t.snapshotOf checkout external now = .ok (x, unavailable)) :
    x.voucher = none ∧ x.checkout = checkout ∧
      t.snapshotOf checkout.withoutVoucher external now =
        .ok ({ x with checkout := checkout.withoutVoucher }, unavailable) := by
  obtain ⟨channel, hchannel, h⟩ := bind_ok h
  obtain ⟨⟨lines, _⟩, hlines, h⟩ := bind_ok h
  obtain ⟨read, hread, h⟩ := bind_ok h
  cases h
  obtain ⟨hvoucher, hcheckout, hwithout⟩ := snapshot_withoutVoucher hgone hexternal hread
  refine ⟨hvoucher, hcheckout, ?_⟩
  unfold snapshotOf
  rw [show t.channel checkout.withoutVoucher.channelId = .ok channel from hchannel, ok_bind]
  dsimp only
  rw [checkoutLines_withoutVoucher hgone, hlines, ok_bind]
  dsimp only
  rw [hwithout, ok_bind]
  rfl

end Tables

/-! ## Totals -/

/-- The provider does not look at the code of a voucher or the name of its discount. -/
def TaxProvider.IgnoresCode (provider : TaxProvider) : Prop :=
  ∀ (s : Snapshot) (code name : Option String),
    provider.checkoutTotal (s.withVoucher s.voucher code name s.checkout.discount) =
      provider.checkoutTotal s

theorem FlatRates.provider_ignoresCode (r : FlatRates) (entryIncludesTax : Bool) :
    (r.provider entryIncludesTax).IgnoresCode :=
  fun _ _ _ => rfl

namespace Snapshot

variable {s : Snapshot}

theorem total_of_ignoresCode {chain : TaxChain} (h : ∀ provider ∈ chain, provider.IgnoresCode)
    (s : Snapshot) (code name : Option String) :
    (s.withVoucher s.voucher code name s.checkout.discount).total chain = s.total chain := by
  unfold total TaxChain.checkoutTotal
  refine bind_congr fun subtotal => bind_congr fun base => ?_
  rw [TaxChain.price_congr fun provider hprovider => h provider hprovider s code name]

/-- Without taxes the two amounts of a total are the same. -/
theorem total_untaxed {price : Taxed} (h : s.total [] = .ok price) :
    ∃ amount, price = .untaxed amount ∧ amount.currency = s.checkout.currency := by
  obtain ⟨subtotal, hsubtotal, h⟩ := bind_ok h
  obtain ⟨base, hbase, h⟩ := bind_ok h
  obtain ⟨shipped, hshipped, hbase⟩ := bind_ok hbase
  obtain ⟨left, hleft, hbase⟩ := bind_ok hbase
  cases hbase
  cases h
  obtain ⟨totals, -, hsum⟩ := bind_ok hsubtotal
  refine ⟨left.floorAtZero.quantize.floorAtZero, rfl, ?_⟩
  rw [Money.currency_floorAtZero, Money.currency_quantize, Money.currency_floorAtZero,
    (Money.sub_ok hleft).2.1, (Money.add_ok hshipped).2.1]
  exact Money.currency_sum hsum

/-- The price of lines and delivery before tax and before a discount, in units of decimals. -/
def shipped (s : Snapshot) (subtotal : Money) : Int :=
  subtotal.amount.units + s.deliveryPrice.amount.units

/-- Without a discount the total is the price of lines and delivery, rounded. -/
theorem total_withoutDiscount (code name : Option String) {subtotal : Money} {price : Taxed}
    (hsubtotal : s.subtotal = .ok subtotal) (h : s.total [] = .ok price)
    (hfits : Fits (s.shipped subtotal)) : ∃ price',
      (s.withVoucher none code name (Money.zero s.checkout.currency)).total [] = .ok price' ∧
        price'.gross.amount.units = s.checkout.currency.round (max 0 (s.shipped subtotal)) := by
  obtain ⟨_, hsame, h⟩ := bind_ok h
  obtain rfl := Except.ok.inj (hsubtotal.symm.trans hsame)
  obtain ⟨base, hbase, -⟩ := bind_ok h
  obtain ⟨sum, hsum, -⟩ := bind_ok hbase
  obtain ⟨totals, -, htotals⟩ := bind_ok hsubtotal
  have hcurrency : sum.currency = s.checkout.currency :=
    (Money.add_ok hsum).2.1.trans (Money.currency_sum htotals)
  generalize hclear : s.withVoucher none code name (Money.zero s.checkout.currency) = clear
  obtain ⟨hsub, hdelivery, hdiscount⟩ : clear.subtotal = s.subtotal ∧
      clear.deliveryPrice = s.deliveryPrice ∧
      clear.discount = Money.zero s.checkout.currency := by
    rw [← hclear]
    exact ⟨rfl, rfl, rfl⟩
  have htotal : clear.total [] =
      .ok (Taxed.untaxed sum.floorAtZero).quantize.floorAtZero := by
    rw [total, hsub, hsubtotal, ok_bind, baseTotal, hdelivery, hsum, ok_bind, hdiscount,
      Money.sub_zero hcurrency]
    rfl
  refine ⟨_, htotal, ?_⟩
  obtain ⟨-, hunits⟩ := units_total (hsub.trans hsubtotal) htotal (hdelivery ▸ hfits)
    (by rw [hdiscount, hdelivery]; simpa [Money.zero, shipped] using hfits)
  rw [hunits, hdelivery, hdiscount]
  simp [Money.zero, Taxed.floorAtZero, Taxed.quantize, Taxed.untaxed, hcurrency, shipped]

/-- Without voucher the discount that is kept with the checkout comes off before tax, and the total
is the one without discount exactly where rounding does not show that. -/
theorem total_of_noVoucher {subtotal : Money} {price : Taxed} (hnone : s.voucher = none)
    (hsubtotal : s.subtotal = .ok subtotal) (h : s.total [] = .ok price)
    (hshipped : Fits (s.shipped subtotal))
    (hleft : Fits (s.shipped subtotal - s.checkout.discount.amount.units)) :
    price.gross.amount.units = s.checkout.currency.round
        (max 0 (s.shipped subtotal - s.checkout.discount.amount.units)) ∧
      ∃ price', (s.withVoucher none none s.checkout.discountName
          (Money.zero s.checkout.currency)).total [] = .ok price' ∧
        (price = price' ↔
          s.checkout.currency.round
              (max 0 (s.shipped subtotal - s.checkout.discount.amount.units)) =
            s.checkout.currency.round (max 0 (s.shipped subtotal))) := by
  have hdiscount : s.discount = s.checkout.discount := by
    rw [Snapshot.discount, hnone]
    rfl
  obtain ⟨price', h', hunits'⟩ :=
    total_withoutDiscount none s.checkout.discountName hsubtotal h hshipped
  obtain ⟨-, hunits⟩ := units_total hsubtotal h hshipped (hdiscount ▸ hleft)
  obtain ⟨amount, rfl, hcurrency⟩ := total_untaxed h
  obtain ⟨amount', rfl, hcurrency'⟩ := total_untaxed h'
  have hunits : amount.amount.units = s.checkout.currency.round
      (max 0 (s.shipped subtotal - s.checkout.discount.amount.units)) := by
    rw [← hdiscount, ← hcurrency]
    exact hunits
  have hunits' : amount'.amount.units = s.checkout.currency.round (max 0 (s.shipped subtotal)) :=
    hunits'
  refine ⟨hunits, _, h', ?_⟩
  rw [← hunits, ← hunits']
  refine ⟨fun hsame => by rw [(Taxed.mk.inj hsame).1], fun hsame => ?_⟩
  rw [Money.eq_of_units (hcurrency.trans hcurrency'.symm) hsame]

/-- **What a voucher that is gone takes off.** A voucher was put on a checkout, and later it is
gone:

* without taxes the total is lower than without voucher by what the voucher took off when it was put
  on the checkout, so that the two are the same exactly where that makes no difference;
* the discount can be computed again, and then the total is as without voucher, whatever the taxes
  are. -/
theorem lost_voucher_total {t₀ t₁ t : Tables} {s₁ x : Snapshot} {v : Voucher}
    {external : Checkout → List ShippingOffer} {now : Moment} {unavailable : List VariantId}
    (hadded : t₀.transact (addVoucher s v) = (.ok s₁, t₁, []))
    (hgone : t.voucherFor? s₁.checkout now = none)
    (hexternal : external s₁.checkout.withoutVoucher = external s₁.checkout)
    (hx : t.snapshotOf s₁.checkout external now = .ok (x, unavailable)) :
    ∃ discount clear, s.voucherDiscount t₀ v = .ok discount ∧
      t.snapshotOf s₁.checkout.withoutVoucher external now = .ok (clear, unavailable) ∧
      (∀ subtotal price, x.subtotal = .ok subtotal → x.total [] = .ok price →
        Fits (x.shipped subtotal) → Fits (x.shipped subtotal - discount.amount.units) →
        price.gross.amount.units = x.checkout.currency.round
          (max 0 (x.shipped subtotal - discount.amount.units)) ∧
        ∃ price', clear.total [] = .ok price' ∧
          (price = price' ↔
            x.checkout.currency.round (max 0 (x.shipped subtotal - discount.amount.units)) =
              x.checkout.currency.round (max 0 (x.shipped subtotal)))) ∧
      ∃ y t', t.transact (recalculateDiscount x) = (.ok y, t', []) ∧
        ∀ chain : TaxChain, (∀ provider ∈ chain, provider.IgnoresCode) →
          y.total chain = clear.total chain := by
  obtain ⟨discount, hdiscount, rfl, -, -⟩ := addVoucher_ok hadded
  obtain ⟨hnone, hcheckout, hwithout⟩ := Tables.snapshotOf_withoutVoucher hgone hexternal hx
  have hclear : { x with checkout := x.checkout.withoutVoucher } = x.withVoucher none none
      x.checkout.discountName (Money.zero x.checkout.currency) := by
    cases x
    cases hnone
    rfl
  rw [← hcheckout] at hwithout ⊢
  refine ⟨discount, _, hdiscount, hwithout, ?_, ?_⟩
  · intro subtotal price hsubtotal hprice hshipped hleft
    obtain rfl : x.checkout.discount = discount := by
      rw [hcheckout]
      rfl
    rw [hclear]
    exact total_of_noVoucher hnone hsubtotal hprice hshipped hleft
  · obtain ⟨t', ht'⟩ := recalculateDiscount_of_none hnone t
    refine ⟨_, t', ht', fun chain hchain => ?_⟩
    rw [hclear]
    exact total_of_ignoresCode hchain (x.withVoucher none none x.checkout.discountName
      (Money.zero x.checkout.currency)) x.checkout.voucherCode none

end Snapshot

/-! ## A shop with a voucher that ends -/

namespace Bookshop

/-- Takes a dollar off as long as it lasts. -/
def fleeting (type : VoucherType) : Voucher :=
  { saleVoucher with
    type, endDate := some ⟨1⟩, channelListings := [⟨channel.id, 1, .usd, none⟩] }

/-- The copy costs a hundred dollars, and there is a voucher that ends. -/
def fleetingTables (type : VoucherType) : Tables :=
  { saleTables with sales := [], vouchers := [fleeting type] }

end Bookshop

/-- The voucher has ended and comes off all the same, until the discount is computed again: then the
taxed total is as without voucher. -/
theorem Snapshot.lost_voucher_total_bookshop :
    ∃ checkout ∈ (Bookshop.fleetingTables .entireOrder).checkouts, ∃ s s₁ t₁ x unavailable,
      (Bookshop.fleetingTables .entireOrder).transact
        (addVoucher s (Bookshop.fleeting .entireOrder)) = (.ok s₁, t₁, []) ∧
      (Bookshop.fleetingTables .entireOrder).voucherFor? s₁.checkout ⟨2⟩ = none ∧
      (Bookshop.fleetingTables .entireOrder).snapshotOf s₁.checkout (fun _ => []) ⟨2⟩ =
        .ok (x, unavailable) ∧
      ∃ clear y t', (Bookshop.fleetingTables .entireOrder).snapshotOf
          s₁.checkout.withoutVoucher (fun _ => []) ⟨2⟩ = .ok (clear, unavailable) ∧
        (∃ price price', x.total [] = .ok price ∧ clear.total [] = .ok price' ∧ price ≠ price') ∧
        (Bookshop.fleetingTables .entireOrder).transact (recalculateDiscount x) =
          (.ok y, t', []) ∧
        y.total [Bookshop.vat 100] = clear.total [Bookshop.vat 100] := by
  have heval : ∃ checkout ∈ (Bookshop.fleetingTables .entireOrder).checkouts,
      ((Bookshop.fleetingTables .entireOrder).snapshotOf checkout (fun _ => [])
        ⟨0⟩).toOption.any (fun read =>
          ((Bookshop.fleetingTables .entireOrder).transact
            (addVoucher read.1 (Bookshop.fleeting .entireOrder))).1.toOption.any fun s₁ =>
              (Bookshop.fleetingTables .entireOrder).voucherFor? s₁.checkout ⟨2⟩ = none ∧
              ((Bookshop.fleetingTables .entireOrder).snapshotOf s₁.checkout (fun _ => [])
                ⟨2⟩).toOption.any fun later => (later.1.total []).toOption.any fun _ =>
                  later.1.subtotal.toOption.any fun subtotal => (read.1.voucherDiscount
                    (Bookshop.fleetingTables .entireOrder)
                    (Bookshop.fleeting .entireOrder)).toOption.any fun (discount : Money) =>
                    later.1.shipped subtotal = (100 : Decimal).units ∧
                    later.1.shipped subtotal - discount.amount.units =
                      (Decimal.ofInt 99).units ∧
                    later.1.checkout.currency.round
                        (max 0 (later.1.shipped subtotal - discount.amount.units)) ≠
                      later.1.checkout.currency.round (max 0 (later.1.shipped subtotal))) =
        true := by
    decide +kernel
  obtain ⟨checkout, hcheckout, hread⟩ := heval
  obtain ⟨⟨s, _⟩, -, hadded⟩ := ok_of_any hread
  obtain ⟨s₁, t₁, hadded, hlater⟩ := addVoucher_of_any hadded
  obtain ⟨hgone, hlater⟩ := of_decide_eq_true hlater
  obtain ⟨⟨x, unavailable⟩, hx, hprice⟩ := ok_of_any hlater
  obtain ⟨price, hprice, hsubtotal⟩ := ok_of_any hprice
  obtain ⟨subtotal, hsubtotal, hdiscount⟩ := ok_of_any hsubtotal
  obtain ⟨discount, hdiscount, hrounded⟩ := ok_of_any hdiscount
  obtain ⟨hshipped, hleft, hrounded⟩ := of_decide_eq_true hrounded
  obtain ⟨_, clear, hsame, hclear, hbefore, y, t', hy, htotal⟩ :=
    lost_voucher_total hadded hgone rfl hx
  obtain rfl := Except.ok.inj (hdiscount.symm.trans hsame)
  obtain ⟨-, price', hprice', hiff⟩ := hbefore subtotal price hsubtotal hprice
    (hshipped ▸ Decimal.fits _) (hleft ▸ Decimal.fits _)
  refine ⟨checkout, hcheckout, s, s₁, t₁, x, unavailable, hadded, hgone, hx, clear, y, t', hclear,
    ⟨price, price', hprice, hprice', fun hequal => hrounded (hiff.1 hequal)⟩, hy,
    htotal _ fun provider hprovider => ?_⟩
  obtain rfl := List.mem_singleton.1 hprovider
  exact FlatRates.provider_ignoresCode _ _

namespace Tables

/-- What a checkout costs at a later time, after a voucher has been put on it: as it is, and without
code and discount. Its voucher of that time stands before. -/
def costsLater (t : Tables) (checkout : Checkout) (v : Voucher) (earlier later : Moment) :
    Except Error (Option Voucher × Taxed × Taxed) := do
  let (s, _) ← t.snapshotOf checkout (fun _ => []) earlier
  let (added, t, _) := t.transact (addVoucher s v)
  let checkout := (← added).checkout
  let (x, _) ← t.snapshotOf checkout (fun _ => []) later
  let (clear, _) ← t.snapshotOf checkout.withoutVoucher (fun _ => []) later
  return (t.voucherFor? checkout later, ← x.total [], ← clear.total [])

/-- **A discount outlives its voucher**: the voucher is put on a checkout and is gone later, and the
total is another one than that of the same checkout without code and discount. -/
def Outlives (t : Tables) (checkout : Checkout) (v : Voucher) (earlier later : Moment) : Prop :=
  ∃ price price', t.costsLater checkout v earlier later = .ok (none, price, price') ∧
    price ≠ price'

theorem outlives_of_eval {t : Tables} {checkout : Checkout} {v : Voucher} {earlier later : Moment}
    (h : (t.costsLater checkout v earlier later).toOption.any (fun (voucher, price, price') =>
      voucher = none ∧ price ≠ price') = true) : t.Outlives checkout v earlier later := by
  obtain ⟨⟨_, price, price'⟩, hcosts, h⟩ := ok_of_any h
  obtain ⟨rfl, hne⟩ := of_decide_eq_true h
  exact ⟨price, price', hcosts, hne⟩

/-- The voucher ends, and its dollar still comes off: that of a voucher on the order, and that of a
voucher on lines, which takes nothing off the order as long as it lasts. -/
theorem outlives_bookshop :
    (∃ checkout ∈ (Bookshop.fleetingTables .entireOrder).checkouts,
      (Bookshop.fleetingTables .entireOrder).Outlives checkout (Bookshop.fleeting .entireOrder) ⟨0⟩
        ⟨2⟩) ∧
    ∃ checkout ∈ (Bookshop.fleetingTables .specificProduct).checkouts,
      (Bookshop.fleetingTables .specificProduct).Outlives checkout
        (Bookshop.fleeting .specificProduct) ⟨0⟩ ⟨2⟩ := by
  have heval : ∀ type ∈ [VoucherType.entireOrder, .specificProduct],
      ∃ checkout ∈ (Bookshop.fleetingTables type).checkouts,
        ((Bookshop.fleetingTables type).costsLater checkout (Bookshop.fleeting type) ⟨0⟩
          ⟨2⟩).toOption.any (fun (voucher, price, price') => voucher = none ∧ price ≠ price') =
            true := by
    decide +kernel
  obtain ⟨checkout, hcheckout, hprices⟩ := heval .entireOrder (by simp)
  obtain ⟨checkout', hcheckout', hprices'⟩ := heval .specificProduct (by simp)
  exact ⟨⟨checkout, hcheckout, outlives_of_eval hprices⟩,
    checkout', hcheckout', outlives_of_eval hprices'⟩

end Tables

end Storefront
