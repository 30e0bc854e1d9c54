import Storefront.Proofs.Checkout.Attachment

/-!
# The discount that is shown and the discount that is given

A line-level voucher is looked at twice. What it takes off is computed from the prices of single
items, and this is what is shown and stored. The voucher is put on lines as well, and what it takes
off their prices is what is given. The two are the same but for rounding: the price of each line is
rounded once.

* `LinePrice.given`: what the voucher takes off a line.
* `LinePrice.TakesOff.sum`: lines together are off by half a minor unit each.
* `CheckoutLine.SellsAt`: a line without voucher whose items have a price in minor units.
* `Snapshot.shown_of_each`, `Snapshot.shown_of_once`: what is shown, line by line.
* `Snapshot.given_discount`: **the discount that is shown is the one that is given**.
-/

namespace Storefront

open Decimal (Fits)

/-! ## Rounding -/

theorem Money.quantize_of_dvd {m : Money} {c : Currency} (hcurrency : m.currency = c)
    (h : (c.minor : Int) ∣ m.amount.units) : m.quantize = m :=
  quantize_iff.2 (hcurrency ▸ h)

namespace LinePrice

variable {p : LinePrice} {c : Currency} {off : Int}

/-- What the voucher takes off the price of a line, in units of decimals. -/
def given (p : LinePrice) : Int := p.withSale.amount.units - p.withDiscounts.amount.units

/-- `p.TakesOff c off`: the price with discounts is that with sales less so much, rounded. -/
structure TakesOff (p : LinePrice) (c : Currency) (off : Int) : Prop where
  whole : (c.minor : Int) ∣ p.withSale.amount.units
  nonneg : 0 ≤ p.withSale.amount.units - off
  rounded : p.withDiscounts.amount.units = c.round (p.withSale.amount.units - off)

namespace TakesOff

theorem half (h : p.TakesOff c off) : 2 * (p.given - off).natAbs ≤ c.minor := by
  have hhalf := c.round_half h.nonneg
  rw [given, h.rounded]
  omega

theorem exact (h : p.TakesOff c off) (hoff : (c.minor : Int) ∣ off) : p.given = off := by
  rw [given, h.rounded, c.round_of_dvd (Int.dvd_sub h.whole hoff)]
  omega

/-- **Lines together are off by half a minor unit each**, and not at all if what is taken off each
of them is in minor units. -/
theorem sum {totals : List LinePrice} {offs : List Int}
    (h : List.Forall₂ (·.TakesOff c ·) totals offs) :
    2 * ((totals.map given).sum - offs.sum).natAbs ≤ totals.length * c.minor ∧
      ((∀ off ∈ offs, (c.minor : Int) ∣ off) → (totals.map given).sum = offs.sum) := by
  induction h with
  | nil => exact ⟨Nat.zero_le _, fun _ => rfl⟩
  | @cons p off totals offs hp _ ih =>
    obtain ⟨hbound, hexact⟩ := ih
    rw [List.map_cons, List.sum_cons, List.sum_cons, List.length_cons, Nat.add_mul, Nat.one_mul]
    refine ⟨?_, fun hdvd => ?_⟩
    · have hhalf := hp.half
      omega
    · obtain ⟨hoff, hoffs⟩ := List.forall_mem_cons.1 hdvd
      rw [hp.exact hoff, hexact hoffs]

end TakesOff

/-- The price of a line is rounded, and what is taken off it is exact. -/
theorem takesOff_quantize {undiscounted all left : Money} (hall : all.currency = c)
    (hleft : left.currency = c) (hdvd : (c.minor : Int) ∣ all.amount.units)
    (hnonneg : 0 ≤ left.amount) (hunits : left.amount.units = all.amount.units - off) :
    (LinePrice.quantize ⟨undiscounted, all, left⟩).TakesOff c off := by
  have hsale : all.quantize.amount.units = all.amount.units := by
    rw [Money.units_quantize, hall, c.round_of_dvd hdvd]
  have hrounded : left.quantize.amount.units = c.round (all.amount.units - off) := by
    rw [Money.units_quantize, hleft, hunits]
  refine ⟨?_, ?_, ?_⟩
  · exact hsale.symm ▸ hdvd
  · rw [show (LinePrice.quantize ⟨undiscounted, all, left⟩).withSale = all.quantize from rfl, hsale,
      ← hunits]
    exact hnonneg
  · rw [show (LinePrice.quantize ⟨undiscounted, all, left⟩).withSale = all.quantize from rfl, hsale]
    exact hrounded

end LinePrice

/-! ## One line -/

namespace CheckoutLine

/-- Nothing has to be rounded because it is too large: the prices of the line, what a voucher leaves
of one item, and what it leaves of all of them. -/
structure IsExactFor (l : CheckoutLine) (v : Voucher) (channel : ChannelId) (price : Money) :
    Prop where
  undiscounted : Fits (l.price.amount.units * l.quantity)
  all : Fits (price.amount.units * l.quantity)
  left : ∀ off ∈ (v.amountFor price channel).toOption,
    Fits (price.amount.units - off.amount.units)
  each : v.applyOncePerOrder = false → ∀ off ∈ (v.amountFor price channel).toOption,
    Fits ((price.amount.units - off.amount.units) * l.quantity)
  others : v.applyOncePerOrder = true → Fits (price.amount.units * (l.quantity - 1 : Nat))
  once : v.applyOncePerOrder = true → ∀ off ∈ (v.amountFor price channel).toOption,
    Fits (price.amount.units * (l.quantity - 1 : Nat) + (price.amount.units - off.amount.units))

/-- `l.SellsAt v channel sales c price`: a line with at least one item and without voucher. An item
costs a number of minor units with sales, which a voucher can take something off exactly. -/
structure SellsAt (l : CheckoutLine) (v : Voucher) (channel : ChannelId) (sales : List Sale)
    (c : Currency) (price : Money) : Prop where
  noVoucher : l.voucher = none
  quantity : 0 < l.quantity
  onSale : ∃ id, l.salePrice channel sales = .ok (id, price)
  currency : price.currency = c
  nonneg : 0 ≤ price.amount
  whole : (c.minor : Int) ∣ price.amount.units
  exact : l.IsExactFor v channel price

variable {l : CheckoutLine} {v : Voucher} {channel : ChannelId} {sales : List Sale} {c : Currency}
  {price off : Money}

/-- A voucher for selected products works on the lines that it selects. -/
theorem isEligible_eq_isSelectedBy (h : v.type = .specificProduct) :
    isEligible v = (·.isSelectedBy v) :=
  funext fun _ => isEligible_of_specificProduct h

/-- What a voucher leaves of a price. -/
theorem afterVoucher_of_amountFor (hprice : 0 ≤ price.amount)
    (hoff : v.amountFor price channel = .ok off)
    (hfits : Fits (price.amount.units - off.amount.units)) :
    ∃ left, afterVoucher v price channel = .ok left ∧ left.IsPartOf price ∧
      left.amount.units = price.amount.units - off.amount.units := by
  obtain ⟨left, hleft, hpart⟩ := (Voucher.amountFor_isPartOf hprice hoff).sub
  refine ⟨left, ?_, hpart, Money.units_sub hleft hfits⟩
  rw [afterVoucher, hoff]
  show (price.sub off >>= fun left => Except.ok left.floorAtZero) = _
  rw [hleft, ok_bind, Money.floorAtZero_of_nonneg hpart.nonneg]

namespace SellsAt

theorem eligiblePrice? (h : l.SellsAt v channel sales c price) (heligible : isEligible v l = true) :
    eligiblePrice? v channel sales l = some price := by
  obtain ⟨id, hsale⟩ := h.onSale
  exact eligiblePrice?_of_eligible heligible hsale

theorem exactUnitPrice (h : l.SellsAt v channel sales c price) :
    l.exactUnitPrice channel sales = .ok ⟨l.price, price, price⟩ := by
  obtain ⟨id, hsale⟩ := h.onSale
  rw [CheckoutLine.exactUnitPrice, hsale, ok_bind, h.noVoucher]
  rfl

theorem quantize (h : l.SellsAt v channel sales c price) : price.quantize = price :=
  Money.quantize_of_dvd h.currency h.whole

/-- The prices of all items together, without discounts and with sales. -/
theorem together (h : l.SellsAt v channel sales c price) : ∃ undiscounted all,
    l.price.times l.quantity = .ok undiscounted ∧ price.times l.quantity = .ok all ∧
      all.currency = c ∧ all.amount.units = price.amount.units * l.quantity ∧
      (c.minor : Int) ∣ all.amount.units := by
  obtain ⟨undiscounted, hundiscounted, -⟩ := Money.times_of_fits h.exact.undiscounted
  obtain ⟨all, hall, hunits⟩ := Money.times_of_fits h.exact.all
  exact ⟨undiscounted, all, hundiscounted, hall, (Money.times_ok hall).1.trans h.currency, hunits,
    hunits ▸ Int.dvd_mul_of_dvd_left h.whole⟩

/-- Nothing is taken off a line without voucher. -/
theorem takes_nothing (h : l.SellsAt v channel sales c price) :
    ∃ total, l.totalPrice channel sales = .ok total ∧ total.TakesOff c 0 ∧
      total.withDiscounts = total.withSale := by
  obtain ⟨undiscounted, all, hundiscounted, hall, hcurrency, -, hdvd⟩ := h.together
  refine ⟨LinePrice.quantize ⟨undiscounted, all, all⟩, ?_, ?_, rfl⟩
  · rw [totalPrice, h.exactUnitPrice, ok_bind, h.noVoucher]
    dsimp only
    rw [hall, ok_bind, hundiscounted]
    rfl
  · exact LinePrice.takesOff_quantize hcurrency hcurrency hdvd
      (Money.times_nonneg h.nonneg hall) (Int.sub_zero _).symm

/-- A voucher takes something off each item of a line. -/
theorem takes_each (h : l.SellsAt v channel sales c price) (honce : v.applyOncePerOrder = false)
    (hoff : v.amountFor price channel = .ok off) :
    ∃ total, (l.carrying v).totalPrice channel sales = .ok total ∧
      total.TakesOff c (l.quantity * off.amount.units) := by
  have hmem : off ∈ (v.amountFor price channel).toOption := by rw [hoff]; rfl
  obtain ⟨id, hsale⟩ := h.onSale
  obtain ⟨undiscounted, all, hundiscounted, hall, hcurrency, hunits, hdvd⟩ := h.together
  obtain ⟨left, hafter, hpart, hleft⟩ :=
    afterVoucher_of_amountFor h.nonneg hoff (h.exact.left off hmem)
  obtain ⟨each, heach, heachUnits⟩ := Money.times_of_fits (hleft ▸ h.exact.each honce off hmem)
  have hvoucher : (l.carrying v).voucher = some v := rfl
  have hunit : (l.carrying v).exactUnitPrice channel sales = .ok ⟨l.price, price, left⟩ := by
    rw [CheckoutLine.exactUnitPrice, show (l.carrying v).salePrice channel sales = _ from hsale,
      ok_bind, hvoucher]
    dsimp only
    rw [if_neg (ne_true_of_eq_false honce), hafter]
    rfl
  refine ⟨LinePrice.quantize ⟨undiscounted, all, each⟩, ?_, ?_⟩
  · rw [totalPrice, hunit, ok_bind, hvoucher, show (l.carrying v).quantity = l.quantity from rfl]
    dsimp only
    rw [honce, Bool.false_and, if_neg Bool.false_ne_true, heach, ok_bind, hundiscounted, ok_bind,
      hall]
    rfl
  · refine LinePrice.takesOff_quantize hcurrency
      ((Money.times_ok heach).1.trans (hpart.currency.trans h.currency)) hdvd
      (Money.times_nonneg hpart.nonneg heach) ?_
    rw [heachUnits, hleft, hunits, Int.sub_mul, Int.mul_comm off.amount.units]

/-- A voucher that applies once takes something off one item of a line. -/
theorem takes_once (h : l.SellsAt v channel sales c price) (honce : v.applyOncePerOrder = true)
    (hoff : v.amountFor price channel = .ok off) :
    ∃ total, (l.carrying v).totalPrice channel sales = .ok total ∧
      total.TakesOff c off.amount.units ∧
      total.withDiscounts.amount.units = c.round (price.amount.units * (l.quantity - 1 : Nat) +
        (price.amount.units - off.amount.units)) := by
  have hmem : off ∈ (v.amountFor price channel).toOption := by rw [hoff]; rfl
  obtain ⟨id, hsale⟩ := h.onSale
  obtain ⟨undiscounted, all, hundiscounted, hall, hcurrency, hunits, hdvd⟩ := h.together
  obtain ⟨left, hafter, hpart, hleft⟩ :=
    afterVoucher_of_amountFor h.nonneg hoff (h.exact.left off hmem)
  obtain ⟨others, hothers, hothersUnits⟩ := Money.times_of_fits (h.exact.others honce)
  have hothersCurrency := (Money.times_ok hothers).1
  have hfits : Fits (others.amount.units + left.amount.units) :=
    hothersUnits ▸ hleft ▸ h.exact.once honce off hmem
  have hadd : others.add left = .ok ⟨⟨_, hfits⟩, others.currency⟩ :=
    Money.add_of_units (hothersCurrency.trans hpart.currency.symm) rfl
  have hvoucher : (l.carrying v).voucher = some v := rfl
  have hunit : (l.carrying v).exactUnitPrice channel sales = .ok ⟨l.price, price, price⟩ := by
    rw [CheckoutLine.exactUnitPrice, show (l.carrying v).salePrice channel sales = _ from hsale,
      ok_bind, hvoucher]
    dsimp only
    rw [if_pos honce]
    rfl
  have hcount := mul_others_add_one price.amount.units h.quantity
  have htotal : (l.carrying v).totalPrice channel sales = .ok (LinePrice.quantize
      ⟨undiscounted, all, ⟨⟨_, hfits⟩, others.currency⟩⟩) := by
    rw [totalPrice, hunit, ok_bind, hvoucher, show (l.carrying v).quantity = l.quantity from rfl]
    dsimp only
    rw [honce, Bool.true_and, if_pos (decide_eq_true h.quantity), hafter, ok_bind, hothers, ok_bind,
      hadd, ok_bind, hundiscounted, ok_bind, hall]
    rfl
  refine ⟨_, htotal, ?_, ?_⟩
  · refine LinePrice.takesOff_quantize hcurrency (hothersCurrency.trans h.currency) hdvd
      (Int.add_nonneg (Money.times_nonneg h.nonneg hothers) hpart.nonneg) ?_
    show others.amount.units + left.amount.units = _
    omega
  · show others.currency.round (others.amount.units + left.amount.units) = _
    rw [hothersCurrency, h.currency, hothersUnits, hleft]

end SellsAt

end CheckoutLine

/-! ## What is shown -/

/-- The voucher takes off a fixed amount of whole minor units. -/
def Voucher.HasWholeValue (v : Voucher) (channel : ChannelId) (c : Currency) : Prop :=
  v.valueType = .fixed ∧ ∀ x ∈ v.listing? channel, (c.minor : Int) ∣ x.discountValue.units

/-- A voucher of whole minor units takes whole minor units off a price of whole minor units. -/
theorem Voucher.HasWholeValue.dvd {v : Voucher} {channel : ChannelId} {c : Currency}
    {price off : Money} (h : v.HasWholeValue channel c) (hcurrency : price.currency = c)
    (hprice : (c.minor : Int) ∣ price.amount.units) (hoff : v.amountFor price channel = .ok off) :
    (c.minor : Int) ∣ off.amount.units := by
  obtain ⟨hfixed, hvalue⟩ := h
  have hprice := Money.quantize_of_dvd hcurrency hprice
  have hlast {m : Money} (hm : m.quantize = m) (hsame : m.currency = price.currency) :
      (c.minor : Int) ∣ m.amount.units := by
    have hdvd := Money.quantize_iff.1 hm
    rwa [hsame, hcurrency] at hdvd
  obtain ⟨discount, hdiscount, happly⟩ := bind_ok hoff
  obtain ⟨left, hleft, hsub⟩ := bind_ok happly
  obtain ⟨rest, hrest, hdone⟩ := bind_ok hsub
  clear hoff happly hsub
  unfold discountFor at hdiscount
  split at hdiscount
  · rename_i x hx
    rw [hfixed] at hdiscount
    cases hdiscount
    obtain ⟨below, hbelow, hleft⟩ := bind_ok hleft
    cases hleft
    have hsame : x.currency = c := (Money.sub_ok hbelow).1.symm.trans hcurrency
    have hx := Money.quantize_of_dvd (m := ⟨x.discountValue, x.currency⟩) hsame (hvalue x hx)
    have hleft := Money.quantize_floorAtZero (Money.quantize_sub hprice hx hbelow)
    cases hdone
    split
    · exact hlast hprice rfl
    · exact hlast (Money.quantize_sub hprice hleft hrest) (Money.sub_ok hrest).2.1
  · cases hdiscount

/-- What a voucher for each item takes off some items is what it takes off each of them. -/
theorem Voucher.productsDiscount_each {v : Voucher} {channel : ChannelId} {c : Currency}
    {prices : List Money} {d : Money} (honce : v.applyOncePerOrder = false)
    (hprices : ∀ m ∈ prices, 0 ≤ m.amount)
    (hfits : ∀ amounts, prices.mapM (v.amountFor · channel) = .ok amounts →
      ∀ front, front <+: amounts → Fits (front.map (·.amount.units)).sum)
    (h : v.productsDiscount prices channel c = .ok d) :
    ∃ amounts, prices.mapM (v.amountFor · channel) = .ok amounts ∧
      d.amount.units = (amounts.map (·.amount.units)).sum := by
  unfold productsDiscount at h
  split at h
  · cases h
  · rw [if_neg (ne_true_of_eq_false honce)] at h
    obtain ⟨amounts, hamounts, h⟩ := bind_ok h
    obtain ⟨sum, hsum, h⟩ := bind_ok h
    cases h
    have hnonneg : ∀ m ∈ amounts, 0 ≤ m.amount := by
      intro m hm
      obtain ⟨price, hprice, hoff⟩ := forall₂_exists_left (forall₂_of_mapM hamounts) hm
      exact amountFor_nonneg (hprices price hprice) hoff
    refine ⟨amounts, hamounts, ?_⟩
    rw [Money.floorAtZero_of_nonneg (Money.sum_nonneg hnonneg hsum)]
    have hunits := Money.units_foldlM_add hsum fun front hfront => by
      rw [Money.zero, Decimal.units_zero, Int.zero_add]
      exact hfits amounts hamounts front hfront
    rwa [Money.zero, Decimal.units_zero, Int.zero_add] at hunits

/-- `l.Takes v channel sales c off`: so much is taken off the line, and this is a number of minor
units if the value of the voucher is one. -/
def CheckoutLine.Takes (l : CheckoutLine) (v : Voucher) (channel : ChannelId) (sales : List Sale)
    (c : Currency) (off : Int) : Prop :=
  (∃ total, l.totalPrice channel sales = .ok total ∧ total.TakesOff c off) ∧
    (v.HasWholeValue channel c → (c.minor : Int) ∣ off)

namespace Snapshot

open CheckoutLine (isEligible eligiblePrice? carrying attach)

variable {s : Snapshot} {v : Voucher} {lines : List CheckoutLine} {items amounts : List Money}
  {d : Money}

/-- What a line-level voucher takes off the items of the lines that it works on. -/
def eligibleDiscount (s : Snapshot) (v : Voucher) : Except Error Money := do
  let items ← s.itemPrices (s.lines.filter (isEligible v))
  v.productsDiscount items s.channel.id s.checkout.currency

/-- This is what is shown for a checkout, if the voucher applies. -/
theorem voucherDiscount_of_lineLevel {t : Tables}
    (hkind : v.type = .specificProduct ∨ v.type = .entireOrder ∧ v.applyOncePerOrder = true)
    (h : s.voucherDiscount t v = .ok d) : s.eligibleDiscount v = .ok d := by
  obtain ⟨_, -, h⟩ := bind_ok h
  obtain ⟨_, -, h⟩ := bind_ok h
  rcases hkind with htype | ⟨htype, honce⟩
  · rw [htype] at h
    rw [eligibleDiscount, CheckoutLine.isEligible_eq_isSelectedBy htype]
    exact h
  · rw [htype, honce] at h
    have hall : s.lines.filter (isEligible v) = s.lines :=
      List.filter_eq_self.2 fun l _ => by simp [isEligible, htype]
    rw [eligibleDiscount, hall]
    exact h

/-- The lines sell at prices that vouchers can take something off exactly, and the amounts that a
voucher takes off single items can be added up. -/
structure SellsFor (s : Snapshot) (v : Voucher) : Prop where
  lines : ∀ l ∈ s.lines, ∃ price,
    l.SellsAt v s.channel.id s.sales s.checkout.currency price
  sums : v.applyOncePerOrder = false → ∀ items amounts,
    s.itemPrices (s.lines.filter (isEligible v)) = .ok items →
    items.mapM (v.amountFor · s.channel.id) = .ok amounts →
    ∀ front, front <+: amounts → Fits (front.map (·.amount.units)).sum

/-- What is shown for a voucher for each item, line by line. The voucher is put on some of the
lines, and their items are looked at. -/
theorem shown_of_each {keep : CheckoutLine → Bool} {lines : List CheckoutLine}
    (honce : v.applyOncePerOrder = false)
    (hlines : ∀ l ∈ lines, ∃ price, l.SellsAt v s.channel.id s.sales s.checkout.currency price)
    (hitems : s.itemPrices (lines.filter keep) = .ok items)
    (hamounts : items.mapM (v.amountFor · s.channel.id) = .ok amounts) :
    ∃ offs, List.Forall₂ (fun l off => (if keep l then l.carrying v else l).Takes v s.channel.id
        s.sales s.checkout.currency off) lines offs ∧
      offs.sum = (amounts.map (·.amount.units)).sum := by
  induction lines generalizing items amounts with
  | nil =>
    cases hitems
    cases hamounts
    exact ⟨[], .nil, rfl⟩
  | cons l lines ih =>
    obtain ⟨⟨price, hl⟩, hlines⟩ := List.forall_mem_cons.1 hlines
    cases hkeep : keep l with
    | false =>
      rw [List.filter_cons_of_neg (by simp [hkeep])] at hitems
      obtain ⟨offs, htakes, hsum⟩ := ih hlines hitems hamounts
      obtain ⟨total, htotal, hoff, -⟩ := hl.takes_nothing
      refine ⟨0 :: offs, .cons ?_ htakes, by rw [List.sum_cons, Int.zero_add, hsum]⟩
      rw [hkeep, if_neg Bool.false_ne_true]
      exact ⟨⟨total, htotal, hoff⟩, fun _ => Int.dvd_zero _⟩
    | true =>
      rw [List.filter_cons_of_pos hkeep] at hitems
      obtain ⟨unit, rest, hunit, hrest, rfl⟩ := itemPrices_cons_ok hitems
      obtain rfl := Except.ok.inj (hl.exactUnitPrice.symm.trans hunit)
      -- the items of the line come first, and each of them has the same price
      rw [List.mapM_append] at hamounts
      obtain ⟨own, hown, hamounts⟩ := bind_ok hamounts
      obtain ⟨others, hothers, hamounts⟩ := bind_ok hamounts
      cases hamounts
      rw [show price.quantize = price from hl.quantize] at hown
      obtain ⟨off, hoff, rfl⟩ := mapM_replicate_ok hl.quantity hown
      obtain ⟨offs, htakes, hsum⟩ := ih hlines hrest hothers
      obtain ⟨total, htotal, htakesOff⟩ := hl.takes_each honce hoff
      refine ⟨l.quantity * off.amount.units :: offs, .cons ?_ htakes, ?_⟩
      · rw [hkeep, if_pos rfl]
        exact ⟨⟨total, htotal, htakesOff⟩,
          fun hvalue => Int.dvd_mul_of_dvd_right (hvalue.dvd hl.currency hl.whole hoff)⟩
      · rw [List.sum_cons, List.map_append, List.sum_append, List.map_replicate,
          List.sum_replicate, nsmul_eq_mul, hsum]

/-- What is shown for a voucher that applies once is what it takes off the lowest price. -/
theorem shown_of_once {i : Nat} {price : Money} (hsells : s.SellsFor v)
    (honce : v.applyOncePerOrder = true)
    (hitems : s.itemPrices (s.lines.filter (isEligible v)) = .ok items)
    (hlowest : Money.IsLowest (eligiblePrice? v s.channel.id s.sales) s.lines i price)
    (h : v.productsDiscount items s.channel.id s.checkout.currency = .ok d) :
    v.amountFor price s.channel.id = .ok d := by
  cases items with
  | nil => cases h
  | cons first rest =>
    rw [Voucher.productsDiscount, if_pos honce] at h
    -- the smallest item is one of a line
    obtain ⟨l, hl, -, unit, hunit, hsmallest⟩ :=
      mem_itemPrices hitems (Money.cheapest_mem first rest)
    obtain ⟨hl, heligible⟩ := List.mem_filter.1 hl
    obtain ⟨smallest, hsold⟩ := hsells.lines l hl
    obtain rfl := Except.ok.inj (hsold.exactUnitPrice.symm.trans hunit)
    rw [hsmallest, show smallest.quantize = smallest from hsold.quantize] at h
    have hle : price.amount ≤ smallest.amount :=
      hlowest.least l hl smallest (hsold.eligiblePrice? heligible)
    -- and the lowest price is that of an item
    obtain ⟨cheapest, hcheapest, hoffer⟩ := hlowest.exists_item
    have hmem := List.mem_of_getElem? hcheapest
    have heligible := CheckoutLine.isEligible_of_eligiblePrice? hoffer
    obtain ⟨price', hcheapestSold⟩ := hsells.lines cheapest hmem
    obtain rfl : price' = price :=
      Option.some.inj ((hcheapestSold.eligiblePrice? heligible).symm.trans hoffer)
    have hitem : price' ∈ first :: rest := by
      have hitem := mem_itemPrices_of_line (List.mem_filter.2 ⟨hmem, heligible⟩)
        hcheapestSold.quantity hcheapestSold.exactUnitPrice hitems
      rwa [show price'.quantize = price' from hcheapestSold.quantize] at hitem
    have hge := Money.cheapest_le first rest hitem
    rw [hsmallest, show smallest.quantize = smallest from hsold.quantize] at hge
    rwa [Money.eq_of_units (hcheapestSold.currency.trans hsold.currency.symm)
      (Int.le_antisymm hle hge)]

/-- A voucher that applies once takes something off one line. -/
theorem takes_of_once {i : Nat} {l : CheckoutLine} {price : Money}
    (honce : v.applyOncePerOrder = true)
    (hlines : ∀ l ∈ lines, ∃ price, l.SellsAt v s.channel.id s.sales s.checkout.currency price)
    (hl : lines[i]? = some l)
    (hsold : l.SellsAt v s.channel.id s.sales s.checkout.currency price)
    (hoff : v.amountFor price s.channel.id = .ok d) :
    ∃ offs, List.Forall₂ (CheckoutLine.Takes · v s.channel.id s.sales s.checkout.currency ·)
        (lines.modify i (carrying v)) offs ∧ offs.sum = d.amount.units := by
  have hothers {others : List CheckoutLine} (hsub : others ⊆ lines) :
      List.Forall₂ (CheckoutLine.Takes · v s.channel.id s.sales s.checkout.currency ·) others
        (others.map fun _ => 0) := by
    refine List.forall₂_map_right_iff.2 (List.forall₂_same.2 fun l hl => ?_)
    obtain ⟨_, hsold⟩ := hlines l (hsub hl)
    obtain ⟨total, htotal, hoff, -⟩ := hsold.takes_nothing
    exact ⟨⟨total, htotal, hoff⟩, fun _ => Int.dvd_zero _⟩
  obtain ⟨before, l', behind, rfl, rfl, hmodify⟩ :=
    List.exists_of_modify (carrying v) (List.getElem?_eq_some_iff.1 hl).1
  obtain rfl : l' = l := by simpa using hl
  obtain ⟨total, htotal, htakesOff, -⟩ := hsold.takes_once honce hoff
  have htakes : (l'.carrying v).Takes v s.channel.id s.sales s.checkout.currency
      d.amount.units :=
    ⟨⟨total, htotal, htakesOff⟩, fun hvalue => hvalue.dvd hsold.currency hsold.whole hoff⟩
  rw [hmodify]
  refine ⟨_, List.rel_append (hothers (List.subset_append_left ..)) (.cons htakes
    (hothers fun l hl => by simp [hl])), ?_⟩
  simp

/-- A voucher that applies once is put on the line that sells for the lowest price, and what is
shown for it is what it takes off that price. -/
theorem attach_once (hsells : s.SellsFor v) (honce : v.applyOncePerOrder = true)
    (hshown : s.eligibleDiscount v = .ok d)
    (hattach : attach v s.channel.id s.sales s.lines = .ok lines) : ∃ i l price,
      Money.IsLowest (eligiblePrice? v s.channel.id s.sales) s.lines i price ∧
      s.lines[i]? = some l ∧ l.SellsAt v s.channel.id s.sales s.checkout.currency price ∧
      v.amountFor price s.channel.id = .ok d ∧ lines = s.lines.modify i (carrying v) := by
  obtain ⟨items, hitems, hdiscount⟩ := bind_ok hshown
  cases CheckoutLine.attach_cases hattach with
  | other hnot => simp [Voucher.isLineLevel, honce] at hnot
  | selected _ hnot => exact absurd (honce.symm.trans hnot) Bool.noConfusion
  | noneEligible _ hnone =>
    have hempty : s.lines.filter (isEligible v) = [] :=
      List.filter_eq_nil_iff.2 fun l hl => ne_true_of_eq_false (hnone l hl)
    rw [hempty] at hitems
    cases hitems
    cases hdiscount
  | cheapest _ hlowest =>
    obtain ⟨l, hl, hoffer⟩ := hlowest.exists_item
    obtain ⟨price, hsold⟩ := hsells.lines l (List.mem_of_getElem? hl)
    obtain rfl := Option.some.inj ((hsold.eligiblePrice?
      (CheckoutLine.isEligible_of_eligiblePrice? hoffer)).symm.trans hoffer)
    exact ⟨_, l, price, hlowest, hl, hsold,
      shown_of_once hsells honce hitems hlowest hdiscount, rfl⟩

/-- What is shown for a voucher for each item is taken off the lines that it selects. -/
theorem takes_of_each (hsells : s.SellsFor v) (hlevel : v.isLineLevel = true)
    (honce : v.applyOncePerOrder = false) (hshown : s.eligibleDiscount v = .ok d)
    (hattach : attach v s.channel.id s.sales s.lines = .ok lines) :
    ∃ offs, List.Forall₂ (CheckoutLine.Takes · v s.channel.id s.sales s.checkout.currency ·)
      lines offs ∧ offs.sum = d.amount.units := by
  obtain ⟨items, hitems, hdiscount⟩ := bind_ok hshown
  obtain ⟨htype, hselected⟩ := CheckoutLine.attach_selected hlevel honce
  cases hselected.symm.trans hattach
  have hnonneg : ∀ m ∈ items, 0 ≤ m.amount := fun m hm => by
    obtain ⟨l, hl, -, unit, hunit, rfl⟩ := mem_itemPrices hitems hm
    obtain ⟨price, hl⟩ := hsells.lines l (List.mem_filter.1 hl).1
    obtain rfl := Except.ok.inj (hl.exactUnitPrice.symm.trans hunit)
    exact Money.quantize_nonneg hl.nonneg
  obtain ⟨amounts, hamounts, hunits⟩ :=
    Voucher.productsDiscount_each honce hnonneg (hsells.sums honce items · hitems) hdiscount
  rw [CheckoutLine.isEligible_eq_isSelectedBy htype] at hitems
  obtain ⟨offs, htakes, hsum⟩ := shown_of_each honce hsells.lines hitems hamounts
  exact ⟨offs, List.forall₂_map_left_iff.2 htakes, hsum.trans hunits.symm⟩

/-- A voucher that applies once lowers the price of one line, by one item. -/
theorem totals_of_once {i : Nat} {l : CheckoutLine} {price : Money} {totals : List LinePrice}
    (hsells : s.SellsFor v) (honce : v.applyOncePerOrder = true) (hl : s.lines[i]? = some l)
    (hsold : l.SellsAt v s.channel.id s.sales s.checkout.currency price)
    (hoff : v.amountFor price s.channel.id = .ok d)
    (htotals : (s.lines.modify i (carrying v)).mapM (·.totalPrice s.channel.id s.sales) =
      .ok totals) {j : Nat} {total : LinePrice} (htotal : totals[j]? = some total) :
    if j = i then
      total.withDiscounts.amount.units = s.checkout.currency.round
        (price.amount.units * (l.quantity - 1 : Nat) + (price.amount.units - d.amount.units))
    else total.withDiscounts = total.withSale := by
  obtain ⟨line, hline, hprice⟩ := getElem?_of_mapM htotals htotal
  rw [List.getElem?_modify] at hline
  obtain ⟨old, hold, rfl⟩ := Option.map_eq_some_iff.1 hline
  split
  · rename_i hsame
    obtain rfl := hsame
    obtain rfl := Option.some.inj (hl.symm.trans hold)
    rw [if_pos rfl] at hprice
    obtain ⟨total', htotal', -, hunits⟩ := hsold.takes_once honce hoff
    obtain rfl := Except.ok.inj (htotal'.symm.trans hprice)
    exact hunits
  · rename_i hother
    rw [if_neg (Ne.symm hother)] at hprice
    obtain ⟨_, hold⟩ := hsells.lines old (List.mem_of_getElem? hold)
    obtain ⟨total', htotal', -, hnothing⟩ := hold.takes_nothing
    obtain rfl := Except.ok.inj (htotal'.symm.trans hprice)
    exact hnothing

/-- **The discount that is shown is the discount that is given**, up to half a minor unit for each
line. It is the same if the voucher takes off a fixed amount in minor units. A voucher that applies
once lowers the price of the line that sells for the lowest price, by one item. -/
theorem given_discount
    (hkind : v.type = .specificProduct ∨ v.type = .entireOrder ∧ v.applyOncePerOrder = true)
    (hsells : s.SellsFor v) (hshown : s.eligibleDiscount v = .ok d) :
    (∀ t shown, s.voucherDiscount t v = .ok shown → shown = d) ∧
    ∃ lines totals, attach v s.channel.id s.sales s.lines = .ok lines ∧
      lines.mapM (·.totalPrice s.channel.id s.sales) = .ok totals ∧
      2 * ((totals.map LinePrice.given).sum - d.amount.units).natAbs ≤
        s.lines.length * s.checkout.currency.minor ∧
      (v.HasWholeValue s.channel.id s.checkout.currency →
        (totals.map LinePrice.given).sum = d.amount.units) ∧
      (v.applyOncePerOrder = true → ∃ i l price,
        Money.IsLowest (eligiblePrice? v s.channel.id s.sales) s.lines i price ∧
        s.lines[i]? = some l ∧ ∀ j total, totals[j]? = some total →
          if j = i then
            total.withDiscounts.amount.units = s.checkout.currency.round
              (price.amount.units * (l.quantity - 1 : Nat) +
                (price.amount.units - d.amount.units))
          else total.withDiscounts = total.withSale) := by
  have hlevel : v.isLineLevel = true := by
    rcases hkind with htype | ⟨-, honce⟩ <;> simp [Voucher.isLineLevel, *]
  obtain ⟨lines, hattach⟩ := CheckoutLine.attach_run_iff.2 fun _ l hl _ => by
    obtain ⟨_, hl⟩ := hsells.lines l hl
    obtain ⟨_, hsale⟩ := hl.onSale
    exact ⟨_, hsale⟩
  obtain ⟨offs, htakes, hsum⟩ :
      ∃ offs, List.Forall₂ (CheckoutLine.Takes · v s.channel.id s.sales s.checkout.currency ·)
        lines offs ∧ offs.sum = d.amount.units := by
    cases honce : v.applyOncePerOrder with
    | false => exact takes_of_each hsells hlevel honce hshown hattach
    | true =>
      obtain ⟨i, l, price, -, hl, hsold, hoff, rfl⟩ := attach_once hsells honce hshown hattach
      exact takes_of_once honce hsells.lines hl hsold hoff
  obtain ⟨totals, htotals, htakesOff⟩ := mapM_of_forall₂ (htakes.imp fun _ _ h => h.1)
  have hlength : totals.length = s.lines.length := by
    have hbare := congrArg List.length (CheckoutLine.attach_ok hattach)
    rw [List.length_map, List.length_map] at hbare
    rw [htakesOff.length_eq, ← htakes.length_eq, hbare]
  obtain ⟨hbound, hexact⟩ := LinePrice.TakesOff.sum htakesOff
  rw [hsum, hlength] at hbound
  refine ⟨fun t shown h => ?_, lines, totals, hattach, htotals, hbound, fun hvalue => ?_,
    fun honce => ?_⟩
  · exact Except.ok.inj ((voucherDiscount_of_lineLevel hkind h).symm.trans hshown)
  · rw [hexact fun off hoff => ?_, hsum]
    obtain ⟨_, -, -, hdvd⟩ := forall₂_exists_left htakes hoff
    exact hdvd hvalue
  · obtain ⟨i, l, price, hlowest, hl, hsold, hoff, rfl⟩ := attach_once hsells honce hshown hattach
    exact ⟨i, l, price, hlowest, hl, fun j total htotal =>
      totals_of_once hsells honce hl hsold hoff htotals htotal⟩

end Snapshot

/-! ## A third off -/

namespace Bookshop

/-- Takes a third off each copy, or nearly so. -/
def thirdOff : Voucher :=
  { perItem with
    valueType := .percentage, channelListings := [⟨channel.id, .ofInt 33, .usd, none⟩] }

/-- Two copies for ten dollars and a cent each, and three more. -/
def twoLines : Snapshot := { saleCart with sales := [], lines := [copies 2 none, copies 3 none] }

end Bookshop

namespace Snapshot

/-- What is taken off five copies one by one, and off their two lines. -/
theorem given_discount_bookshop :
    Bookshop.thirdOff.type = .specificProduct ∧ Bookshop.twoLines.SellsFor Bookshop.thirdOff ∧
    ∃ d, Bookshop.twoLines.eligibleDiscount Bookshop.thirdOff = .ok d ∧ ∃ lines totals,
      CheckoutLine.attach Bookshop.thirdOff Bookshop.twoLines.channel.id Bookshop.twoLines.sales
        Bookshop.twoLines.lines = .ok lines ∧
      lines.mapM (·.totalPrice Bookshop.twoLines.channel.id Bookshop.twoLines.sales) =
        .ok totals ∧
      2 * ((totals.map LinePrice.given).sum - d.amount.units).natAbs ≤ 2 * Currency.usd.minor := by
  have hlines : ∀ l ∈ Bookshop.twoLines.lines, l.SellsAt Bookshop.thirdOff
      Bookshop.twoLines.channel.id Bookshop.twoLines.sales Bookshop.twoLines.checkout.currency
      ⟨Bookshop.cents 1001, .usd⟩ := by
    refine fun l hl => ⟨?_, ?_, ⟨none, ?_⟩, ?_, ?_, ?_, ?_, ?_, ?_, ?_, ?_, ?_⟩
    all_goals
      revert l
      decide +kernel
  have hsells : Bookshop.twoLines.SellsFor Bookshop.thirdOff := by
    refine ⟨fun l hl => ⟨_, hlines l hl⟩, fun _ items amounts hitems hamounts front hfront => ?_⟩
    have hsums : (Bookshop.twoLines.itemPrices (Bookshop.twoLines.lines.filter
        (CheckoutLine.isEligible Bookshop.thirdOff))).toOption.all (fun items =>
          (items.mapM (Bookshop.thirdOff.amountFor ·
            Bookshop.twoLines.channel.id)).toOption.all fun amounts =>
              ∀ front ∈ amounts.inits, Fits (front.map (·.amount.units)).sum) = true := by
      decide +kernel
    rw [hitems] at hsums
    have hsums : (items.mapM (Bookshop.thirdOff.amountFor ·
        Bookshop.twoLines.channel.id)).toOption.all _ = true := hsums
    rw [hamounts] at hsums
    exact of_decide_eq_true hsums front ((List.mem_inits ..).2 hfront)
  have hshown : ∃ d, Bookshop.twoLines.eligibleDiscount Bookshop.thirdOff = .ok d := by
    have heval : (Bookshop.twoLines.eligibleDiscount Bookshop.thirdOff).toOption.any
        (fun _ => true) = true := by
      decide +kernel
    obtain ⟨d, hd, -⟩ := ok_of_any heval
    exact ⟨d, hd⟩
  obtain ⟨d, hd⟩ := hshown
  obtain ⟨-, lines, totals, hattach, htotals, hbound, -⟩ := given_discount (.inl rfl) hsells hd
  exact ⟨rfl, hsells, d, hd, lines, totals, hattach, htotals, hbound⟩

end Snapshot

end Storefront
