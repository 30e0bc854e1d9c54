import Storefront.Proofs.Checkout.Nonneg
import Storefront.Proofs.Money.Whole

/-!
# Prices of items and prices of lines

The price of a single item is rounded, and so is the price of a line, which is for all its items
together. A voucher may take something off single items, and then the rounded items of a line can
cost more together than the line does. They do not if no item is rounded up.

* `Voucher.productsDiscount_le_item`, `Voucher.productsDiscount_le_sum`: what a voucher takes off
  items.
* `CheckoutLine.item_le_total`, `CheckoutLine.items_le_total`: one item and its line, and all items
  of the line.
* `Snapshot.item_le_subtotal`, `Snapshot.items_le_subtotal`: items and the price of all lines.
-/

namespace Storefront

open Decimal (Fits maxPlaces)

/-! ## The smallest amount -/

namespace Money

/-- The smallest amount is one of them. -/
theorem foldl_min_mem (first : Money) (amounts : List Money) :
    amounts.foldl min first ∈ first :: amounts := by
  induction amounts generalizing first with
  | nil => exact List.mem_singleton_self _
  | cons m rest ih =>
    have hmin : min first m = first ∨ min first m = m := by
      unfold min
      split
      · exact .inr rfl
      · exact .inl rfl
    rw [List.foldl_cons]
    rcases hmin with h | h
    · rw [h]
      exact List.cons_subset_cons first (List.subset_cons_self m rest) (ih first)
    · rw [h]
      exact List.mem_cons_of_mem _ (ih m)

theorem cheapest_mem (first : Money) (rest : List Money) :
    (first :: rest).foldl min first ∈ first :: rest := by
  rcases List.mem_cons.1 (foldl_min_mem first (first :: rest)) with hfirst | hmem
  · rw [hfirst]
    exact List.mem_cons_self
  · exact hmem

theorem foldl_min_le (first : Money) (amounts : List Money) :
    ∀ m ∈ first :: amounts, (amounts.foldl min first).amount ≤ m.amount := by
  have hmin (a b : Money) : (min a b).amount ≤ a.amount ∧ (min a b).amount ≤ b.amount := by
    unfold min
    split
    · exact ⟨Int.le_of_lt ‹_›, Int.le_refl _⟩
    · exact ⟨Int.le_refl _, Int.not_lt.1 ‹_›⟩
  induction amounts generalizing first with
  | nil => exact List.forall_mem_singleton.2 (Int.le_refl _)
  | cons m rest ih =>
    obtain ⟨hlowest, hrest⟩ := List.forall_mem_cons.1 (ih (min first m))
    exact List.forall_mem_cons.2 ⟨Int.le_trans hlowest (hmin first m).1,
      List.forall_mem_cons.2 ⟨Int.le_trans hlowest (hmin first m).2, hrest⟩⟩

/-- The smallest amount is no larger than any of them. -/
theorem cheapest_le (first : Money) (rest : List Money) {m : Money} (hm : m ∈ first :: rest) :
    ((first :: rest).foldl min first).amount ≤ m.amount :=
  foldl_min_le first (first :: rest) m (List.mem_cons_of_mem _ hm)

end Money

/-! ## What a voucher takes off items -/

namespace Voucher

variable {v : Voucher} {channel : ChannelId} {prices : List Money} {currency : Currency}
  {discount : Money}

theorem amountFor_nonneg {price : Money} (hprice : 0 ≤ price.amount)
    (h : v.amountFor price channel = .ok discount) : 0 ≤ discount.amount := by
  obtain ⟨d, -, h⟩ := bind_ok h
  obtain ⟨left, -, h⟩ := bind_ok h
  obtain ⟨off, -, h⟩ := bind_ok h
  cases h
  split
  · exact hprice
  · rename_i hneg
    exact Int.not_lt.1 fun hlt => hneg (decide_eq_true hlt)

theorem productsDiscount_nonneg (hprices : ∀ m ∈ prices, 0 ≤ m.amount)
    (h : v.productsDiscount prices channel currency = .ok discount) : 0 ≤ discount.amount := by
  unfold productsDiscount at h
  split at h
  · cases h
  · rename_i first rest
    split at h
    · exact amountFor_nonneg (hprices _ (Money.cheapest_mem first rest)) h
    · obtain ⟨amounts, -, h⟩ := bind_ok h
      obtain ⟨sum, -, h⟩ := bind_ok h
      cases h
      exact sum.floorAtZero_nonneg

/-- A voucher that applies once takes off no more than one of the items costs. -/
theorem productsDiscount_le_item (honce : v.applyOncePerOrder = true)
    (h : v.productsDiscount prices channel currency = .ok discount) :
    ∃ m ∈ prices, discount.amount ≤ m.amount := by
  unfold productsDiscount at h
  split at h
  · cases h
  · rename_i first rest
    rw [if_pos honce] at h
    exact ⟨_, Money.cheapest_mem first rest, amountFor_le h⟩

/-- **No more is taken off items than they cost together.** -/
theorem productsDiscount_le_sum {total : Money} (honce : v.applyOncePerOrder = false)
    (hprices : ∀ m ∈ prices, 0 ≤ m.amount)
    (h : v.productsDiscount prices channel currency = .ok discount)
    (htotal : Money.sum currency prices = .ok total) : discount.amount ≤ total.amount := by
  unfold productsDiscount at h
  split at h
  · cases h
  · rw [if_neg (by simp [honce])] at h
    obtain ⟨amounts, hamounts, h⟩ := bind_ok h
    obtain ⟨sum, hsum, h⟩ := bind_ok h
    cases h
    have hle : List.Forall₂ (fun off m : Money => off.amount ≤ m.amount) amounts _ :=
      ((forall₂_of_mapM hamounts).imp fun _ _ hoff => amountFor_le hoff).flip
    have hsum_le : sum.amount ≤ total.amount :=
      Money.foldlM_add_forall₂_le hle (Int.le_refl _) hsum htotal
    rw [Decimal.le_def, Money.units_floorAtZero]
    exact Int.max_le.2 ⟨Money.sum_nonneg hprices htotal, hsum_le⟩

end Voucher

/-! ## Lines -/

namespace CheckoutLine

variable {l : CheckoutLine} {channel : ChannelId} {sales : List Sale} {unit p : LinePrice}

/-- No item is rounded up, unless the line has only one. -/
def RoundsDown (l : CheckoutLine) (unit : LinePrice) : Prop :=
  l.quantity ≤ 1 ∨ unit.withSale.quantize.amount ≤ unit.withSale.amount

/-- The price of a line with sales is that of its items together, rounded. -/
theorem withSale_ok (hunit : l.exactUnitPrice channel sales = .ok unit)
    (h : l.totalPrice channel sales = .ok p) :
    ∃ together, unit.withSale.times l.quantity = .ok together ∧
      p.withSale = together.quantize := by
  obtain ⟨unit', _, together, _, hunit', -, htogether, rfl, -⟩ := totalPrice_ok h
  obtain rfl := Except.ok.inj (hunit.symm.trans hunit')
  exact ⟨together, htogether, rfl⟩

/-- **One item costs no more than its line.** -/
theorem item_le_total (hprice : 0 ≤ l.price.amount) (hpos : 0 < l.quantity)
    (hunit : l.exactUnitPrice channel sales = .ok unit)
    (h : l.totalPrice channel sales = .ok p) :
    unit.withSale.quantize.amount ≤ p.withSale.amount := by
  obtain ⟨together, htogether, hp⟩ := withSale_ok hunit h
  have hnonneg := (exactUnitPrice_nonneg hprice hunit).1
  have hle : unit.withSale.amount ≤ together.amount := by
    refine Money.le_times htogether ?_
    calc unit.withSale.amount.units = unit.withSale.amount.units * (1 : Int) := (Int.mul_one _).symm
      _ ≤ unit.withSale.amount.units * l.quantity :=
        Int.mul_le_mul_of_nonneg_left (by omega) hnonneg
  rw [hp, Decimal.le_def, Money.units_quantize, Money.units_quantize,
    (Money.times_ok htogether).1]
  exact Currency.round_mono _ hnonneg hle

/-- **The items of a line cost no more together than the line**, where none of them is rounded
up. -/
theorem items_le_total (hprice : 0 ≤ l.price.amount)
    (hunit : l.exactUnitPrice channel sales = .ok unit) (h : l.totalPrice channel sales = .ok p)
    (hround : l.RoundsDown unit)
    (hfits : Fits (l.quantity * unit.withSale.quantize.amount.units)) :
    l.quantity * unit.withSale.quantize.amount.units ≤ p.withSale.amount.units := by
  rcases Nat.eq_zero_or_pos l.quantity with hzero | hpos
  · rw [hzero, Int.natCast_zero, Int.zero_mul]
    exact (totalPrice_nonneg hprice h).1
  · rcases hround with hone | hdown
    · rw [show l.quantity = 1 by omega, Int.natCast_one, Int.one_mul]
      exact item_le_total hprice hpos hunit h
    · obtain ⟨together, htogether, hp⟩ := withSale_ok hunit h
      have hnonneg : 0 ≤ unit.withSale.quantize.amount.units :=
        Money.quantize_nonneg (exactUnitPrice_nonneg hprice hunit).1
      rw [hp]
      refine Money.le_quantize_times htogether hfits
        (Int.mul_nonneg (Int.natCast_nonneg _) hnonneg)
        (Int.dvd_mul_of_dvd_right (Int.dvd_mul_left ..)) ?_
      rw [Int.mul_comm]
      exact Int.mul_le_mul_of_nonneg_right hdown (Int.natCast_nonneg _)

end CheckoutLine

/-! ## Lines together -/

namespace Snapshot

variable {s : Snapshot} {lines : List CheckoutLine} {items : List Money} {subtotal : Money}

theorem itemPrices_cons_ok {l : CheckoutLine} (h : s.itemPrices (l :: lines) = .ok items) :
    ∃ unit rest, l.exactUnitPrice s.channel.id s.sales = .ok unit ∧
      s.itemPrices lines = .ok rest ∧
      items = List.replicate l.quantity unit.withSale.quantize ++ rest := by
  obtain ⟨prices, hprices, h⟩ := bind_ok h
  rw [List.mapM_cons] at hprices
  obtain ⟨own, hown, hprices⟩ := bind_ok hprices
  obtain ⟨rounded, hrounded, hown⟩ := bind_ok hown
  obtain ⟨unit, hunit, hrounded⟩ := bind_ok hrounded
  obtain ⟨others, hothers, hprices⟩ := bind_ok hprices
  cases hrounded
  cases hown
  cases hprices
  cases h
  refine ⟨unit, others.flatten, hunit, ?_, by rw [List.flatten_cons]; rfl⟩
  rw [itemPrices, hothers]
  rfl

/-- An item belongs to a line. -/
theorem mem_itemPrices (h : s.itemPrices lines = .ok items) {m : Money} (hm : m ∈ items) :
    ∃ l ∈ lines, 0 < l.quantity ∧
      ∃ unit, l.exactUnitPrice s.channel.id s.sales = .ok unit ∧ m = unit.withSale.quantize := by
  induction lines generalizing items with
  | nil =>
    cases h
    cases hm
  | cons l lines ih =>
    obtain ⟨unit, rest, hunit, hrest, rfl⟩ := itemPrices_cons_ok h
    rcases List.mem_append.1 hm with hown | hm
    · obtain ⟨hne, rfl⟩ := List.mem_replicate.1 hown
      exact ⟨l, List.mem_cons_self, by omega, unit, hunit, rfl⟩
    · obtain ⟨l', hl', hpos, hunit'⟩ := ih hrest hm
      exact ⟨l', List.mem_cons_of_mem _ hl', hpos, hunit'⟩

/-- A line has items. -/
theorem mem_itemPrices_of_line {l : CheckoutLine} {unit : LinePrice} (hl : l ∈ lines)
    (hpos : 0 < l.quantity) (hunit : l.exactUnitPrice s.channel.id s.sales = .ok unit)
    (h : s.itemPrices lines = .ok items) : unit.withSale.quantize ∈ items := by
  induction lines generalizing items with
  | nil => cases hl
  | cons first lines ih =>
    obtain ⟨own, rest, hown, hrest, rfl⟩ := itemPrices_cons_ok h
    rcases List.mem_cons.1 hl with rfl | hl
    · obtain rfl := Except.ok.inj (hunit.symm.trans hown)
      exact List.mem_append_left _ (List.mem_replicate.2 ⟨by omega, rfl⟩)
    · exact List.mem_append_right _ (ih hl hrest)

/-- **No item costs more than all lines together.** -/
theorem item_le_subtotal (hprices : s.PricesNonneg) (hsubtotal : s.subtotalWithSales = .ok subtotal)
    (hlines : lines ⊆ s.lines) (hitems : s.itemPrices lines = .ok items) {m : Money}
    (hm : m ∈ items) : 0 ≤ m.amount ∧ m.amount ≤ subtotal.amount := by
  obtain ⟨l, hl, hpos, unit, hunit, rfl⟩ := mem_itemPrices hitems hm
  obtain ⟨totals, htotals, hsum⟩ := bind_ok hsubtotal
  have hprice := hprices.lines l (hlines hl)
  refine ⟨Money.quantize_nonneg (CheckoutLine.exactUnitPrice_nonneg hprice hunit).1, ?_⟩
  obtain ⟨total, htotal, hl⟩ := forall₂_exists_left (forall₂_of_mapM htotals).flip (hlines hl)
  obtain ⟨p, hp, htotalPrice⟩ := bind_ok hl
  cases htotalPrice
  exact Int.le_trans (CheckoutLine.item_le_total hprice hpos hunit hp)
    (Money.le_sum (hprices.totals htotals) hsum htotal)

/-- The items of some lines, with what has been counted before, cost no more than all lines. -/
theorem sum_items_le {keep : CheckoutLine → Bool} {counted totals : List Money} {sum total : Money}
    (hitems : s.itemPrices (lines.filter keep) = .ok items)
    (htotals : lines.mapM (fun l => do
      return (← l.totalPrice s.channel.id s.sales).withSale) = .ok totals)
    (hprices : ∀ l ∈ lines, 0 ≤ l.price.amount)
    (hround : ∀ l ∈ lines, keep l = true → ∀ unit,
      l.exactUnitPrice s.channel.id s.sales = .ok unit → l.RoundsDown unit)
    (hfits : ∀ part : List Money, part.Sublist (counted ++ items) →
      Fits (part.map (·.amount.units)).sum)
    (hcounted : (counted.map (·.amount.units)).sum ≤ sum.amount.units)
    (htotal : totals.foldlM Money.add sum = .ok total) :
    ((counted ++ items).map (·.amount.units)).sum ≤ total.amount.units := by
  induction lines generalizing counted items totals sum with
  | nil =>
    cases hitems
    cases htotals
    cases htotal
    simpa using hcounted
  | cons l lines ih =>
    obtain ⟨hprice, hprices⟩ := List.forall_mem_cons.1 hprices
    obtain ⟨hround, hrounds⟩ := List.forall_mem_cons.1 hround
    rw [List.mapM_cons] at htotals
    obtain ⟨own, hown, htotals⟩ := bind_ok htotals
    obtain ⟨p, hp, hown⟩ := bind_ok hown
    obtain ⟨others, hothers, htotals⟩ := bind_ok htotals
    cases hown
    cases htotals
    obtain ⟨next, hnext, htotal⟩ := Money.foldlM_cons_ok htotal
    have hnonneg := (CheckoutLine.totalPrice_nonneg hprice hp).1
    -- what has been counted is a decimal, so that it is reached in spite of rounding
    have hreach {part : List Money} (hpart : part.Sublist (counted ++ items))
        (hle : (part.map (·.amount.units)).sum ≤ sum.amount.units + p.withSale.amount.units) :
        (part.map (·.amount.units)).sum ≤ next.amount.units := by
      have hreached : (⟨_, hfits part hpart⟩ : Decimal) ≤ next.amount := Money.le_add hnext hle
      exact hreached
    cases hkeep : keep l with
    | false =>
      rw [List.filter_cons_of_neg (by simp [hkeep])] at hitems
      refine ih hitems hothers hprices hrounds hfits (hreach (List.sublist_append_left ..) ?_) htotal
      exact Int.le_trans hcounted (Int.le_add_of_nonneg_right hnonneg)
    | true =>
      rw [List.filter_cons_of_pos hkeep] at hitems
      obtain ⟨unit, rest, hunit, hrest, rfl⟩ := itemPrices_cons_ok hitems
      rw [← List.append_assoc] at hfits hreach ⊢
      refine ih hrest hothers hprices hrounds hfits (hreach (List.sublist_append_left ..) ?_) htotal
      have hitems : ((List.replicate l.quantity unit.withSale.quantize).map (·.amount.units)).sum =
          l.quantity * unit.withSale.quantize.amount.units := by
        rw [List.map_replicate, List.sum_replicate, nsmul_eq_mul]
      have hfits := hfits (List.replicate l.quantity unit.withSale.quantize)
        ((List.sublist_append_right ..).trans (List.sublist_append_left ..))
      rw [hitems] at hfits
      rw [List.map_append, List.sum_append, hitems]
      exact Int.add_le_add hcounted
        (CheckoutLine.items_le_total hprice hunit hp (hround hkeep unit hunit) hfits)

/-- Items are in minor units of the currency of the checkout. -/
theorem item_whole (hsubtotal : s.subtotalWithSales = .ok subtotal) (hlines : lines ⊆ s.lines)
    (hitems : s.itemPrices lines = .ok items) {m : Money} (hm : m ∈ items) :
    m.currency = s.checkout.currency ∧ m.quantize = m := by
  obtain ⟨l, hl, -, unit, hunit, rfl⟩ := mem_itemPrices hitems hm
  refine ⟨?_, Money.quantize_quantize _⟩
  obtain ⟨totals, htotals, hsum⟩ := bind_ok hsubtotal
  obtain ⟨total, htotal, hl⟩ := forall₂_exists_left (forall₂_of_mapM htotals).flip (hlines hl)
  obtain ⟨p, hp, htotalPrice⟩ := bind_ok hl
  cases htotalPrice
  obtain ⟨together, htogether, hwithSale⟩ := CheckoutLine.withSale_ok hunit hp
  calc unit.withSale.currency = together.currency := (Money.times_ok htogether).1.symm
    _ = p.withSale.currency := by rw [hwithSale, Money.currency_quantize]
    _ = s.checkout.currency := Money.currency_of_foldlM_add hsum _ htotal

/-- **Items cost no more together than all lines**, where none of them is rounded up and they are
not too large to be added up. -/
theorem items_le_subtotal {keep : CheckoutLine → Bool} (hprices : s.PricesNonneg)
    (hsubtotal : s.subtotalWithSales = .ok subtotal)
    (hitems : s.itemPrices (s.lines.filter keep) = .ok items)
    (hround : ∀ l ∈ s.lines, keep l = true → ∀ unit,
      l.exactUnitPrice s.channel.id s.sales = .ok unit → l.RoundsDown unit)
    (hrange : Money.InRange s.checkout.currency items) :
    ∃ total, Money.sum s.checkout.currency items = .ok total ∧ total.amount ≤ subtotal.amount := by
  have hwhole (m : Money) (hm : m ∈ items) :=
    item_whole hsubtotal List.filter_sublist.subset hitems hm
  have hfits (part : List Money) (hpart : part.Sublist items) :
      Fits (part.map (·.amount.units)).sum :=
    hrange.fits hpart fun m hm => hwhole m (hpart.subset hm)
  have hfront (front : List Money) (hfront : front <+: items) :
      Fits ((Money.zero s.checkout.currency).amount.units + (front.map (·.amount.units)).sum) := by
    rw [Money.zero, Decimal.units_zero, Int.zero_add]
    exact hfits front hfront.sublist
  obtain ⟨total, htotal⟩ := Money.foldlM_add_of_fits (Money.zero s.checkout.currency)
    (fun m hm => (hwhole m hm).1) hfront
  refine ⟨total, htotal, ?_⟩
  obtain ⟨totals, htotals, hsum⟩ := bind_ok hsubtotal
  rw [Decimal.le_def, Money.units_foldlM_add htotal hfront, Money.zero, Decimal.units_zero,
    Int.zero_add]
  have hnothing : (([] : List Money).map (·.amount.units)).sum ≤
      (Money.zero s.checkout.currency).amount.units := Int.le_refl 0
  have hfits : ∀ part : List Money, part.Sublist ([] ++ items) →
      Fits (part.map (·.amount.units)).sum := hfits
  exact sum_items_le hitems htotals hprices.lines hround hfits hnothing hsum

end Snapshot

end Storefront
