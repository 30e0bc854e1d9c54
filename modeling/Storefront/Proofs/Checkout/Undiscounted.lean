import Mathlib.Tactic.Ring
import Storefront.Proofs.Checkout.PriceOrder
import Storefront.Proofs.Tax.Rounding

/-!
# Lines and what they would cost without discounts

The price of an order line is taxed and rounded as a whole. What it would cost without discounts is
the price of one item, taxed and rounded, times the quantity. So rounding can make the first larger
than the second, by half a minor unit for each item that is rounded down. This is as far as it goes,
whatever the discounts are.

* `CheckoutLine.totalPrice_le`: before tax, a line costs no more than its items without discounts.
* `OrderLine.IsTaxedAt`: the prices of a line that is taxed at one rate.
* `OrderLine.shortItems`: the items of a line whose price is rounded down.
* `OrderLine.IsTaxedAt.total_le`: **a line against its price without discounts**.
* `OrderLine.AreTaxedAt.reaches_sum`: the same before rounding, for many lines.
-/

namespace Storefront

open Decimal (Fits maxPlaces mantissaBound)

/-! ## Before tax -/

/-- Whole minor units are decimals if they are not too large. -/
theorem Currency.fits_of_dvd (c : Currency) {units : Int} (hunits : 0 ≤ units)
    (hdvd : (c.minor : Int) ∣ units) (hbound : units < (mantissaBound * c.minor : Nat)) :
    Fits units := by
  have hplaces : c.places ≤ maxPlaces := Nat.le_trans c.places_le_four (by decide)
  refine Decimal.fits_of_dvd hplaces hdvd ?_
  unfold minor at hbound
  omega

namespace CheckoutLine

variable {l : CheckoutLine} {channel : ChannelId} {sales : List Sale} {total : LinePrice}

/-- The price of a line is rounded from an amount that is not negative: that of its items together,
or of one item and the others. No item costs more than in the catalog. -/
theorem totalPrice_parts (hprice : 0 ≤ l.price.amount)
    (hvalues : ∀ s ∈ sales, ∀ x ∈ s.listing? channel, 0 ≤ x.discountValue)
    (h : l.totalPrice channel sales = .ok total) :
    ∃ item withDiscounts : Money, item.IsPartOf l.price ∧
      withDiscounts.currency = l.price.currency ∧ total.withDiscounts = withDiscounts.quantize ∧
      ((∃ each : Money, each.IsPartOf item ∧ each.times l.quantity = .ok withDiscounts) ∨
        ∃ once others : Money, once.IsPartOf item ∧ 0 < l.quantity ∧
          item.times (l.quantity - 1) = .ok others ∧ others.add once = .ok withDiscounts) := by
  obtain ⟨unit, _, _, withDiscounts, hunit, -, -, rfl, hdiscounts⟩ := totalPrice_ok h
  obtain ⟨-, -, hcatalog⟩ := exactUnitPrice_ok hunit
  obtain ⟨hsale, hdiscounted⟩ := exactUnitPrice_part hprice hvalues hunit
  rw [hcatalog] at hsale
  rcases hdiscounts with hall | ⟨_, once, others, -, hpos, honce, hothers, hadd⟩
  · have hcurrency := (Money.times_ok hall).1.trans (hdiscounted.currency.trans hsale.currency)
    exact ⟨unit.withSale, withDiscounts, hsale, hcurrency, rfl,
      .inl ⟨unit.withDiscounts, hdiscounted, hall⟩⟩
  · have hcurrency :=
      (Money.add_ok hadd).2.1.trans ((Money.times_ok hothers).1.trans hsale.currency)
    exact ⟨unit.withSale, withDiscounts, hsale, hcurrency, rfl,
      .inr ⟨once, others, afterVoucher_part hsale.nonneg honce, hpos, hothers, hadd⟩⟩

/-- **A line costs no more than its items without discounts**, rounded one by one, if the price in
the catalog is not rounded down. -/
theorem totalPrice_le (hprice : 0 ≤ l.price.amount)
    (hvalues : ∀ s ∈ sales, ∀ x ∈ s.listing? channel, 0 ≤ x.discountValue)
    (hround : l.price.amount ≤ l.price.quantize.amount)
    (hbound : l.price.quantize.amount.units * l.quantity <
      (mantissaBound * l.price.currency.minor : Nat))
    (h : l.totalPrice channel sales = .ok total) :
    total.withDiscounts.amount.units ≤ l.price.quantize.amount.units * l.quantity := by
  obtain ⟨item, withDiscounts, hitem, hcurrency, htotal, hsum⟩ := totalPrice_parts hprice hvalues h
  -- items for which the rounded price is paid
  have hwhole : 0 ≤ l.price.quantize.amount.units := Money.quantize_nonneg hprice
  have hdvd : (l.price.currency.minor : Int) ∣ l.price.quantize.amount.units :=
    Int.dvd_mul_left ..
  have hfits {n : Nat} (hn : n ≤ l.quantity) : Fits (l.price.quantize.amount.units * n) := by
    refine l.price.currency.fits_of_dvd (Int.mul_nonneg hwhole (Int.natCast_nonneg _))
      (Int.dvd_mul_of_dvd_left hdvd) (Int.lt_of_le_of_lt ?_ hbound)
    exact Int.mul_le_mul_of_nonneg_left (Int.ofNat_le.2 hn) hwhole
  have hitemLe : item.amount.units ≤ l.price.quantize.amount.units := Int.le_trans hitem.le hround
  have hexact : 0 ≤ withDiscounts.amount ∧
      withDiscounts.amount.units ≤ l.price.quantize.amount.units * l.quantity := by
    rcases hsum with ⟨each, heach, hall⟩ | ⟨once, others, honce, hpos, hothers, hadd⟩
    · exact ⟨Money.times_nonneg heach.nonneg hall,
        Money.times_le (hfits (Nat.le_refl _)) (Int.le_trans heach.le hitemLe) hall⟩
    · have hrest := Money.times_le (hfits (Nat.sub_le ..)) hitemLe hothers
      have hone : once.amount.units ≤ l.price.quantize.amount.units :=
        Int.le_trans honce.le hitemLe
      have hcount : l.price.quantize.amount.units * (l.quantity - 1 : Nat) +
          l.price.quantize.amount.units = l.price.quantize.amount.units * l.quantity := by
        obtain ⟨n, hn⟩ := Nat.exists_eq_succ_of_ne_zero (Nat.ne_of_gt hpos)
        rw [hn, Nat.succ_sub_one, Int.natCast_succ, Int.mul_add, Int.mul_one]
      exact ⟨Money.add_nonneg (Money.times_nonneg hitem.nonneg hothers) honce.nonneg hadd,
        Money.add_le (hfits (Nat.le_refl _)) (by omega) hadd⟩
  rw [htotal]
  exact Money.quantize_le hexact.1 (hcurrency ▸ Int.dvd_mul_of_dvd_left hdvd) hexact.2

end CheckoutLine

/-! ## With tax -/

namespace OrderLine

/-- The line and its items without discounts are taxed at one rate. -/
structure IsTaxedAt (line : OrderLine) (c : Currency) (rate : Decimal)
    (entryIncludesTax : Bool) : Prop where
  rate_nonneg : 0 ≤ rate
  total : Taxed.ofRate line.baseTotalPrice rate entryIncludesTax = .ok line.totalPrice
  item : Taxed.ofRate line.undiscountedBaseUnitPrice rate entryIncludesTax =
    .ok line.undiscountedUnitPrice
  undiscountedTotal : ∃ all, line.undiscountedUnitPrice.times line.quantity = .ok all ∧
    line.undiscountedTotalPrice = all.quantize
  baseCurrency : line.baseTotalPrice.currency = c
  baseNonneg : 0 ≤ line.baseTotalPrice.amount
  baseItemCurrency : line.undiscountedBaseUnitPrice.currency = c
  baseItemNonneg : 0 ≤ line.undiscountedBaseUnitPrice.amount
  baseItemWhole : line.undiscountedBaseUnitPrice.quantize = line.undiscountedBaseUnitPrice

/-- Before tax the line costs no more than its items without discounts. -/
def IsDiscounted (line : OrderLine) : Prop :=
  line.baseTotalPrice.amount.units ≤
    line.undiscountedBaseUnitPrice.amount.units * line.quantity

/-- How many items of the line there are whose price without discounts is rounded down. -/
def shortItems (line : OrderLine) (rate : Decimal) (entryIncludesTax gross : Bool) : Nat :=
  if line.undiscountedUnitPrice.fallsShort line.undiscountedBaseUnitPrice rate entryIncludesTax
    gross then line.quantity else 0

theorem shortItems_le (line : OrderLine) (rate : Decimal) (entryIncludesTax gross : Bool) :
    line.shortItems rate entryIncludesTax gross ≤ line.quantity := by
  unfold shortItems
  split
  · exact Nat.le_refl _
  · exact Nat.zero_le _

/-- What the items cost without discounts, with a minor unit for each of them. -/
def ceiling (line : OrderLine) (c : Currency) : Int :=
  (line.undiscountedUnitPrice.gross.amount.units + c.minor) * line.quantity

variable {line : OrderLine} {lines : List OrderLine} {c : Currency} {rate : Decimal}
  {entryIncludesTax : Bool}

namespace IsTaxedAt

variable (h : line.IsTaxedAt c rate entryIncludesTax) (gross : Bool)

include h

theorem item_nonneg : 0 ≤ (line.undiscountedUnitPrice.part gross).amount.units :=
  Taxed.ofRate_nonneg h.rate_nonneg h.baseItemNonneg h.item gross

theorem minor_dvd_item :
    (c.minor : Int) ∣ (line.undiscountedUnitPrice.part gross).amount.units := by
  have hwhole := Money.quantize_iff.1 (Taxed.quantize_ofRate h.item gross)
  rwa [Taxed.currency_ofRate h.rate_nonneg h.item gross, h.baseItemCurrency] at hwhole

theorem items_le_ceiling :
    (line.undiscountedUnitPrice.part gross).amount.units * line.quantity +
      (line.quantity * c.minor : Nat) ≤ line.ceiling c := by
  have hitem := Taxed.part_isPartOf_gross h.rate_nonneg h.baseItemNonneg h.item gross
  have hle := Int.mul_le_mul_of_nonneg_right hitem.le (Int.natCast_nonneg line.quantity)
  rw [ceiling, Int.add_mul, ← Int.natCast_mul, Nat.mul_comm line.quantity]
  omega

theorem ceiling_nonneg : 0 ≤ line.ceiling c := by
  have hitems := h.items_le_ceiling true
  have hnonneg := Int.mul_nonneg (h.item_nonneg true) (Int.natCast_nonneg line.quantity)
  omega

/-- An item is not rounded down in what is entered, or where it is not taxed. -/
theorem shortItems_eq_zero (hexact : gross = entryIncludesTax ∨ rate = 0) :
    line.shortItems rate entryIncludesTax gross = 0 := by
  refine if_neg (ne_true_of_eq_false (decide_eq_false (Int.not_lt.2 (Int.le_of_eq ?_))))
  rw [Taxed.part_of_exact hexact h.item, h.baseItemWhole, ← TaxRatio.num_eq hexact,
    Int.natCast_mul, Int.mul_assoc]

/-- Without discounts a line costs the price of one item times the quantity. -/
theorem undiscountedTotal_part (hbound : 10 * line.ceiling c < (mantissaBound * c.minor : Nat)) :
    (line.undiscountedTotalPrice.part gross).currency = c ∧
      (line.undiscountedTotalPrice.part gross).amount.units =
        (line.undiscountedUnitPrice.part gross).amount.units * line.quantity := by
  obtain ⟨all, hall, hundiscounted⟩ := h.undiscountedTotal
  have hall := Taxed.times_part hall gross
  have hdvd := Int.dvd_mul_of_dvd_left (h.minor_dvd_item gross) (c := line.quantity)
  have hle := h.items_le_ceiling gross
  have hnonneg := h.ceiling_nonneg
  have hfits : Fits ((line.undiscountedUnitPrice.part gross).amount.units * line.quantity) :=
    c.fits_of_dvd (Int.mul_nonneg (h.item_nonneg gross) (Int.natCast_nonneg _)) hdvd (by omega)
  obtain ⟨exact, hexact, hunits⟩ := Money.times_of_fits hfits
  obtain rfl := Except.ok.inj (hexact.symm.trans hall)
  have hcurrency : (all.part gross).currency = c :=
    (Money.times_ok hall).1.trans ((Taxed.currency_ofRate h.rate_nonneg h.item gross).trans
      h.baseItemCurrency)
  rw [hundiscounted, Taxed.part_quantize]
  refine ⟨hcurrency, ?_⟩
  rw [Money.units_quantize, hcurrency, hunits, c.round_of_dvd hdvd]

/-- The price of the items without discounts, taxed one by one, against their exact price. -/
theorem reaches_items (hbound : 10 * line.ceiling c < (mantissaBound * c.minor : Nat)) :
    (TaxRatio.of rate entryIncludesTax gross).Reaches c
      (line.undiscountedBaseUnitPrice.amount.units * line.quantity)
      ((line.undiscountedUnitPrice.part gross).amount.units * line.quantity)
      (line.shortItems rate entryIncludesTax gross) := by
  rcases Nat.eq_zero_or_pos line.quantity with hzero | hpos
  · simp [shortItems, TaxRatio.Reaches, hzero]
  · have hle := h.items_le_ceiling gross
    have hone : (line.undiscountedUnitPrice.part gross).amount.units + c.minor ≤
        line.ceiling c := by
      refine Int.le_trans ?_ hle
      rw [Int.natCast_mul, Int.mul_comm (line.quantity : Int), ← Int.add_mul]
      have hnonneg := h.item_nonneg gross
      exact le_mul_of_one_le_right (by omega) (by omega)
    have hreaches := (Taxed.reaches_ofRate h.rate_nonneg h.baseItemNonneg h.item gross
      (by rw [h.baseItemCurrency]; omega)).times line.quantity
    rw [h.baseItemCurrency] at hreaches
    unfold shortItems
    convert hreaches using 1
    split <;> simp

/-- **A line against its price without discounts.** It costs more by half a minor unit at most for
each item whose price is rounded down. -/
theorem total_le (hdiscounted : line.IsDiscounted)
    (hbound : 10 * line.ceiling c < (mantissaBound * c.minor : Nat)) :
    (line.totalPrice.part gross).amount.units ≤
      (line.undiscountedTotalPrice.part gross).amount.units +
        ((line.shortItems rate entryIncludesTax gross + 1) / 2 * c.minor : Nat) := by
  have hle := h.items_le_ceiling gross
  have hshort := Nat.mul_le_mul_right c.minor (line.shortItems_le rate entryIncludesTax gross)
  have hreaches := (h.reaches_items gross hbound).mono hdiscounted
  rw [(h.undiscountedTotal_part gross hbound).2]
  rw [← h.baseCurrency] at hreaches hbound hle hshort ⊢
  refine Taxed.part_le_of_reaches h.rate_nonneg h.baseNonneg h.total hreaches
    (Int.mul_nonneg (h.item_nonneg gross) (Int.natCast_nonneg _)) ?_ (by omega)
  rw [h.baseCurrency]
  exact Int.dvd_mul_of_dvd_left (h.minor_dvd_item gross)

/-- A single item costs no more than without discounts. -/
theorem total_le_of_single (hdiscounted : line.IsDiscounted) (hsingle : line.quantity = 1)
    (hbound : 10 * line.ceiling c < (mantissaBound * c.minor : Nat)) :
    (line.totalPrice.part gross).amount ≤ (line.undiscountedTotalPrice.part gross).amount := by
  have hle := hdiscounted
  rw [IsDiscounted, hsingle, Int.natCast_one, Int.mul_one] at hle
  rw [Decimal.le_def, (h.undiscountedTotal_part gross hbound).2, hsingle, Int.natCast_one,
    Int.mul_one]
  have hpart : line.baseTotalPrice.IsPartOf line.undiscountedBaseUnitPrice :=
    ⟨h.baseCurrency.trans h.baseItemCurrency.symm, h.baseNonneg, hle⟩
  exact (Taxed.ofRate_isPartOf h.rate_nonneg hpart h.total h.item gross).le

end IsTaxedAt

/-! ## Many lines -/

/-- What the lines cost without discounts, each on its own. -/
def undiscountedUnits (lines : List OrderLine) (gross : Bool) : Int :=
  (lines.map fun line => (line.undiscountedTotalPrice.part gross).amount.units).sum

/-- What the items of the lines cost before tax, without discounts. -/
def undiscountedBaseUnits (lines : List OrderLine) : Int :=
  (lines.map fun line =>
    line.undiscountedBaseUnitPrice.amount.units * (line.quantity : Int)).sum

/-- How many items of the lines there are whose price without discounts is rounded down. -/
def allShortItems (lines : List OrderLine) (rate : Decimal) (entryIncludesTax gross : Bool) : Nat :=
  (lines.map (·.shortItems rate entryIncludesTax gross)).sum

/-- The lines and their shipping have room: ten times what they cost without discounts, with a minor
unit for each item more, is below the bound of mantissas of minor units. -/
def HaveRoom (lines : List OrderLine) (c : Currency) (shipping : Money) : Prop :=
  10 * (shipping.amount.units + (lines.map (·.ceiling c)).sum) < (mantissaBound * c.minor : Nat)

instance (lines : List OrderLine) (c : Currency) (shipping : Money) :
    Decidable (HaveRoom lines c shipping) :=
  inferInstanceAs (Decidable (_ < _))

/-- Each line has room. -/
theorem HaveRoom.ceiling_lt {shipping : Money} (h : HaveRoom lines c shipping)
    (hshipping : 0 ≤ shipping.amount)
    (hlines : ∀ line ∈ lines, line.IsTaxedAt c rate entryIncludesTax) (hline : line ∈ lines) :
    10 * line.ceiling c < (mantissaBound * c.minor : Nat) := by
  have hle : line.ceiling c ≤ (lines.map (·.ceiling c)).sum :=
    List.single_le_sum (List.forall_mem_map.2 fun x hx => (hlines x hx).ceiling_nonneg) _
      (List.mem_map_of_mem hline)
  have hshipping : 0 ≤ shipping.amount.units := hshipping
  unfold HaveRoom at h
  omega

/-- All lines are taxed at one rate, cost no more than without discounts before tax, and have room
with their shipping. -/
structure AreTaxedAt (lines : List OrderLine) (c : Currency) (rate : Decimal)
    (entryIncludesTax : Bool) (shipping : Money) : Prop where
  line : ∀ line ∈ lines, line.IsTaxedAt c rate entryIncludesTax
  discounted : ∀ line ∈ lines, line.IsDiscounted
  shippingNonneg : 0 ≤ shipping.amount
  room : HaveRoom lines c shipping

namespace AreTaxedAt

variable {shipping : Money} (h : AreTaxedAt lines c rate entryIncludesTax shipping)

include h

theorem ceiling_lt (hline : line ∈ lines) :
    10 * line.ceiling c < (mantissaBound * c.minor : Nat) :=
  h.room.ceiling_lt h.shippingNonneg h.line hline

/-- What a line costs without discounts is in minor units, and not negative. -/
theorem undiscountedTotal_part (gross : Bool) (hline : line ∈ lines) :
    (line.undiscountedTotalPrice.part gross).currency = c ∧
      0 ≤ (line.undiscountedTotalPrice.part gross).amount ∧
      (c.minor : Int) ∣ (line.undiscountedTotalPrice.part gross).amount.units ∧
      (line.undiscountedTotalPrice.part gross).amount.units =
        (line.undiscountedUnitPrice.part gross).amount.units * line.quantity := by
  have hone := h.line line hline
  obtain ⟨hcurrency, hunits⟩ := hone.undiscountedTotal_part gross (h.ceiling_lt hline)
  refine ⟨hcurrency, ?_, ?_, hunits⟩
  · rw [Decimal.le_def, hunits]
    exact Int.mul_nonneg (hone.item_nonneg gross) (Int.natCast_nonneg _)
  · rw [hunits]
    exact Int.dvd_mul_of_dvd_left (hone.minor_dvd_item gross)

theorem undiscountedUnits_nonneg (gross : Bool) : 0 ≤ undiscountedUnits lines gross :=
  List.sum_nonneg (List.forall_mem_map.2 fun _ hline =>
    (h.undiscountedTotal_part gross hline).2.1)

theorem minor_dvd_undiscountedUnits (gross : Bool) :
    (c.minor : Int) ∣ undiscountedUnits lines gross :=
  List.dvd_sum (List.forall_mem_map.2 fun _ hline =>
    (h.undiscountedTotal_part gross hline).2.2.1)

/-- The room is enough for what the lines cost without discounts, with all that rounding may add. -/
theorem undiscountedUnits_le (gross : Bool) :
    undiscountedUnits lines gross +
        (allShortItems lines rate entryIncludesTax gross * c.minor : Nat) ≤
      (lines.map (·.ceiling c)).sum := by
  have hline (line : OrderLine) (hline : line ∈ lines) :
      (line.undiscountedTotalPrice.part gross).amount.units +
        (line.shortItems rate entryIncludesTax gross * c.minor : Nat) ≤ line.ceiling c := by
    rw [(h.undiscountedTotal_part gross hline).2.2.2]
    have hitems := (h.line line hline).items_le_ceiling gross
    have hshort := Nat.mul_le_mul_right c.minor
      (line.shortItems_le rate entryIncludesTax gross)
    omega
  refine Int.le_trans (Int.le_of_eq ?_) (List.sum_le_sum hline)
  clear h hline
  unfold undiscountedUnits allShortItems
  induction lines with
  | nil => simp
  | cons line rest ih =>
    simp only [List.map_cons, List.sum_cons, ← ih]
    push_cast
    ring

/-- **All lines without discounts**, taxed one by one, against their exact price. -/
theorem reaches_sum (gross : Bool) :
    (TaxRatio.of rate entryIncludesTax gross).Reaches c (undiscountedBaseUnits lines)
      (undiscountedUnits lines gross) (allShortItems lines rate entryIncludesTax gross) := by
  refine TaxRatio.Reaches.sum fun line hline => ?_
  rw [(h.undiscountedTotal_part gross hline).2.2.2]
  exact (h.line line hline).reaches_items gross (h.ceiling_lt hline)

/-- What the lines cost without discounts can be added up, to shipping or to less. -/
theorem fits_undiscounted (gross : Bool) {first : Money} (hfirst : 0 ≤ first.amount)
    (hcurrency : first.currency = c) (hwhole : first.quantize = first)
    (hle : first.amount ≤ shipping.amount) {front : List Money}
    (hfront : front <+: lines.map (·.undiscountedTotalPrice.part gross)) :
    Fits (first.amount.units + (front.map (·.amount.units)).sum) := by
  have hlines := h.undiscountedUnits_le gross
  have hroom := h.room
  have hundiscounted (line : OrderLine) (hline : line ∈ lines) :=
    h.undiscountedTotal_part gross hline
  clear h
  subst hcurrency
  refine Money.InRange.fits_prefix (Money.inRange_of_nonneg (List.forall_mem_cons.2 ⟨hfirst,
    List.forall_mem_map.2 fun line hline => (hundiscounted line hline).2.1⟩) ?_)
    (List.forall_mem_cons.2 ⟨⟨rfl, hwhole⟩, List.forall_mem_map.2 fun line hline => ?_⟩) hfront
  · have hle : first.amount.units ≤ shipping.amount.units := hle
    have hfirst : 0 ≤ first.amount.units := hfirst
    rw [List.map_cons, List.sum_cons, List.map_map]
    unfold HaveRoom Currency.minor at hroom
    unfold undiscountedUnits Currency.minor at hlines
    simp only [Function.comp_def]
    omega
  · obtain ⟨hsame, -, hdvd, -⟩ := hundiscounted line hline
    exact ⟨hsame, Money.quantize_iff.2 (hsame ▸ hdvd)⟩

/-- **The total without discounts** is not rounded. -/
theorem units_undiscountedTotal (gross : Bool) {first total : Money} (hfirst : 0 ≤ first.amount)
    (hcurrency : first.currency = c) (hwhole : first.quantize = first)
    (hle : first.amount ≤ shipping.amount)
    (hsum : (lines.map (·.undiscountedTotalPrice.part gross)).foldlM Money.add first = .ok total) :
    total.amount.units = first.amount.units + undiscountedUnits lines gross := by
  rw [Money.units_foldlM_add hsum fun front =>
    h.fits_undiscounted gross hfirst hcurrency hwhole hle, List.map_map]
  rfl

/-- Before tax, the lines cost no more than their items without discounts. -/
theorem sum_baseTotalPrice_le {subtotal : Money}
    (hsum : Money.sum c (lines.map (·.baseTotalPrice)) = .ok subtotal) :
    subtotal.amount.units ≤ undiscountedBaseUnits lines := by
  -- what is entered is not taxed
  have hentered : ∀ line ∈ lines,
      (line.undiscountedTotalPrice.part entryIncludesTax).amount.units =
        line.undiscountedBaseUnitPrice.amount.units * line.quantity := fun line hline => by
    have hone := h.line line hline
    rw [(h.undiscountedTotal_part _ hline).2.2.2, (Taxed.ofRate_rounded hone.item).1,
      hone.baseItemWhole]
  have hzero : 0 ≤ (Money.zero c).amount := Int.le_refl 0
  have hfits (front : List Money)
      (hfront : front <+: lines.map (·.undiscountedTotalPrice.part entryIncludesTax)) :
      Fits ((Money.zero c).amount.units + (front.map (·.amount.units)).sum) :=
    h.fits_undiscounted entryIncludesTax hzero rfl (Money.quantize_zero c) h.shippingNonneg hfront
  obtain ⟨total, htotal⟩ := Money.foldlM_add_of_fits (.zero c) (List.forall_mem_map.2
    fun line hline => (h.undiscountedTotal_part _ hline).1) hfits
  have hunits := Money.units_foldlM_add htotal hfits
  rw [Money.zero, Decimal.units_zero, Int.zero_add, List.map_map,
    List.map_congr_left (g := fun line =>
      line.undiscountedBaseUnitPrice.amount.units * (line.quantity : Int)) hentered] at hunits
  rw [undiscountedBaseUnits, ← hunits]
  refine Money.foldlM_add_forall₂_le ?_ (Int.le_refl _) hsum htotal
  rw [List.forall₂_map_left_iff, List.forall₂_map_right_iff, List.forall₂_same]
  intro line hline
  rw [Decimal.le_def, hentered line hline]
  exact h.discounted line hline

/-- **What is left of the lines**, taxed together, against the lines without discounts. -/
theorem left_le (gross : Bool) {left : Money} {taxed : Taxed} (hrate : 0 ≤ rate)
    (hcurrency : left.currency = c) (hleft : 0 ≤ left.amount)
    (hle : left.amount.units ≤ undiscountedBaseUnits lines)
    (htaxed : Taxed.ofRate left rate entryIncludesTax = .ok taxed) :
    (taxed.part gross).amount.units ≤ undiscountedUnits lines gross +
      ((allShortItems lines rate entryIncludesTax gross + 1) / 2 * c.minor : Nat) := by
  have hreaches := (h.reaches_sum gross).mono hle
  have hnonneg := h.undiscountedUnits_nonneg gross
  have hdvd := h.minor_dvd_undiscountedUnits gross
  have hlines := h.undiscountedUnits_le gross
  have hshipping : 0 ≤ shipping.amount.units := h.shippingNonneg
  have hroom := h.room
  unfold HaveRoom at hroom
  subst hcurrency
  exact Taxed.part_le_of_reaches hrate hleft htaxed hreaches hnonneg hdvd (by omega)

/-- What is left of the lines, with what is left of shipping, against both without discounts. -/
theorem together_le (gross : Bool) {first left delivery sum : Money} (hfirst : 0 ≤ first.amount)
    (hcurrency : first.currency = c) (hwhole : first.quantize = first)
    (hle : first.amount ≤ shipping.amount) (hdelivery : delivery.amount ≤ first.amount)
    (hleft : left.amount.units ≤ undiscountedUnits lines gross +
      ((allShortItems lines rate entryIncludesTax gross + 1) / 2 * c.minor : Nat))
    (hsum : left.add delivery = .ok sum) :
    sum.amount.units ≤ first.amount.units + undiscountedUnits lines gross +
      ((allShortItems lines rate entryIncludesTax gross + 1) / 2 * c.minor : Nat) := by
  have hlines := h.undiscountedUnits_le gross
  have hnonneg := h.undiscountedUnits_nonneg gross
  have hdvd := h.minor_dvd_undiscountedUnits gross
  have hhalf : (allShortItems lines rate entryIncludesTax gross + 1) / 2 * c.minor ≤
      allShortItems lines rate entryIncludesTax gross * c.minor :=
    Nat.mul_le_mul_right _ (by omega)
  have hroom := h.room
  unfold HaveRoom at hroom
  rw [Decimal.le_def] at hfirst hle hdelivery
  rw [Money.quantize_iff, hcurrency] at hwhole
  refine Money.add_le (c.fits_of_dvd ?_ ?_ ?_) (by omega) hsum
  · exact Int.add_nonneg (Int.add_nonneg hfirst hnonneg) (Int.natCast_nonneg _)
  · exact Int.dvd_add (Int.dvd_add hwhole hdvd)
      (Int.natCast_dvd_natCast.2 (Nat.dvd_mul_left ..))
  · have hfirst : 0 ≤ first.amount.units := hfirst
    omega

end AreTaxedAt

end OrderLine

end Storefront
