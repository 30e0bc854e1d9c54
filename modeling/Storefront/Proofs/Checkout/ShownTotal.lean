import Storefront.Proofs.Tax.Together
import Storefront.Proofs.Tax.ZeroRate

/-!
# The total of a checkout and the prices it is shown with

A checkout is shown with the taxed price of its lines, that of its delivery, and the total. A
provider of flat rates makes the total of the price of all lines, taxed once; the price of the lines
is the sum of what each of them is taxed with. Where rounding has left that sum untaxed, it is asked
for once more, and then it is the price of all lines, taxed once, as well.

* `FlatRates.ArePercentages`: rates of a thousand percent at most, with at most six places.
* `Snapshot.AmountsWithin`: how large the prices before tax may be.
* `Snapshot.exists_amounts`: the price before tax is the exact sum of those of the lines.
* `Snapshot.taxedSubtotal_flat`: what the price of the lines is.
* `Snapshot.total_flat`: what the total is, where there is no discount.
* `Snapshot.total_shown`: **the total against the prices that it is shown with**.
-/

namespace Storefront

open Decimal (Fits maxPlaces mantissaBound unitsPerOne)

/-! ## Rates in percent -/

/-- A rate in percent, with which the price is taxed ten times over at most. -/
structure Decimal.IsPercentage (points : Decimal) : Prop where
  nonneg : 0 ≤ points
  le_thousand : points ≤ .ofInt 1000
  dvd : (pow10 (maxPlaces - 6) : Int) ∣ points.units

/-- The hundredth of a rate in percent is exact. -/
theorem Decimal.IsPercentage.div_hundred {points : Decimal} (h : points.IsPercentage) :
    ∃ rate, points.div? 100 = some rate ∧ rate.IsTaxRate 8 := by
  obtain ⟨k, hk⟩ := h.dvd
  have hnonneg : 0 ≤ points.units := h.nonneg
  have hmost : points.units ≤ 1000 * unitsPerOne := h.le_thousand
  have hpower : (pow10 (maxPlaces - 6) : Int) = pow10 (maxPlaces - 8) * 100 := by decide
  have hone : (unitsPerOne : Int) = pow10 (maxPlaces - 8) * pow10 8 := by decide
  have hpos : (0 : Int) < pow10 (maxPlaces - 8) := by decide
  rw [hpower, Int.mul_assoc] at hk
  have hk0 : 0 ≤ 100 * k := nonneg_of_mul_nonneg_right (hk ▸ hnonneg) hpos
  have hfew : 100 * k ≤ 1000 * pow10 8 := by
    refine le_of_mul_le_mul_left ?_ hpos
    rw [← hk, Int.mul_left_comm, ← hone]
    exact hmost
  have hfits : Fits (pow10 (maxPlaces - 8) * k) := by
    have hroom : 1000 * pow10 8 < mantissaBound := by decide
    exact ⟨8, k, by decide, by omega, Int.mul_comm ..⟩
  refine ⟨⟨_, hfits⟩, ?_, Int.mul_nonneg (Int.le_of_lt hpos) (by omega), ?_, Int.dvd_mul_right ..⟩
  · rw [Decimal.div?, if_neg (by decide)]
    refine Decimal.nearest?_of_fits (by decide) ?_
    show points.units * Int.sign (100 : Decimal).units * unitsPerOne =
      pow10 (maxPlaces - 8) * k * (100 * unitsPerOne : Nat)
    rw [hk, show Int.sign (100 : Decimal).units = 1 from rfl]
    push_cast
    ring
  · show pow10 (maxPlaces - 8) * k ≤ 10 * unitsPerOne
    rw [hone, Int.mul_left_comm]
    exact Int.mul_le_mul_of_nonneg_left (by omega) (Int.le_of_lt hpos)

namespace FlatRates

/-- The rates of all countries tax a price ten times over at most, and have at most six places. -/
structure ArePercentages (r : FlatRates) : Prop where
  default : r.default.IsPercentage
  countries : ∀ entry ∈ r.countries, entry.2.IsPercentage

variable {r : FlatRates} {entryIncludesTax : Bool}

theorem ArePercentages.rateFor (h : r.ArePercentages) (country : Option String) :
    ∃ rate, r.rateFor country = .ok rate ∧ rate.IsTaxRate 8 := by
  obtain ⟨rate, hrate, htax⟩ :=
    (forall_points (P := Decimal.IsPercentage) h.default h.countries country).div_hundred
  exact ⟨rate, by rw [FlatRates.rateFor, hrate]; rfl, htax⟩

theorem ArePercentages.shippingRateFor (h : r.ArePercentages) (country : Option String) :
    ∃ rate, r.shippingRateFor country = .ok rate ∧ rate.IsTaxRate 8 := by
  unfold FlatRates.shippingRateFor
  split
  · exact h.rateFor country
  · exact ⟨0, rfl, by decide, by decide, Int.dvd_zero _⟩

/-! ## A chain of one provider -/

/-- A provider that is alone taxes what is not taxed yet. -/
theorem price_of_ofRate {ask : TaxProvider → Taxed → Except Error Taxed}
    {asked : Except Error Decimal} {rate : Decimal} {price p : Taxed}
    (hask : ask (r.provider entryIncludesTax) price =
      do Taxed.ofRate price.gross (← asked) entryIncludesTax)
    (huntaxed : price.isTaxed = false) (hrate : asked = .ok rate)
    (hp : Taxed.ofRate price.gross rate entryIncludesTax = .ok p) :
    TaxChain.price [r.provider entryIncludesTax] ask price = .ok p := by
  rw [TaxChain.price, TaxChain.settle, huntaxed, if_neg Bool.false_ne_true, hask, hrate, ok_bind,
    hp]
  show Except.ok p.quantize = _
  rw [(Taxed.ofRate_rounded hp).2]

end FlatRates

namespace Snapshot

variable {s : Snapshot} {r : FlatRates} {entryIncludesTax : Bool} {rate : Decimal}

theorem lineTotal_of_ofRate {l : CheckoutLine} {total : LinePrice} {p : Taxed}
    (htotal : l.totalPrice s.channel.id s.sales = .ok total)
    (hrate : r.rateFor (some s.country) = .ok rate)
    (hp : Taxed.ofRate total.withDiscounts rate entryIncludesTax = .ok p) :
    s.lineTotal [r.provider entryIncludesTax] l = .ok p := by
  rw [lineTotal, htotal]
  exact FlatRates.price_of_ofRate rfl (Taxed.isTaxed_untaxed _) hrate hp

theorem shippingPrice_of_ofRate {p : Taxed}
    (hrate : r.shippingRateFor (some s.country) = .ok rate)
    (hp : Taxed.ofRate s.deliveryPrice rate entryIncludesTax = .ok p) :
    s.shippingPrice [r.provider entryIncludesTax] = .ok p :=
  FlatRates.price_of_ofRate rfl (Taxed.isTaxed_untaxed _) hrate hp

/-! ## The price of the lines -/

/-- What can be computed for each item can be computed before the items are combined. -/
theorem foldlM_of_forall_ok {α β γ : Type} {f : α → Except Error β} {g : α → β} {items : List α}
    (h : ∀ x ∈ items, f x = .ok (g x)) {combine : γ → β → Except Error γ} {first : γ} :
    items.foldlM (fun acc x => do combine acc (← f x)) first =
      items.foldlM (fun acc x => combine acc (g x)) first := by
  induction items generalizing first with
  | nil => rfl
  | cons x rest ih =>
    obtain ⟨hx, hrest⟩ := List.forall_mem_cons.1 h
    rw [List.foldlM_cons, List.foldlM_cons, hx, ok_bind]
    exact bind_congr fun next => ih hrest

/-- The prices before tax are those of one currency, at most `10^12` for each line and for the
delivery, and at most `10^21` for all lines. -/
structure AmountsWithin (s : Snapshot) (subtotal : Money) : Prop where
  currency : s.deliveryPrice.currency = s.checkout.currency
  lines : ∀ l ∈ s.lines, ∀ p, l.totalPrice s.channel.id s.sales = .ok p →
    p.withDiscounts.amount ≤ .ofInt 1000000000000
  delivery : s.deliveryPrice.amount ≤ .ofInt 1000000000000
  subtotal : subtotal.amount ≤ .ofInt 1000000000000000000000

theorem AmountsWithin.eleven_lt {subtotal : Money} (h : s.AmountsWithin subtotal) :
    11 * subtotal.amount.units < (mantissaBound * subtotal.currency.minor : Nat) := by
  have hmost : subtotal.amount.units ≤ 1000000000000000000000 * unitsPerOne := h.subtotal
  have hroom := subtotal.currency.unitsPerOne_lt
  omega

/-- **The price of the lines is the exact sum** of what they cost before tax. -/
theorem exists_amounts {subtotal : Money} (hprices : s.PricesNonneg)
    (hsubtotal : s.subtotal = .ok subtotal) (hamounts : s.AmountsWithin subtotal) :
    ∃ amount : CheckoutLine → Money,
      subtotal.amount.units = (s.lines.map fun l => (amount l).amount.units).sum ∧
      ∀ l ∈ s.lines, (amount l).currency = s.checkout.currency ∧ 0 ≤ (amount l).amount ∧
        (amount l).quantize = amount l ∧
        ∃ p, l.totalPrice s.channel.id s.sales = .ok p ∧ p.withDiscounts = amount l := by
  obtain ⟨totals, htotals, hsum⟩ := bind_ok hsubtotal
  obtain ⟨amount, rfl, hamount⟩ := exists_eq_map_of_mapM htotals
  have htotal (l : CheckoutLine) (hl : l ∈ s.lines) : (amount l).quantize = amount l ∧
      0 ≤ (amount l).amount ∧
      ∃ p, l.totalPrice s.channel.id s.sales = .ok p ∧ p.withDiscounts = amount l := by
    obtain ⟨p, hp, hdone⟩ := bind_ok (hamount l hl)
    obtain hsame : p.withDiscounts = amount l := Except.ok.inj hdone
    rw [← hsame]
    exact ⟨CheckoutLine.quantize_of_totalPrice hp,
      (CheckoutLine.totalPrice_nonneg (hprices.lines l hl) hp).2, p, hp, rfl⟩
  refine ⟨amount, ?_, fun l hl => ?_⟩
  · have hmost : subtotal.amount.units ≤ 1000000000000000000000 * unitsPerOne := hamounts.subtotal
    have hroom := s.checkout.currency.unitsPerOne_lt
    have hminor : s.checkout.currency.minor ≤ unitsPerOne := pow10_le_pow10 (Nat.sub_le ..)
    have hexact := Money.units_foldlM_add_of_lt (c := s.checkout.currency) hsum rfl
      ⟨Money.quantize_zero _, Int.le_refl 0⟩
      (List.forall_mem_map.2 fun l hl => ⟨(htotal l hl).1, (htotal l hl).2.1⟩) (by omega)
    rw [hexact, Money.zero, Decimal.units_zero, Int.zero_add, List.map_map]
    rfl
  · obtain ⟨hwhole, hnonneg, htotal⟩ := htotal l hl
    exact ⟨Money.currency_of_foldlM_add hsum _ (List.mem_map_of_mem hl), hnonneg, hwhole, htotal⟩

/-- The lines are taxed one by one. -/
theorem taxedItems {subtotal : Money} (hrate : r.rateFor (some s.country) = .ok rate)
    (htax : rate.IsTaxRate 8) (hprices : s.PricesNonneg) (hsubtotal : s.subtotal = .ok subtotal)
    (hamounts : s.AmountsWithin subtotal) (entryIncludesTax : Bool) :
    ∃ amount price, TaxedItems s.lines amount price rate entryIncludesTax s.checkout.currency ∧
      subtotal.amount.units = (s.lines.map fun l => (amount l).amount.units).sum ∧
      ∀ l ∈ s.lines, s.lineTotal [r.provider entryIncludesTax] l = .ok (price l) := by
  obtain ⟨amount, hunits, hlines⟩ := exists_amounts hprices hsubtotal hamounts
  have hsmall (l : CheckoutLine) (hl : l ∈ s.lines) :
      (amount l).amount ≤ .ofInt 1000000000000 := by
    obtain ⟨-, -, -, p, hp, hsame⟩ := hlines l hl
    exact hsame ▸ hamounts.lines l hl p hp
  have htaxed (l : CheckoutLine) (hl : l ∈ s.lines) :
      ∃ p, Taxed.ofRate (amount l) rate entryIncludesTax = .ok p :=
    Taxed.exists_ofRate (n := 1000000000000) htax (by decide) (hlines l hl).2.1 (hsmall l hl)
      (by decide) _
  choose! price hprice using htaxed
  refine ⟨amount, price, {
    taxRate := htax
    currency := fun l hl => (hlines l hl).1
    nonneg := fun l hl => (hlines l hl).2.1
    whole := fun l hl => (hlines l hl).2.2.1
    small := hsmall
    taxed := hprice
    room := hunits ▸ hamounts.subtotal }, hunits, fun l hl => ?_⟩
  obtain ⟨-, -, -, p, hp, hsame⟩ := hlines l hl
  exact lineTotal_of_ofRate hp hrate (hsame ▸ hprice l hl)

/-- **What the price of the lines is.** It is the price of all lines, taxed together, but for the
halves of minor units of each of them, and not even that if there is one line only. -/
theorem taxedSubtotal_flat {subtotal : Money} (hrate : r.rateFor (some s.country) = .ok rate)
    (htax : rate.IsTaxRate 8) (hprices : s.PricesNonneg) (hsubtotal : s.subtotal = .ok subtotal)
    (hamounts : s.AmountsWithin subtotal) {lines : Taxed}
    (hlines : Taxed.ofRate subtotal rate entryIncludesTax = .ok lines) :
    ∃ shown, s.taxedSubtotal [r.provider entryIncludesTax] = .ok shown ∧
      shown.Within s.checkout.currency (11 * subtotal.amount.units) ∧
      (∀ gross, ((lines.part gross).amount.units - (shown.part gross).amount.units).natAbs ≤
        (s.lines.length + 1) / 2 * s.checkout.currency.minor) ∧
      (s.lines.length = 1 → shown = lines) := by
  obtain ⟨amount, price, hitems, hunits, hline⟩ :=
    taxedItems hrate htax hprices hsubtotal hamounts entryIncludesTax
  obtain ⟨sum, hsum, hwithin, hsumUnits⟩ := hitems.exists_sum
  have hcurrency := currency_subtotal hsubtotal
  have hfold : s.taxedSubtotal [r.provider entryIncludesTax] =
      TaxChain.checkoutSubtotal [r.provider entryIncludesTax] s sum := by
    rw [taxedSubtotal, foldlM_of_forall_ok hline, hsum]
    rfl
  have hclose (gross : Bool) := hitems.natAbs_sub_le hcurrency hunits hlines gross
  have hlarge := hamounts.eleven_lt
  cases huntaxed : sum.isTaxed with
  | true =>
    refine ⟨sum, ?_, hunits ▸ hwithin, fun gross => ?_, fun hone =>
      hitems.eq_of_length_eq_one hone hcurrency hunits hlines hwithin hsumUnits⟩
    · rw [hfold, TaxChain.checkoutSubtotal, TaxChain.price_of_isTaxed _ _ huntaxed,
        hwithin.quantize_eq]
    · rw [hsumUnits]
      exact hclose gross
  | false =>
    -- the sum is not taxed, so that it is the price before tax, and the provider is asked again
    have hboth : sum.net = sum.gross := Decidable.not_not.1 (of_decide_eq_false huntaxed)
    have hentered : sum.part entryIncludesTax = subtotal :=
      Money.eq_of_units ((hwithin.currency _).trans hcurrency.symm)
        ((hsumUnits _).trans (hitems.sum_part_entered.trans hunits.symm))
    have hsame : sum.gross = subtotal := by
      rw [← hentered]
      cases entryIncludesTax
      · exact hboth.symm
      · rfl
    refine ⟨lines, ?_, ?_, fun gross => by simp, fun _ => rfl⟩
    · rw [hfold]
      exact FlatRates.price_of_ofRate rfl huntaxed hrate (hsame ▸ hlines)
    · exact hcurrency ▸ .ofRate htax (hprices.subtotal hsubtotal) (quantize_subtotal hsubtotal)
        hlarge hlines

/-! ## The total -/

/-- What the provider answers when it is asked for a total without discount. -/
theorem checkoutTotal_undiscounted {subtotal : Money} {shippingRate : Decimal}
    {lines delivery : Taxed} (price : Taxed) (hsubtotal : s.subtotal = .ok subtotal)
    (hprices : s.PricesNonneg) (hdiscount : s.discount = .zero s.checkout.currency)
    (hcurrency : s.deliveryPrice.currency = s.checkout.currency)
    (hrate : r.rateFor (some s.country) = .ok rate)
    (hshippingRate : r.shippingRateFor (some s.country) = .ok shippingRate)
    (hlines : Taxed.ofRate subtotal rate entryIncludesTax = .ok lines)
    (hdelivery : Taxed.ofRate s.deliveryPrice shippingRate entryIncludesTax = .ok delivery) :
    (r.provider entryIncludesTax).checkoutTotal s price =
      (lines.add delivery).mapError Error.asTax := by
  have hleft : (·.floorAtZero) <$> subtotal.sub s.discount = .ok subtotal := by
    rw [hdiscount, Money.sub_zero (currency_subtotal hsubtotal)]
    exact congrArg Except.ok (Money.floorAtZero_of_nonneg (hprices.subtotal hsubtotal))
  have hleftDelivery : (·.floorAtZero) <$> s.deliveryPrice.sub s.discount =
      .ok s.deliveryPrice := by
    rw [hdiscount, Money.sub_zero hcurrency]
    exact congrArg Except.ok (Money.floorAtZero_of_nonneg hprices.deliveryPrice)
  show Except.mapError Error.asTax (s.subtotal >>= fun subtotal => _) = _
  rw [hsubtotal, ok_bind]
  cases hvoucher : s.voucher.any (·.type = .shipping) with
  | true =>
    simp only [if_true]
    rw [hleftDelivery, hrate, hshippingRate]
    simp only [pure_bind, ok_bind, hlines, hdelivery]
  | false =>
    simp only [Bool.false_eq_true, if_false]
    rw [hleft, hrate, hshippingRate]
    simp only [pure_bind, ok_bind, hlines, hdelivery]

/-- Without discount the price that providers are asked about is that of lines and delivery. -/
theorem beforeTax_undiscounted {subtotal : Money} (hsubtotal : s.subtotal = .ok subtotal)
    (hprices : s.PricesNonneg) (hdiscount : s.discount = .zero s.checkout.currency)
    (hamounts : s.AmountsWithin subtotal) : ∃ base, s.beforeTax = .ok base := by
  have hcurrency := currency_subtotal hsubtotal
  have hlines : 0 ≤ subtotal.amount.units := hprices.subtotal hsubtotal
  have hdelivery : 0 ≤ s.deliveryPrice.amount.units := hprices.deliveryPrice
  have hmost : subtotal.amount.units ≤ 1000000000000000000000 * unitsPerOne := hamounts.subtotal
  have hmostDelivery : s.deliveryPrice.amount.units ≤ 1000000000000 * unitsPerOne :=
    hamounts.delivery
  have hwhole := Money.quantize_iff.1 (quantize_subtotal hsubtotal)
  have hwholeDelivery := Money.quantize_iff.1 s.quantize_deliveryPrice
  rw [hcurrency] at hwhole
  rw [hamounts.currency] at hwholeDelivery
  have hroom := s.checkout.currency.unitsPerOne_lt
  have hfits : Fits (subtotal.amount.units + s.deliveryPrice.amount.units) :=
    s.checkout.currency.fits_of_dvd (by omega) (Int.dvd_add hwhole hwholeDelivery) (by omega)
  have hboth := Money.add_of_units (d := ⟨_, hfits⟩)
    (hcurrency.trans hamounts.currency.symm) rfl
  rw [beforeTax, hsubtotal, ok_bind, baseTotal, hboth, ok_bind, hdiscount,
    Money.sub_zero (a := ⟨⟨_, hfits⟩, subtotal.currency⟩) hcurrency]
  exact ⟨_, rfl⟩

/-- **What the total is without discount**: the price of all lines, taxed together, and that of the
delivery. -/
theorem total_flat {base subtotal : Money} {shippingRate : Decimal} {lines delivery sum : Taxed}
    {most : Int} (hbase : s.beforeTax = .ok base) (hsubtotal : s.subtotal = .ok subtotal)
    (hprices : s.PricesNonneg) (hdiscount : s.discount = .zero s.checkout.currency)
    (hcurrency : s.deliveryPrice.currency = s.checkout.currency)
    (hrate : r.rateFor (some s.country) = .ok rate)
    (hshippingRate : r.shippingRateFor (some s.country) = .ok shippingRate)
    (hlines : Taxed.ofRate subtotal rate entryIncludesTax = .ok lines)
    (hdelivery : Taxed.ofRate s.deliveryPrice shippingRate entryIncludesTax = .ok delivery)
    (hsum : lines.add delivery = .ok sum) (hwithin : sum.Within s.checkout.currency most) :
    s.total [r.provider entryIncludesTax] = .ok sum := by
  have hask := checkoutTotal_undiscounted (.untaxed base) hsubtotal hprices hdiscount hcurrency
    hrate hshippingRate hlines hdelivery
  rw [hsum] at hask
  have hanswer : TaxChain.checkoutTotal [r.provider entryIncludesTax] s (.untaxed base) =
      .ok sum := by
    rw [TaxChain.checkoutTotal, TaxChain.price, TaxChain.settle, Taxed.isTaxed_untaxed,
      if_neg Bool.false_ne_true, hask]
    exact congrArg Except.ok hwithin.quantize_eq
  rw [total_eq, hbase, ok_bind, hanswer, ok_bind, hwithin.floorAtZero_eq]

/-- **The total and the prices that a checkout is shown with.** Without discount the total and the
prices of lines and delivery differ by half a minor unit for each line and one more, in both their
amounts, and not at all if there is one line only. -/
theorem total_shown {subtotal : Money} (hrates : r.ArePercentages) (entryIncludesTax : Bool)
    (hprices : s.PricesNonneg) (hsubtotal : s.subtotal = .ok subtotal)
    (hdiscount : s.discount = .zero s.checkout.currency) (hamounts : s.AmountsWithin subtotal) :
    ∃ total lines shipping shown, s.total [r.provider entryIncludesTax] = .ok total ∧
      s.taxedSubtotal [r.provider entryIncludesTax] = .ok lines ∧
      s.shippingPrice [r.provider entryIncludesTax] = .ok shipping ∧
      lines.add shipping = .ok shown ∧
      (∀ gross, (shown.part gross).currency = (total.part gross).currency ∧
        ((total.part gross).amount.units - (shown.part gross).amount.units).natAbs ≤
          (s.lines.length + 1) / 2 * s.checkout.currency.minor) ∧
      (s.lines.length = 1 → total = shown) := by
  obtain ⟨rate, hrate, htax⟩ := hrates.rateFor (some s.country)
  obtain ⟨shippingRate, hshippingRate, hshippingTax⟩ := hrates.shippingRateFor (some s.country)
  have hcurrency := currency_subtotal hsubtotal
  have hmost : subtotal.amount.units ≤ 1000000000000000000000 * unitsPerOne := hamounts.subtotal
  have hmostDelivery : s.deliveryPrice.amount.units ≤ 1000000000000 * unitsPerOne :=
    hamounts.delivery
  have hroom := s.checkout.currency.unitsPerOne_lt
  obtain ⟨base, hbase⟩ := beforeTax_undiscounted hsubtotal hprices hdiscount hamounts
  -- the price of all lines and that of the delivery, each taxed once
  obtain ⟨together, htogether⟩ := Taxed.exists_ofRate (n := 1000000000000000000000) htax (by decide)
    (hprices.subtotal hsubtotal) hmost (by decide) entryIncludesTax
  obtain ⟨delivery, hdelivery⟩ := Taxed.exists_ofRate (n := 1000000000000) hshippingTax (by decide)
    hprices.deliveryPrice hmostDelivery (by decide) entryIncludesTax
  have htogetherWithin : together.Within s.checkout.currency (11 * subtotal.amount.units) :=
    hcurrency ▸ .ofRate htax (hprices.subtotal hsubtotal) (quantize_subtotal hsubtotal)
      hamounts.eleven_lt htogether
  have hdeliveryWithin : delivery.Within s.checkout.currency
      (11 * s.deliveryPrice.amount.units) :=
    hamounts.currency ▸ .ofRate hshippingTax hprices.deliveryPrice s.quantize_deliveryPrice
      (by rw [hamounts.currency]; omega) hdelivery
  obtain ⟨lines, hlines, hlinesWithin, hclose, hone⟩ :=
    taxedSubtotal_flat hrate htax hprices hsubtotal hamounts htogether
  obtain ⟨total, htotal, htotalWithin, htotalUnits⟩ :=
    htogetherWithin.add hdeliveryWithin (by omega)
  obtain ⟨shown, hshown, hshownWithin, hshownUnits⟩ := hlinesWithin.add hdeliveryWithin (by omega)
  refine ⟨total, lines, delivery, shown, total_flat hbase hsubtotal hprices hdiscount
    hamounts.currency hrate hshippingRate htogether hdelivery htotal htotalWithin, hlines,
    shippingPrice_of_ofRate hshippingRate hdelivery, hshown, fun gross => ⟨?_, ?_⟩,
    fun hlength => ?_⟩
  · rw [htotalWithin.currency, hshownWithin.currency]
  · rw [htotalUnits, hshownUnits, Int.add_sub_add_right]
    exact hclose gross
  · rw [hone hlength] at hshown
    exact Except.ok.inj (htotal.symm.trans hshown)

end Snapshot

/-! ## Two copies -/

namespace Bookshop

/-- Two copies for half a dollar each, in lines of their own, that are shipped for five dollars. -/
def pairTables : Tables :=
  { shippedTables with
    variantListings := shippedTables.variantListings.map fun x =>
      { x with price := some ⟨(Decimal.ofMantissa? 50 2).getD 0, .usd⟩ }
    checkouts := shippedTables.checkouts.map fun c =>
      { c with lines := [⟨⟨⟨3⟩⟩, 1⟩, ⟨⟨⟨3⟩⟩, 1⟩] } }

/-- One percent of taxes, on shipping too. -/
def onePercentRates : FlatRates := { default := 1, chargeTaxesOnShipping := true }

theorem onePercentRates_arePercentages : onePercentRates.ArePercentages :=
  ⟨⟨by decide, by decide, by decide +kernel⟩, nofun⟩

end Bookshop

namespace Snapshot

/-- Each of two copies costs fifty-one cents with taxes, and both together a dollar and a cent: the
total is a cent less than what is shown, which is as far apart as two lines can be. -/
theorem total_shown_bookshop :
    Bookshop.onePercentRates.ArePercentages ∧
    ∃ checkout ∈ Bookshop.pairTables.checkouts, ∃ s subtotal,
      (Bookshop.attempt 1).snapshot Bookshop.pairTables checkout = .ok s ∧
      s.PricesNonneg ∧ s.subtotal = .ok subtotal ∧
      s.discount = .zero s.checkout.currency ∧ s.AmountsWithin subtotal ∧ s.lines.length = 2 ∧
      ∃ total lines shipping shown,
        s.total [Bookshop.onePercentRates.provider false] = .ok total ∧
        s.taxedSubtotal [Bookshop.onePercentRates.provider false] = .ok lines ∧
        s.shippingPrice [Bookshop.onePercentRates.provider false] = .ok shipping ∧
        lines.add shipping = .ok shown ∧
        total.gross = ⟨(Decimal.ofMantissa? 606 2).getD 0, .usd⟩ ∧
        shown.gross = ⟨(Decimal.ofMantissa? 607 2).getD 0, .usd⟩ ∧
        ∀ gross, ((total.part gross).amount.units - (shown.part gross).amount.units).natAbs ≤
          Currency.minor .usd := by
  have heval : ∃ checkout ∈ Bookshop.pairTables.checkouts,
      ((Bookshop.attempt 1).snapshot Bookshop.pairTables checkout).toOption.any (fun s =>
        (∀ l ∈ s.lines, 0 ≤ l.price.amount) ∧ (∀ price ∈ s.delivery.price?, 0 ≤ price.amount) ∧
        s.discount = .zero s.checkout.currency ∧ s.lines.length = 2 ∧
        s.checkout.currency = .usd ∧ s.deliveryPrice.currency = s.checkout.currency ∧
        (∀ l ∈ s.lines, (l.totalPrice s.channel.id s.sales).toOption.all fun p =>
          p.withDiscounts.amount ≤ .ofInt 1000000000000) ∧
        s.deliveryPrice.amount ≤ .ofInt 1000000000000 ∧
        s.subtotal.toOption.any (·.amount ≤ .ofInt 1000000000000000000000) ∧
        (s.total [Bookshop.onePercentRates.provider false]).toOption.map (·.gross) =
          some ⟨(Decimal.ofMantissa? 606 2).getD 0, .usd⟩ ∧
        (s.taxedSubtotal [Bookshop.onePercentRates.provider false] >>= fun lines =>
          s.shippingPrice [Bookshop.onePercentRates.provider false] >>= fun shipping =>
            lines.add shipping).toOption.map (·.gross) =
          some ⟨(Decimal.ofMantissa? 607 2).getD 0, .usd⟩) = true := by
    decide +kernel
  obtain ⟨checkout, hcheckout, hsnapshot⟩ := heval
  obtain ⟨s, hs, hsnapshot⟩ := ok_of_any hsnapshot
  obtain ⟨hlines, hdelivery, hdiscount, hlength, husd, hcurrency, hsmall, hsmallDelivery,
    hsubtotal, htotalGross, hshownGross⟩ := of_decide_eq_true hsnapshot
  obtain ⟨subtotal, hsubtotal, hmost⟩ := ok_of_any hsubtotal
  have hrates := Bookshop.onePercentRates_arePercentages
  have hamounts : s.AmountsWithin subtotal := {
    currency := hcurrency
    lines := fun l hl p hp => by
      have hall := hsmall l hl
      rw [hp] at hall
      exact of_decide_eq_true hall
    delivery := hsmallDelivery
    subtotal := of_decide_eq_true hmost }
  obtain ⟨total, lines, shipping, shown, htotal, hshownLines, hshipping, hshown, hclose, -⟩ :=
    total_shown hrates false ⟨hlines, hdelivery⟩ hsubtotal hdiscount hamounts
  refine ⟨hrates, checkout, hcheckout, s, subtotal, hs, ⟨hlines, hdelivery⟩, hsubtotal, hdiscount,
    hamounts, hlength, total, lines, shipping, shown, htotal, hshownLines, hshipping, hshown, ?_,
    ?_, fun gross => ?_⟩
  · rw [htotal] at htotalGross
    exact Option.some.inj htotalGross
  · rw [hshownLines, ok_bind, hshipping, ok_bind, hshown] at hshownGross
    exact Option.some.inj hshownGross
  · have hgross := (hclose gross).2
    rwa [hlength, husd, Nat.one_mul] at hgross

end Snapshot

end Storefront
