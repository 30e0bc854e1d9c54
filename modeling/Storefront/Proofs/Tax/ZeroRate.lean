import Storefront.Proofs.Checkout.LostVoucher
import Storefront.Proofs.Checkout.Nonneg
import Storefront.Proofs.Tax.Chain
import Storefront.Proofs.Tax.Rounding
import Storefront.Tax.FlatRate

/-!
# Flat rates of zero

A provider of flat rates takes the discount of a checkout off the lines, or off the delivery where
the voucher is for shipping, and does not let that part fall below zero. Without taxes the discount
comes off both together. With rates of zero the two are the same as long as the discount is no
larger than the part that it comes off.

* `Currency.round_add_iff`: a discount may come off before or after a rounded amount is added.
* `Snapshot.checkoutTotal_of_isZero`: what the provider answers.
* `Snapshot.total_zeroRate`: the total with and without the provider.
* `Snapshot.total_zeroRate_differs_bookshop`: a discount that is larger than the lines.
-/

namespace Storefront

open Decimal (Fits maxPlaces mantissaBound)

/-! ## Rounding the parts of a sum -/

/-- Rounding the rest of a part and adding `d * k` comes to the same as rounding the rest of the
sum, unless more than half of `d` is taken off beyond the part. -/
theorem round_sub_add_iff {d : Nat} (hd : 0 < d) (part k off : Nat) :
    (2 * (part - off) + d) / (2 * d) * d + d * k =
        (2 * (part + d * k - off) + d) / (2 * d) * d ↔
      d * k = 0 ∨ 2 * off ≤ 2 * part + d := by
  rcases Nat.le_total off part with hle | hlt
  · have hsum : 2 * (part + d * k - off) + d = 2 * (part - off) + d + 2 * d * k := by
      rw [Nat.mul_assoc]
      omega
    rw [hsum, Nat.add_mul_div_left _ _ (by omega), Nat.add_mul, Nat.mul_comm k d]
    exact iff_of_true rfl (.inr (by omega))
  · have hhalf : d / (2 * d) = 0 := Nat.div_eq_of_lt (by omega)
    have hnothing : part - off = 0 := by omega
    rw [hnothing, Nat.mul_zero, Nat.zero_add, hhalf, Nat.zero_mul, Nat.zero_add]
    rcases Nat.eq_zero_or_pos k with rfl | hk
    · rw [Nat.mul_zero, Nat.add_zero, hnothing, Nat.mul_zero, Nat.zero_add, hhalf, Nat.zero_mul]
      simp
    · have hpos : d ≤ d * k := Nat.le_mul_of_pos_right d hk
      have hne : d * k ≠ 0 := by omega
      have hscale : k * (2 * d) = 2 * (d * k) := by
        rw [Nat.mul_comm, Nat.mul_assoc]
      rw [Nat.mul_comm d k, Nat.mul_left_inj (by omega : d ≠ 0), Nat.mul_comm k d, eq_comm]
      constructor
      · intro heq
        have hle : k * (2 * d) ≤ 2 * (part + d * k - off) + d :=
          (Nat.le_div_iff_mul_le (by omega)).1 heq.ge
        exact .inr (by omega)
      · intro h
        have hoff := h.resolve_left hne
        rw [Nat.div_eq_iff (by omega)]
        omega

/-- **A discount may come off a part before a rounded amount is added**, or off the sum, if it is no
more than half a minor unit larger than the part. -/
theorem Currency.round_add_iff (c : Currency) {part rest off : Int} (hpart : 0 ≤ part)
    (hrest : 0 ≤ rest) (hoff : 0 ≤ off) (hdvd : (c.minor : Int) ∣ rest) :
    c.round (max 0 (part - off)) + rest = c.round (max 0 (part + rest - off)) ↔
      rest = 0 ∨ 2 * off ≤ 2 * part + c.minor := by
  obtain ⟨part, rfl⟩ := Int.eq_ofNat_of_zero_le hpart
  obtain ⟨rest, rfl⟩ := Int.eq_ofNat_of_zero_le hrest
  obtain ⟨off, rfl⟩ := Int.eq_ofNat_of_zero_le hoff
  obtain ⟨k, rfl⟩ := Int.natCast_dvd_natCast.1 hdvd
  have hmax (a b : Nat) : max 0 ((a : Int) - b) = ((a - b : Nat) : Int) := by omega
  rw [← Int.natCast_add, hmax, hmax, c.round_natCast, c.round_natCast]
  have h := round_sub_add_iff c.minor_pos part k off
  omega

/-! ## Nothing is taxed -/

namespace FlatRates

/-- What holds of all rates holds of that of a country. -/
theorem forall_points {r : FlatRates} {P : Decimal → Prop} (hdefault : P r.default)
    (hcountries : ∀ entry ∈ r.countries, P entry.2) (country : Option String) :
    P ((country.bind (r.countries.lookup ·)).getD r.default) := by
  cases hlookup : country.bind (r.countries.lookup ·) with
  | none => exact hdefault
  | some rate =>
    obtain ⟨name, -, hrate⟩ := Option.bind_eq_some_iff.1 hlookup
    obtain ⟨before, after, hsplit, -⟩ := List.lookup_eq_some_iff.1 hrate
    exact hcountries (name, rate) (by simp [hsplit])

/-- All rates are zero. -/
structure IsZero (r : FlatRates) : Prop where
  default : r.default = 0
  countries : ∀ entry ∈ r.countries, entry.2 = 0

namespace IsZero

variable {r : FlatRates}

theorem rateFor (h : r.IsZero) (country : Option String) : r.rateFor country = .ok 0 := by
  have hpoints : (country.bind (r.countries.lookup ·)).getD r.default = 0 :=
    forall_points (P := (· = 0)) h.default h.countries country
  rw [FlatRates.rateFor, hpoints]
  rfl

theorem shippingRateFor (h : r.IsZero) (country : Option String) :
    r.shippingRateFor country = .ok 0 := by
  unfold FlatRates.shippingRateFor
  split
  · exact h.rateFor country
  · rfl

end IsZero

end FlatRates

/-! ## The two parts of a total -/

namespace Snapshot

variable {s : Snapshot} {r : FlatRates} {subtotal : Money}

/-- Whether the discount comes off the delivery. -/
def discountsDelivery (s : Snapshot) : Bool := s.voucher.any (·.type = .shipping)

/-- The part of the price that the provider takes the discount off. -/
def discountedPart (s : Snapshot) (subtotal : Money) : Money :=
  if s.discountsDelivery then s.deliveryPrice else subtotal

/-- The other part. -/
def otherPart (s : Snapshot) (subtotal : Money) : Money :=
  if s.discountsDelivery then subtotal else s.deliveryPrice

/-- The price of the lines is in minor units. -/
theorem quantize_subtotal (h : s.subtotal = .ok subtotal) : subtotal.quantize = subtotal := by
  obtain ⟨totals, htotals, hsum⟩ := bind_ok h
  refine Money.quantize_foldlM_add (Money.quantize_zero _)
    (forall_mapM_ok (fun l _ total htotal => ?_) htotals) hsum
  obtain ⟨p, hp, htotal⟩ := bind_ok htotal
  cases htotal
  exact CheckoutLine.quantize_of_totalPrice hp

/-- What the discount leaves of its part, and the other part, in the order of lines and delivery. -/
def joinParts (s : Snapshot) (left other : Money) : Except Error Money :=
  if s.discountsDelivery then other.add left else left.add other

/-- **What rates of zero make of a total.** -/
theorem checkoutTotal_of_isZero (hr : r.IsZero) (entryIncludesTax : Bool) (price : Taxed)
    {left sum : Money}
    (hsubtotal : s.subtotal = .ok subtotal)
    (hleft : (s.discountedPart subtotal).sub s.discount = .ok left)
    (hsum : s.joinParts left.floorAtZero.quantize (s.otherPart subtotal) = .ok sum) :
    (r.provider entryIncludesTax).checkoutTotal s price = .ok (.untaxed sum) := by
  have hquantized := quantize_subtotal hsubtotal
  -- the provider, with the amounts that it taxes named
  have hparts (lines shipping : Money) (h : lines.quantize.add shipping.quantize = .ok sum) :
      (Taxed.ofRate lines 0 entryIncludesTax >>= fun taxedLines =>
        Taxed.ofRate shipping 0 entryIncludesTax >>= fun taxedShipping =>
          taxedLines.add taxedShipping) = .ok (.untaxed sum) := by
    rw [Taxed.ofRate_zero, Taxed.ofRate_zero]
    exact Taxed.add_untaxed h
  show Except.mapError Error.asTax (s.subtotal >>= fun subtotal => _) = _
  rw [hsubtotal, ok_bind]
  simp only [hr.rateFor, hr.shippingRateFor, ok_bind]
  unfold discountedPart otherPart joinParts discountsDelivery at *
  cases hdelivery : s.voucher.any (·.type = .shipping) with
  | true =>
    rw [hdelivery] at hleft hsum
    simp only [if_true] at hleft hsum ⊢
    rw [hleft]
    refine congrArg (Except.mapError Error.asTax) (hparts subtotal left.floorAtZero ?_)
    rw [hquantized]
    exact hsum
  | false =>
    rw [hdelivery] at hleft hsum
    simp only [Bool.false_eq_true, if_false] at hleft hsum ⊢
    rw [hleft]
    refine congrArg (Except.mapError Error.asTax) (hparts left.floorAtZero s.deliveryPrice ?_)
    rw [quantize_deliveryPrice]
    exact hsum

/-! ## Both totals -/

section

variable {both : Money}

theorem currency_parts (h : subtotal.add s.deliveryPrice = .ok both) :
    (s.discountedPart subtotal).currency = subtotal.currency ∧
      (s.otherPart subtotal).currency = subtotal.currency := by
  have hsame : subtotal.currency = s.deliveryPrice.currency := (Money.add_ok h).1
  unfold discountedPart otherPart
  split
  · exact ⟨hsame.symm, rfl⟩
  · exact ⟨rfl, hsame.symm⟩

theorem units_parts (s : Snapshot) (subtotal : Money) :
    (s.discountedPart subtotal).amount.units + (s.otherPart subtotal).amount.units =
      s.shipped subtotal := by
  unfold discountedPart otherPart shipped
  split
  · exact Int.add_comm _ _
  · rfl

theorem PricesNonneg.parts (h : s.PricesNonneg) (hsubtotal : s.subtotal = .ok subtotal) :
    0 ≤ (s.discountedPart subtotal).amount ∧ 0 ≤ (s.otherPart subtotal).amount := by
  have hlines := h.subtotal hsubtotal
  have hdelivery := h.deliveryPrice
  unfold discountedPart otherPart
  split
  · exact ⟨hdelivery, hlines⟩
  · exact ⟨hlines, hdelivery⟩

theorem quantize_parts (hsubtotal : s.subtotal = .ok subtotal) :
    (s.discountedPart subtotal).quantize = s.discountedPart subtotal ∧
      (s.otherPart subtotal).quantize = s.otherPart subtotal := by
  have hlines := quantize_subtotal hsubtotal
  have hdelivery := s.quantize_deliveryPrice
  unfold discountedPart otherPart
  split
  · exact ⟨hdelivery, hlines⟩
  · exact ⟨hlines, hdelivery⟩

theorem currency_subtotal (h : s.subtotal = .ok subtotal) :
    subtotal.currency = s.checkout.currency := by
  obtain ⟨totals, -, htotals⟩ := bind_ok h
  exact Money.currency_sum htotals

theorem minor_dvd_parts (hsubtotal : s.subtotal = .ok subtotal)
    (hboth : subtotal.add s.deliveryPrice = .ok both) :
    (s.checkout.currency.minor : Int) ∣ (s.discountedPart subtotal).amount.units ∧
      (s.checkout.currency.minor : Int) ∣ (s.otherPart subtotal).amount.units := by
  obtain ⟨hpart, hother⟩ := currency_parts hboth
  obtain ⟨hpart', hother'⟩ := quantize_parts hsubtotal
  rw [Money.quantize_iff] at hpart' hother'
  rw [hpart, currency_subtotal hsubtotal] at hpart'
  rw [hother, currency_subtotal hsubtotal] at hother'
  exact ⟨hpart', hother'⟩

theorem discount_nonneg (h : 0 ≤ s.checkout.discount.amount) : 0 ≤ s.discount.amount := by
  unfold discount
  split
  · exact Int.le_refl 0
  · exact h

/-- The two parts can be joined in the other order as well. -/
theorem joinParts_ok {left other sum : Money} (hcurrency : left.currency = other.currency)
    (h : s.joinParts left other = .ok sum) :
    sum.currency = other.currency ∧ left.amount.add? other.amount = some sum.amount := by
  unfold joinParts at h
  split at h
  · obtain ⟨-, hsum, hadd⟩ := Money.add_ok h
    refine ⟨hsum, ?_⟩
    rwa [Decimal.add?, Int.add_comm]
  · obtain ⟨-, hsum, hadd⟩ := Money.add_ok h
    exact ⟨hsum.trans hcurrency, hadd⟩

/-- A discount does not leave more than the part, which is in minor units. -/
theorem left_le {left : Money} (hprices : s.PricesNonneg)
    (hdiscount : 0 ≤ s.checkout.discount.amount) (hsubtotal : s.subtotal = .ok subtotal)
    (hleft : (s.discountedPart subtotal).sub s.discount = .ok left) :
    left.floorAtZero.quantize.amount.units ≤ (s.discountedPart subtotal).amount.units := by
  obtain ⟨-, hcurrency, hsub⟩ := Money.sub_ok hleft
  rw [← (quantize_parts hsubtotal).1, Money.units_quantize, Money.units_quantize,
    Money.currency_floorAtZero, hcurrency]
  refine Currency.round_mono _ left.floorAtZero_nonneg ?_
  rw [Money.units_floorAtZero]
  refine Int.max_le.2 ⟨(hprices.parts hsubtotal).1, ?_⟩
  refine Decimal.sub?_mono ?_ hsub (Decimal.sub?_zero _)
  exact Int.sub_le_sub_left (discount_nonneg hdiscount) _

/-- **Where the discount can be taken off both parts together, it can be taken off one of them.** -/
theorem joinParts_of_total {rest : Money} (hprices : s.PricesNonneg)
    (hdiscount : 0 ≤ s.checkout.discount.amount) (hsubtotal : s.subtotal = .ok subtotal)
    (hboth : subtotal.add s.deliveryPrice = .ok both)
    (hrest : both.sub s.discount = .ok rest) :
    ∃ left sum, (s.discountedPart subtotal).sub s.discount = .ok left ∧
      s.joinParts left.floorAtZero.quantize (s.otherPart subtotal) = .ok sum := by
  obtain ⟨hpart, hother⟩ := hprices.parts hsubtotal
  obtain ⟨hcurrency, hcurrency'⟩ := currency_parts hboth
  have hsame : both.currency = s.discount.currency := (Money.sub_ok hrest).1
  have hbothCurrency : both.currency = subtotal.currency := (Money.add_ok hboth).2.1
  obtain ⟨left, hleft⟩ := Money.sub_of_nonneg
    (hcurrency.trans (hbothCurrency.symm.trans hsame)) hpart (discount_nonneg hdiscount)
  have hleftCurrency : left.currency = subtotal.currency := (Money.sub_ok hleft).2.1.trans hcurrency
  have hle := left_le hprices hdiscount hsubtotal hleft
  have hnonneg : 0 ≤ left.floorAtZero.quantize.amount.units :=
    Money.quantize_nonneg left.floorAtZero_nonneg
  have hother : 0 ≤ (s.otherPart subtotal).amount.units := hother
  have htotal := s.units_parts subtotal
  have hjoin : ∃ sum, s.joinParts left.floorAtZero.quantize (s.otherPart subtotal) = .ok sum := by
    have hcurrencies : left.floorAtZero.quantize.currency = (s.otherPart subtotal).currency := by
      rw [Money.currency_quantize, Money.currency_floorAtZero, hleftCurrency, hcurrency']
    unfold shipped at htotal
    unfold joinParts
    split
    · exact Money.add_of_le hcurrencies.symm (by omega) (by omega) hboth
    · exact Money.add_of_le hcurrencies (by omega) (by omega) hboth
  obtain ⟨sum, hsum⟩ := hjoin
  exact ⟨left, sum, hleft, hsum⟩

end

/-- The price that providers are asked about, which no provider has a part in. -/
def beforeTax (s : Snapshot) : Except Error Money := do
  baseTotal (← s.subtotal) s.deliveryPrice s.discount

theorem total_eq (s : Snapshot) (chain : TaxChain) :
    s.total chain = s.beforeTax >>= fun base =>
      chain.checkoutTotal s (.untaxed base) >>= fun price => .ok price.floorAtZero := by
  unfold total beforeTax
  rw [bind_assoc]
  rfl

/-- Without taxes there is a total wherever there is a price to ask about. -/
theorem total_nil_of_ok {base : Money} (h : s.beforeTax = .ok base) :
    s.total [] = .ok (Taxed.untaxed base).quantize.floorAtZero := by
  rw [total_eq, h]
  rfl

theorem beforeTax_ok {base : Money} (h : s.beforeTax = .ok base) :
    ∃ subtotal both rest, s.subtotal = .ok subtotal ∧ subtotal.add s.deliveryPrice = .ok both ∧
      both.sub s.discount = .ok rest := by
  obtain ⟨subtotal, hsubtotal, h⟩ := bind_ok h
  obtain ⟨both, hboth, h⟩ := bind_ok h
  obtain ⟨rest, hrest, -⟩ := bind_ok h
  exact ⟨subtotal, both, rest, hsubtotal, hboth, hrest⟩

/-- **What rates of zero leave of a total**, where there is a price to ask about. -/
theorem total_provider {base : Money} (hr : r.IsZero) (entryIncludesTax : Bool)
    (hprices : s.PricesNonneg) (hdiscount : 0 ≤ s.checkout.discount.amount)
    (hbase : s.beforeTax = .ok base) (hsubtotal : s.subtotal = .ok subtotal) :
    ∃ left sum, (s.discountedPart subtotal).sub s.discount = .ok left ∧
      s.joinParts left.floorAtZero.quantize (s.otherPart subtotal) = .ok sum ∧
      s.total [r.provider entryIncludesTax] = .ok (.untaxed sum.quantize.floorAtZero) := by
  obtain ⟨_, both, rest, hsame, hboth, hrest⟩ := beforeTax_ok hbase
  obtain rfl := Except.ok.inj (hsubtotal.symm.trans hsame)
  obtain ⟨left, sum, hleft, hsum⟩ := joinParts_of_total hprices hdiscount hsubtotal hboth hrest
  have hask := checkoutTotal_of_isZero hr entryIncludesTax (.untaxed base) hsubtotal hleft hsum
  refine ⟨left, sum, hleft, hsum, ?_⟩
  have huntaxed : (Taxed.untaxed base).isTaxed = false := by simp [Taxed.isTaxed, Taxed.untaxed]
  rw [total_eq, hbase, ok_bind, TaxChain.checkoutTotal, TaxChain.price, TaxChain.settle,
    huntaxed, hask]
  rfl

/-- With rates of zero there is no total for the same reasons as without taxes. -/
theorem total_provider_error (hr : r.IsZero) (entryIncludesTax : Bool) (hprices : s.PricesNonneg)
    (hdiscount : 0 ≤ s.checkout.discount.amount) (e : Error) :
    s.total [r.provider entryIncludesTax] = .error e ↔ s.total [] = .error e := by
  cases hbase : s.beforeTax with
  | error e' => rw [total_eq, total_eq, hbase]; rfl
  | ok base =>
    obtain ⟨subtotal, -, -, hsubtotal, -, -⟩ := beforeTax_ok hbase
    obtain ⟨left, sum, -, -, hprovider⟩ :=
      total_provider hr entryIncludesTax hprices hdiscount hbase hsubtotal
    simp [hprovider, total_nil_of_ok hbase]

/-- No sum or difference that the two totals are computed from is rounded. -/
structure AddsExactly (s : Snapshot) (subtotal : Money) : Prop where
  shipped : s.shipped subtotal < (mantissaBound * s.checkout.currency.minor : Nat)
  part : Fits ((s.discountedPart subtotal).amount.units - s.discount.amount.units)
  total : Fits (s.shipped subtotal - s.discount.amount.units)

/-- Amounts of minor units are exact as long as they are no larger than all lines with delivery. -/
theorem AddsExactly.fits {units : Int} (h : s.AddsExactly subtotal) (hnonneg : 0 ≤ units)
    (hle : units ≤ s.shipped subtotal) (hdvd : (s.checkout.currency.minor : Int) ∣ units) :
    Fits units := by
  have hplaces : s.checkout.currency.places ≤ maxPlaces :=
    s.checkout.currency.places_le_four.trans (by decide)
  have hbound := h.shipped
  refine Decimal.fits_of_dvd hplaces hdvd ?_
  unfold Currency.minor at hbound
  omega

/-- What the discount leaves of its part, rounded to minor units. -/
theorem AddsExactly.left {both left : Money} (h : s.AddsExactly subtotal)
    (hsubtotal : s.subtotal = .ok subtotal) (hboth : subtotal.add s.deliveryPrice = .ok both)
    (hleft : (s.discountedPart subtotal).sub s.discount = .ok left) :
    left.currency = s.checkout.currency ∧
      left.floorAtZero.quantize.amount.units = s.checkout.currency.round
        (max 0 ((s.discountedPart subtotal).amount.units - s.discount.amount.units)) := by
  have hcurrency : left.currency = s.checkout.currency :=
    ((Money.sub_ok hleft).2.1.trans (currency_parts hboth).1).trans (currency_subtotal hsubtotal)
  refine ⟨hcurrency, ?_⟩
  rw [Money.units_quantize, Money.currency_floorAtZero, hcurrency, Money.units_floorAtZero,
    Money.units_sub hleft h.part]

/-- **What the provider's total is made of**, where nothing is rounded. -/
theorem AddsExactly.sum {both left sum : Money} (h : s.AddsExactly subtotal)
    (hprices : s.PricesNonneg) (hdiscount : 0 ≤ s.checkout.discount.amount)
    (hsubtotal : s.subtotal = .ok subtotal) (hboth : subtotal.add s.deliveryPrice = .ok both)
    (hleft : (s.discountedPart subtotal).sub s.discount = .ok left)
    (hsum : s.joinParts left.floorAtZero.quantize (s.otherPart subtotal) = .ok sum) :
    sum.currency = s.checkout.currency ∧ sum.quantize.floorAtZero = sum ∧
      sum.amount.units = s.checkout.currency.round
        (max 0 ((s.discountedPart subtotal).amount.units - s.discount.amount.units)) +
          (s.otherPart subtotal).amount.units := by
  obtain ⟨-, hother⟩ := hprices.parts hsubtotal
  obtain ⟨hleftCurrency, hrounded⟩ := h.left hsubtotal hboth hleft
  have hotherCurrency : (s.otherPart subtotal).currency = s.checkout.currency :=
    (currency_parts hboth).2.trans (currency_subtotal hsubtotal)
  obtain ⟨hsumCurrency, hadd⟩ := joinParts_ok (s := s)
    (by rw [Money.currency_quantize, Money.currency_floorAtZero, hleftCurrency, hotherCurrency])
    hsum
  replace hsumCurrency := hsumCurrency.trans hotherCurrency
  have hnonneg : 0 ≤ left.floorAtZero.quantize.amount.units :=
    Money.quantize_nonneg left.floorAtZero_nonneg
  have hle := left_le hprices hdiscount hsubtotal hleft
  have htotal := s.units_parts subtotal
  have hdvd : (s.checkout.currency.minor : Int) ∣
      left.floorAtZero.quantize.amount.units + (s.otherPart subtotal).amount.units := by
    rw [hrounded]
    exact Int.dvd_add (Int.dvd_mul_left ..) (minor_dvd_parts hsubtotal hboth).2
  have hother : 0 ≤ (s.otherPart subtotal).amount.units := hother
  have hfits := h.fits (by omega) (by omega) hdvd
  have hunits : left.floorAtZero.quantize.amount.units + (s.otherPart subtotal).amount.units =
      sum.amount.units := by
    have hexact := Decimal.add?_of_units (c := ⟨_, hfits⟩) rfl
    rw [Option.some.inj (hadd.symm.trans hexact)]
  refine ⟨hsumCurrency, ?_, by rw [← hunits, hrounded]⟩
  have hquantize : sum.quantize = sum := by
    rw [Money.quantize_iff, hsumCurrency, ← hunits]
    exact hdvd
  refine Money.eq_of_units ?_ ?_
  · rw [hquantize, Money.currency_floorAtZero]
  · rw [hquantize, Money.units_floorAtZero, ← hunits]
    exact Int.max_eq_right (by omega)

/-- **What a provider with rates of zero makes of a total.** There is none for the same reasons as
without the provider. Where there is one, the two amounts of it are the same: what the discount
leaves of its part, but not less than zero, with the other part. That is the total without the
provider exactly if there is no other part, or the discount is at most half a minor unit larger than
its part. -/
theorem total_zeroRate (hr : r.IsZero) (entryIncludesTax : Bool) (hprices : s.PricesNonneg)
    (hdiscount : 0 ≤ s.checkout.discount.amount) :
    (∀ e, s.total [r.provider entryIncludesTax] = .error e ↔ s.total [] = .error e) ∧
    ∀ subtotal total, s.subtotal = .ok subtotal → s.total [] = .ok total →
      s.AddsExactly subtotal → ∃ taxed, s.total [r.provider entryIncludesTax] = .ok taxed ∧
        taxed.net = taxed.gross ∧
        taxed.gross.amount.units = s.checkout.currency.round
          (max 0 ((s.discountedPart subtotal).amount.units - s.discount.amount.units)) +
            (s.otherPart subtotal).amount.units ∧
        (taxed = total ↔ (s.otherPart subtotal).amount.units = 0 ∨
          2 * s.discount.amount.units ≤
            2 * (s.discountedPart subtotal).amount.units + s.checkout.currency.minor) := by
  refine ⟨total_provider_error hr entryIncludesTax hprices hdiscount,
    fun subtotal total hsubtotal htotal hexact => ?_⟩
  obtain ⟨base, hbase⟩ : ∃ base, s.beforeTax = .ok base := by
    rw [total_eq] at htotal
    obtain ⟨base, hbase, -⟩ := bind_ok htotal
    exact ⟨base, hbase⟩
  obtain ⟨_, both, rest, hsame, hboth, hrest⟩ := beforeTax_ok hbase
  obtain rfl := Except.ok.inj (hsubtotal.symm.trans hsame)
  obtain ⟨left, sum, hleft, hsum, hprovider⟩ :=
    total_provider hr entryIncludesTax hprices hdiscount hbase hsubtotal
  obtain ⟨hcurrency, hfinal, hunits⟩ :=
    hexact.sum hprices hdiscount hsubtotal hboth hleft hsum
  obtain ⟨hpart, hother⟩ := hprices.parts hsubtotal
  have hparts := s.units_parts subtotal
  refine ⟨_, hprovider, rfl, by rw [hfinal]; exact hunits, ?_⟩
  -- the total without the provider, in units
  obtain ⟨amount, rfl, hamount⟩ := total_untaxed htotal
  obtain ⟨hdvd, hdvd'⟩ := minor_dvd_parts hsubtotal hboth
  have hfits : Fits (s.shipped subtotal) :=
    hexact.fits (hparts ▸ Int.add_nonneg hpart hother) le_rfl (hparts ▸ Int.dvd_add hdvd hdvd')
  have htotalUnits : amount.amount.units = s.checkout.currency.round
      (max 0 ((s.discountedPart subtotal).amount.units + (s.otherPart subtotal).amount.units -
        s.discount.amount.units)) := by
    rw [← hamount, hparts]
    exact (units_total hsubtotal htotal hfits hexact.total).2
  have hround := s.checkout.currency.round_add_iff hpart hother (discount_nonneg hdiscount) hdvd'
  rw [← hround, ← htotalUnits, ← hunits, hfinal]
  refine ⟨fun hequal => by rw [(Taxed.mk.inj hequal).1], fun hequal => ?_⟩
  rw [Money.eq_of_units (hcurrency.trans hamount.symm) hequal]

end Snapshot

/-! ## A copy that is shipped -/

namespace Bookshop

/-- Taxes lines and shipping with nothing. -/
def zeroRates : FlatRates := { chargeTaxesOnShipping := true }

/-- A copy for ten dollars that is shipped for five, with an amount kept as discount. -/
def reducedTables (amount : Decimal) : Tables :=
  { shippedTables with
    checkouts := shippedTables.checkouts.map fun c => { c with discount := ⟨amount, .usd⟩ } }

theorem zeroRates_isZero : zeroRates.IsZero := ⟨rfl, by simp [zeroRates]⟩

end Bookshop

namespace Snapshot

/-- A discount of eight dollars comes off the copy, and the total is the one without taxes. -/
theorem total_zeroRate_bookshop :
    ∃ checkout ∈ (Bookshop.reducedTables (.ofInt 8)).checkouts, ∃ s,
      (Bookshop.attempt 1).snapshot (Bookshop.reducedTables (.ofInt 8)) checkout = .ok s ∧
      Bookshop.zeroRates.IsZero ∧ s.PricesNonneg ∧ 0 ≤ s.checkout.discount.amount ∧
      ∃ subtotal total, s.subtotal = .ok subtotal ∧ s.total [] = .ok total ∧
        s.AddsExactly subtotal ∧ s.total [Bookshop.zeroRates.provider true] = .ok total := by
  have heval : ∃ checkout ∈ (Bookshop.reducedTables (.ofInt 8)).checkouts,
      ((Bookshop.attempt 1).snapshot (Bookshop.reducedTables (.ofInt 8))
        checkout).toOption.any (fun s =>
        (∀ l ∈ s.lines, 0 ≤ l.price.amount) ∧ (∀ price ∈ s.delivery.price?, 0 ≤ price.amount) ∧
        0 ≤ s.checkout.discount.amount ∧ s.subtotal.toOption.any fun subtotal =>
          (s.total []).toOption.any fun _ =>
            s.shipped subtotal = (Decimal.ofInt 15).units ∧
            (s.discountedPart subtotal).amount.units = (Decimal.ofInt 10).units ∧
            s.discount.amount.units = (Decimal.ofInt 8).units ∧
            s.checkout.currency = .usd) = true := by
    decide +kernel
  obtain ⟨checkout, hcheckout, hsnapshot⟩ := heval
  obtain ⟨s, hs, hsnapshot⟩ := ok_of_any hsnapshot
  obtain ⟨hlines, hdelivery, hdiscount, hsubtotal⟩ := of_decide_eq_true hsnapshot
  obtain ⟨subtotal, hsubtotal, htotal⟩ := ok_of_any hsubtotal
  obtain ⟨total, htotal, hunits⟩ := ok_of_any htotal
  obtain ⟨hshipped, hpart, hoff, hcurrency⟩ := of_decide_eq_true hunits
  have hexact : s.AddsExactly subtotal := by
    refine ⟨?_, ?_, ?_⟩
    · rw [hshipped, hcurrency]
      decide +kernel
    · rw [hpart, hoff]
      exact Decimal.fits (.ofInt 2)
    · rw [hshipped, hoff]
      exact Decimal.fits (.ofInt 7)
  obtain ⟨-, hprovider⟩ :=
    total_zeroRate Bookshop.zeroRates_isZero true ⟨hlines, hdelivery⟩ hdiscount
  obtain ⟨taxed, htaxed, -, -, hiff⟩ := hprovider subtotal total hsubtotal htotal hexact
  have hsame : taxed = total := hiff.2 (.inr (by rw [hpart, hoff, hcurrency]; decide +kernel))
  exact ⟨checkout, hcheckout, s, hs, Bookshop.zeroRates_isZero, ⟨hlines, hdelivery⟩, hdiscount,
    subtotal, total, hsubtotal, htotal, hexact, hsame ▸ htaxed⟩

/-- **Rates of zero make a total larger**: twenty dollars are more than the copy and its delivery
together, and the provider takes them off the copy only. -/
theorem total_zeroRate_differs_bookshop :
    Bookshop.zeroRates.IsZero ∧
    ∃ checkout ∈ (Bookshop.reducedTables (.ofInt 20)).checkouts, ∃ s,
      (Bookshop.attempt 1).snapshot (Bookshop.reducedTables (.ofInt 20)) checkout = .ok s ∧
      s.PricesNonneg ∧ 0 ≤ s.checkout.discount.amount ∧
      s.total [] = .ok (.untaxed ⟨0, .usd⟩) ∧
      s.total [Bookshop.zeroRates.provider true] = .ok (.untaxed ⟨.ofInt 5, .usd⟩) := by
  have heval : ∃ checkout ∈ (Bookshop.reducedTables (.ofInt 20)).checkouts,
      ((Bookshop.attempt 1).snapshot (Bookshop.reducedTables (.ofInt 20))
        checkout).toOption.any (fun s =>
        (∀ l ∈ s.lines, 0 ≤ l.price.amount) ∧ (∀ price ∈ s.delivery.price?, 0 ≤ price.amount) ∧
        0 ≤ s.checkout.discount.amount ∧ s.total [] = .ok (.untaxed ⟨0, .usd⟩) ∧
        s.total [Bookshop.zeroRates.provider true] = .ok (.untaxed ⟨.ofInt 5, .usd⟩)) = true := by
    decide +kernel
  obtain ⟨checkout, hcheckout, hsnapshot⟩ := heval
  obtain ⟨s, hs, hsnapshot⟩ := ok_of_any hsnapshot
  obtain ⟨hlines, hdelivery, hdiscount, htotal, hprovider⟩ := of_decide_eq_true hsnapshot
  exact ⟨Bookshop.zeroRates_isZero, checkout, hcheckout, s, hs, ⟨hlines, hdelivery⟩, hdiscount,
    htotal, hprovider⟩

end Snapshot

end Storefront
