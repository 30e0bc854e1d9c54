import Storefront.Proofs.Checkout.PriceOrder
import Storefront.Proofs.Completion.Recalculation
import Storefront.Proofs.Tax.ZeroRate

/-!
# Flat taxes

Without providers of taxes, and with one that has flat rates, a checkout is taxed in one way: each
price at the rate of its country, where no taxes are a rate of zero.

* `FlatTax`: no taxes, or the flat rates of one provider.
* `Snapshot.PricedAlike`: chains that answer alike, such as one of several providers of which the
  first taxes everything.
* `FlatTax.lineTotal_ok`, `FlatTax.lineUnit_ok`, `FlatTax.shipping_ok`: the prices of an order.
* `FlatTax.total_ok`: **a total is no more than what is left of the lines and of the delivery**,
  each with its taxes.
-/

namespace Storefront

/-- No rate is negative. -/
structure FlatRates.IsNonneg (r : FlatRates) : Prop where
  default : 0 ≤ r.default
  countries : ∀ entry ∈ r.countries, 0 ≤ entry.2

theorem FlatRates.IsNonneg.rateFor {r : FlatRates} {country : Option String} {rate : Decimal}
    (h : r.IsNonneg) (hrate : r.rateFor country = .ok rate) : 0 ≤ rate := by
  have hdiv := orFail_ok hrate
  obtain ⟨_, hsome, hnonneg⟩ :=
    ((country.bind (r.countries.lookup ·)).getD r.default).div?_hundred
  obtain rfl := Option.some.inj (hsome.symm.trans hdiv)
  exact hnonneg (FlatRates.forall_points h.default h.countries country)

/-- All providers of the chain have flat rates, none of which is negative. -/
def TaxChain.IsFlat (chain : TaxChain) : Prop :=
  ∀ provider ∈ chain, ∃ r entryIncludesTax,
    FlatRates.IsNonneg r ∧ provider = r.provider entryIncludesTax

/-- What taxes a checkout: nothing, or the flat rates of one provider. -/
inductive FlatTax where
  | none
  | rates (r : FlatRates) (includesTax : Bool)

namespace FlatTax

variable {x : FlatTax} {s : Snapshot} {m : Money} {p : Taxed}

def chain : FlatTax → TaxChain
  | none => []
  | rates r includesTax => [r.provider includesTax]

/-- Whether the prices that are entered include tax, which is nothing without rates. -/
def entryIncludesTax : FlatTax → Bool
  | none => false
  | rates _ includesTax => includesTax

def rateFor (x : FlatTax) (s : Snapshot) : Except Error Decimal :=
  match x with
  | none => .ok 0
  | rates r _ => r.rateFor (some s.country)

def shippingRateFor (x : FlatTax) (s : Snapshot) : Except Error Decimal :=
  match x with
  | none => .ok 0
  | rates r _ => r.shippingRateFor (some s.country)

def IsNonneg : FlatTax → Prop
  | none => True
  | rates r _ => r.IsNonneg

namespace IsNonneg

variable {rate : Decimal} (hx : x.IsNonneg)

include hx

theorem rateFor (h : x.rateFor s = .ok rate) : 0 ≤ rate := by
  cases x with
  | none =>
    cases h
    exact Int.le_refl 0
  | rates r _ => exact FlatRates.IsNonneg.rateFor hx h

theorem shippingRateFor (h : x.shippingRateFor s = .ok rate) : 0 ≤ rate := by
  cases x with
  | none =>
    cases h
    exact Int.le_refl 0
  | rates r _ =>
    unfold FlatTax.shippingRateFor FlatRates.shippingRateFor at h
    dsimp only at h
    split at h
    · exact FlatRates.IsNonneg.rateFor hx h
    · cases h
      exact Int.le_refl 0

end IsNonneg

/-- A price is taxed at the rate that the provider is asked for. -/
theorem price_ok {ask : TaxProvider → Taxed → Except Error Taxed} {rate : Except Error Decimal}
    (hask : ∀ r includesTax, x = rates r includesTax → ∀ price,
      ask (r.provider includesTax) price = do Taxed.ofRate price.gross (← rate) includesTax)
    (hnone : x = none → rate = .ok 0) (h : x.chain.price ask (.untaxed m) = .ok p) :
    ∃ points, rate = .ok points ∧ Taxed.ofRate m points x.entryIncludesTax = .ok p := by
  cases x with
  | none =>
    cases h
    exact ⟨0, hnone rfl, Taxed.ofRate_zero ..⟩
  | rates r includesTax =>
    obtain ⟨settled, hsettled, h⟩ := bind_ok h
    cases h
    rw [chain, TaxChain.settle, Taxed.isTaxed_untaxed, if_neg Bool.false_ne_true,
      hask r includesTax rfl] at hsettled
    obtain ⟨answer, hanswer, hsettled⟩ := bind_ok hsettled
    cases hsettled
    obtain ⟨points, hpoints, hanswer⟩ := bind_ok hanswer
    exact ⟨points, hpoints, by rw [(Taxed.ofRate_rounded hanswer).2]; exact hanswer⟩

theorem lineTotal_ok {l : CheckoutLine}
    (h : x.chain.checkoutLineTotal s l (.untaxed m) = .ok p) :
    ∃ rate, x.rateFor s = .ok rate ∧ Taxed.ofRate m rate x.entryIncludesTax = .ok p :=
  price_ok (by rintro r _ rfl _; rfl) (by rintro rfl; rfl) h

theorem lineUnit_ok {l : CheckoutLine}
    (h : x.chain.checkoutLineUnit s l (.untaxed m) = .ok p) :
    ∃ rate, x.rateFor s = .ok rate ∧ Taxed.ofRate m rate x.entryIncludesTax = .ok p :=
  price_ok (by rintro r _ rfl _; rfl) (by rintro rfl; rfl) h

theorem shipping_ok (h : s.shippingPrice x.chain = .ok p) :
    ∃ rate, x.shippingRateFor s = .ok rate ∧
      Taxed.ofRate s.deliveryPrice rate x.entryIncludesTax = .ok p :=
  price_ok (by rintro r _ rfl _; rfl) (by rintro rfl; rfl) h

/-! ## Totals -/

/-- A price is no more than `sum`: what a discount leaves of the lines and of the delivery, each
with its taxes. -/
structure Bounds (x : FlatTax) (s : Snapshot) (price : Taxed) (subtotal left leftDelivery : Money)
    (lines delivery sum : Taxed) : Prop where
  priced : s.subtotal = .ok subtotal
  currency : s.deliveryPrice.currency = subtotal.currency
  leftOfLines : left.IsPartOf subtotal
  leftOfDelivery : leftDelivery.IsPartOf s.deliveryPrice
  taxedLines : ∃ rate, x.rateFor s = .ok rate ∧
    Taxed.ofRate left rate x.entryIncludesTax = .ok lines
  taxedDelivery : ∃ rate, x.shippingRateFor s = .ok rate ∧
    Taxed.ofRate leftDelivery rate x.entryIncludesTax = .ok delivery
  together : lines.add delivery = .ok sum
  le : ∀ gross, (price.part gross).amount ≤ (sum.part gross).amount

theorem total_none {price : Taxed} (hprices : s.PricesNonneg)
    (hdiscount : 0 ≤ s.checkout.discount.amount) (h : s.total none.chain = .ok price) :
    ∃ subtotal left leftDelivery lines delivery sum,
      none.Bounds s price subtotal left leftDelivery lines delivery sum := by
  obtain ⟨subtotal, shipped, left, hsubtotal, hshipped, hleft, rfl⟩ :=
    Snapshot.total_of_passesThrough (show TaxChain.PassesThrough [] from nofun) h
  have hlines := hprices.subtotal hsubtotal
  have hwhole := Snapshot.quantize_subtotal hsubtotal
  refine ⟨subtotal, subtotal, s.deliveryPrice, .untaxed subtotal, .untaxed s.deliveryPrice,
    .untaxed shipped, {
      priced := hsubtotal
      currency := (Money.add_ok hshipped).1.symm
      leftOfLines := .self hlines
      leftOfDelivery := .self hprices.deliveryPrice
      taxedLines := ⟨0, rfl, by rw [Taxed.ofRate_zero, hwhole]⟩
      taxedDelivery := ⟨0, rfl, by rw [Taxed.ofRate_zero, Snapshot.quantize_deliveryPrice]⟩
      together := Taxed.add_untaxed hshipped
      le := fun gross => ?_ }⟩
  rw [Taxed.part_untaxed, Taxed.part_untaxed]
  have hpart : left.floorAtZero.IsPartOf shipped :=
    .of_sub (Money.add_nonneg hlines hprices.deliveryPrice hshipped)
      (Snapshot.discount_nonneg hdiscount) hleft
  have hrounded := hpart.quantize
  rw [Money.quantize_add hwhole (Snapshot.quantize_deliveryPrice _) hshipped] at hrounded
  exact (Money.IsPartOf.floorAtZero hrounded.whole_nonneg hrounded.currency hrounded.le).le

/-- What the provider answers when it is asked for a total. -/
theorem checkoutTotal_ok {r : FlatRates} {includesTax : Bool} {price answer : Taxed}
    (hprices : s.PricesNonneg) (hdiscount : 0 ≤ s.checkout.discount.amount)
    (h : (r.provider includesTax).checkoutTotal s price = .ok answer) :
    ∃ subtotal left leftDelivery lines delivery, s.subtotal = .ok subtotal ∧
      left.IsPartOf subtotal ∧ leftDelivery.IsPartOf s.deliveryPrice ∧
      (∃ rate, r.rateFor (some s.country) = .ok rate ∧
        Taxed.ofRate left rate includesTax = .ok lines) ∧
      (∃ rate, r.shippingRateFor (some s.country) = .ok rate ∧
        Taxed.ofRate leftDelivery rate includesTax = .ok delivery) ∧
      lines.add delivery = .ok answer := by
  have h : Except.mapError Error.asTax (s.subtotal >>= fun subtotal => _) = .ok answer := h
  obtain ⟨subtotal, hsubtotal, h⟩ := bind_ok (mapError_ok h)
  have hdiscount := Snapshot.discount_nonneg hdiscount
  have hlines := hprices.subtotal hsubtotal
  -- the discount comes off one of the two parts
  obtain ⟨left, leftDelivery, hleft, hleftDelivery, h⟩ : ∃ left leftDelivery : Money,
      left.IsPartOf subtotal ∧ leftDelivery.IsPartOf s.deliveryPrice ∧ (do
        let lines ← Taxed.ofRate left (← r.rateFor (some s.country)) includesTax
        let delivery ←
          Taxed.ofRate leftDelivery (← r.shippingRateFor (some s.country)) includesTax
        lines.add delivery) = Except.ok answer := by
    cases hvoucher : s.voucher.any (·.type = .shipping) with
    | true =>
      simp only [hvoucher, if_true] at h
      obtain ⟨_, hself, h⟩ := bind_ok h
      cases hself
      obtain ⟨leftDelivery, hleft, h⟩ := bind_ok h
      obtain ⟨rest, hrest, rfl⟩ := map_ok hleft
      exact ⟨subtotal, _, .self hlines, .of_sub hprices.deliveryPrice hdiscount hrest, h⟩
    | false =>
      simp only [hvoucher, Bool.false_eq_true, if_false] at h
      obtain ⟨left, hleft, h⟩ := bind_ok h
      obtain ⟨rest, hrest, rfl⟩ := map_ok hleft
      exact ⟨_, s.deliveryPrice, .of_sub hlines hdiscount hrest, .self hprices.deliveryPrice, h⟩
  obtain ⟨rate, hrate, h⟩ := bind_ok h
  obtain ⟨lines, hlines, h⟩ := bind_ok h
  obtain ⟨deliveryRate, hdeliveryRate, h⟩ := bind_ok h
  obtain ⟨delivery, hdelivery, h⟩ := bind_ok h
  exact ⟨subtotal, left, leftDelivery, lines, delivery, hsubtotal, hleft, hleftDelivery,
    ⟨rate, hrate, hlines⟩, ⟨deliveryRate, hdeliveryRate, hdelivery⟩, h⟩

theorem total_rates {r : FlatRates} {includesTax : Bool} {price : Taxed}
    (hx : (rates r includesTax).IsNonneg) (hprices : s.PricesNonneg)
    (hdiscount : 0 ≤ s.checkout.discount.amount)
    (h : s.total (rates r includesTax).chain = .ok price) :
    ∃ subtotal left leftDelivery lines delivery sum,
      (rates r includesTax).Bounds s price subtotal left leftDelivery lines delivery sum := by
  rw [Snapshot.total_eq] at h
  obtain ⟨base, hbase, h⟩ := bind_ok h
  obtain ⟨_, both, rest, hsubtotal', hboth, -⟩ := Snapshot.beforeTax_ok hbase
  obtain ⟨total, htotal, h⟩ := bind_ok h
  cases h
  obtain ⟨settled, hsettled, htotal⟩ := bind_ok htotal
  cases htotal
  rw [chain, TaxChain.settle, Taxed.isTaxed_untaxed, if_neg Bool.false_ne_true] at hsettled
  obtain ⟨answer, hanswer, hsettled⟩ := bind_ok hsettled
  cases hsettled
  obtain ⟨subtotal, left, leftDelivery, lines, delivery, hsubtotal, hleft, hleftDelivery,
    ⟨rate, hrate, hlines⟩, ⟨deliveryRate, hdeliveryRate, hdelivery⟩, hsum⟩ :=
    checkoutTotal_ok hprices hdiscount hanswer
  obtain rfl := Except.ok.inj (hsubtotal.symm.trans hsubtotal')
  refine ⟨subtotal, left, leftDelivery, lines, delivery, settled, {
    priced := hsubtotal
    currency := (Money.add_ok hboth).1.symm
    leftOfLines := hleft
    leftOfDelivery := hleftDelivery
    taxedLines := ⟨rate, hrate, hlines⟩
    taxedDelivery := ⟨deliveryRate, hdeliveryRate, hdelivery⟩
    together := hsum
    le := fun gross => ?_ }⟩
  have hadd := Taxed.add_part hsum gross
  have hwhole : (settled.part gross).quantize = settled.part gross :=
    Money.quantize_add (Taxed.quantize_ofRate hlines gross) (Taxed.quantize_ofRate hdelivery gross)
      hadd
  have hnonneg : 0 ≤ (settled.part gross).amount :=
    Money.add_nonneg
      (Taxed.ofRate_nonneg (hx.rateFor (s := s) hrate) hleft.nonneg hlines gross)
      (Taxed.ofRate_nonneg (hx.shippingRateFor (s := s) hdeliveryRate) hleftDelivery.nonneg
        hdelivery gross) hadd
  rw [Taxed.part_floorAtZero, Taxed.part_quantize, hwhole]
  exact (Money.IsPartOf.floorAtZero hnonneg rfl (Int.le_refl _)).le

/-- **A total is no more than what is left of the lines and of the delivery**, each with its
taxes. -/
theorem total_ok {price : Taxed} (hx : x.IsNonneg) (hprices : s.PricesNonneg)
    (hdiscount : 0 ≤ s.checkout.discount.amount) (h : s.total x.chain = .ok price) :
    ∃ subtotal left leftDelivery lines delivery sum,
      x.Bounds s price subtotal left leftDelivery lines delivery sum := by
  cases x with
  | none => exact total_none hprices hdiscount h
  | rates r includesTax => exact total_rates hx hprices hdiscount h

end FlatTax

/-! ## Chains that answer alike -/

namespace Snapshot

/-- The chains answer alike to what they are asked while an order is planned. Chains of several
providers need not answer like one of them, as a price that rounding leaves untaxed goes on to the
next. -/
structure PricedAlike (s : Snapshot) (chain chain' : TaxChain) : Prop where
  lines : ∀ l ∈ s.lines, s.lineTotal chain l = s.lineTotal chain' l
  items : ∀ l ∈ s.lines, ∀ unit, l.unitPrice s.channel.id s.sales = .ok unit →
    chain.checkoutLineUnit s l (.untaxed unit.undiscounted) =
      chain'.checkoutLineUnit s l (.untaxed unit.undiscounted)
  shipping : s.shippingPrice chain = s.shippingPrice chain'
  total : s.total chain = s.total chain'

theorem PricedAlike.refl (s : Snapshot) (chain : TaxChain) : s.PricedAlike chain chain :=
  ⟨fun _ _ => rfl, fun _ _ _ _ => rfl, rfl, rfl⟩

end Snapshot

end Storefront
