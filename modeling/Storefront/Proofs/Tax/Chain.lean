import Storefront.Proofs.Checkout.OrderLines
import Storefront.Proofs.Completion.Total
import Storefront.Tax.FlatRate

/-!
# Providers behind one that has taxed a price

A chain stops at the provider that settles the tax of a price. The rate that is recorded for the
price does not stop there: the providers behind may change it again.

* `TaxChain.price_append`: a taxed price is the same, whatever providers are put behind.
* `TaxChain.rate_append`: a rate goes through all of them.
* `Snapshot.rates_kept_iff`: the rates of an order stay the ones of the providers that have taxed it
  exactly where the providers behind leave them as they are.
* `Attempt.misrates_bookshop`: the recorded rate is not the one that the price was taxed with.
-/

namespace Storefront

namespace TaxChain

variable {ask : TaxProvider → Taxed → Except Error Taxed} {front : TaxChain}

theorem settle_of_isTaxed (chain : TaxChain) {price : Taxed} (h : price.isTaxed = true) :
    chain.settle ask price = .ok price := by
  cases chain with
  | nil => rfl
  | cons provider rest => rw [settle, if_pos h]

/-- A chain comes to the same where each of its providers gives the same answers. -/
theorem settle_congr {ask' : TaxProvider → Taxed → Except Error Taxed} {chain : TaxChain}
    (h : ∀ provider ∈ chain, ask provider = ask' provider) (price : Taxed) :
    chain.settle ask price = chain.settle ask' price := by
  induction chain generalizing price with
  | nil => rfl
  | cons provider rest ih =>
    obtain ⟨hprovider, hrest⟩ := List.forall_mem_cons.1 h
    rw [settle, settle, hprovider]
    split
    · rfl
    · exact bind_congr fun next => ih hrest next

theorem price_congr {ask' : TaxProvider → Taxed → Except Error Taxed} {chain : TaxChain}
    (h : ∀ provider ∈ chain, ask provider = ask' provider) (initial : Taxed) :
    chain.price ask initial = chain.price ask' initial := by
  rw [price, price, settle_congr h]

theorem rate_congr {ask ask' : TaxProvider → Decimal → Except Error Decimal} {chain : TaxChain}
    (h : ∀ provider ∈ chain, ask provider = ask' provider) (initial : Decimal) :
    chain.rate ask initial = chain.rate ask' initial := by
  unfold rate
  induction chain generalizing initial with
  | nil => rfl
  | cons provider rest ih =>
    obtain ⟨hprovider, hrest⟩ := List.forall_mem_cons.1 h
    rw [List.foldlM_cons, List.foldlM_cons, hprovider]
    exact bind_congr fun next => ih hrest next

/-- The providers behind others are asked about the price that those have come to. -/
theorem settle_append (front back : TaxChain) (price : Taxed) :
    (front ++ back).settle ask price = front.settle ask price >>= back.settle ask := by
  induction front generalizing price with
  | nil => rfl
  | cons provider rest ih =>
    rw [List.cons_append, settle, settle]
    cases htaxed : price.isTaxed with
    | true => exact (settle_of_isTaxed back htaxed).symm
    | false =>
      rw [if_neg Bool.false_ne_true, if_neg Bool.false_ne_true, bind_assoc]
      exact bind_congr fun next => ih next

/-- A price is not taxed by being rounded. -/
theorem isTaxed_of_quantize {price : Taxed} (h : price.quantize.isTaxed = true) :
    price.isTaxed = true := by
  have hrounded : price.net.quantize ≠ price.gross.quantize := of_decide_eq_true h
  exact decide_eq_true fun hsame => hrounded (congrArg Money.quantize hsame)

/-- **A taxed price is settled**, whatever providers are put behind those that have taxed it. -/
theorem price_append {initial price : Taxed} (h : front.price ask initial = .ok price)
    (htaxed : price.isTaxed = true) (back : TaxChain) :
    (front ++ back).price ask initial = .ok price := by
  obtain ⟨settled, hsettled, h⟩ := bind_ok h
  obtain rfl := Except.ok.inj h
  rw [TaxChain.price, settle_append, hsettled]
  show (back.settle ask settled >>= fun p => .ok p.quantize) = _
  rw [settle_of_isTaxed back (isTaxed_of_quantize htaxed)]
  rfl

/-- **A rate goes through all providers.** -/
theorem rate_append (front back : TaxChain) (ask : TaxProvider → Decimal → Except Error Decimal)
    (initial : Decimal) :
    (front ++ back).rate ask initial = front.rate ask initial >>= back.rate ask :=
  List.foldlM_append ..

end TaxChain

namespace Snapshot

variable {s : Snapshot} {front : TaxChain}

theorem lineTaxRateOf_append (front back : TaxChain) (l : CheckoutLine) (total : Taxed) :
    s.lineTaxRateOf (front ++ back) l total =
      s.lineTaxRateOf front l total >>= back.checkoutLineRate s l := by
  unfold lineTaxRateOf
  rw [bind_assoc]
  exact bind_congr fun rate => TaxChain.rate_append ..

theorem shippingTaxRateOf_append (front back : TaxChain) (price : Taxed) :
    s.shippingTaxRateOf (front ++ back) price =
      s.shippingTaxRateOf front price >>= back.checkoutShippingRate s := by
  unfold shippingTaxRateOf
  rw [bind_assoc]
  exact bind_congr fun rate => TaxChain.rate_append ..

/-- A line that has been taxed costs the same with providers put behind, and its rate is what those
make of the rate it had. -/
theorem Prices.append {l : CheckoutLine} {line line' : OrderLine} {back : TaxChain}
    (h : s.Prices front l line) (h' : s.Prices (front ++ back) l line')
    (htaxed : line.totalPrice.isTaxed = true) :
    line'.totalPrice = line.totalPrice ∧
      back.checkoutLineRate s l line.taxRate = .ok line'.taxRate := by
  obtain ⟨base, hbase, htotal⟩ := bind_ok h.total
  obtain ⟨base', hbase', htotal'⟩ := bind_ok h'.total
  obtain rfl := Except.ok.inj (hbase.symm.trans hbase')
  have hsame : line'.totalPrice = line.totalPrice :=
    Except.ok.inj (htotal'.symm.trans (TaxChain.price_append htotal htaxed back))
  refine ⟨hsame, ?_⟩
  have hrate := h'.taxRate
  rw [hsame, lineTaxRateOf_append, h.taxRate] at hrate
  exact hrate

/-- Shipping that has been taxed costs the same with providers put behind, and its rate is what
those make of the rate it had. -/
theorem plan_shipping_append {ids ids' : FreshIds} {balance balance' : Money} {p p' : OrderPlan}
    {back : TaxChain} (h : s.plan front ids balance = .ok p)
    (h' : s.plan (front ++ back) ids' balance' = .ok p') (htaxed : p.shippingPrice.isTaxed = true) :
    p'.shippingPrice = p.shippingPrice ∧
      back.checkoutShippingRate s p.shippingTaxRate = .ok p'.shippingTaxRate := by
  obtain ⟨-, hprice, hrate⟩ := plan_shipping h
  obtain ⟨-, hprice', hrate'⟩ := plan_shipping h'
  have hsame : p'.shippingPrice = p.shippingPrice :=
    Except.ok.inj (hprice'.symm.trans (TaxChain.price_append hprice htaxed back))
  refine ⟨hsame, ?_⟩
  rw [hsame, shippingTaxRateOf_append, hrate] at hrate'
  exact hrate'

/-- **Whose rate is recorded**, for a line and for shipping that some providers have taxed. Whatever
other providers are put behind, the price is the same. The rate is the same exactly where the others
leave it as it is. -/
theorem rates_kept_iff (s : Snapshot) (front back : TaxChain) :
    (∀ order id l line line', s.orderLine front order id l = .ok line →
      s.orderLine (front ++ back) order id l = .ok line' → line.totalPrice.isTaxed = true →
      line'.totalPrice = line.totalPrice ∧
        (line'.taxRate = line.taxRate ↔
          back.checkoutLineRate s l line.taxRate = .ok line.taxRate)) ∧
    ∀ ids balance p p', s.plan front ids balance = .ok p →
      s.plan (front ++ back) ids balance = .ok p' → p.shippingPrice.isTaxed = true →
      p'.shippingPrice = p.shippingPrice ∧
        (p'.shippingTaxRate = p.shippingTaxRate ↔
          back.checkoutShippingRate s p.shippingTaxRate = .ok p.shippingTaxRate) := by
  have hkept {rate rate' : Decimal} {asked : Except Error Decimal} (hasked : asked = .ok rate') :
      rate' = rate ↔ asked = .ok rate := by
    rw [hasked, Except.ok.injEq]
  refine ⟨fun order id l line line' hline hline' htaxed => ?_,
    fun ids balance p p' hp hp' htaxed => ?_⟩
  · obtain ⟨hsame, hrate⟩ := (orderLine_prices hline).append (orderLine_prices hline') htaxed
    exact ⟨hsame, hkept hrate⟩
  · obtain ⟨hsame, hrate⟩ := plan_shipping_append hp hp' htaxed
    exact ⟨hsame, hkept hrate⟩

end Snapshot

/-! ## Two providers with a rate -/

namespace Bookshop

/-- A copy for ten dollars that is shipped for five. -/
def shippedTables : Tables :=
  { tables with
    variants := tables.variants.map fun v => { v with isShippingRequired := true }
    variantListings := [⟨⟨⟨4⟩⟩, ⟨⟨3⟩⟩, channel.id, some ⟨.ofInt 10, .usd⟩, none, none⟩]
    shippingMethods := [⟨⟨⟨13⟩⟩, "Van", ["US"], true⟩]
    shippingListings := [⟨⟨⟨13⟩⟩, channel.id, ⟨.ofInt 5, .usd⟩, none, none⟩]
    checkouts := tables.checkouts.map fun c =>
      { c with shippingAddress := some { country := "US" }, deliveryChoice := .shipping ⟨⟨13⟩⟩ }
    payments := tables.payments.map fun p => { p with total := ⟨100, .usd⟩ } }

/-- Taxes everything with a rate in percent. Prices are entered without tax. -/
def vat (percent : Decimal) : TaxProvider :=
  FlatRates.provider { default := percent, chargeTaxesOnShipping := true } false

end Bookshop

namespace Snapshot

/-- A provider with twenty percent is put behind one that has taxed the copy and its delivery. -/
theorem rates_kept_iff_bookshop :
    ∃ checkout ∈ Bookshop.shippedTables.checkouts, ∃ s,
      (Bookshop.attempt 1).snapshot Bookshop.shippedTables checkout = .ok s ∧ ∃ l ∈ s.lines,
      ∃ line line' p p',
        s.orderLine [Bookshop.vat 100] ⟨⟨1⟩⟩ ⟨⟨1⟩⟩ l = .ok line ∧
        s.orderLine ([Bookshop.vat 100] ++ [Bookshop.vat (.ofInt 20)]) ⟨⟨1⟩⟩ ⟨⟨1⟩⟩ l = .ok line' ∧
        line.totalPrice.isTaxed = true ∧
        s.plan [Bookshop.vat 100] (Bookshop.attempt 1).ids (Money.zero .usd) = .ok p ∧
        s.plan ([Bookshop.vat 100] ++ [Bookshop.vat (.ofInt 20)]) (Bookshop.attempt 1).ids
          (Money.zero .usd) = .ok p' ∧
        p.shippingPrice.isTaxed = true ∧
        line'.totalPrice = line.totalPrice ∧ p'.shippingPrice = p.shippingPrice := by
  have heval : ∃ checkout ∈ Bookshop.shippedTables.checkouts,
      ((Bookshop.attempt 1).snapshot Bookshop.shippedTables checkout).toOption.any (fun s =>
        (∃ l ∈ s.lines,
          (s.orderLine [Bookshop.vat 100] ⟨⟨1⟩⟩ ⟨⟨1⟩⟩ l).toOption.any (·.totalPrice.isTaxed) ∧
          (s.orderLine ([Bookshop.vat 100] ++ [Bookshop.vat (.ofInt 20)]) ⟨⟨1⟩⟩ ⟨⟨1⟩⟩
            l).toOption.any fun _ => true) ∧
        (s.plan [Bookshop.vat 100] (Bookshop.attempt 1).ids (Money.zero .usd)).toOption.any
          (·.shippingPrice.isTaxed) ∧
        (s.plan ([Bookshop.vat 100] ++ [Bookshop.vat (.ofInt 20)]) (Bookshop.attempt 1).ids
          (Money.zero .usd)).toOption.any fun _ => true) = true := by
    decide +kernel
  obtain ⟨checkout, hcheckout, hsnapshot⟩ := heval
  obtain ⟨s, hs, hsnapshot⟩ := ok_of_any hsnapshot
  obtain ⟨⟨l, hl, hline, hline'⟩, hp, hp'⟩ := of_decide_eq_true hsnapshot
  obtain ⟨line, hline, hlineTaxed⟩ := ok_of_any hline
  obtain ⟨line', hline', -⟩ := ok_of_any hline'
  obtain ⟨p, hp, hshippingTaxed⟩ := ok_of_any hp
  obtain ⟨p', hp', -⟩ := ok_of_any hp'
  obtain ⟨hlines, hshipping⟩ := rates_kept_iff s [Bookshop.vat 100] [Bookshop.vat (.ofInt 20)]
  exact ⟨checkout, hcheckout, s, hs, l, hl, line, line', p, p', hline, hline', hlineTaxed, hp, hp',
    hshippingTaxed, (hlines _ _ _ _ _ hline hline' hlineTaxed).1,
    (hshipping _ _ _ _ hp hp' hshippingTaxed).1⟩

end Snapshot

namespace Attempt

/-- **The recorded rates are not those of the provider that has taxed the order**: one that is put
behind changes no price of a line or of shipping, as all of them are taxed, and yet it changes their
rates. -/
def Misrates (a : Attempt) (behind : TaxProvider)
    (gateway : Payment → Tables → Except Error GatewayResponse × Tables) (t : Tables) : Prop :=
  ∃ notice ∈ (a.complete gateway t).events.filterMap Event.notice?,
    ∃ notice' ∈ (({ a with taxes := a.taxes ++ [behind] } : Attempt).complete gateway
      t).events.filterMap Event.notice?,
    (∀ l ∈ notice.lines, l.totalPrice.isTaxed = true) ∧
    notice.order.shippingPrice.isTaxed = true ∧
    notice'.lines.map (·.totalPrice) = notice.lines.map (·.totalPrice) ∧
    notice'.order.shippingPrice = notice.order.shippingPrice ∧
    notice'.lines.map (·.taxRate) ≠ notice.lines.map (·.taxRate) ∧
    notice'.order.shippingTaxRate ≠ notice.order.shippingTaxRate

/-- The copy and its delivery are taxed with ten percent, and the order says twenty. -/
theorem misrates_bookshop :
    ({ Bookshop.attempt 1 with taxes := [Bookshop.vat (.ofInt 10)] } : Attempt).Misrates
      (Bookshop.vat (.ofInt 20)) Bookshop.bank Bookshop.shippedTables := by
  unfold Misrates
  decide +kernel

end Attempt

end Storefront
