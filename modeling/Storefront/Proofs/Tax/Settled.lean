import Storefront.Proofs.Tax.Chain

/-!
# Who settles a price

A chain asks its providers in turn until one of them taxes the price, and rounds what it has then.
So the first provider that taxes the price or fails decides about it, and no other one behind it is
asked. What providers leave untaxed goes on to the next one as it is, without being rounded.

* `PriceQuestion`: the prices that a chain is asked for.
* `TaxChain.Leads`: providers that are asked in turn, each about a price without tax.
* `TaxChain.settle_of_leads`, `TaxChain.settle_error_iff`: what a chain comes to.
* `PriceQuestion.firstDecides`: **a taxed price is final, an untaxed one goes on, and a failure is
  that of the first provider that taxes the price or fails**.
-/

namespace Storefront

namespace TaxChain

variable {ask : TaxProvider → Taxed → Except Error Taxed} {chain : TaxChain} {price last : Taxed}
  {e : Error}

/-- The providers are asked in turn, each about a price that is not taxed yet, and the last of them
answers `last`. -/
def Leads (ask : TaxProvider → Taxed → Except Error Taxed) : TaxChain → Taxed → Taxed → Prop
  | [], price, last => price = last
  | provider :: rest, price, last =>
    price.isTaxed = false ∧ ∃ next, ask provider price = .ok next ∧ Leads ask rest next last

/-- A price without tax goes on to the first provider. -/
theorem settle_cons_of_untaxed {provider : TaxProvider} {rest : TaxChain}
    (h : price.isTaxed = false) :
    settle ask (provider :: rest) price = ask provider price >>= settle ask rest := by
  rw [settle, if_neg (ne_true_of_eq_false h)]

/-- **What providers lead to goes on**, as it is, to those behind them. -/
theorem settle_of_leads (h : Leads ask chain price last) (back : TaxChain) :
    settle ask (chain ++ back) price = settle ask back last := by
  induction chain generalizing price with
  | nil =>
    obtain rfl : price = last := h
    rfl
  | cons provider rest ih =>
    obtain ⟨huntaxed, next, hnext, h⟩ := h
    rw [List.cons_append, settle_cons_of_untaxed huntaxed, hnext, ok_bind]
    exact ih h

/-- The first provider that taxes the price or fails, in front of the others. -/
inductive Course (ask : TaxProvider → Taxed → Except Error Taxed) (chain : TaxChain)
    (price : Taxed) : Prop
  /-- Some providers, or none of them, lead to a price with tax. -/
  | taxes (front back : TaxChain) (last : Taxed) (split : chain = front ++ back)
    (leads : Leads ask front price last) (taxed : last.isTaxed = true)
  /-- All providers are asked, and the price is without tax behind the last of them. -/
  | passes (last : Taxed) (leads : Leads ask chain price last) (untaxed : last.isTaxed = false)
  /-- A provider fails on a price without tax, to which those in front of it lead. -/
  | fails (front : TaxChain) (provider : TaxProvider) (back : TaxChain) (last : Taxed) (e : Error)
    (split : chain = front ++ provider :: back) (leads : Leads ask front price last)
    (untaxed : last.isTaxed = false) (failure : ask provider last = .error e)

/-- There is no other way for a price to go. -/
theorem course (ask : TaxProvider → Taxed → Except Error Taxed) (chain : TaxChain)
    (price : Taxed) : Course ask chain price := by
  induction chain generalizing price with
  | nil =>
    cases htaxed : price.isTaxed with
    | true => exact .taxes [] [] price rfl rfl htaxed
    | false => exact .passes price rfl htaxed
  | cons provider rest ih =>
    cases htaxed : price.isTaxed with
    | true => exact .taxes [] (provider :: rest) price rfl rfl htaxed
    | false =>
      cases hnext : ask provider price with
      | error e => exact .fails [] provider rest price e rfl rfl htaxed hnext
      | ok next =>
        -- a way behind the provider is a way in front of it
        have hleads {front : TaxChain} {last : Taxed} (h : Leads ask front next last) :
            Leads ask (provider :: front) price last := ⟨htaxed, next, hnext, h⟩
        rcases ih next with ⟨front, back, last, rfl, h, hlast⟩ | ⟨last, h, hlast⟩ |
          ⟨front, failing, back, last, e, rfl, h, hlast, hfailure⟩
        · exact .taxes (provider :: front) back last rfl (hleads h) hlast
        · exact .passes last (hleads h) hlast
        · exact .fails (provider :: front) failing back last e rfl (hleads h) hlast hfailure

/-- **A chain fails where the first provider that taxes the price or fails does fail**, and for the
same reason. -/
theorem settle_error_iff : settle ask chain price = .error e ↔
    ∃ front provider back last, chain = front ++ provider :: back ∧ Leads ask front price last ∧
      last.isTaxed = false ∧ ask provider last = .error e := by
  constructor
  · intro herror
    rcases course ask chain price with ⟨front, back, last, rfl, h, hlast⟩ | ⟨last, h, -⟩ |
      ⟨front, provider, back, last, e', rfl, h, hlast, hfailure⟩
    · rw [settle_of_leads h, settle_of_isTaxed back hlast] at herror
      cases herror
    · have hpassed := settle_of_leads h []
      rw [List.append_nil, herror] at hpassed
      cases hpassed
    · rw [settle_of_leads h, settle_cons_of_untaxed hlast, hfailure] at herror
      cases herror
      exact ⟨front, provider, back, last, rfl, h, hlast, hfailure⟩
  · rintro ⟨front, provider, back, last, rfl, h, hlast, hfailure⟩
    rw [settle_of_leads h, settle_cons_of_untaxed hlast, hfailure]
    rfl

end TaxChain

/-! ## All prices -/

/-- What a chain is asked the price of. -/
inductive PriceQuestion where
  | checkoutTotal (s : Snapshot)
  | checkoutSubtotal (s : Snapshot)
  | checkoutShipping (s : Snapshot)
  | checkoutLineTotal (s : Snapshot) (l : CheckoutLine)
  | checkoutLineUnit (s : Snapshot) (l : CheckoutLine)
  | orderLineUnit (o : Order) (l : OrderLine)
  | orderLineTotal (o : Order) (l : OrderLine)
  | orderShipping (o : Order)

namespace PriceQuestion

/-- What a single provider makes of a price. -/
def ask : PriceQuestion → TaxProvider → Taxed → Except Error Taxed
  | checkoutTotal s, provider => provider.checkoutTotal s
  | checkoutSubtotal s, provider => provider.checkoutSubtotal s
  | checkoutShipping s, provider => provider.checkoutShipping s
  | checkoutLineTotal s l, provider => provider.checkoutLineTotal s l
  | checkoutLineUnit s l, provider => provider.checkoutLineUnit s l
  | orderLineUnit o l, provider => provider.orderLineUnit o l
  | orderLineTotal o l, provider => provider.orderLineTotal o l
  | orderShipping o, provider => provider.orderShipping o

/-- What a chain makes of a price. -/
def answer : PriceQuestion → TaxChain → Taxed → Except Error Taxed
  | checkoutTotal s, chain => chain.checkoutTotal s
  | checkoutSubtotal s, chain => chain.checkoutSubtotal s
  | checkoutShipping s, chain => chain.checkoutShipping s
  | checkoutLineTotal s l, chain => chain.checkoutLineTotal s l
  | checkoutLineUnit s l, chain => chain.checkoutLineUnit s l
  | orderLineUnit o l, chain => chain.orderLineUnit o l
  | orderLineTotal o l, chain => chain.orderLineTotal o l
  | orderShipping o, chain => chain.orderShipping o

/-- All prices go through a chain in one way. -/
theorem answer_eq (q : PriceQuestion) (chain : TaxChain) (initial : Taxed) :
    q.answer chain initial =
      chain.settle q.ask initial >>= fun price => .ok price.quantize := by
  cases q <;> rfl

theorem answer_error_iff {q : PriceQuestion} {chain : TaxChain} {initial : Taxed} {e : Error} :
    q.answer chain initial = .error e ↔ chain.settle q.ask initial = .error e := by
  rw [answer_eq]
  cases chain.settle q.ask initial with
  | error e' => exact Iff.rfl
  | ok price => exact ⟨nofun, nofun⟩

/-- **The first provider that taxes a price or fails decides about it.** If some providers of a
chain, or none of them, lead to a price with tax, then that price, rounded, is what the chain makes
of it, whatever providers are put behind. If the providers lead to a price without tax, those behind
go on from that price, which has not been rounded. The chain fails exactly where a provider fails on
a price without tax, to which those in front of it lead. -/
theorem firstDecides (q : PriceQuestion) (chain : TaxChain) (initial : Taxed) :
    (∀ front back last, chain = front ++ back → TaxChain.Leads q.ask front initial last →
      last.isTaxed = true → ∀ behind, q.answer (chain ++ behind) initial = .ok last.quantize ∧
        q.answer (chain ++ behind) initial = q.answer chain initial) ∧
    (∀ last, TaxChain.Leads q.ask chain initial last → last.isTaxed = false →
      ∀ behind, q.answer (chain ++ behind) initial = q.answer behind last) ∧
    ∀ e, q.answer chain initial = .error e ↔
      ∃ front provider back last, chain = front ++ provider :: back ∧
        TaxChain.Leads q.ask front initial last ∧ last.isTaxed = false ∧
        q.ask provider last = .error e := by
  refine ⟨?_, ?_, fun e => answer_error_iff.trans TaxChain.settle_error_iff⟩
  · rintro front back last rfl h htaxed behind
    have hfinal (rest : TaxChain) : q.answer (front ++ rest) initial = .ok last.quantize := by
      rw [answer_eq, TaxChain.settle_of_leads h, TaxChain.settle_of_isTaxed rest htaxed]
      rfl
    rw [List.append_assoc, hfinal, hfinal]
    exact ⟨rfl, rfl⟩
  · intro last h _ behind
    rw [answer_eq, answer_eq, TaxChain.settle_of_leads h]

end PriceQuestion

/-! ## Shipping for ten dollars and half a cent -/

namespace Bookshop

/-- A provider that has nothing to say. -/
def silent : TaxProvider := { }

/-- A provider that cannot be reached. -/
def unreachable : TaxProvider where
  orderShipping _ _ := .error (.tax "provider unavailable")

/-- A price before tax, which is not in whole cents. -/
def shippingFee : Taxed := .untaxed ⟨(Decimal.ofMantissa? 10005 3).getD 0, .usd⟩

/-- The fee with ten percent. -/
def taxedFee : Taxed :=
  ⟨⟨(Decimal.ofMantissa? 1001 2).getD 0, .usd⟩, ⟨(Decimal.ofMantissa? 1101 2).getD 0, .usd⟩⟩

end Bookshop

namespace PriceQuestion

open Bookshop (silent unreachable shippingFee taxedFee vat)

/-- The fee is taxed once, by the second of three providers. A provider that passes it on does not
round it. One that fails is not asked behind one that taxes, and is asked in front of it. -/
theorem firstDecides_bookshop :
    let q := orderShipping default
    (TaxChain.Leads q.ask [silent, vat (.ofInt 10)] shippingFee taxedFee ∧
      taxedFee.isTaxed = true ∧
      q.answer ([silent, vat (.ofInt 10), vat (.ofInt 20)] ++ [unreachable]) shippingFee =
        .ok taxedFee.quantize) ∧
    (TaxChain.Leads q.ask [silent] shippingFee shippingFee ∧ shippingFee.isTaxed = false ∧
      q.answer ([silent] ++ [vat 100]) shippingFee = q.answer [vat 100] shippingFee) ∧
    q.answer [silent, unreachable, vat (.ofInt 10)] shippingFee =
      .error (.tax "provider unavailable") := by
  intro q
  have htaxes : TaxChain.Leads q.ask [silent, vat (.ofInt 10)] shippingFee taxedFee := by
    refine ⟨by decide +kernel, _, rfl, by decide +kernel, _, ?_, rfl⟩
    decide +kernel
  have htaxed : taxedFee.isTaxed = true := by decide +kernel
  have hpasses : TaxChain.Leads q.ask [silent] shippingFee shippingFee :=
    ⟨by decide +kernel, _, rfl, rfl⟩
  have huntaxed : shippingFee.isTaxed = false := by decide +kernel
  obtain ⟨hfinal, -, -⟩ :=
    firstDecides q [silent, vat (.ofInt 10), vat (.ofInt 20)] shippingFee
  obtain ⟨-, hgoesOn, -⟩ := firstDecides q [silent] shippingFee
  obtain ⟨-, -, hfails⟩ := firstDecides q [silent, unreachable, vat (.ofInt 10)] shippingFee
  exact ⟨⟨htaxes, htaxed, (hfinal _ [vat (.ofInt 20)] _ rfl htaxes htaxed _).1⟩,
    ⟨hpasses, huntaxed, hgoesOn _ hpasses huntaxed _⟩,
    (hfails _).2 ⟨[silent], unreachable, [vat (.ofInt 10)], _, rfl, hpasses, huntaxed, rfl⟩⟩

end PriceQuestion

end Storefront
