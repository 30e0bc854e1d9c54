import Storefront.Discount.Voucher
import Storefront.Tax

/-!
# Recalculating the prices of an order

* `Order.voucherDiscount`: what a voucher takes off an order.
* `Order.reprice`: computes the prices of the lines, of shipping and of the order anew, from the
  prices before tax. Where it fails, what has been computed up to there is kept.
-/

namespace Storefront

namespace Order

/-- The price of the lines before tax. -/
def baseSubtotal (o : Order) (lines : List OrderLine) : Except Error Money :=
  Money.sum o.currency (lines.map (·.baseTotalPrice))

/-- What a voucher takes off an order, or why it does not apply. A line-level voucher takes nothing
off the order. -/
def voucherDiscount (o : Order) (lines : List OrderLine) (v : Voucher) : Except Error Money := do
  let subtotal ← o.baseSubtotal lines
  v.checkMinimumSpent subtotal o.channelId
  v.checkMinimumQuantity (Quantity.total (lines.map (·.quantity)))
  if v.isLineLevel then return Money.zero o.currency
  match v.type with
  | .entireOrder => v.amountFor subtotal o.channelId
  | .shipping => v.amountFor o.baseShippingPrice o.channelId
  | .specificProduct => return Money.zero o.currency

end Order

/-- A record that is changed step by step. The steps before a failure stay. -/
abbrev Updating (σ : Type) := ExceptT Error (StateM σ)

/-- Computes a value from a record and stores it there. -/
def store {σ α : Type} (compute : σ → Except Error α) (put : σ → α → σ) :
    Updating σ Unit := do
  let a ← compute (← get)
  modify fun s => put s a

/-- The prices of a line. -/
def repriceLine (chain : TaxChain) (o : Order) : Updating OrderLine Unit := do
  store (fun l => chain.orderLineUnit o l (.untaxed l.baseUnitPrice))
    fun l p => { l with unitPrice := p }
  store (fun l => chain.orderLineUnit o l (.untaxed l.undiscountedBaseUnitPrice))
    fun l p => { l with undiscountedUnitPrice := p }
  store (fun l => chain.orderLineTotal o l (.untaxed l.baseTotalPrice))
    fun l p => { l with totalPrice := p }
  store (fun l => chain.orderLineTotal o l (.untaxed l.undiscountedBaseTotalPrice))
    fun l p => { l with undiscountedTotalPrice := p }
  store (fun l => do chain.orderLineRate o l (← l.totalPrice.rate))
    fun l r => { l with taxRate := r }

/-- The sums of the line totals with and without discounts. -/
structure Subtotals where
  discounted : Taxed
  undiscounted : Taxed

def Subtotals.add (s : Subtotals) (l : OrderLine) : Except Error Subtotals := do
  return ⟨← s.discounted.add l.totalPrice, ← s.undiscounted.add l.undiscountedTotalPrice⟩

/-- The prices of all lines, with their sums. Lines behind a failure stay as they are. -/
def repriceLines (chain : TaxChain) (o : Order) :
    Subtotals → List OrderLine → Except Error Subtotals × List OrderLine
  | sums, [] => (.ok sums, [])
  | sums, l :: rest =>
    match (repriceLine chain o).run l with
    | (.error e, l) => (.error e, l :: rest)
    | (.ok (), l) =>
      match sums.add l with
      | .error e => (.error e, l :: rest)
      | .ok sums =>
        let (result, rest) := repriceLines chain o sums rest
        (result, l :: rest)

/-- The shipping price and the totals of an order, from the sums of its lines. -/
def repriceOrder (chain : TaxChain) (discount : Money) (sums : Subtotals) :
    Updating Order Unit := do
  store (fun o => chain.orderShipping o (.untaxed o.baseShippingPrice))
    fun o p => { o with shippingPrice := p }
  store (fun o => do chain.orderShippingRate o (← o.shippingPrice.rate))
    fun o r => { o with shippingTaxRate := r }
  let shipping := (← get).shippingPrice
  let withShipping ← sums.discounted.add shipping
  let discount := discount.min withShipping.gross
  let total ← withShipping.subAmount discount
  modify fun o => { o with total := total.floorAtZero }
  let undiscounted ← sums.undiscounted.add shipping
  modify fun o => { o with
    undiscountedTotal := undiscounted
    discounts := o.discounts.map fun d => { d with amount := discount } }

/-- What recalculating an order has come to. -/
structure Repricing where
  order : Order
  lines : List OrderLine
  outcome : Except Error Unit

/-- Computes the prices of an order and its lines anew, with the given discount of a voucher. -/
def Order.reprice (o : Order) (lines : List OrderLine) (discount : Money) (chain : TaxChain) :
    Repricing :=
  let zero := Taxed.zero o.currency
  match repriceLines chain o ⟨zero, zero⟩ lines with
  | (.error e, lines) => ⟨o, lines, .error e⟩
  | (.ok sums, lines) =>
    let (outcome, o) := (repriceOrder chain discount sums).run o
    ⟨o, lines, outcome⟩

end Storefront
