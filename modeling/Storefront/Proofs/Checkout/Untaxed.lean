import Storefront.Proofs.Checkout.OrderLines
import Storefront.Proofs.Money.Order

/-!
# Prices without taxes

Where there are no tax providers, the prices of a checkout are its prices before tax. The total and
the lines of an order are computed apart from each other, and both round to the minor unit. What has
been rounded once is not changed by rounding it again, so that the parts add up to the total.

* `Snapshot.orderLines_totals`: the lines of the order cost what the lines of the checkout cost.
* `Snapshot.units_subtotal`: the subtotal of the checkout is the sum of the order lines.
* `Snapshot.units_total`: the total is the subtotal with shipping, less the discount, rounded.
-/

namespace Storefront

open Decimal (Fits)

/-- What lines cost together, in units of decimals. -/
def OrderLine.together (lines : List OrderLine) : Int :=
  (lines.map fun l => l.totalPrice.gross.amount.units).sum

/-- What is rounded to begin with stays as it is. -/
theorem Snapshot.quantize_deliveryPrice (s : Snapshot) :
    s.deliveryPrice.quantize = s.deliveryPrice := by
  unfold deliveryPrice
  split
  · split
    · exact Money.quantize_quantize _
    · exact Money.quantize_zero _
  · exact Money.quantize_zero _

/-! ## Prices -/

namespace Taxed

variable {a b c : Money}

theorem quantize_untaxed (m : Money) : (untaxed m).quantize = untaxed m.quantize := rfl

theorem floorAtZero_untaxed (m : Money) : (untaxed m).floorAtZero = untaxed m.floorAtZero := rfl

theorem add_untaxed (h : a.add b = .ok c) : (untaxed a).add (untaxed b) = .ok (untaxed c) := by
  rw [Taxed.add, untaxed, untaxed, h]
  rfl

theorem sub_untaxed (h : a.sub b = .ok c) : (untaxed a).sub (untaxed b) = .ok (untaxed c) := by
  rw [Taxed.sub, untaxed, untaxed, h]
  rfl

theorem add_untaxed_ok {p : Taxed} (h : (untaxed a).add (untaxed b) = .ok p) :
    ∃ c, a.add b = .ok c ∧ p = untaxed c := by
  obtain ⟨net, hnet, h⟩ := bind_ok h
  obtain ⟨gross, hgross, h⟩ := bind_ok h
  obtain rfl := Except.ok.inj (hnet.symm.trans hgross)
  cases h
  exact ⟨net, hnet, rfl⟩

theorem sub_untaxed_ok {p : Taxed} (h : (untaxed a).sub (untaxed b) = .ok p) :
    ∃ c, a.sub b = .ok c ∧ p = untaxed c := by
  obtain ⟨net, hnet, h⟩ := bind_ok h
  obtain ⟨gross, hgross, h⟩ := bind_ok h
  obtain rfl := Except.ok.inj (hnet.symm.trans hgross)
  cases h
  exact ⟨net, hnet, rfl⟩

theorem times_untaxed {quantity : Nat} (h : a.times quantity = .ok c) :
    (untaxed a).times quantity = .ok (untaxed c) := by
  rw [Taxed.times, untaxed, h]
  rfl

end Taxed

namespace Snapshot

variable {s : Snapshot} {ids : FreshIds}

theorem lineTotal_untaxed {l : CheckoutLine} {total : Taxed} (h : s.lineTotal [] l = .ok total) :
    ∃ p, l.totalPrice s.channel.id s.sales = .ok p ∧ total = .untaxed p.withDiscounts := by
  obtain ⟨p, hp, h⟩ := bind_ok h
  cases h
  refine ⟨p, hp, ?_⟩
  rw [Taxed.quantize_untaxed, CheckoutLine.quantize_of_totalPrice hp]

theorem shippingPrice_untaxed {price : Taxed} (h : s.shippingPrice [] = .ok price) :
    price = .untaxed s.deliveryPrice := by
  cases h
  rw [Taxed.quantize_untaxed, quantize_deliveryPrice]

theorem orderLine_untaxed {order : OrderId} {id : OrderLineId} {l : CheckoutLine}
    {line : OrderLine} (h : s.orderLine [] order id l = .ok line) :
    ∃ p, l.totalPrice s.channel.id s.sales = .ok p ∧
      line.totalPrice = .untaxed p.withDiscounts :=
  lineTotal_untaxed (orderLine_prices h).total

/-- **The lines of an order cost what those of its checkout cost.** -/
theorem orderLines_totals {index : Nat} {lines : List CheckoutLine} {planned : List PlannedLine}
    (h : s.orderLines [] ids index lines = .ok planned) :
    lines.mapM (fun l => do return (← l.totalPrice s.channel.id s.sales).withDiscounts) =
      .ok (planned.map (·.line.totalPrice.gross)) := by
  induction lines generalizing index planned with
  | nil =>
    cases h
    rfl
  | cons l rest ih =>
    obtain ⟨line, hline, h⟩ := bind_ok h
    obtain ⟨more, hmore, h⟩ := bind_ok h
    cases h
    obtain ⟨p, hp, htotal⟩ := orderLine_untaxed hline
    rw [List.mapM_cons, hp]
    simp only [List.map_cons, htotal]
    rw [show rest.mapM _ = _ from ih hmore]
    rfl

/-- The subtotal of a checkout is the sum of the lines of its order. -/
theorem units_subtotal {planned : List PlannedLine} {subtotal : Money}
    (hlines : s.orderLines [] ids 0 s.lines = .ok planned) (h : s.subtotal = .ok subtotal)
    (hfits : ∀ front, front <+: planned.map (·.line) → Fits (OrderLine.together front)) :
    subtotal.amount.units = OrderLine.together (planned.map (·.line)) := by
  have htotals := orderLines_totals hlines
  rw [show planned.map (·.line.totalPrice.gross) =
    (planned.map (·.line)).map (·.totalPrice.gross) by rw [List.map_map]; rfl] at htotals
  rw [Snapshot.subtotal, CheckoutLine.subtotal, htotals] at h
  exact Money.units_sum h hfits

/-- **The total of a checkout** is the price of its lines and of the delivery, less the discount,
rounded. -/
theorem units_total {price : Taxed} {subtotal : Money} (hsubtotal : s.subtotal = .ok subtotal)
    (h : s.total [] = .ok price)
    (hshipped : Fits (subtotal.amount.units + s.deliveryPrice.amount.units))
    (hdiscounted : Fits (subtotal.amount.units + s.deliveryPrice.amount.units -
      s.discount.amount.units)) :
    price.net = price.gross ∧ price.gross.amount.units = price.gross.currency.round
      (max 0 (subtotal.amount.units + s.deliveryPrice.amount.units - s.discount.amount.units)) := by
  obtain ⟨_, hsame, h⟩ := bind_ok h
  obtain rfl := Except.ok.inj (hsubtotal.symm.trans hsame)
  obtain ⟨base, hbase, h⟩ := bind_ok h
  obtain ⟨shipped, hsum, hbase⟩ := bind_ok hbase
  obtain ⟨discounted, hdifference, hbase⟩ := bind_ok hbase
  cases hbase
  cases h
  refine ⟨rfl, ?_⟩
  have hshipped := Money.units_add hsum hshipped
  have hdiscounted := Money.units_sub hdifference (hshipped.symm ▸ hdiscounted)
  have hbase : discounted.floorAtZero.amount.units = max 0 (subtotal.amount.units +
      s.deliveryPrice.amount.units - s.discount.amount.units) := by
    rw [Money.units_floorAtZero, hdiscounted, hshipped]
  show discounted.floorAtZero.quantize.floorAtZero.amount.units =
    Currency.round discounted.floorAtZero.quantize.floorAtZero.currency _
  rw [Money.currency_floorAtZero, Money.currency_quantize, Money.units_floorAtZero,
    Money.units_quantize, hbase]
  exact Int.max_eq_right (Currency.round_nonneg _ (Int.le_max_left _ _))

end Snapshot

end Storefront
