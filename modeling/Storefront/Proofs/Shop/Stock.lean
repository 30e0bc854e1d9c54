import Storefront.Proofs.Shop.Schedule

/-!
# Stock is never oversold

Stock is checked before a payment is charged and allocated only when the order is created, when
other attempts may have taken it. Since it is looked at again in the transaction that allocates it,
no schedule oversells a stock, and what is allocated of a stock is what its allocations take.

* `Attempt.Creates.stockAccounted`: creating an order keeps the accounts of all stocks.
* `Shop.stock_accounted`: they are kept by every schedule.
-/

namespace Storefront

/-- The accounts of the stocks of a store. -/
structure Tables.StockAccounted (t : Tables) : Prop where
  /-- Every stock has an id of its own. -/
  unique : (t.stocks.map (·.id)).Nodup
  accounted : Stock.Accounted t.stocks t.allocations

/-- Creating an order keeps the accounts. -/
theorem Attempt.Creates.stockAccounted {a : Attempt} {plan : OrderPlan}
    {settled : Option SettledPayment} {t : Tables} {c : Creation}
    (h : a.Creates plan settled t c) (ht : t.StockAccounted) :
    (c.tables plan t).StockAccounted := by
  have hserving := h.serving
  constructor
  · show ((Shelf.putBack t.stocks c.serving.shelves).map (·.id)).Nodup
    rw [hserving, t.map_id_putBack]
    exact ht.unique
  · show Stock.Accounted (Shelf.putBack t.stocks c.serving.shelves)
      (t.allocations ++ c.serving.allocations)
    rw [hserving]
    exact Tables.accounted_stockServing _ _ _ _ _ ht.unique ht.accounted

namespace Shop

theorem Steps.stockAccounted {s s' : Shop} (h : Steps s s') (hs : s.tables.StockAccounted) :
    s'.tables.StockAccounted := by
  rcases h.created_or_sameGoods with ⟨_, _, _, _, hcreates, htables⟩ | ⟨_, _, _, hsame⟩
  · rw [htables]
    exact hcreates.stockAccounted hs
  · rw [hsame]
    exact ⟨hs.unique, hs.accounted⟩

/-- **No stock is ever oversold**, and what is allocated of each stock is always what its
allocations take of it. -/
theorem stock_accounted (t : Tables) (attempts : List Attempt) (moves : List Move)
    (ht : t.StockAccounted) : ((opening t attempts).run moves).tables.StockAccounted :=
  run_induction (P := fun s => s.tables.StockAccounted) ht (fun hs h => h.stockAccounted hs) moves

/-- The last copy is sold once. -/
theorem stock_accounted_bookshop :
    Bookshop.tables.StockAccounted ∧
      ((opening Bookshop.tables [Bookshop.attempt 1, Bookshop.attempt 2]).run
        Bookshop.race).tables.StockAccounted :=
  have hstart : Bookshop.tables.StockAccounted := ⟨by decide, by decide, by decide⟩
  ⟨hstart, stock_accounted Bookshop.tables _ Bookshop.race hstart⟩

end Shop

end Storefront
