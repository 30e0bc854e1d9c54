import Storefront.Proofs.Completion.Purchase
import Storefront.Proofs.Completion.Total
import Storefront.Proofs.Stock.RunOut

/-!
# What an attempt announces

An attempt announces what it has committed and nothing else: the stocks that it has emptied, then
its order. While the gateway is asked others may change the store, so that an attempt may find an
order that was not there when it began.

* `Tables.LeadsTo`: the stores that an attempt may find until it has created an order.
* `Progress.Telling`: what holds at every stage.
* `Attempt.complete_announces`: what has been announced at the end.
-/

namespace Storefront

/-! ## What an attempt finds -/

theorem Tables.SameGoods.stocks {t t' : Tables} (h : t.SameGoods t') : t'.stocks = t.stocks := by
  obtain ⟨_, _, _, rfl⟩ := h
  rfl

theorem Tables.SameGoods.trans {t t' t'' : Tables} (h : t.SameGoods t') (h' : t'.SameGoods t'') :
    t.SameGoods t'' := by
  obtain ⟨_, _, _, rfl⟩ := h
  obtain ⟨_, _, _, rfl⟩ := h'
  exact ⟨_, _, _, rfl⟩

/-- `t.LeadsTo gateway t'`: an attempt that starts from the tables `t` may find `t'` before it has
created an order. All goods are as they were, or as they were left when the gateway was asked. -/
inductive Tables.LeadsTo (gateway : Payment → Tables → Except Error GatewayResponse × Tables)
    (t : Tables) : Tables → Prop where
  | unasked {t' : Tables} (h : t.SameGoods t') : LeadsTo gateway t t'
  | asked {payment : Payment} {t₁ t' : Tables} (h : t.SameGoods t₁)
      (h' : (gateway payment t₁).2.SameGoods t') : LeadsTo gateway t t'

namespace Tables.LeadsTo

variable {gateway : Payment → Tables → Except Error GatewayResponse × Tables} {t t' t'' : Tables}

theorem sameGoods (h : t.LeadsTo gateway t') (h' : t'.SameGoods t'') : t.LeadsTo gateway t'' := by
  cases h with
  | unasked h => exact .unasked (h.trans h')
  | asked h₁ h₂ => exact .asked h₁ (h₂.trans h')

theorem stocks (h : t.LeadsTo gateway t')
    (hgateway : ∀ payment t₁, (gateway payment t₁).2.stocks = t₁.stocks) :
    t'.stocks = t.stocks := by
  cases h with
  | unasked h => exact h.stocks
  | asked h h' => rw [h'.stocks, hgateway, h.stocks]

/-- The ids of stocks stay unique where they do so while the gateway is asked. -/
theorem nodup_stocks (h : t.LeadsTo gateway t') (hids : (t.stocks.map (·.id)).Nodup)
    (hgateway : ∀ payment t₁, (t₁.stocks.map (·.id)).Nodup →
      ((gateway payment t₁).2.stocks.map (·.id)).Nodup) : (t'.stocks.map (·.id)).Nodup := by
  cases h with
  | unasked h => rwa [h.stocks]
  | @asked payment t₁ _ h h' =>
    rw [h'.stocks]
    exact hgateway payment t₁ (by rwa [h.stocks])

end Tables.LeadsTo

/-! ## Stage by stage -/

/-- Where an attempt may stand that has started from the tables `t`, and what has been announced. -/
def Progress.Telling (a : Attempt)
    (gateway : Payment → Tables → Except Error GatewayResponse × Tables) (t : Tables)
    (p : Progress) : Prop :=
  match p.stage with
  | .preparing | .charging .. => p.events = [] ∧ t.SameGoods p.tables
  | .ordering .. => p.events = [] ∧ t.LeadsTo gateway p.tables
  | .releasing _ _ outcome =>
    p.events = [] ∧ t.LeadsTo gateway p.tables ∧ ∀ order, outcome ≠ .ok (.completed order)
  | .finished outcome =>
    (p.events = [] ∧ t.LeadsTo gateway p.tables ∧
      ∀ order, outcome = .ok (.completed order) → order ∈ p.tables.orders) ∨
    ∃ before plan settled c, t.LeadsTo gateway before ∧ a.Creates plan settled before c ∧
      outcome = .ok (.completed c.order) ∧ p.tables = c.tables plan before ∧
      p.events = c.events plan settled

namespace Progress.Telling

variable {a : Attempt} {gateway : Payment → Tables → Except Error GatewayResponse × Tables}
  {t : Tables}

/-- **One stage keeps it.** -/
theorem advances {p next : Progress} (h : p.Telling a gateway t)
    (hnext : a.Advances (fun payment => (gateway payment p.tables).1)
      (p.stage.tablesAfter gateway p.tables) p.stage next) :
    (p.andThen next).Telling a gateway t := by
  obtain ⟨stage, tables, events, calls⟩ := p
  dsimp only at hnext
  cases hnext with
  | rejected =>
    obtain ⟨rfl, hsame⟩ := h
    exact .inl ⟨rfl, .unasked hsame, by simp⟩
  | answered _ horder =>
    obtain ⟨rfl, hsame⟩ := h
    refine .inl ⟨rfl, .unasked hsame, fun order hcompleted => ?_⟩
    cases hcompleted
    exact List.mem_of_find?_eq_some horder
  | uncharged _ htakes =>
    obtain ⟨rfl, hsame⟩ := h
    exact ⟨rfl, .unasked (hsame.trans htakes.sameGoods)⟩
  | charging _ htakes =>
    obtain ⟨rfl, hsame⟩ := h
    exact ⟨rfl, hsame.trans htakes.sameGoods⟩
  | refused | unrecorded | halted =>
    obtain ⟨rfl, hsame⟩ := h
    exact ⟨rfl, .asked hsame (.refl _), by simp⟩
  | charged =>
    obtain ⟨rfl, hsame⟩ := h
    exact ⟨rfl, .asked hsame (.refl _)⟩
  | found horder hback =>
    obtain ⟨rfl, hleads⟩ := h
    have hsame := hback.sameGoods none
    refine .inl ⟨rfl, hleads.sameGoods hsame, fun order hcompleted => ?_⟩
    cases hcompleted
    exact hsame.orders ▸ List.mem_of_find?_eq_some horder
  | created hcreates =>
    obtain ⟨rfl, hleads⟩ := h
    exact .inr ⟨tables, _, _, _, hleads, hcreates, rfl, rfl, rfl⟩
  | failed =>
    obtain ⟨rfl, hleads⟩ := h
    exact ⟨rfl, hleads, by simp⟩
  | released hback =>
    obtain ⟨rfl, hleads, hnone⟩ := h
    exact .inl ⟨rfl, hleads.sameGoods (hback.sameGoods _), fun order heq => absurd heq (hnone order)⟩
  | stranded =>
    obtain ⟨rfl, hleads, -⟩ := h
    exact .inl ⟨rfl, hleads, by simp⟩
  | ended =>
    have hevents : events ++ [] = events := List.append_nil events
    rw [Progress.andThen, hevents]
    exact h

end Progress.Telling

/-! ## Whole attempts -/

/-- What is announced about the sale of an order, in this sequence: each stock that has run out,
once, the order, a confirmation where the customer has an email address, and that the order is fully
paid where it is. -/
def Order.Announced (order : Order) (before after : List Stock) (events : List Event) : Prop :=
  ∃ (emptied : List Stock) (notice : OrderNotice),
    emptied.Perm (Stock.ranOut before after) ∧ notice.order = order ∧
    events = emptied.map .outOfStock ++ .orderCreated notice ::
      ((if order.userEmail.isSome then [.orderConfirmation notice] else []) ++
        if order.isFullyPaid then [.orderFullyPaid order] else [])

namespace Attempt

variable {a : Attempt} {plan : OrderPlan} {settled : Option SettledPayment} {t : Tables}
  {c : Creation}

namespace Creates

/-- The order of a creation was not there before. -/
theorem order_notMem (h : a.Creates plan settled t c) : c.order ∉ t.orders := fun hmem => by
  have hnone := List.find?_eq_none.1 h.first c.order hmem
  simp [h.checkoutToken] at hnone

theorem announced (h : a.Creates plan settled t c) (hids : (t.stocks.map (·.id)).Nodup) :
    c.order.Announced t.stocks (c.tables plan t).stocks (c.events plan settled) := by
  refine ⟨Shelf.emptied c.serving.shelves, c.notice plan settled, ?_, rfl, rfl⟩
  show List.Perm _ (Stock.ranOut t.stocks (Shelf.putBack t.stocks c.serving.shelves))
  rw [h.serving]
  exact Tables.emptied_perm hids

end Creates

/-- **Exactly what has been committed is announced.** Whatever the gateway answers and whatever
others do to the store meanwhile, an attempt that creates an order announces the stocks that it has
emptied and then the order. An attempt that fails, that waits for the customer or that finds an
order announces nothing. If the others leave the stocks alone, the stocks that it finds are those
from the beginning, so that an attempt without a new order has changed none of them. -/
theorem complete_announces (a : Attempt)
    (gateway : Payment → Tables → Except Error GatewayResponse × Tables) (t : Tables)
    (hids : (t.stocks.map (·.id)).Nodup)
    (hgateway : ∀ payment t₁, (t₁.stocks.map (·.id)).Nodup →
      ((gateway payment t₁).2.stocks.map (·.id)).Nodup) :
    ∃ outcome before, (a.complete gateway t).stage = .finished outcome ∧
      t.LeadsTo gateway before ∧
      ((∀ payment t₁, (gateway payment t₁).2.stocks = t₁.stocks) → before.stocks = t.stocks) ∧
      ((∃ order, outcome = .ok (.completed order) ∧ order ∉ before.orders ∧
          order ∈ (a.complete gateway t).tables.orders ∧
          order.Announced before.stocks (a.complete gateway t).tables.stocks
            (a.complete gateway t).events) ∨
        ((∀ order, outcome = .ok (.completed order) → order ∈ before.orders) ∧
          (a.complete gateway t).tables = before ∧ (a.complete gateway t).events = [])) := by
  have hend : (a.complete gateway t).Telling a gateway t :=
    run_keeps (P := fun p => p.Telling a gateway t) (fun _ _ h hnext => h.advances hnext) _
      (show Progress.Telling a gateway t { stage := .preparing, tables := t } from ⟨rfl, .refl t⟩)
  obtain ⟨outcome, hstage⟩ := finished_of_remaining (a.remaining_complete gateway t)
  rw [Progress.Telling, hstage] at hend
  rcases hend with ⟨hevents, hleads, hfound⟩ | ⟨before, plan, settled, c, hleads, hcreates, rfl,
    htables, hevents⟩
  · exact ⟨outcome, _, hstage, hleads, hleads.stocks, .inr ⟨hfound, rfl, hevents⟩⟩
  · refine ⟨_, before, hstage, hleads, hleads.stocks,
      .inl ⟨c.order, rfl, hcreates.order_notMem, ?_, ?_⟩⟩
    · rw [htables]
      exact mem_upsert_self _ _
    · rw [htables, hevents]
      exact hcreates.announced (hleads.nodup_stocks hids hgateway)

/-- The sale of the only copy announces that its stock has run out and that the order is there. -/
theorem complete_announces_bookshop :
    (Bookshop.tables.stocks.map (·.id)).Nodup ∧
      ∃ order, Bookshop.sold.stage = .finished (.ok (.completed order)) ∧
        order ∈ Bookshop.sold.tables.orders ∧
        order.Announced Bookshop.tables.stocks Bookshop.sold.tables.stocks
          Bookshop.sold.events := by
  have hids : (Bookshop.tables.stocks.map (·.id)).Nodup := by decide
  have hsold : Bookshop.sold.tables.stocks ≠ Bookshop.tables.stocks := by decide +kernel
  obtain ⟨outcome, before, hstage, -, hbefore, ⟨order, rfl, -, hstored, hannounced⟩ |
      ⟨-, htables, -⟩⟩ :=
    complete_announces (Bookshop.attempt 1) (fun _ t => (.ok (Bookshop.response false), t))
      Bookshop.tables hids fun _ _ h => h
  · rw [hbefore fun _ _ => rfl] at hannounced
    exact ⟨hids, order, hstage, hstored, hannounced⟩
  · exact absurd ((congrArg Tables.stocks htables).trans (hbefore fun _ _ => rfl)) hsold

end Attempt

end Storefront
