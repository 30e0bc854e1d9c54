import Storefront.GiftCard.Charge
import Storefront.Proofs.Store.Run

/-!
# What draining gift cards does

An order is paid with the cards that its checkout lists, one after the other. A card that is listed
twice is drained twice, each time from the row that was read before anything was paid.

* `GiftCard.Drains`: the walk over the cards, with the rows before and after.
* `GiftCard.Drains.keptBut`: cards that are not listed are not touched.
* `payWithGiftCards_ok`: the transaction.
-/

namespace Storefront

namespace GiftCard

/-- `Drains o now left cards rows rows' paid`: card after card has paid what it could of what was
`left` of an order, which has turned the rows into `rows'`. Each card is charged as it was listed,
whatever has become of its row since. -/
inductive Drains (o : Order) (now : Moment) :
    Money → List GiftCard → List GiftCard → List GiftCard → List GiftCardId → Prop where
  | done {left : Money} {rows : List GiftCard} : Drains o now left [] rows rows []
  | enough {left : Money} {c : GiftCard} {rest rows : List GiftCard} (hleft : left.amount ≤ 0) :
      Drains o now left (c :: rest) rows rows []
  | pays {left left' : Money} {c c' : GiftCard} {rest rows rows' : List GiftCard}
      {paid : List GiftCardId} (hleft : ¬left.amount ≤ 0)
      (hpay : c.pay o (c.balance.min left) now = .ok c')
      (hsub : left.sub (c.balance.min left) = .ok left')
      (h : Drains o now left' rest (upsert (·.id) c' rows) rows' paid) :
      Drains o now left (c :: rest) rows rows' (c.id :: paid)

theorem drain_ok {o : Order} {now : Moment} {left : Money} {cards : List GiftCard}
    {ids : List GiftCardId} {s s' : Session} (h : (drain o now left cards).run s = (.ok ids, s')) :
    ∃ giftCards, Drains o now left cards s.tables.giftCards giftCards ids ∧
      s' = { s with tables := { s.tables with giftCards } } := by
  induction cards generalizing left ids s s' with
  | nil =>
    obtain ⟨rfl, rfl⟩ := Transaction.run_pure_ok h
    exact ⟨_, .done, rfl⟩
  | cons c rest ih =>
    unfold drain at h
    by_cases hleft : left.amount ≤ 0
    · rw [if_pos hleft] at h
      obtain ⟨rfl, rfl⟩ := Transaction.run_pure_ok h
      exact ⟨_, .enough hleft, rfl⟩
    · rw [if_neg hleft] at h
      obtain ⟨c', hpay, h⟩ := Transaction.run_lift_bind_ok h
      obtain ⟨left', hsub, h⟩ := Transaction.run_lift_bind_ok h
      obtain ⟨_, _, hsave, h⟩ := Transaction.run_bind_ok h
      obtain rfl := Transaction.run_write_ok hsave
      obtain ⟨_, _, hrest, h⟩ := Transaction.run_bind_ok h
      obtain ⟨giftCards, hdrains, rfl⟩ := ih hrest
      obtain ⟨rfl, rfl⟩ := Transaction.run_pure_ok h
      exact ⟨giftCards, .pays hleft hpay hsub hdrains, rfl⟩

/-- A card stays the same card when it pays, and has less on it. -/
theorem pay_ok {c c' : GiftCard} {o : Order} {amount : Money} {now : Moment}
    (h : c.pay o amount now = .ok c') : c'.id = c.id ∧ c.balance.sub amount = .ok c'.balance := by
  obtain ⟨balance, hbalance, h⟩ := bind_ok h
  cases h
  split
  · exact ⟨rfl, hbalance⟩
  · exact ⟨rfl, hbalance⟩

/-- Only the cards that are listed can change. -/
theorem Drains.keptBut {o : Order} {now : Moment} {left : Money} {cards rows rows' : List GiftCard}
    {paid : List GiftCardId} {changed : GiftCardId → Prop}
    (h : Drains o now left cards rows rows' paid)
    (hcards : ∀ c ∈ cards, c.id ∈ rows.map (·.id) ∧ changed c.id) :
    KeptBut (·.id) changed rows rows' := by
  induction h with
  | done | enough => exact .refl _
  | pays _ hpay _ _ ih =>
    obtain ⟨⟨hrow, hchanged⟩, hrest⟩ := List.forall_mem_cons.1 hcards
    have hid := (pay_ok hpay).1
    have hmap := map_upsert (k := GiftCard.id) (hid.symm ▸ hrow)
    refine .trans (.upsert (hid.symm ▸ hrow) (hid.symm ▸ hchanged)) (ih fun c hc => ?_)
    exact ⟨hmap.symm ▸ (hrest c hc).1, (hrest c hc).2⟩

end GiftCard

theorem Tables.mem_giftCardsOf {t : Tables} {ids : List GiftCardId} {c : GiftCard}
    (h : c ∈ t.giftCardsOf ids) : c ∈ t.giftCards ∧ c.id ∈ ids := by
  obtain ⟨id, hid, hfound⟩ := List.mem_filterMap.1 h
  obtain ⟨hmem, rfl⟩ := find?_key (k := GiftCard.id) hfound
  exact ⟨hmem, hid⟩

/-- A card is listed as it is found by its id. -/
theorem Tables.find?_of_mem_giftCardsOf {t : Tables} {ids : List GiftCardId} {c : GiftCard}
    (h : c ∈ t.giftCardsOf ids) : t.giftCards.find? (·.id = c.id) = some c := by
  obtain ⟨id, -, hfound⟩ := List.mem_filterMap.1 h
  obtain rfl := (find?_key (k := GiftCard.id) hfound).2
  exact hfound

/-- Cards are looked up as often as they are listed. -/
theorem Tables.giftCardsOf_map_id {t : Tables} {cards : List GiftCard}
    (h : ∀ c ∈ cards, t.giftCards.find? (·.id = c.id) = some c) :
    t.giftCardsOf (cards.map (·.id)) = cards := by
  rw [giftCardsOf, List.filterMap_map]
  exact (List.filterMap_congr h).trans List.filterMap_some

theorem payWithGiftCards_ok {o : Order} {ids paid : List GiftCardId} {total : Money}
    {now : Moment} {s s' : Session}
    (h : (payWithGiftCards o ids total now).run s = (.ok paid, s')) :
    ∃ giftCards, GiftCard.Drains o now total (s.tables.giftCardsOf ids) s.tables.giftCards giftCards
        paid ∧
      s' = { s with tables := { s.tables with giftCards } } := by
  have h := Transaction.run_tables_bind_ok h
  obtain ⟨_, -, h⟩ := Transaction.run_lift_bind_ok h
  exact GiftCard.drain_ok h

end Storefront
