import Storefront.Proofs.GiftCard.Worth
import Storefront.Proofs.Money.Order

/-!
# Paying card after card

Cards that are listed once each and can be used pay like water over steps: each gives all it has
until what is left to pay is less than what is on a card, and nothing is taken from those behind it.

* `GiftCard.Flows`: the cards before and after, and those that were reached.
* `GiftCard.Drains.flows`: draining does just that to the rows of the table.
* `GiftCard.drain_run`: it does not fail.
* `payWithGiftCards_waterfall`: **what paying with gift cards does**, card by card.
-/

namespace Storefront

open Decimal (Fits)

namespace GiftCard

/-- What is left to pay after each card that is reached is a decimal, or else what is left on that
card is. No other differences are taken. -/
def DrainsExactly (price : Int) (cards : List GiftCard) : Prop :=
  ∀ front c, front ++ [c] <+: cards → worth front < price → Fits (price - worth (front ++ [c]))

/-- `ChargedFor o now left c c'`: of what was `left` to pay of an order, the card has paid what it
could. It belongs to the first customer that used it. -/
structure ChargedFor (o : Order) (now : Moment) (left : Int) (c c' : GiftCard) : Prop where
  units : c'.units = c.units - min c.units left
  row : c' = { c with
    balance := c'.balance
    usedBy := if c.usedByEmail.isNone then o.userId else c.usedBy
    usedByEmail := c.usedByEmail.or o.userEmail
    lastUsedOn := some now }

/-- `Flows o now left before after reached`: what was `left` to pay has been taken from card after
card. -/
inductive Flows (o : Order) (now : Moment) :
    Int → List GiftCard → List GiftCard → List GiftCard → Prop where
  | empty {left : Int} : Flows o now left [] [] []
  | dry {left : Int} {cards : List GiftCard} (hleft : left ≤ 0) : Flows o now left cards cards []
  | charged {left : Int} {c c' : GiftCard} {rest rest' reached : List GiftCard} (hleft : 0 < left)
      (hc : ChargedFor o now left c c')
      (h : Flows o now (left - min c.units left) rest rest' reached) :
      Flows o now left (c :: rest) (c' :: rest') (c :: reached)

variable {o : Order} {now : Moment} {cards before after reached : List GiftCard}

/-! ## What flows -/

namespace Flows

variable {left : Int}

theorem map_id (h : Flows o now left before after reached) :
    after.map (·.id) = before.map (·.id) := by
  induction h with
  | empty | dry => rfl
  | charged _ hc _ ih => rw [List.map_cons, List.map_cons, ih, hc.row]

theorem dry_of_le (h : Flows o now left before after reached) (hleft : left ≤ 0) :
    after = before ∧ reached = [] := by
  cases h with
  | empty | dry => exact ⟨rfl, rfl⟩
  | charged hpositive => omega

/-- As much is taken as there is to pay, as far as the cards go. -/
theorem worth_sub (h : Flows o now left before after reached) (hleft : 0 ≤ left)
    (hcards : ∀ c ∈ before, 0 ≤ c.units) :
    worth before - worth after = min left (worth before) := by
  induction h with
  | empty => simpa using hleft
  | dry hdry =>
    have := worth_nonneg hcards
    omega
  | @charged left c c' rest rest' reached _ hc _ ih =>
    obtain ⟨hfirst, hrest⟩ := List.forall_mem_cons.1 hcards
    have hothers := ih (by omega) hrest
    have hunits := hc.units
    have := worth_nonneg hrest
    rw [worth_cons, worth_cons]
    omega

/-- Before some place the cards are empty, and behind it they are as they were. -/
theorem place (h : Flows o now left before after reached) (hcards : ∀ c ∈ before, 0 ≤ c.units) :
    ∃ k, (∀ c ∈ after.take k, c.units = 0) ∧ after.drop (k + 1) = before.drop (k + 1) ∧
      ∀ c ∈ before[k]?, ∀ c' ∈ after[k]?, 0 ≤ c'.units ∧ c'.units ≤ c.units := by
  induction h with
  | empty => exact ⟨0, by simp, rfl, by simp⟩
  | @dry left cards _ =>
    refine ⟨0, by simp, rfl, fun c hc c' hc' => ?_⟩
    obtain rfl := Option.mem_unique hc hc'
    exact ⟨hcards c (List.mem_of_getElem? hc), Int.le_refl _⟩
  | @charged left c c' rest rest' reached hleft hc hflows ih =>
    obtain ⟨hfirst, hrest⟩ := List.forall_mem_cons.1 hcards
    have hunits := hc.units
    by_cases hall : c.units ≤ left
    · -- the card has given all it had, so the place is among those behind it
      obtain ⟨k, hempty, hsame, hplace⟩ := ih hrest
      refine ⟨k + 1, List.forall_mem_cons.2 ⟨?_, hempty⟩, hsame, hplace⟩
      omega
    · obtain ⟨rfl, -⟩ := hflows.dry_of_le (by omega)
      refine ⟨0, by simp, rfl, ?_⟩
      rintro _ ⟨⟩ _ ⟨⟩
      omega

/-- A card is reached while something is left to pay. -/
theorem reached_eq (h : Flows o now left before after reached)
    (hcards : ∀ c ∈ before, 0 ≤ c.units) :
    reached.length ≤ before.length ∧ reached = before.take reached.length ∧
      ∀ i < before.length, i < reached.length ↔ worth (before.take i) < left := by
  induction h with
  | empty => simp
  | @dry left cards hleft =>
    refine ⟨Nat.zero_le _, rfl, fun i _ => ?_⟩
    have : 0 ≤ worth (cards.take i) :=
      worth_nonneg fun c hc => hcards c (List.mem_of_mem_take hc)
    simp only [List.length_nil, Nat.not_lt_zero, false_iff]
    omega
  | @charged left c c' rest rest' reached hleft hc hflows ih =>
    obtain ⟨hfirst, hrest⟩ := List.forall_mem_cons.1 hcards
    obtain ⟨hlength, hprefix, hreached⟩ := ih hrest
    refine ⟨Nat.succ_le_succ hlength, congrArg (c :: ·) hprefix, fun i hi => ?_⟩
    cases i with
    | zero => simpa using hleft
    | succ i =>
      have hnext := hreached i (Nat.lt_of_succ_lt_succ hi)
      have hbehind : 0 ≤ worth (rest.take i) :=
        worth_nonneg fun c hc => hrest c (List.mem_of_mem_take hc)
      rw [List.length_cons, List.take_succ_cons, worth_cons, Nat.succ_lt_succ_iff, hnext]
      omega

end Flows

/-! ## What draining does -/

/-- Behind a card that has given all it has, the same differences are taken. -/
theorem DrainsExactly.rest {price : Int} {c : GiftCard} (h : DrainsExactly price (c :: cards)) :
    DrainsExactly (price - c.units) cards := by
  intro front d hfront hreached
  have hfits := h (c :: front) d ((List.prefix_cons_inj c).2 hfront) (by rw [worth_cons]; omega)
  rwa [List.cons_append, worth_cons, ← Int.sub_sub] at hfits

theorem Exact.drainsExactly {price : Money} (h : Exact price cards) :
    DrainsExactly price.amount.units cards :=
  fun _ _ hfront _ => (h _ hfront).2

theorem DrainsExactly.of_le {price : Int} (h : price ≤ 0) (hcards : ∀ c ∈ cards, 0 ≤ c.units) :
    DrainsExactly price cards := by
  intro front d hfront hreached
  have : 0 ≤ worth front :=
    worth_nonneg fun c hc => hcards c (hfront.subset (List.mem_append_left _ hc))
  omega

theorem chargedFor_of_pay {left left' : Money} {c c' : GiftCard}
    (hpay : c.pay o (c.balance.min left) now = .ok c')
    (hsub : left.sub (c.balance.min left) = .ok left')
    (hfits : Fits (left.amount.units - c.units)) :
    ChargedFor o now left.amount.units c c' := by
  refine ⟨(units_pay hpay hsub hfits).1, ?_⟩
  obtain ⟨balance, -, hpay⟩ := bind_ok hpay
  cases hpay
  cases hemail : c.usedByEmail <;> simp [hemail]

/-- **Draining is a flow** from cards that are listed once, each as its row was. The rows of the
cards are then those after it, and all other rows are as they were. -/
theorem Drains.flows {left : Money} {rows rows' : List GiftCard} {paid : List GiftCardId}
    (h : Drains o now left cards rows rows' paid) (hids : (cards.map (·.id)).Nodup)
    (hlisted : ∀ c ∈ cards, rows.find? (·.id = c.id) = some c)
    (hcards : ∀ c ∈ cards, 0 ≤ c.units) (hexact : DrainsExactly left.amount.units cards) :
    ∃ after reached, Flows o now left.amount.units cards after reached ∧
      paid = reached.map (·.id) ∧ (∀ c ∈ after, rows'.find? (·.id = c.id) = some c) ∧
      ∀ id, id ∉ paid → rows'.find? (·.id = id) = rows.find? (·.id = id) := by
  induction h with
  | done => exact ⟨[], [], .empty, rfl, by simp, fun _ _ => rfl⟩
  | enough hleft => exact ⟨_, [], .dry hleft, rfl, hlisted, fun _ _ => rfl⟩
  | @pays left left' c c' rest rows rows' paid hleft hpay hsub _ ih =>
    obtain ⟨hfirst, hrest⟩ := List.forall_mem_cons.1 hcards
    rw [List.map_cons, List.nodup_cons] at hids
    have hpositive : 0 < left.amount.units := Int.not_le.1 hleft
    have hfits : Fits (left.amount.units - c.units) := by
      simpa using hexact [] c ⟨rest, rfl⟩ hpositive
    have hcharged := chargedFor_of_pay hpay hsub hfits
    have hleft' := (units_pay hpay hsub hfits).2
    have hid : c'.id = c.id := (pay_ok hpay).1
    have hother : ∀ d ∈ rest, c.id ≠ d.id := fun d hd heq =>
      hids.1 (heq ▸ List.mem_map_of_mem hd)
    have hlisted' : ∀ d ∈ rest, (upsert (·.id) c' rows).find? (·.id = d.id) = some d := by
      intro d hd
      rw [find?_upsert, hid, if_neg (hother d hd)]
      exact hlisted d (List.mem_cons_of_mem _ hd)
    have hexact' : DrainsExactly left'.amount.units rest := by
      rw [hleft']
      rcases Int.le_total c.units left.amount.units with hle | hle
      · rw [Int.min_eq_left hle]
        exact hexact.rest
      · rw [Int.min_eq_right hle]
        exact .of_le (by omega) hrest
    obtain ⟨after, reached, hflows, rfl, hrows, hothers⟩ := ih hids.2 hlisted' hrest hexact'
    rw [hleft'] at hflows
    refine ⟨c' :: after, c :: reached, .charged hpositive hcharged hflows, rfl, ?_, ?_⟩
    · have hunreached : c.id ∉ reached.map (·.id) := fun hmem =>
        hids.1 (((hflows.reached_eq hrest).2.1 ▸ List.take_sublist _ _).map _ |>.subset hmem)
      refine List.forall_mem_cons.2 ⟨?_, hrows⟩
      rw [hid, hothers _ hunreached, find?_upsert, hid, if_pos rfl]
    · intro id hpaid
      obtain ⟨hne, hunpaid⟩ := not_or.1 (mt List.mem_cons.2 hpaid)
      rw [hothers id hunpaid, find?_upsert, hid, if_neg fun heq => hne heq.symm]

/-- **Cards of the currency of the price that are not overdrawn can be drained.** -/
theorem drain_run (o : Order) (now : Moment) {left : Money} (hleft : 0 ≤ left.amount)
    (hcards : ∀ c ∈ cards, c.balance.currency = left.currency ∧ 0 ≤ c.units) (s : Session) :
    ∃ paid s', (drain o now left cards).run s = (.ok paid, s') := by
  induction cards generalizing left s with
  | nil => exact ⟨[], s, rfl⟩
  | cons c rest ih =>
    unfold drain
    by_cases hdry : left.amount ≤ 0
    · rw [if_pos hdry]
      exact ⟨[], s, rfl⟩
    · obtain ⟨⟨hcurrency, hbalance⟩, hrest⟩ := List.forall_mem_cons.1 hcards
      have hamount : (c.balance.min left).currency = left.currency := by
        unfold Money.min
        split
        · rfl
        · exact hcurrency
      have hunits : (c.balance.min left).amount.units = min c.units left.amount.units :=
        Money.units_min _ _
      have hnonneg : 0 ≤ (c.balance.min left).amount := by
        rw [Decimal.le_def, hunits]
        exact Int.le_min.2 ⟨hbalance, hleft⟩
      obtain ⟨balance, hbalance'⟩ :=
        Money.sub_of_nonneg (hcurrency.trans hamount.symm) hbalance hnonneg
      obtain ⟨left', hsub⟩ := Money.sub_of_nonneg hamount.symm hleft hnonneg
      have hpay : ∃ c', c.pay o (c.balance.min left) now = .ok c' := by
        rw [pay, hbalance']
        exact ⟨_, rfl⟩
      obtain ⟨c', hpay⟩ := hpay
      obtain ⟨-, hcurrency', hdifference⟩ := Money.sub_ok hsub
      have hleft' : 0 ≤ left'.amount := Decimal.sub?_nonneg hdifference (by
        rw [Decimal.le_def, hunits]
        exact Int.min_le_right _ _)
      have hsave : (Transaction.saveGiftCard c').run s = (.ok (), { s with
          tables := { s.tables with giftCards := upsert (·.id) c' s.tables.giftCards } }) := rfl
      obtain ⟨paid, s', hrun⟩ := ih hleft' (fun d hd => by rw [hcurrency']; exact hrest d hd)
        { s with tables := { s.tables with giftCards := upsert (·.id) c' s.tables.giftCards } }
      refine ⟨c.id :: paid, s', ?_⟩
      rw [if_neg hdry, Transaction.run_lift_bind_of_ok hpay,
        Transaction.run_lift_bind_of_ok hsub, Transaction.run_bind_of_ok hsave,
        Transaction.run_bind_of_ok hrun]
      rfl

end GiftCard

/-! ## Paying an order -/

namespace Tables

variable {t : Tables} {ids : List GiftCardId}

/-- Cards are listed in the order of their ids. -/
theorem map_id_giftCardsOf_sublist (t : Tables) (ids : List GiftCardId) :
    ((t.giftCardsOf ids).map (·.id)).Sublist ids := by
  induction ids with
  | nil => exact .slnil
  | cons id rest ih =>
    rw [giftCardsOf, List.filterMap_cons]
    cases hfound : t.giftCards.find? (·.id = id) with
    | none => exact ih.cons id
    | some c =>
      obtain rfl := (find?_key (k := GiftCard.id) hfound).2
      exact ih.cons_cons _

/-- Ids without a card do not matter. -/
theorem giftCardsOf_congr {t' : Tables}
    (h : ∀ id, t.giftCards.find? (·.id = id) = none → t'.giftCards.find? (·.id = id) = none) :
    t'.giftCardsOf ids = t'.giftCardsOf ((t.giftCardsOf ids).map (·.id)) := by
  induction ids with
  | nil => rfl
  | cons id rest ih =>
    cases hfound : t.giftCards.find? (·.id = id) with
    | none =>
      have hskip : t'.giftCardsOf (id :: rest) = t'.giftCardsOf rest :=
        List.filterMap_cons_none (h id hfound)
      have hcards : t.giftCardsOf (id :: rest) = t.giftCardsOf rest :=
        List.filterMap_cons_none hfound
      rw [hskip, hcards, ih]
    | some c =>
      obtain rfl := (find?_key (k := GiftCard.id) hfound).2
      have hcards : t.giftCardsOf (c.id :: rest) = c :: t.giftCardsOf rest :=
        List.filterMap_cons_some hfound
      rw [hcards, List.map_cons]
      unfold giftCardsOf at ih ⊢
      rw [List.filterMap_cons, List.filterMap_cons, ih]

end Tables

/-- What it means that an order of the given price has been paid with cards, as far as they go:
the rows of the cards before and after, and the ids of those that have paid. -/
structure GiftCard.Waterfall (o : Order) (now : Moment) (price : Int)
    (before after : List GiftCard) (paid : List GiftCardId) : Prop where
  /-- As much is taken as there is to pay, as far as the cards go. -/
  taken : worth before - worth after = min price (worth before)
  /-- The cards before some place have nothing left, and those behind it are as they were. -/
  place : ∃ k, (∀ c ∈ after.take k, c.units = 0) ∧ after.drop (k + 1) = before.drop (k + 1) ∧
    ∀ c ∈ before[k]?, ∀ c' ∈ after[k]?, 0 ≤ c'.units ∧ c'.units ≤ c.units
  /-- The cards that were reached while something was left to pay have paid. -/
  paid_eq : ∃ n ≤ before.length, paid = (before.take n).map (·.id) ∧
    ∀ i < before.length, i < n ↔ worth (before.take i) < price
  /-- A card that has paid was used just now. It belongs to the customer if it belonged to nobody,
  and nothing else of it but its balance has changed. Other cards have not changed. -/
  rows : List.Forall₂ (fun c c' => if c.id ∈ paid
    then c' = { c with
      balance := c'.balance
      usedBy := if c.usedByEmail.isNone then o.userId else c.usedBy
      usedByEmail := c.usedByEmail.or o.userEmail
      lastUsedOn := some now }
    else c' = c) before after

theorem GiftCard.Flows.waterfall {o : Order} {now : Moment} {price : Int}
    {before after reached : List GiftCard} (h : Flows o now price before after reached)
    (hprice : 0 ≤ price) (hids : (before.map (·.id)).Nodup)
    (hcards : ∀ c ∈ before, 0 ≤ c.units) :
    Waterfall o now price before after (reached.map (·.id)) where
  taken := h.worth_sub hprice hcards
  place := h.place hcards
  paid_eq := by
    obtain ⟨hlength, hprefix, hreached⟩ := h.reached_eq hcards
    exact ⟨reached.length, hlength, congrArg _ hprefix, hreached⟩
  rows := by
    clear hprice
    induction h with
    | empty => exact .nil
    | dry => exact List.forall₂_same.2 fun _ _ => by simp
    | @charged left c c' rest rest' reached _ hc hflows ih =>
      obtain ⟨-, hrest⟩ := List.forall_mem_cons.1 hcards
      rw [List.map_cons, List.nodup_cons] at hids
      refine .cons ?_ ?_
      · rw [List.map_cons, if_pos List.mem_cons_self]
        exact hc.row
      · have hother : ∀ d ∈ rest, (d.id ∈ (c :: reached).map (·.id) ↔ d.id ∈ reached.map (·.id)) :=
          fun d hd => by
            rw [List.map_cons, List.mem_cons, or_iff_right]
            exact fun heq => hids.1 (heq ▸ List.mem_map_of_mem hd)
        exact ((List.forall₂_and_left _ _).2 ⟨fun d hd => hd, ih hids.2 hrest⟩).imp
          fun d d' ⟨hd, hrow⟩ => by simpa only [hother d hd] using hrow

/-- **Gift cards are drained as a waterfall.** An order is paid with usable cards of its currency,
each listed once: this succeeds, changes the rows of the cards card after card, and changes no
other row. -/
theorem payWithGiftCards_waterfall (s : Session) (o : Order) (ids : List GiftCardId)
    (total : Money) (now : Moment) (hids : ids.Nodup)
    (husable : ∀ c ∈ s.tables.giftCardsOf ids, c.isUsable now.date = true)
    (hcards : ∀ c ∈ s.tables.giftCardsOf ids,
      c.balance.currency = total.currency ∧ 0 ≤ c.balance.amount)
    (htotal : 0 ≤ total.amount)
    (hexact : GiftCard.DrainsExactly total.amount.units (s.tables.giftCardsOf ids)) :
    ∃ paid rows, (payWithGiftCards o ids total now).run s =
        (.ok paid, { s with tables := { s.tables with giftCards := rows } }) ∧
      GiftCard.Waterfall o now total.amount.units (s.tables.giftCardsOf ids)
        (({ s.tables with giftCards := rows } : Tables).giftCardsOf ids) paid ∧
      ∀ id, id ∉ paid → rows.find? (·.id = id) = s.tables.giftCards.find? (·.id = id) := by
  have hvalid : GiftCard.validate (s.tables.giftCardsOf ids) now = .ok () :=
    if_pos (List.all_eq_true.2 husable)
  obtain ⟨paid, s', hrun⟩ := GiftCard.drain_run o now htotal hcards s
  obtain ⟨rows, hdrains, rfl⟩ := GiftCard.drain_ok hrun
  have hnodup := hids.sublist (s.tables.map_id_giftCardsOf_sublist ids)
  have hnonneg : ∀ c ∈ s.tables.giftCardsOf ids, 0 ≤ c.units := fun c hc => (hcards c hc).2
  obtain ⟨after, reached, hflows, rfl, hafter, hothers⟩ := hdrains.flows hnodup
    (fun _ hc => Tables.find?_of_mem_giftCardsOf hc) hnonneg hexact
  have hrows : ({ s.tables with giftCards := rows } : Tables).giftCardsOf ids = after := by
    rw [Tables.giftCardsOf_congr (t := s.tables) fun id hnone => ?_, ← hflows.map_id]
    · exact Tables.giftCardsOf_map_id hafter
    · -- an id without a card is not the id of a card that has paid
      rw [← hnone]
      refine hothers id fun hpaid => ?_
      obtain ⟨c, hc, rfl⟩ := List.mem_map.1 hpaid
      have hmem := (hflows.reached_eq hnonneg).2.1 ▸ hc
      rw [Tables.find?_of_mem_giftCardsOf (List.mem_of_mem_take hmem)] at hnone
      cases hnone
  refine ⟨_, rows, ?_, hrows ▸ hflows.waterfall htotal hnodup hnonneg, hothers⟩
  rw [payWithGiftCards, Transaction.run_bind_of_ok (Transaction.run_tables s),
    Transaction.run_lift_bind_of_ok hvalid]
  exact hrun

/-! ## A purse -/

namespace Purse

/-- An amount in dollars. -/
def dollars (n : Int) : Decimal := (Decimal.ofMantissa? n 0).getD 0

def card (number : BitVec 128) (balance : Decimal) (owner : Option String) : GiftCard where
  id := ⟨⟨number⟩⟩
  code := "GIFT"
  initialBalance := ⟨balance, .usd⟩
  balance := ⟨balance, .usd⟩
  isActive := true
  expiryDate := none
  usedBy := none
  usedByEmail := owner
  lastUsedOn := none

/-- The third card belongs to somebody else. -/
def session : Session where
  tables := { giftCards := [card 4 (dollars 5) none, card 1 (dollars 2) none, card 2 0 none,
    card 3 (dollars 3) "grace@example.com"] }

/-- There is no card with the last id. -/
def ids : List GiftCardId := [⟨⟨1⟩⟩, ⟨⟨2⟩⟩, ⟨⟨3⟩⟩, ⟨⟨4⟩⟩, ⟨⟨5⟩⟩]

def order : Order := { (default : Order) with userEmail := some "ada@example.com" }

end Purse

/-- Four dollars empty a card of two dollars, pass an empty one, and leave a dollar on a third. -/
theorem payWithGiftCards_waterfall_purse :
    Purse.ids.Nodup ∧
    (∀ c ∈ Purse.session.tables.giftCardsOf Purse.ids, c.isUsable (Moment.mk 0).date = true) ∧
    (∀ c ∈ Purse.session.tables.giftCardsOf Purse.ids,
      c.balance.currency = .usd ∧ 0 ≤ c.balance.amount) ∧
    GiftCard.DrainsExactly (Purse.dollars 4).units
      (Purse.session.tables.giftCardsOf Purse.ids) ∧
    ∃ paid rows, (payWithGiftCards Purse.order Purse.ids ⟨Purse.dollars 4, .usd⟩ ⟨0⟩).run
        Purse.session = (.ok paid, { Purse.session with
          tables := { Purse.session.tables with giftCards := rows } }) ∧
      GiftCard.Waterfall Purse.order ⟨0⟩ (Purse.dollars 4).units
        (Purse.session.tables.giftCardsOf Purse.ids)
        (({ Purse.session.tables with giftCards := rows } : Tables).giftCardsOf Purse.ids) paid ∧
      ∀ id, id ∉ paid →
        rows.find? (·.id = id) = Purse.session.tables.giftCards.find? (·.id = id) := by
  have hids : Purse.ids.Nodup := by decide
  have husable : ∀ c ∈ Purse.session.tables.giftCardsOf Purse.ids,
      c.isUsable (Moment.mk 0).date = true := by decide +kernel
  have hcards : ∀ c ∈ Purse.session.tables.giftCardsOf Purse.ids,
      c.balance.currency = .usd ∧ 0 ≤ c.balance.amount := by decide +kernel
  have hplaces : GiftCard.HavePlaces 2 ⟨Purse.dollars 4, .usd⟩
      (Purse.session.tables.giftCardsOf Purse.ids) := by decide +kernel
  have hexact := (hplaces.exact (by decide)).drainsExactly
  exact ⟨hids, husable, hcards, hexact, payWithGiftCards_waterfall Purse.session Purse.order
    Purse.ids ⟨Purse.dollars 4, .usd⟩ ⟨0⟩ hids husable hcards (by decide +kernel) hexact⟩

/-- The third card keeps a dollar, and the fourth was not reached. -/
example : ((payWithGiftCards Purse.order Purse.ids ⟨Purse.dollars 4, .usd⟩ ⟨0⟩).run
      Purse.session).2.tables.giftCards.map (fun c => (c.balance.amount, c.usedByEmail)) =
    [(Purse.dollars 5, none), (0, "ada@example.com"), (0, "ada@example.com"),
      (1, "grace@example.com")] := by
  decide +kernel

end Storefront
