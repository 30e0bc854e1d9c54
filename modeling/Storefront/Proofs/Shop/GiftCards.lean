import Storefront.Proofs.GiftCard.Worth
import Storefront.Proofs.Shop.Schedule

/-!
# What orders take off gift cards

An order is priced with the balance of its gift cards, and the cards are drained when it is created.
Between the two other orders may drain the same cards, and the draining itself charges a card that
is listed twice from one balance.

* `Attempt.Prepared.unasked`: what an order does not ask for of its price.
* `Attempt.Creates.worth_sub`: what its creation takes off the cards.
* `Shop.covered_iff`: when the two are the same.
* `Shop.overspends_bookshop`: both ways in which they are not.
-/

namespace Storefront

/-! ## One order -/

/-- What the order does not ask for of its price has been taken off the gift cards. -/
def Order.Covered (o : Order) (price : Money) (before after : Tables) : Prop :=
  price.amount.units - o.total.gross.amount.units =
    GiftCard.worth before.giftCards - GiftCard.worth after.giftCards

instance (o : Order) (price : Money) (before after : Tables) :
    Decidable (o.Covered price before after) :=
  inferInstanceAs (Decidable (_ = _))

/-- The cards that an order may be paid with, as often as its checkout lists them. -/
def OrderPlan.cardsIn (plan : OrderPlan) (t : Tables) : List GiftCard :=
  t.giftCardsOf plan.snapshot.checkout.giftCardIds

/-- The cards of an order go as far when they are charged as they did when it was priced. What cards
pay that have paid before does not count, because it is paid from the same balance. -/
def OrderPlan.CardsLast (plan : OrderPlan) (priced charged : Tables) (paid : List GiftCardId) :
    Prop :=
  min plan.price.gross.amount.units (GiftCard.worth (plan.cardsIn priced)) =
    min (max 0 plan.price.gross.amount.units) (GiftCard.worth (plan.cardsIn charged)) -
      GiftCard.recounted (charged.giftCardsOf paid)

/-- Cards that are worth what they were, and each of which pays once, last. -/
theorem OrderPlan.cardsLast_of_nodup {plan : OrderPlan} {priced charged : Tables}
    {paid : List GiftCardId} (hprice : 0 ≤ plan.price.gross.amount.units) (hpaid : paid.Nodup)
    (hworth : GiftCard.worth (plan.cardsIn charged) = GiftCard.worth (plan.cardsIn priced)) :
    plan.CardsLast priced charged paid := by
  have honce : (charged.giftCardsOf paid).Nodup :=
    hpaid.filterMap fun id id' c hid hid' =>
      (find?_key (k := GiftCard.id) hid).2.symm.trans (find?_key (k := GiftCard.id) hid').2
  rw [CardsLast, GiftCard.recounted_of_nodup honce, hworth, Int.max_eq_right hprice, Int.sub_zero]

namespace Attempt

variable {a : Attempt} {plan : OrderPlan} {payment : Option Payment}
  {settled : Option SettledPayment} {t : Tables} {c : Creation}

/-- **The total of an order** is what its cards leave of the price. -/
theorem Prepared.units_total (h : a.Prepared t plan payment)
    (hcards : ∀ front, front <+: plan.cardsIn t → Decimal.Fits (GiftCard.worth front))
    (hleft : Decimal.Fits (plan.price.gross.amount.units - GiftCard.worth (plan.cardsIn t))) :
    plan.total.gross.amount.units =
      max 0 (plan.price.gross.amount.units - GiftCard.worth (plan.cardsIn t)) := by
  obtain ⟨_, balance, -, hbalance, -, hplan⟩ := h.priced
  have hworth : balance.amount.units = GiftCard.worth (plan.cardsIn t) :=
    GiftCard.units_totalBalance hbalance hcards
  obtain ⟨left, hdifference, htotal⟩ := Snapshot.plan_total hplan
  obtain ⟨_net, -, hdifference⟩ := bind_ok hdifference
  obtain ⟨gross, hgross, hdifference⟩ := bind_ok hdifference
  cases hdifference
  have hunits : gross.amount.units = plan.price.gross.amount.units - balance.amount.units :=
    Money.units_sub hgross (hworth.symm ▸ hleft)
  rw [← hworth, ← hunits, show plan.total = _ from htotal]
  exact Money.units_floorAtZero gross

/-- **What an order does not ask for** is what its cards were worth when it was priced, as far as
the price goes. -/
theorem Prepared.unasked (h : a.Prepared t plan payment)
    (hexact : GiftCard.Exact plan.price.gross (plan.cardsIn t)) :
    plan.price.gross.amount.units - plan.total.gross.amount.units =
      min plan.price.gross.amount.units (GiftCard.worth (plan.cardsIn t)) := by
  have htotal := h.units_total (fun front hfront => (hexact front hfront).1)
    (hexact (plan.cardsIn t) List.prefix_rfl).2
  omega

/-- **What a creation takes off the cards** is what they are worth now, as far as the price goes,
but for what is paid by cards that have paid before. -/
theorem Creates.worth_sub (h : a.Creates plan settled t c)
    (hcards : ∀ card ∈ t.giftCards, 0 ≤ card.units)
    (hexact : GiftCard.Exact plan.price.gross (plan.cardsIn t)) :
    GiftCard.worth t.giftCards - GiftCard.worth c.giftCards =
      min (max 0 plan.price.gross.amount.units) (GiftCard.worth (plan.cardsIn t)) -
        GiftCard.recounted (t.giftCardsOf c.order.giftCardIds) := by
  have hfound : ∀ card ∈ plan.cardsIn t, t.giftCards.find? (·.id = card.id) = some card :=
    fun _ hcard => Tables.find?_of_mem_giftCardsOf hcard
  obtain ⟨payers, hpayers, hids, hworth⟩ := h.giftCards.worth_sub hfound hcards hexact
  rw [hids, Tables.giftCardsOf_map_id fun card hcard => hfound card (hpayers.subset hcard)]
  exact hworth

end Attempt

/-! ## A shop that sells to two buyers -/

namespace Bookshop

/-- A card with two dollars on it. -/
def giftCard : GiftCard where
  id := ⟨⟨11⟩⟩
  code := "GIFT"
  initialBalance := ⟨.ofInt 2, .usd⟩
  balance := ⟨.ofInt 2, .usd⟩
  isActive := true
  expiryDate := none
  usedBy := none
  usedByEmail := none
  lastUsedOn := none

/-- Two checkouts for some copies each, which list the card so many times. -/
def giftTables (copies listed : Nat) : Tables :=
  { tables with
    stocks := [⟨⟨⟨6⟩⟩, ⟨⟨5⟩⟩, ⟨⟨3⟩⟩, 9, 0⟩]
    giftCards := [giftCard]
    checkouts := [⟨⟨8⟩⟩, ⟨⟨10⟩⟩].map fun token => {
      token, channelId := channel.id, currency := .usd, email := some "ada@example.com"
      billingAddress := some {}, giftCardIds := List.replicate listed giftCard.id
      lines := [⟨⟨⟨3⟩⟩, copies⟩] }
    payments := [] }

/-- Attempts at the two checkouts. -/
def giftAttempts : List Attempt := [attempt 1, { attempt 2 with token := ⟨⟨10⟩⟩ }]

def giftShop (copies listed : Nat) : Shop := .opening (giftTables copies listed) giftAttempts

/-- An attempt goes on. No payment is charged, so it does not matter what the bank answers. -/
def turn (process : Nat) : Move := ⟨process, .ok (response false)⟩

end Bookshop

/-! ## Whole runs -/

namespace Shop

variable {s : Shop} {before : List Move} {m : Move} {plan : OrderPlan}

/-- No schedule overdraws a card. -/
theorem giftCards_nonneg_run {t : Tables} (attempts : List Attempt)
    (hcards : ∀ c ∈ t.giftCards, 0 ≤ c.units) (moves : List Move) :
    ∀ c ∈ ((opening t attempts).run moves).tables.giftCards, 0 ≤ c.units := by
  refine run_induction (P := fun s => ∀ c ∈ s.tables.giftCards, 0 ≤ c.units) hcards ?_ moves
  intro s s' hs h
  rcases h.created_or_sameGoods with ⟨_, _, _, c, hcreates, htables⟩ | hsame
  · rw [htables]
    exact hcreates.giftCards.nonneg hs
  · rwa [hsame.giftCards]

/-- **What an order does not ask for is taken off the cards** exactly where its cards go as far as
they did when it was priced, in spite of the orders created since and of cards that are listed
twice. -/
theorem covered_iff (t : Tables) (attempts : List Attempt) (before : List Move) (m : Move)
    (p : Process) (plan : OrderPlan) (order : Order) (hcards : ∀ c ∈ t.giftCards, 0 ≤ c.units)
    (hplaces : (opening t attempts).Places before m p plan order) :
    ∃ earlier payment, earlier <+: before ∧
      p.attempt.Prepared ((opening t attempts).run earlier).tables plan payment ∧
      (GiftCard.Exact plan.price.gross (plan.cardsIn ((opening t attempts).run earlier).tables) →
        GiftCard.Exact plan.price.gross (plan.cardsIn ((opening t attempts).run before).tables) →
        (order.Covered plan.price.gross ((opening t attempts).run before).tables
            ((opening t attempts).run (before ++ [m])).tables ↔
          plan.CardsLast ((opening t attempts).run earlier).tables
            ((opening t attempts).run before).tables order.giftCardIds)) := by
  obtain ⟨settled, hstage⟩ := hplaces.stage
  obtain ⟨earlier, payment, hearlier, hprepared⟩ := prepared_run t attempts before p
    (List.mem_of_getElem? hplaces.process) plan (by rw [hstage]; rfl)
  obtain ⟨settled', c, hcreates, rfl, htables⟩ := hplaces.creates
  refine ⟨earlier, payment, hearlier, hprepared, fun hpriced hcharged => ?_⟩
  have hunasked := hprepared.unasked hpriced
  have htaken := hcreates.worth_sub (giftCards_nonneg_run attempts hcards before) hcharged
  have htotal : c.order.total = plan.total := by
    obtain ⟨_, _, _, _, horder⟩ := hcreates.order
    rw [horder, hcreates.opened]
    rfl
  rw [Order.Covered, htables, htotal, hunasked]
  exact Eq.congr_right htaken

/-- Amounts with so many places are not rounded at any time. -/
theorem exact_of_havePlaces {places : Nat} (hplaces : places ≤ Decimal.maxPlaces)
    (h : ∀ earlier ∈ before.inits,
      GiftCard.HavePlaces places plan.price.gross (plan.cardsIn (s.run earlier).tables))
    {earlier : List Move} (hearlier : earlier <+: before) :
    GiftCard.Exact plan.price.gross (plan.cardsIn (s.run earlier).tables) :=
  (h earlier ((List.mem_inits ..).2 hearlier)).exact hplaces

/-- A copy for one dollar is paid with the card. -/
theorem covered_iff_bookshop :
    (∀ c ∈ (Bookshop.giftTables 1 1).giftCards, 0 ≤ c.units) ∧ ∃ p plan order,
      (Bookshop.giftShop 1 1).Places [Bookshop.turn 0] (Bookshop.turn 0) p plan order ∧
      order.Covered plan.price.gross ((Bookshop.giftShop 1 1).run [Bookshop.turn 0]).tables
        ((Bookshop.giftShop 1 1).run [Bookshop.turn 0, Bookshop.turn 0]).tables := by
  have hcards : ∀ c ∈ (Bookshop.giftTables 1 1).giftCards, 0 ≤ c.units := by decide
  obtain ⟨p, plan, order, hplaces, hprice, hpaid, hall⟩ := exists_places (Bookshop.giftShop 1 1)
    [Bookshop.turn 0] (Bookshop.turn 0)
    (fun plan order => 0 ≤ plan.price.gross.amount.units ∧ order.giftCardIds.Nodup ∧
      ∀ earlier ∈ [Bookshop.turn 0].inits,
        GiftCard.HavePlaces 0 plan.price.gross
          (plan.cardsIn ((Bookshop.giftShop 1 1).run earlier).tables) ∧
        GiftCard.worth (plan.cardsIn ((Bookshop.giftShop 1 1).run [Bookshop.turn 0]).tables) =
          GiftCard.worth (plan.cardsIn ((Bookshop.giftShop 1 1).run earlier).tables))
    (by decide +kernel)
  have hwhole := fun earlier hearlier => (hall earlier hearlier).1
  obtain ⟨earlier, payment, hearlier, -, hiff⟩ := covered_iff (Bookshop.giftTables 1 1)
    Bookshop.giftAttempts [Bookshop.turn 0] (Bookshop.turn 0) p plan order hcards hplaces
  have hworth := (hall earlier ((List.mem_inits ..).2 hearlier)).2
  exact ⟨hcards, p, plan, order, hplaces,
    (hiff (exact_of_havePlaces (by decide) hwhole hearlier)
      (exact_of_havePlaces (by decide) hwhole List.prefix_rfl)).2
      (OrderPlan.cardsLast_of_nodup hprice hpaid hworth)⟩

/-- **Gift cards may be double-spent**: a move creates an order, and what the order does not ask for
of its price has not been taken off the cards, although nothing is rounded. -/
def Overspends (t : Tables) (attempts : List Attempt) (before : List Move) (m : Move) : Prop :=
  (∀ c ∈ t.giftCards, 0 ≤ c.units) ∧ ∃ p plan order,
    (opening t attempts).Places before m p plan order ∧
    (∀ earlier, earlier <+: before →
      GiftCard.Exact plan.price.gross (plan.cardsIn ((opening t attempts).run earlier).tables)) ∧
    ¬order.Covered plan.price.gross ((opening t attempts).run before).tables
      ((opening t attempts).run (before ++ [m])).tables

theorem overspends_of_whole {t : Tables} {attempts : List Attempt}
    (hcards : ∀ c ∈ t.giftCards, 0 ≤ c.units)
    (h : ∃ p plan order, (opening t attempts).Places before m p plan order ∧
      (∀ earlier ∈ before.inits, GiftCard.HavePlaces 0 plan.price.gross
        (plan.cardsIn ((opening t attempts).run earlier).tables)) ∧
      ¬order.Covered plan.price.gross ((opening t attempts).run before).tables
        ((opening t attempts).run (before ++ [m])).tables) :
    Overspends t attempts before m := by
  obtain ⟨p, plan, order, hplaces, hwhole, huncovered⟩ := h
  exact ⟨hcards, p, plan, order, hplaces,
    fun _ hearlier => exact_of_havePlaces (Nat.zero_le _) hwhole hearlier, huncovered⟩

/-- Three copies are paid twice with one card, and two buyers who share a card pay two copies each
with it. -/
theorem overspends_bookshop :
    Overspends (Bookshop.giftTables 3 2) Bookshop.giftAttempts [Bookshop.turn 0]
      (Bookshop.turn 0) ∧
    Overspends (Bookshop.giftTables 2 1) Bookshop.giftAttempts
      [Bookshop.turn 0, Bookshop.turn 1, Bookshop.turn 0] (Bookshop.turn 1) :=
  ⟨overspends_of_whole (by decide) (exists_places _ _ _ _ (by decide +kernel)),
    overspends_of_whole (by decide) (exists_places _ _ _ _ (by decide +kernel))⟩

end Shop

end Storefront
