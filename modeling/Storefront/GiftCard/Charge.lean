import Storefront.Store.Transaction

/-!
# Paying with gift cards

An order is paid with gift cards in the order in which they are listed: each gives all it has, until
nothing is left to pay. A card keeps the first customer that used it.
-/

namespace Storefront

namespace GiftCard

/-- The card after it has paid an amount of an order. -/
def pay (c : GiftCard) (o : Order) (amount : Money) (now : Moment) : Except Error GiftCard := do
  let balance ← c.balance.sub amount
  let c := if c.usedByEmail.isNone then { c with usedBy := o.userId, usedByEmail := o.userEmail }
    else c
  return { c with balance, lastUsedOn := some now }

/-- Takes what is left to pay from card after card, and returns the ids of the cards that paid. -/
def drain (o : Order) (now : Moment) : Money → List GiftCard → Transaction (List GiftCardId)
  | _, [] => return []
  | left, c :: rest => do
    if left.amount ≤ 0 then return []
    let amount := c.balance.min left
    let paid ← c.pay o amount now
    let left ← left.sub amount
    Transaction.saveGiftCard paid
    return c.id :: (← drain o now left rest)

end GiftCard

/-- Pays an order with the listed gift cards, all of which have to be usable. -/
def payWithGiftCards (o : Order) (ids : List GiftCardId) (total : Money) (now : Moment) :
    Transaction (List GiftCardId) := do
  let cards := (← Transaction.tables).giftCardsOf ids
  GiftCard.validate cards now
  GiftCard.drain o now total cards

end Storefront
