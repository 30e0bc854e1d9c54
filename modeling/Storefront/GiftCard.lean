import Storefront.Money.Arithmetic
import Storefront.Time

/-!
# Gift cards

A gift card holds a balance that orders are paid with. It can be used while it is active, up to
and including its expiry date.
-/

namespace Storefront

structure GiftCard where
  id : GiftCardId
  code : String
  initialBalance : Money
  balance : Money
  isActive : Bool
  expiryDate : Option Date
  usedBy : Option UserId
  usedByEmail : Option String
  lastUsedOn : Option Moment
deriving DecidableEq, Inhabited

namespace GiftCard

def isUsable (c : GiftCard) (today : Date) : Bool := c.isActive && c.expiryDate.all (today ≤ ·)

/-- The sum of the balances. -/
def totalBalance (currency : Currency) (cards : List GiftCard) : Except Error Money :=
  Money.sum currency (cards.map (·.balance))

/-- Fails if one of the cards cannot be used today. -/
def validate (cards : List GiftCard) (now : Moment) : Except Error Unit :=
  if cards.all (·.isUsable now.date) then .ok ()
  else .error (.giftCardNotApplicable "Gift card has expired. Order placement cancelled.")

end GiftCard

end Storefront
