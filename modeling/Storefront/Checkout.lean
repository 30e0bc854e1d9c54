import Storefront.Delivery

/-!
# Checkouts

A checkout is a cart together with what the customer has told about payment and delivery.
`Checkout.add` keeps the cart in a normal form: one line for each variant, in the order in which
the variants were first added, and no line without items.

When a checkout was created and last changed is not part of it, nor are the ids of its lines: no
price, check or order depends on them.
-/

namespace Storefront

structure CartLine where
  variantId : VariantId
  quantity : Nat
deriving DecidableEq, Inhabited

structure Checkout where
  token : CheckoutToken
  channelId : ChannelId
  userId : Option UserId := none
  email : Option String := none
  currency : Currency
  shippingAddress : Option Address := none
  billingAddress : Option Address := none
  deliveryChoice : DeliveryChoice := .none
  voucherCode : Option String := none
  discount : Money := Money.zero currency
  discountName : Option String := none
  giftCardIds : List GiftCardId := []
  note : String := ""
  metadata : List (String × String) := []
  privateMetadata : List (String × String) := []
  trackingCode : Option String := none
  redirectUrl : Option String := none
  lines : List CartLine := []
deriving DecidableEq, Inhabited

namespace Checkout

/-- An empty checkout of a channel. -/
def new (token : CheckoutToken) (channel : Channel) : Checkout :=
  { token, channelId := channel.id, currency := channel.currency }

/-- The number of items, an exact sum. -/
def quantity (c : Checkout) : Nat := Quantity.total (c.lines.map (·.quantity))

/-- Adds to the first line of the variant, or puts a new line at the end. -/
def addToLines (variant : VariantId) (quantity : Nat) : List CartLine → List CartLine
  | [] => [⟨variant, quantity⟩]
  | line :: rest =>
    if line.variantId = variant then { line with quantity := line.quantity + quantity } :: rest
    else line :: addToLines variant quantity rest

/-- Puts items of a variant into the cart. -/
def add (c : Checkout) (variant : VariantId) (quantity : Nat) : Checkout :=
  { c with lines := (addToLines variant quantity c.lines).filter (0 < ·.quantity) }

end Checkout

end Storefront
