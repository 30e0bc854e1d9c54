/-!
# Identifiers

A row of the store is named by a 128-bit number, tagged with the kind of row, so that ids of
different kinds cannot be mixed up.

* `Uuid.ofText?` reads the hyphenated form, also in braces or as a URN, and the form of 32 plain
  digits. `Uuid.toText` prints the hyphenated form in lower case.
-/

namespace Storefront

/-- A 128-bit identifier. -/
structure Uuid where
  bits : BitVec 128
deriving DecidableEq, Inhabited

namespace Uuid

def nil : Uuid := ⟨0⟩

/-- Ids are ordered by their value. -/
def le (a b : Uuid) : Bool := a.bits ≤ b.bits

def hexDigit? (c : Char) : Option Nat :=
  if '0' ≤ c ∧ c ≤ '9' then some (c.toNat - '0'.toNat)
  else if 'a' ≤ c ∧ c ≤ 'f' then some (c.toNat - 'a'.toNat + 10)
  else if 'A' ≤ c ∧ c ≤ 'F' then some (c.toNat - 'A'.toNat + 10)
  else none

/-- The number with the given hexadecimal digits. -/
def ofHex? (digits : List Char) : Option Nat :=
  digits.foldlM (fun n c => (hexDigit? c).map (n * 16 + ·)) 0

private def ofDigits? (digits : List Char) : Option Uuid :=
  if digits.length = 32 then (ofHex? digits).map fun n => ⟨BitVec.ofNat 128 n⟩ else none

/-- The lengths of the groups of digits between the hyphens. -/
private def groupLengths : List Nat := [8, 4, 4, 4, 12]

private def ofHyphenated? (text : String) : Option Uuid :=
  let groups := (text.splitOn "-").map String.toList
  if groups.map List.length = groupLengths then ofDigits? groups.flatten else none

/-- The mark of an id that is written as a URN, in letters of any case. -/
private def urnMark : List Char := "urn:uuid:".toList

/-- The id a text denotes. -/
def ofText? (text : String) : Option Uuid :=
  let chars := text.toList
  if chars.length = 32 then ofDigits? chars
  else if (chars.take urnMark.length).map Char.toLower = urnMark then
    ofHyphenated? (String.ofList (chars.drop urnMark.length))
  else match chars with
    | '{' :: rest =>
      if rest.getLast? = some '}' then ofHyphenated? (String.ofList rest.dropLast) else none
    | _ => ofHyphenated? text

private def hexDigits (width n : Nat) : List Char :=
  match width with
  | 0 => []
  | width + 1 => hexDigits width (n / 16) ++ [Nat.digitChar (n % 16)]

private def hyphenate : List Nat → List Char → List (List Char)
  | [], _ => []
  | size :: sizes, digits => digits.take size :: hyphenate sizes (digits.drop size)

def toText (id : Uuid) : String :=
  "-".intercalate ((hyphenate groupLengths (hexDigits 32 id.bits.toNat)).map String.ofList)

end Uuid

/-- The kinds of rows. -/
inductive Entity where
  | channel | user | product | category | collection | variant | variantListing | sale | voucher
  | voucherCustomer | shippingMethod | warehouse | stock | giftCard | checkout | payment | order
  | orderLine
deriving DecidableEq, Repr

/-- The name of a kind of row in messages. -/
def Entity.name : Entity → String
  | channel => "Channel"
  | user => "User"
  | product => "Product"
  | category => "Category"
  | collection => "Collection"
  | variant => "ProductVariant"
  | variantListing => "VariantChannelListing"
  | sale => "Sale"
  | voucher => "Voucher"
  | voucherCustomer => "VoucherCustomer"
  | shippingMethod => "ShippingMethod"
  | warehouse => "Warehouse"
  | stock => "Stock"
  | giftCard => "GiftCard"
  | checkout => "Checkout"
  | payment => "Payment"
  | order => "Order"
  | orderLine => "OrderLine"

/-- The id of a row of one kind. -/
structure Id (entity : Entity) where
  uuid : Uuid
deriving DecidableEq, Inhabited

namespace Id

def toText {entity : Entity} (id : Id entity) : String := id.uuid.toText

def le {entity : Entity} (a b : Id entity) : Bool := a.uuid.le b.uuid

end Id

abbrev ChannelId := Id .channel
abbrev UserId := Id .user
abbrev ProductId := Id .product
abbrev CategoryId := Id .category
abbrev CollectionId := Id .collection
abbrev VariantId := Id .variant
abbrev VariantListingId := Id .variantListing
abbrev SaleId := Id .sale
abbrev VoucherId := Id .voucher
abbrev ShippingMethodId := Id .shippingMethod
abbrev WarehouseId := Id .warehouse
abbrev StockId := Id .stock
abbrev GiftCardId := Id .giftCard
abbrev CheckoutToken := Id .checkout
abbrev PaymentId := Id .payment
abbrev OrderId := Id .order
abbrev OrderLineId := Id .orderLine

end Storefront
