import Storefront.Id
import Storefront.Money
import Storefront.Url.Host

/-!
# Why an operation fails

`Error` lists the causes, each with the data it is about. `Error.message` words a cause, and
`Error.report` turns it into what a caller of a checkout sees: a code, the input it concerns, a
text and the variants in question.

`Error.outOfRange` is the one cause that no operation recovers from: a product or quotient was too
large for a decimal.
-/

namespace Storefront

/-- Why a sale or a voucher does not apply. -/
inductive Ineligibility where
  | saleNotInChannel
  | productNotOnSale
  | voucherNotInChannel
  | minimumSpent (amount : Money)
  | minimumQuantity (quantity : Nat)
  | staffOnly
  | noSelectedItems
  | oncePerCustomer
  | usageLimitReached
  | shippingNotRequired
  | deliveryNotSelected
  | countryNotCovered
  | expired
  /-- A reason in the words of a caller. -/
  | custom (message : String)
deriving DecidableEq

/-- Why a redirect address is refused. -/
inductive RedirectProblem where
  | malformed (error : UrlError)
  | withoutHost (url : String)
  | hostNotAllowed (host : String)
deriving DecidableEq

/-- A line that the stock cannot serve, with what it could have. -/
structure Shortage where
  variantId : VariantId
  orderLineId : Option OrderLineId
  warehouseId : Option WarehouseId
  available : Nat
deriving DecidableEq

inductive Error where
  /-- A product or quotient is too large for a decimal. -/
  | outOfRange
  /-- Two amounts were combined, the first in the expected currency. -/
  | currencyMismatch (expected actual : Currency)
  /-- A sum or difference of amounts is too large. -/
  | overflow
  | notApplicable (reason : Ineligibility)
  | giftCardNotApplicable (message : String)
  | insufficientStock (shortages : List Shortage)
  /-- A tax provider failed. -/
  | tax (message : String)
  /-- A payment gateway failed or refused. -/
  | payment (message : String)
  | notFound (entity : Entity) (id : String)
  | conflict (entity : Entity) (id : String)
  | storeUnavailable (text : String)
  | channelInactive
  | checkoutNotFound (token : CheckoutToken)
  | unavailableVariants (variants : List VariantId)
  | noLines
  | notFullyPaid
  | shippingMethodNotSet
  | shippingAddressNotSet
  | invalidShippingMethod
  | billingAddressNotSet
  | redirect (problem : RedirectProblem)
deriving DecidableEq

namespace Ineligibility

/-- The wording of a reason. -/
def message : Ineligibility → String
  | saleNotInChannel => "This sale is not assigned to this channel."
  | productNotOnSale => "Discount not applicable for this product"
  | voucherNotInChannel => "This voucher is not assigned to this channel."
  | minimumSpent amount => "This offer is only valid for orders over " ++ amount.display ++ "."
  | minimumQuantity quantity =>
    "This offer is only valid for orders with a minimum of " ++ toString quantity ++ " quantity."
  | staffOnly => "This offer is valid only for staff customers."
  | noSelectedItems => "This offer is only valid for selected items."
  | oncePerCustomer => "This offer is valid only once per customer."
  | usageLimitReached => "Voucher usage limit has been reached."
  | shippingNotRequired => "Your order does not require shipping."
  | deliveryNotSelected => "Please select a delivery method first."
  | countryNotCovered => "This offer is not valid in your country."
  | expired => "Voucher expired in meantime. Order placement aborted."
  | custom message => message

end Ineligibility

namespace RedirectProblem

/-- The wording of a problem. -/
def message : RedirectProblem → String
  | malformed error =>
    "Invalid URL. Please check if URL is in RFC 1808 format: " ++ error.message
  | withoutHost url => url ++ " has no host."
  | hostNotAllowed host =>
    host ++ " is not allowed. Please check `allowed_client_hosts` configuration."

end RedirectProblem

/-! ## Reports -/

/-- The kinds of reports. -/
inductive ReportCode where
  | billingAddressNotSet
  | channelInactive
  | checkoutNotFullyPaid
  | giftCardNotApplicable
  | graphqlError
  | insufficientStock
  | invalid
  | invalidShippingMethod
  | noLines
  | notFound
  | paymentError
  | shippingAddressNotSet
  | shippingMethodNotSet
  | taxError
  | unavailableVariantInChannel
  | voucherNotApplicable
deriving DecidableEq, Repr

def ReportCode.name : ReportCode → String
  | billingAddressNotSet => "BILLING_ADDRESS_NOT_SET"
  | channelInactive => "CHANNEL_INACTIVE"
  | checkoutNotFullyPaid => "CHECKOUT_NOT_FULLY_PAID"
  | giftCardNotApplicable => "GIFT_CARD_NOT_APPLICABLE"
  | graphqlError => "GRAPHQL_ERROR"
  | insufficientStock => "INSUFFICIENT_STOCK"
  | invalid => "INVALID"
  | invalidShippingMethod => "INVALID_SHIPPING_METHOD"
  | noLines => "NO_LINES"
  | notFound => "NOT_FOUND"
  | paymentError => "PAYMENT_ERROR"
  | shippingAddressNotSet => "SHIPPING_ADDRESS_NOT_SET"
  | shippingMethodNotSet => "SHIPPING_METHOD_NOT_SET"
  | taxError => "TAX_ERROR"
  | unavailableVariantInChannel => "UNAVAILABLE_VARIANT_IN_CHANNEL"
  | voucherNotApplicable => "VOUCHER_NOT_APPLICABLE"

/-- What a caller of a checkout is told about a failure. -/
structure Report where
  code : ReportCode
  field : Option String := none
  message : String
  variants : List VariantId := []
deriving DecidableEq

namespace Error

private def joinIds (ids : List VariantId) : String := ", ".intercalate (ids.map Id.toText)

/-- The wording of a cause. -/
def message : Error → String
  | outOfRange => "Decimal out of range"
  | currencyMismatch expected actual =>
    "Currency mismatch: expected " ++ expected.code ++ ", got " ++ actual.code
  | overflow => "Arithmetic overflow"
  | notApplicable reason => reason.message
  | giftCardNotApplicable message => message
  | insufficientStock shortages =>
    "Insufficient stock for " ++ joinIds (shortages.map (·.variantId))
  | tax message => "Unable to calculate taxes - " ++ message
  | payment message => message
  | notFound entity id => entity.name ++ " " ++ id ++ " not found"
  | conflict entity id => entity.name ++ " " ++ id ++ " already exists"
  | storeUnavailable text => "store unavailable: " ++ text
  | channelInactive => "Cannot complete checkout with inactive channel."
  | checkoutNotFound token => "Couldn't resolve checkout: " ++ token.toText
  | unavailableVariants _ => "Some of the checkout lines variants are unavailable."
  | noLines => "Cannot complete checkout without lines."
  | notFullyPaid => "Provided payment methods can not cover the checkout's total amount"
  | shippingMethodNotSet => "Shipping method is not set"
  | shippingAddressNotSet => "Shipping address is not set"
  | invalidShippingMethod => "Shipping method is not valid for your shipping address"
  | billingAddressNotSet => "Billing address is not set"
  | redirect problem => problem.message

/-- What a caller of a checkout is told about a cause. -/
def report (e : Error) : Report :=
  let plain := fun code => ({ code, message := e.message } : Report)
  let about := fun code field => ({ code, field := some field, message := e.message } : Report)
  match e with
  | outOfRange | currencyMismatch .. | overflow => plain .invalid
  | notApplicable _ => about .voucherNotApplicable "voucher_code"
  | giftCardNotApplicable _ => about .giftCardNotApplicable "gift_cards"
  | insufficientStock shortages =>
    let variants := shortages.map (·.variantId)
    { code := .insufficientStock, field := some "lines"
      message := "Insufficient product stock: " ++ joinIds variants, variants }
  | tax _ => plain .taxError
  | payment _ => plain .paymentError
  | notFound .. => plain .notFound
  | conflict .. | storeUnavailable _ => plain .graphqlError
  | channelInactive => about .channelInactive "channel"
  | checkoutNotFound _ => about .notFound "token"
  | unavailableVariants variants => { about .unavailableVariantInChannel "lines" with variants }
  | noLines => about .noLines "lines"
  | notFullyPaid => about .checkoutNotFullyPaid "payment"
  | shippingMethodNotSet => about .shippingMethodNotSet "shipping_method"
  | shippingAddressNotSet => about .shippingAddressNotSet "shipping_address"
  | invalidShippingMethod => about .invalidShippingMethod "shipping_method"
  | billingAddressNotSet => about .billingAddressNotSet "billing_address"
  | redirect _ => about .invalid "redirect_url"

/-- The cause as a tax provider passes it on: faults of money become faults of the provider. -/
def asTax : Error → Error
  | currencyMismatch expected actual => tax (message (currencyMismatch expected actual))
  | overflow => tax (message overflow)
  | e => e

end Error

end Storefront
