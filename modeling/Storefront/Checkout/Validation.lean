import Storefront.Checkout.Snapshot
import Storefront.RedirectUrl

/-!
# Whether a checkout can be completed

The channel has to be active, the delivery and the billing address have to be settled, and a
redirect address has to be allowed. The first condition that is not met is the answer.
-/

namespace Storefront

namespace Snapshot

/-- The delivery: chosen, with a fitting address, and still available. Nothing is asked of a
checkout that needs no shipping. -/
def validateDelivery (s : Snapshot) (t : Tables) : Except Error Unit :=
  if !s.shippingRequired then .ok ()
  else if !s.delivery.isSelected then .error .shippingMethodNotSet
  else if !s.delivery.isValid then .error .shippingAddressNotSet
  else if !s.isDeliveryAvailable t then .error .invalidShippingMethod
  else .ok ()

def validateBilling (s : Snapshot) : Except Error Unit :=
  if s.checkout.billingAddress.isNone then .error .billingAddressNotSet else .ok ()

/-- All conditions. -/
def validate (s : Snapshot) (t : Tables) (redirectUrl : Option String) (allowed : List String) :
    Except Error Unit := do
  unless s.channel.isActive do throw .channelInactive
  s.validateDelivery t
  s.validateBilling
  if let some url := redirectUrl then RedirectUrl.validate url allowed

/-- Whether validating the checkout needs the offers of the external provider. -/
def validationNeedsOffers (s : Snapshot) : Bool :=
  s.channel.isActive && s.shippingRequired &&
    if s.delivery.isValid then s.availabilityNeedsOffers else s.deliveryNeedsOffers

end Snapshot

end Storefront
