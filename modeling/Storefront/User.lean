import Storefront.Id

/-!
# Users

A registered customer, with the name each payment gateway knows them by.
-/

namespace Storefront

structure User where
  id : UserId
  email : String
  isStaff : Bool
  isActive : Bool
  /-- Pairs of a gateway and a customer id, one for each gateway. -/
  gatewayCustomerIds : List (String × String)
deriving DecidableEq, Inhabited

namespace User

def gatewayCustomerId? (u : User) (gateway : String) : Option String :=
  u.gatewayCustomerIds.lookup gateway

private def put (gateway customerId : String) : List (String × String) → List (String × String)
  | [] => [(gateway, customerId)]
  | (g, c) :: rest =>
    if g = gateway then (gateway, customerId) :: rest else (g, c) :: put gateway customerId rest

/-- The user with a new customer id at a gateway. -/
def withGatewayCustomerId (u : User) (gateway customerId : String) : User :=
  { u with gatewayCustomerIds := put gateway customerId u.gatewayCustomerIds }

private theorem lookup_put (g c : String) (ids : List (String × String)) (k : String) :
    (put g c ids).lookup k = if k = g then some c else ids.lookup k := by
  induction ids with
  | nil =>
    by_cases h : k = g
    · subst h; simp [put]
    · have hk : (k == g) = false := by simp [h]
      simp [put, List.lookup_cons, hk, h]
  | cons p rest ih =>
    obtain ⟨g', c'⟩ := p
    by_cases hg : g' = g
    · subst hg
      by_cases h : k = g'
      · subst h; simp [put]
      · have hk : (k == g') = false := by simp [h]
        simp [put, List.lookup_cons, hk, h]
    · by_cases h : k = g'
      · subst h; simp [put, hg]
      · have hk : (k == g') = false := by simp [h]
        simp [put, hg, List.lookup_cons, hk, ih]

/-- Storing a customer id changes the id at that gateway only. -/
theorem gatewayCustomerId?_with (u : User) (g c k : String) :
    (u.withGatewayCustomerId g c).gatewayCustomerId? k =
      if k = g then some c else u.gatewayCustomerId? k :=
  lookup_put g c u.gatewayCustomerIds k

end User

end Storefront
