import Storefront.Store.Transaction

/-!
# Using vouchers

An order uses its voucher once. The use is counted, and a voucher that each customer may use only
once also remembers the customer.

* `Voucher.take`: takes a use for a customer.
* `Voucher.giveBack`: undoes it.
-/

namespace Storefront.Voucher

/-- Counts a use, if there is one left. -/
def countUse (v : Voucher) : Transaction Unit := do
  unless ← Transaction.takeUse v.id do throw (.notApplicable .usageLimitReached)

/-- Remembers that a customer has used the voucher, if they have not done so before. -/
def rememberCustomer (v : Voucher) (email : String) : Transaction Unit := do
  if (← Transaction.tables).hasUsed v.id email then throw (.notApplicable .oncePerCustomer)
  Transaction.addVoucherCustomer v.id email

/-- The customer that a use is remembered for. -/
def remembered? (v : Voucher) (email : Option String) : Option String :=
  if v.applyOncePerCustomer then email else none

/-- Takes a use of the voucher for a customer. -/
def take (v : Voucher) (email : Option String) : Transaction Unit := do
  v.countUse
  if let some email := v.remembered? email then v.rememberCustomer email

/-- Gives a use of the voucher back that was taken for a customer. -/
def giveBack (v : Voucher) (email : Option String) : Transaction Unit := do
  Transaction.giveBackUse v.id
  if let some email := v.remembered? email then Transaction.removeVoucherCustomer v.id email

end Storefront.Voucher
