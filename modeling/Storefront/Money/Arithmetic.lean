import Storefront.Error

/-!
# Sums, differences, multiples and parts of money

Amounts of different currencies are never combined. A sum or difference that is too large is an
`overflow`; a multiple or part that is too large is `outOfRange`.
-/

namespace Storefront

/-- The value, or a failure where there is none. -/
def orFail {α : Type} (e : Error) : Option α → Except Error α
  | some a => .ok a
  | none => .error e

namespace Money

def combine (op : Decimal → Decimal → Option Decimal) (a b : Money) : Except Error Money :=
  if a.currency = b.currency then
    (orFail .overflow (op a.amount b.amount)).map (⟨·, a.currency⟩)
  else .error (.currencyMismatch a.currency b.currency)

private theorem combine_ok {op : Decimal → Decimal → Option Decimal} {a b c : Money}
    (h : combine op a b = .ok c) :
    a.currency = b.currency ∧ c.currency = a.currency ∧ op a.amount b.amount = some c.amount := by
  unfold combine at h
  split at h
  · rename_i hcurrency
    cases hop : op a.amount b.amount with
    | none =>
      rw [hop] at h
      cases h
    | some amount =>
      rw [hop] at h
      cases h
      exact ⟨hcurrency, rfl, rfl⟩
  · cases h

def add (a b : Money) : Except Error Money := combine Decimal.add? a b

def sub (a b : Money) : Except Error Money := combine Decimal.sub? a b

/-- The amount multiplied by a factor. -/
def scale (m : Money) (factor : Decimal) : Except Error Money :=
  (orFail .outOfRange (m.amount.mul? factor)).map (⟨·, m.currency⟩)

/-- The amount for a number of items. -/
def times (m : Money) (quantity : Nat) : Except Error Money :=
  (orFail .outOfRange (m.amount.mulNat? quantity)).map (⟨·, m.currency⟩)

/-- The amount per item. For no items it is the amount itself. -/
def divide (m : Money) (quantity : Nat) : Except Error Money :=
  if quantity = 0 then .ok m
  else (orFail .outOfRange (m.amount.divNat? quantity)).map (⟨·, m.currency⟩)

/-- The sum of amounts of one currency. -/
def sum (currency : Currency) (amounts : List Money) : Except Error Money :=
  amounts.foldlM add (zero currency)

theorem add_ok {a b c : Money} (h : a.add b = .ok c) :
    a.currency = b.currency ∧ c.currency = a.currency ∧ a.amount.add? b.amount = some c.amount :=
  combine_ok h

theorem sub_ok {a b c : Money} (h : a.sub b = .ok c) :
    a.currency = b.currency ∧ c.currency = a.currency ∧ a.amount.sub? b.amount = some c.amount :=
  combine_ok h

/-- A sum that is a decimal is exact. -/
theorem units_add {a b c : Money} (h : a.add b = .ok c)
    (hfits : Decimal.Fits (a.amount.units + b.amount.units)) :
    c.amount.units = a.amount.units + b.amount.units := by
  obtain ⟨-, -, hadd⟩ := add_ok h
  have hexact : a.amount.add? b.amount = some ⟨_, hfits⟩ := Decimal.add?_of_units rfl
  rw [Option.some.inj (hadd.symm.trans hexact)]

/-- A difference that is a decimal is exact. -/
theorem units_sub {a b c : Money} (h : a.sub b = .ok c)
    (hfits : Decimal.Fits (a.amount.units - b.amount.units)) :
    c.amount.units = a.amount.units - b.amount.units := by
  obtain ⟨-, -, hsub⟩ := sub_ok h
  have hexact : a.amount.sub? b.amount = some ⟨_, hfits⟩ := Decimal.sub?_of_units rfl
  rw [Option.some.inj (hsub.symm.trans hexact)]

end Money

end Storefront
