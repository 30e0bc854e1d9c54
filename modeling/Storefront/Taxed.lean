import Storefront.Money.Arithmetic

/-!
# Prices with and without tax

A `Taxed` price is an amount before tax and the same amount including tax. A price whose two
amounts differ has been taxed; what has not been taxed yet has them equal.
-/

namespace Storefront

structure Taxed where
  net : Money
  gross : Money
deriving DecidableEq, Inhabited

namespace Taxed

/-- The pair of two amounts of one currency. -/
def ofParts (net gross : Money) : Except Error Taxed :=
  if net.currency = gross.currency then .ok ⟨net, gross⟩
  else .error (.currencyMismatch net.currency gross.currency)

/-- A price that no tax has been applied to. -/
def untaxed (amount : Money) : Taxed := ⟨amount, amount⟩

def zero (currency : Currency) : Taxed := untaxed (Money.zero currency)

def currency (p : Taxed) : Currency := p.net.currency

/-- The tax in the price. -/
def tax (p : Taxed) : Except Error Money := p.gross.sub p.net

/-- Whether some provider has already settled the tax of the price. -/
def isTaxed (p : Taxed) : Bool := p.net ≠ p.gross

def isZero (p : Taxed) : Bool := p.net.amount.isZero && p.gross.amount.isZero

def add (p q : Taxed) : Except Error Taxed := do
  return ⟨← p.net.add q.net, ← p.gross.add q.gross⟩

def sub (p q : Taxed) : Except Error Taxed := do
  return ⟨← p.net.sub q.net, ← p.gross.sub q.gross⟩

/-- Adds an amount to both parts. -/
def addAmount (p : Taxed) (amount : Money) : Except Error Taxed := p.add (untaxed amount)

/-- Takes an amount off both parts. -/
def subAmount (p : Taxed) (amount : Money) : Except Error Taxed := p.sub (untaxed amount)

def times (p : Taxed) (quantity : Nat) : Except Error Taxed := do
  return ⟨← p.net.times quantity, ← p.gross.times quantity⟩

def divide (p : Taxed) (quantity : Nat) : Except Error Taxed := do
  return ⟨← p.net.divide quantity, ← p.gross.divide quantity⟩

def quantize (p : Taxed) : Taxed := ⟨p.net.quantize, p.gross.quantize⟩

def floorAtZero (p : Taxed) : Taxed := ⟨p.net.floorAtZero, p.gross.floorAtZero⟩

@[simp] theorem isTaxed_untaxed (m : Money) : (untaxed m).isTaxed = false := by
  simp [isTaxed, untaxed]

/-- The tax rate of a price, as a fraction of the net amount, rounded half to even to four places.
It is zero for a price of nothing. -/
def rate (p : Taxed) : Except Error Decimal :=
  if p.net.amount.isZero then .ok 0
  else do
    let quotient ← orFail .outOfRange (p.gross.amount.div? p.net.amount)
    let rate ← orFail .outOfRange (quotient.sub? 1)
    return rate.round .halfEven 4

/-- Applies a tax rate to a price. An entered price that includes tax is the gross amount, and the
net amount is the price divided by one plus the rate; otherwise it is the net amount. -/
def ofRate (price : Money) (rate : Decimal) (entryIncludesTax : Bool) : Except Error Taxed := do
  let factor ← orFail .outOfRange (Decimal.add? 1 rate)
  if entryIncludesTax then
    let net ← if factor.isZero then pure price.amount
      else orFail .outOfRange (price.amount.div? factor)
    return ⟨Money.quantize ⟨net, price.currency⟩, price.quantize⟩
  else
    return ⟨price.quantize, (← price.scale factor).quantize⟩

end Taxed

end Storefront
