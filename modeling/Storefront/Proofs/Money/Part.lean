import Storefront.Proofs.Money.Order

/-!
# Parts of amounts

A part of an amount is one between zero and the amount. Rounding, taking something off and
multiplying keep parts, and so does adding up. Where the amounts can be computed, their parts can be
computed as well.

* `Money.IsPartOf`: an amount between zero and another one.
* `Money.IsPartOf.of_sub`, `Money.IsPartOf.quantize`, `Money.IsPartOf.times`: one operation.
* `Money.IsPartOf.foldlM_add`: **parts can be added up where the amounts can**.
-/

namespace Storefront

open Decimal (Fits)

/-- `part.IsPartOf whole`: an amount between zero and another one of its currency. -/
structure Money.IsPartOf (part whole : Money) : Prop where
  currency : part.currency = whole.currency
  nonneg : 0 ≤ part.amount
  le : part.amount ≤ whole.amount

namespace Money

variable {a b part whole : Money} {quantity : Nat}

theorem times_of_fits (h : Fits (a.amount.units * quantity)) :
    ∃ all, a.times quantity = .ok all ∧ all.amount.units = a.amount.units * quantity := by
  have hproduct : a.amount.mulNat? quantity = some ⟨_, h⟩ :=
    Decimal.nearest?_of_fits Decimal.unitsPerOne_pos rfl
  exact ⟨⟨⟨_, h⟩, a.currency⟩, by rw [times, hproduct]; rfl, rfl⟩

/-- A sum that is no larger than a multiple that can be computed can be computed. -/
theorem add_of_le_times {all : Money} (hcurrency : a.currency = b.currency)
    (hnonneg : 0 ≤ a.amount.units + b.amount.units)
    (hle : a.amount.units + b.amount.units ≤ whole.amount.units * quantity)
    (hall : whole.times quantity = .ok all) :
    ∃ sum, a.add b = .ok sum ∧ sum.amount ≤ all.amount := by
  obtain ⟨amount, hamount, hle⟩ :=
    Decimal.nearest?_of_le Decimal.unitsPerOne_pos hnonneg hle (times_ok hall).2
  refine ⟨⟨amount, a.currency⟩, ?_, hle⟩
  rw [add, combine, if_pos hcurrency, Decimal.add?, hamount]
  rfl

namespace IsPartOf

theorem self (h : 0 ≤ whole.amount) : whole.IsPartOf whole := ⟨rfl, h, Int.le_refl _⟩

theorem whole_nonneg (h : part.IsPartOf whole) : 0 ≤ whole.amount := Int.le_trans h.nonneg h.le

theorem trans (hab : a.IsPartOf b) (hb : b.IsPartOf whole) : a.IsPartOf whole :=
  ⟨hab.currency.trans hb.currency, hab.nonneg, Int.le_trans hab.le hb.le⟩

theorem quantize (h : part.IsPartOf whole) : part.quantize.IsPartOf whole.quantize where
  currency := h.currency
  nonneg := quantize_nonneg h.nonneg
  le := by
    rw [Decimal.le_def, units_quantize, units_quantize, h.currency]
    exact Currency.round_mono _ h.nonneg h.le

/-- What is left of a price is a part of it, unless too much is taken off. -/
theorem floorAtZero (hwhole : 0 ≤ whole.amount) (hcurrency : part.currency = whole.currency)
    (hle : part.amount ≤ whole.amount) : part.floorAtZero.IsPartOf whole where
  currency := (currency_floorAtZero part).trans hcurrency
  nonneg := part.floorAtZero_nonneg
  le := by
    rw [Decimal.le_def, units_floorAtZero]
    exact Int.max_le.2 ⟨hwhole, hle⟩

/-- What an amount leaves of a price is a part of it. -/
theorem of_sub {left : Money} (hwhole : 0 ≤ whole.amount) (ha : 0 ≤ a.amount)
    (h : whole.sub a = .ok left) : left.floorAtZero.IsPartOf whole := by
  obtain ⟨-, hsame, hsub⟩ := sub_ok h
  exact .floorAtZero hwhole hsame (Decimal.sub?_le ha hsub)

/-- What is left without a part is a part. -/
theorem sub (h : part.IsPartOf whole) :
    ∃ rest, whole.sub part = .ok rest ∧ rest.IsPartOf whole := by
  obtain ⟨rest, hrest⟩ := sub_of_nonneg h.currency.symm h.whole_nonneg h.nonneg
  obtain ⟨-, hsame, hsub⟩ := sub_ok hrest
  exact ⟨rest, hrest, hsame, Decimal.sub?_nonneg hsub h.le, Decimal.sub?_le h.nonneg hsub⟩

theorem times {all : Money} (h : part.IsPartOf whole) (hall : whole.times quantity = .ok all) :
    ∃ some, part.times quantity = .ok some ∧ some.IsPartOf all := by
  obtain ⟨hsame, hproduct⟩ := times_ok hall
  have hnonneg : 0 ≤ part.amount.units * quantity :=
    Int.mul_nonneg h.nonneg (Int.natCast_nonneg _)
  have hle : part.amount.units * quantity ≤ whole.amount.units * quantity :=
    Int.mul_le_mul_of_nonneg_right h.le (Int.natCast_nonneg _)
  obtain ⟨amount, hamount, hle⟩ :=
    Decimal.nearest?_of_le Decimal.unitsPerOne_pos hnonneg hle hproduct
  have hsome : part.times quantity = .ok ⟨amount, part.currency⟩ := by
    rw [Money.times, Decimal.mulNat?, hamount]
    rfl
  exact ⟨_, hsome, h.currency.trans hsame.symm, times_nonneg h.nonneg hsome, hle⟩

/-- **Parts can be added up where the amounts can**, and come to a part of their sum. -/
theorem foldlM_add {parts wholes : List Money} {acc acc' total : Money}
    (hall : List.Forall₂ IsPartOf parts wholes) (hacc : acc.IsPartOf acc')
    (h : wholes.foldlM add acc' = .ok total) :
    ∃ sum, parts.foldlM add acc = .ok sum ∧ sum.IsPartOf total := by
  induction hall generalizing acc acc' with
  | nil =>
    cases h
    exact ⟨acc, rfl, hacc⟩
  | @cons part whole _ _ hpart _ ih =>
    obtain ⟨next', hnext', h⟩ := foldlM_cons_ok h
    obtain ⟨hsame, hcurrency', hsum'⟩ := add_ok hnext'
    have hnonneg : 0 ≤ acc.amount.units + part.amount.units :=
      Int.add_nonneg hacc.nonneg hpart.nonneg
    have hle : acc.amount.units + part.amount.units ≤ acc'.amount.units + whole.amount.units :=
      Int.add_le_add hacc.le hpart.le
    obtain ⟨next, hnext⟩ := add_of_le
      (hacc.currency.trans (hsame.trans hpart.currency.symm)) hnonneg hle hnext'
    obtain ⟨-, hcurrency, hsum⟩ := add_ok hnext
    have hnextPart : next.IsPartOf next' :=
      ⟨hcurrency.trans (hacc.currency.trans hcurrency'.symm),
        Money.add_nonneg hacc.nonneg hpart.nonneg hnext, Decimal.add?_mono hle hsum hsum'⟩
    obtain ⟨sum, hparts, hpartOf⟩ := ih hnextPart h
    refine ⟨sum, ?_, hpartOf⟩
    rw [List.foldlM_cons, hnext]
    exact hparts

end IsPartOf

end Money

end Storefront
