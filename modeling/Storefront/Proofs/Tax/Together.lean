import Mathlib.Algebra.BigOperators.Ring.Finset
import Mathlib.Tactic.Choose
import Storefront.Proofs.Tax.Precision

/-!
# Items taxed one by one and together

The prices of items that are taxed one by one are rounded one by one. Their sum and the price of all
items, taxed together, differ by half a minor unit for each item and another one for the price of
all. Nothing else comes in: for amounts that are not too large the sums are exact.

* `Money.units_foldlM_add_of_lt`: a sum is exact if it is not too large.
* `Taxed.Within`, `Taxed.Within.add`: prices within bounds are added exactly.
* `TaxedItems`: items of one currency that are taxed one by one.
* `TaxedItems.exists_sum`: their prices can be added up, and the sum is exact.
* `TaxedItems.natAbs_sub_le`: **the sum of their prices against the price of all of them**.
* `TaxedItems.eq_of_length_eq_one`: there is no difference for one item.
-/

namespace Storefront

open Decimal (Fits maxPlaces mantissaBound unitsPerOne)

/-! ## Sums -/

namespace Money

variable {c : Currency}

/-- Two amounts are added exactly if their sum is not too large. -/
theorem units_add_of_lt {a b sum : Money} (h : a.add b = .ok sum) (hcurrency : a.currency = c)
    (ha : a.quantize = a) (hb : b.quantize = b) (hnonneg : 0 ≤ a.amount.units + b.amount.units)
    (hlt : sum.amount.units + c.minor < (mantissaBound * c.minor : Nat)) :
    sum.amount.units = a.amount.units + b.amount.units := by
  obtain ⟨hsame, hsumCurrency, -⟩ := add_ok h
  have hsum := quantize_add ha hb h
  rw [quantize_iff] at ha hb hsum
  rw [hsumCurrency, hcurrency] at hsum
  rw [← hsame, hcurrency] at hb
  rw [hcurrency] at ha
  have hdvd : (c.minor : Int) ∣ a.amount.units + b.amount.units := Int.dvd_add ha hb
  have hpos := c.minor_pos
  have hle : a.amount.units + b.amount.units ≤ sum.amount.units := by
    -- a larger sum would have been rounded to a minor unit more at least
    refine Int.not_lt.1 fun hmore => ?_
    have hstep : (c.minor : Int) ≤ a.amount.units + b.amount.units - sum.amount.units :=
      Int.le_of_dvd (Int.sub_pos.2 hmore) (Int.dvd_sub hdvd hsum)
    have hsumNonneg : (0 : Decimal) ≤ sum.amount := le_add h (by rwa [Decimal.units_zero])
    rw [Decimal.le_def, Decimal.units_zero] at hsumNonneg
    have hfits : Fits (sum.amount.units + c.minor) :=
      c.fits_of_dvd (by omega) (Int.dvd_add hsum (Int.dvd_refl _)) hlt
    have hreached : (⟨_, hfits⟩ : Decimal) ≤ sum.amount := le_add h (by dsimp only; omega)
    rw [Decimal.le_def] at hreached
    dsimp only at hreached
    omega
  exact units_add h (c.fits_of_dvd hnonneg hdvd (by omega))

/-- **A sum is exact if it is not too large.** -/
theorem units_foldlM_add_of_lt {acc total : Money} {amounts : List Money}
    (h : amounts.foldlM add acc = .ok total) (hcurrency : acc.currency = c)
    (hacc : acc.quantize = acc ∧ 0 ≤ acc.amount)
    (hall : ∀ m ∈ amounts, m.quantize = m ∧ 0 ≤ m.amount)
    (hlt : total.amount.units + c.minor < (mantissaBound * c.minor : Nat)) :
    total.amount.units = acc.amount.units + (amounts.map (·.amount.units)).sum := by
  induction amounts generalizing acc with
  | nil =>
    cases h
    exact (Int.add_zero _).symm
  | cons m rest ih =>
    obtain ⟨hm, hrest⟩ := List.forall_mem_cons.1 hall
    obtain ⟨next, hnext, h⟩ := foldlM_cons_ok h
    have hle : next.amount.units ≤ total.amount.units :=
      le_foldlM_add (fun x hx => (hrest x hx).2) h
    have hunits := units_add_of_lt hnext hcurrency hacc.1 hm.1 (Int.add_nonneg hacc.2 hm.2)
      (by omega)
    rw [ih h ((add_ok hnext).2.1.trans hcurrency)
      ⟨quantize_add hacc.1 hm.1 hnext, add_nonneg hacc.2 hm.2 hnext⟩ hrest, hunits,
      List.map_cons, List.sum_cons, Int.add_assoc]

end Money

/-- Prices whose parts can be added up can be added up. -/
theorem Taxed.foldlM_add_of_parts {α : Type} {items : List α} {price : α → Taxed} {first : Taxed}
    (total : Bool → Money)
    (h : ∀ gross, (items.map fun x => (price x).part gross).foldlM Money.add (first.part gross) =
      .ok (total gross)) :
    items.foldlM (fun sum x => sum.add (price x)) first = .ok ⟨total false, total true⟩ := by
  induction items generalizing first with
  | nil =>
    have hnet : Except.ok (ε := Error) first.net = .ok (total false) := h false
    have hgross : Except.ok (ε := Error) first.gross = .ok (total true) := h true
    rw [← Except.ok.inj hnet, ← Except.ok.inj hgross]
    rfl
  | cons x rest ih =>
    obtain ⟨net, hnet, hrest⟩ := Money.foldlM_cons_ok (h false)
    obtain ⟨gross, hgross, hrest'⟩ := Money.foldlM_cons_ok (h true)
    have hadd : first.add (price x) = .ok ⟨net, gross⟩ := by
      show (first.net.add (price x).net >>= fun net => _) = _
      rw [show first.net.add (price x).net = _ from hnet, ok_bind,
        show first.gross.add (price x).gross = _ from hgross]
      rfl
    rw [List.foldlM_cons, hadd]
    exact ih fun part => by cases part <;> assumption

/-! ## One item -/

/-- Taxing an amount is off by half a minor unit, unless the amount is nothing. -/
def Money.halves (m : Money) : Nat := if m.amount.isZero then 0 else 1

theorem Money.halves_le_one (m : Money) : m.halves ≤ 1 := by
  unfold halves
  split <;> decide

/-- Nothing less than a minor unit is taxed. -/
theorem Money.halves_mul_minor_le {m : Money} (hwhole : m.quantize = m) (hnonneg : 0 ≤ m.amount) :
    ((m.halves * m.currency.minor : Nat) : Int) ≤ m.amount.units := by
  have hnonneg : 0 ≤ m.amount.units := hnonneg
  unfold halves
  split
  · rwa [Nat.zero_mul]
  · rename_i hzero
    have hne : m.amount.units ≠ 0 := fun h => hzero (decide_eq_true h)
    rw [Nat.one_mul]
    exact Int.le_of_dvd (by omega) (quantize_iff.1 hwhole)

/-- **A taxed amount is within half a minor unit of the exact one**, in both directions. -/
theorem Taxed.ofRate_within {rate : Decimal} {entryIncludesTax : Bool} {price : Money} {p : Taxed}
    (hrate : rate.IsTaxRate 8) (hprice : 0 ≤ price.amount) (hwhole : price.quantize = price)
    (hsmall : price.amount ≤ .ofInt 1000000000000)
    (h : ofRate price rate entryIncludesTax = .ok p) (gross : Bool) :
    (TaxRatio.of rate entryIncludesTax gross).Reaches price.currency price.amount.units
        (p.part gross).amount.units price.halves ∧
      (TaxRatio.of rate entryIncludesTax gross).Covers price.currency price.amount.units
        (p.part gross).amount.units price.halves := by
  have hsmall : price.amount.units ≤ 1000000000000 * unitsPerOne := hsmall
  have hroom := price.currency.unitsPerOne_lt
  have hmost := part_le_eleven hrate (by decide) hprice hwhole (by omega) h gross
  have hnonneg : 0 ≤ (p.part gross).amount.units := ofRate_nonneg hrate.nonneg hprice h gross
  unfold Money.halves
  split
  · rename_i hzero
    have hnothing : price.amount.units = 0 := of_decide_eq_true hzero
    have hpart : (p.part gross).amount.units = 0 := by omega
    rw [hnothing, hpart]
    simp [TaxRatio.Reaches, TaxRatio.Covers]
  · have hstep : (p.part gross).amount.units ≤ (mantissaBound * pow10 (22 - 8) : Nat) := by
      have hbound : 11 * (1000000000000 * unitsPerOne) ≤ mantissaBound * pow10 (22 - 8) := by decide
      omega
    exact ⟨reaches_ofRate_one hrate.nonneg hprice h gross (price.currency.room_for_halves hstep),
      covers_ofRate hrate (by decide) hprice hwhole h gross hstep⟩

/-! ## Two prices -/

namespace Taxed

/-- A price in minor units of a currency, of which neither amount is more than `most`. -/
structure Within (p : Taxed) (c : Currency) (most : Int) : Prop where
  currency : ∀ gross, (p.part gross).currency = c
  nonneg : ∀ gross, 0 ≤ (p.part gross).amount
  whole : ∀ gross, (c.minor : Int) ∣ (p.part gross).amount.units
  le : ∀ gross, (p.part gross).amount.units ≤ most

variable {p q : Taxed} {c : Currency} {most most' : Int}

theorem Within.quantize_part (h : p.Within c most) (gross : Bool) :
    (p.part gross).quantize = p.part gross :=
  Money.quantize_iff.2 (h.currency gross ▸ h.whole gross)

theorem Within.quantize_eq (h : p.Within c most) : p.quantize = p := by
  rw [quantize, show p.net.quantize = p.net from h.quantize_part false,
    show p.gross.quantize = p.gross from h.quantize_part true]

theorem Within.floorAtZero_eq (h : p.Within c most) : p.floorAtZero = p := by
  rw [floorAtZero, show p.net.floorAtZero = p.net from Money.floorAtZero_of_nonneg (h.nonneg false),
    show p.gross.floorAtZero = p.gross from Money.floorAtZero_of_nonneg (h.nonneg true)]

theorem Within.ofRate {rate : Decimal} {entryIncludesTax : Bool} {price : Money}
    (hrate : rate.IsTaxRate 8) (hprice : 0 ≤ price.amount) (hwhole : price.quantize = price)
    (hlt : 11 * price.amount.units < (mantissaBound * price.currency.minor : Nat))
    (h : Taxed.ofRate price rate entryIncludesTax = .ok p) :
    p.Within price.currency (11 * price.amount.units) where
  currency := currency_ofRate hrate.nonneg h
  nonneg := ofRate_nonneg hrate.nonneg hprice h
  whole gross := by
    rw [← currency_ofRate hrate.nonneg h gross]
    exact Money.quantize_iff.1 (quantize_ofRate h gross)
  le := part_le_eleven hrate (by decide) hprice hwhole hlt h

/-- **Two prices are added exactly** if they are not too large. -/
theorem Within.add (hp : p.Within c most) (hq : q.Within c most')
    (hlt : most + most' < (mantissaBound * c.minor : Nat)) :
    ∃ sum, p.add q = .ok sum ∧ sum.Within c (most + most') ∧ ∀ gross,
      (sum.part gross).amount.units =
        (p.part gross).amount.units + (q.part gross).amount.units := by
  have hfits (gross : Bool) :
      Fits ((p.part gross).amount.units + (q.part gross).amount.units) := by
    have hle := hp.le gross
    have hle' := hq.le gross
    exact c.fits_of_dvd (Int.add_nonneg (hp.nonneg gross) (hq.nonneg gross))
      (Int.dvd_add (hp.whole gross) (hq.whole gross)) (by omega)
  have hadd (gross : Bool) :
      (p.part gross).add (q.part gross) = .ok ⟨⟨_, hfits gross⟩, (p.part gross).currency⟩ :=
    Money.add_of_units ((hp.currency gross).trans (hq.currency gross).symm) rfl
  refine ⟨⟨⟨⟨_, hfits false⟩, (p.part false).currency⟩, ⟨⟨_, hfits true⟩, (p.part true).currency⟩⟩,
    ?_, ?_, fun gross => by cases gross <;> rfl⟩
  · rw [Taxed.add, show p.net.add q.net = _ from hadd false,
      show p.gross.add q.gross = _ from hadd true]
    rfl
  · refine ⟨fun gross => ?_, fun gross => ?_, fun gross => ?_, fun gross => ?_⟩
    · cases gross <;> exact hp.currency _
    · cases gross <;> exact Int.add_nonneg (hp.nonneg _) (hq.nonneg _)
    · cases gross <;> exact Int.dvd_add (hp.whole _) (hq.whole _)
    · cases gross <;> exact Int.add_le_add (hp.le _) (hq.le _)

end Taxed

/-! ## Many items -/

/-- Items of one currency, in minor units, that are taxed one by one at one rate. -/
structure TaxedItems {α : Type} (items : List α) (amount : α → Money) (price : α → Taxed)
    (rate : Decimal) (entryIncludesTax : Bool) (c : Currency) : Prop where
  taxRate : rate.IsTaxRate 8
  currency : ∀ x ∈ items, (amount x).currency = c
  nonneg : ∀ x ∈ items, 0 ≤ (amount x).amount
  whole : ∀ x ∈ items, (amount x).quantize = amount x
  small : ∀ x ∈ items, (amount x).amount ≤ .ofInt 1000000000000
  taxed : ∀ x ∈ items, Taxed.ofRate (amount x) rate entryIncludesTax = .ok (price x)
  room : (items.map fun x => (amount x).amount.units).sum ≤ 1000000000000000000000 * unitsPerOne

namespace TaxedItems

variable {α : Type} {items : List α} {amount : α → Money} {price : α → Taxed} {rate : Decimal}
  {entryIncludesTax : Bool} {c : Currency}
  (h : TaxedItems items amount price rate entryIncludesTax c)

include h

/-- Each price is at most eleven times the amount. -/
theorem within {x : α} (hx : x ∈ items) : (price x).Within c (11 * (amount x).amount.units) := by
  have hsmall : (amount x).amount.units ≤ 1000000000000 * unitsPerOne := h.small x hx
  have hroom := (amount x).currency.unitsPerOne_lt
  exact h.currency x hx ▸
    .ofRate h.taxRate (h.nonneg x hx) (h.whole x hx) (by omega) (h.taxed x hx)

/-- All prices together are at most eleven times the amounts. -/
theorem sum_part_le (gross : Bool) :
    (items.map fun x => ((price x).part gross).amount.units).sum ≤
      11 * (items.map fun x => (amount x).amount.units).sum := by
  rw [← List.sum_map_mul_left]
  exact List.sum_le_sum fun x hx => (h.within hx).le gross

theorem sum_part_nonneg (gross : Bool) :
    0 ≤ (items.map fun x => ((price x).part gross).amount.units).sum :=
  List.sum_nonneg (List.forall_mem_map.2 fun _ hx => (h.within hx).nonneg gross)

theorem minor_dvd_sum_part (gross : Bool) :
    (c.minor : Int) ∣ (items.map fun x => ((price x).part gross).amount.units).sum :=
  List.dvd_sum (List.forall_mem_map.2 fun _ hx => (h.within hx).whole gross)

theorem fits (gross : Bool) {front : List Money}
    (hfront : front <+: items.map fun x => (price x).part gross) :
    Fits ((Money.zero c).amount.units + (front.map (·.amount.units)).sum) := by
  have hmost := h.sum_part_le gross
  have hroom := h.room
  have hbounds := c.unitsPerOne_lt
  refine Money.InRange.fits_prefix (Money.inRange_of_nonneg (List.forall_mem_cons.2
    ⟨Int.le_refl 0, List.forall_mem_map.2 fun _ hx => (h.within hx).nonneg gross⟩) ?_)
    (List.forall_mem_cons.2 ⟨⟨rfl, Money.quantize_zero c⟩, List.forall_mem_map.2 fun _ hx =>
      ⟨(h.within hx).currency gross, (h.within hx).quantize_part gross⟩⟩) hfront
  rw [List.map_cons, List.sum_cons, List.map_map, Money.zero, Decimal.units_zero, Int.zero_add]
  show (items.map fun x => ((price x).part gross).amount.units).sum <
    (mantissaBound * c.minor : Nat)
  omega

/-- **The prices can be added up**, and the sum is exact. -/
theorem exists_sum :
    ∃ sum, items.foldlM (fun (sum : Taxed) x => sum.add (price x)) (.zero c) = .ok sum ∧
      sum.Within c (11 * (items.map fun x => (amount x).amount.units).sum) ∧
      ∀ gross, (sum.part gross).amount.units =
        (items.map fun x => ((price x).part gross).amount.units).sum := by
  have hparts (gross : Bool) := Money.foldlM_add_of_fits (.zero c)
    (List.forall_mem_map.2 fun _ hx => (h.within hx).currency gross) fun front => h.fits gross
  choose total htotal using hparts
  have hfirst (gross : Bool) : (Taxed.zero c).part gross = .zero c := Taxed.part_untaxed ..
  have hpart (gross : Bool) : Taxed.part ⟨total false, total true⟩ gross = total gross := by
    cases gross <;> rfl
  have hunits (gross : Bool) : (total gross).amount.units =
      (items.map fun x => ((price x).part gross).amount.units).sum := by
    rw [Money.units_foldlM_add (htotal gross) fun front => h.fits gross, Money.zero,
      Decimal.units_zero, Int.zero_add, List.map_map]
    rfl
  refine ⟨_, Taxed.foldlM_add_of_parts total fun gross =>
    (hfirst gross).symm ▸ htotal gross, ⟨fun gross => ?_, fun gross => ?_, fun gross => ?_,
    fun gross => ?_⟩, fun gross => by rw [hpart, hunits]⟩
  all_goals rw [hpart]
  · exact Money.currency_foldlM_add (htotal gross)
  · rw [Decimal.le_def, hunits]
    exact h.sum_part_nonneg gross
  · rw [hunits]
    exact h.minor_dvd_sum_part gross
  · rw [hunits]
    exact h.sum_part_le gross

/-- The amounts that are entered add up to what they were. -/
theorem sum_part_entered :
    (items.map fun x => ((price x).part entryIncludesTax).amount.units).sum =
      (items.map fun x => (amount x).amount.units).sum := by
  refine congrArg List.sum (List.map_congr_left fun x hx => ?_)
  rw [(Taxed.ofRate_rounded (h.taxed x hx)).1, h.whole x hx]

/-- The halves of minor units that the items are off by are no more than the items. -/
theorem sum_halves_le : (items.map fun x => (amount x).halves).sum ≤ items.length ∧
    (((items.map fun x => (amount x).halves).sum * c.minor : Nat) : Int) ≤
      (items.map fun x => (amount x).amount.units).sum := by
  refine ⟨?_, ?_⟩
  · have hone := List.sum_le_card_nsmul (items.map fun x => (amount x).halves) 1
      (List.forall_mem_map.2 fun x _ => (amount x).halves_le_one)
    simpa using hone
  · have hall (x : α) (hx : x ∈ items) :
        (((amount x).halves * c.minor : Nat) : Int) ≤ (amount x).amount.units := by
      have hitem := Money.halves_mul_minor_le (h.whole x hx) (h.nonneg x hx)
      rwa [h.currency x hx] at hitem
    rw [← List.sum_map_mul_right, Nat.cast_list_sum, List.map_map]
    exact List.sum_le_sum hall

/-- **The sum of the prices is within halves of minor units of the exact one.** -/
theorem sum_within (gross : Bool) :
    (TaxRatio.of rate entryIncludesTax gross).Reaches c
        (items.map fun x => (amount x).amount.units).sum
        (items.map fun x => ((price x).part gross).amount.units).sum
        (items.map fun x => (amount x).halves).sum ∧
      (TaxRatio.of rate entryIncludesTax gross).Covers c
        (items.map fun x => (amount x).amount.units).sum
        (items.map fun x => ((price x).part gross).amount.units).sum
        (items.map fun x => (amount x).halves).sum := by
  have hitem (x : α) (hx : x ∈ items) := Taxed.ofRate_within h.taxRate (h.nonneg x hx)
    (h.whole x hx) (h.small x hx) (h.taxed x hx) gross
  exact ⟨.sum fun x hx => h.currency x hx ▸ (hitem x hx).1,
    .sum fun x hx => h.currency x hx ▸ (hitem x hx).2⟩

/-- **The price of all items, taxed together**, is within half a minor unit for each of them, and
one more, of the sum of their prices. -/
theorem natAbs_sub_le {all : Money} {p : Taxed} (hcurrency : all.currency = c)
    (hunits : all.amount.units = (items.map fun x => (amount x).amount.units).sum)
    (hp : Taxed.ofRate all rate entryIncludesTax = .ok p) (gross : Bool) :
    ((p.part gross).amount.units -
      (items.map fun x => ((price x).part gross).amount.units).sum).natAbs ≤
        (items.length + 1) / 2 * c.minor := by
  obtain ⟨hhalves, hhalvesMinor⟩ := h.sum_halves_le
  obtain ⟨hreaches, hcovers⟩ := h.sum_within gross
  have hmost := h.sum_part_le gross
  have hroom := h.room
  have hsum := h.sum_part_nonneg gross
  have hdvd := h.minor_dvd_sum_part gross
  have hall : 0 ≤ all.amount.units := hunits ▸ List.sum_nonneg (List.forall_mem_map.2 h.nonneg)
  have hallWhole : all.quantize = all := by
    rw [Money.quantize_iff, hunits, hcurrency]
    refine List.dvd_sum (List.forall_mem_map.2 fun x hx => ?_)
    rw [← h.currency x hx]
    exact Money.quantize_iff.1 (h.whole x hx)
  rw [← hunits] at hreaches hcovers hhalvesMinor hmost hroom
  generalize (items.map fun x => ((price x).part gross).amount.units).sum = sum at *
  generalize (items.map fun x => (amount x).halves).sum = halves at *
  have hbounds := c.unitsPerOne_lt
  have hminor : c.minor ≤ unitsPerOne := pow10_le_pow10 (Nat.sub_le ..)
  have hgrow : (halves + 1) / 2 * c.minor ≤ (items.length + 1) / 2 * c.minor :=
    Nat.mul_le_mul_right _ (Nat.div_le_div_right (by omega))
  have hgrow' : halves / 2 * c.minor ≤ (items.length + 1) / 2 * c.minor :=
    Nat.mul_le_mul_right _ (Nat.div_le_div_right (by omega))
  subst hcurrency
  have hpart := Taxed.part_le_eleven h.taxRate (by decide) hall hallWhole (by omega) hp gross
  have hupper := Taxed.part_le_of_reaches h.taxRate.nonneg hall hp hreaches hsum hdvd (by omega)
  have hlower := Taxed.le_part_of_covers h.taxRate.nonneg hall hp gross (by omega) hcovers hdvd
  omega

/-- One item is taxed as all items are. -/
theorem eq_of_length_eq_one {all : Money} {p sum : Taxed} {most : Int} (hone : items.length = 1)
    (hcurrency : all.currency = c)
    (hunits : all.amount.units = (items.map fun x => (amount x).amount.units).sum)
    (hp : Taxed.ofRate all rate entryIncludesTax = .ok p) (hsum : sum.Within c most)
    (hsumUnits : ∀ gross, (sum.part gross).amount.units =
      (items.map fun x => ((price x).part gross).amount.units).sum) : sum = p := by
  obtain ⟨x, rfl⟩ := List.length_eq_one_iff.1 hone
  have hx := List.mem_singleton_self x
  have hall : amount x = all :=
    Money.eq_of_units ((h.currency x hx).trans hcurrency.symm) (by rw [hunits]; simp)
  obtain rfl : price x = p := Except.ok.inj ((h.taxed x hx).symm.trans (hall ▸ hp))
  have hpart (gross : Bool) : sum.part gross = (price x).part gross :=
    Money.eq_of_units ((hsum.currency gross).trans ((h.within hx).currency gross).symm)
      (by rw [hsumUnits]; simp)
  exact congrArg₂ Taxed.mk (hpart false) (hpart true)

end TaxedItems

end Storefront
