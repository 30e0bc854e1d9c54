import Mathlib.Algebra.BigOperators.Group.Finset.Basic
import Mathlib.Algebra.BigOperators.Ring.List
import Mathlib.Algebra.Order.BigOperators.Group.List
import Storefront.Proofs.GiftCard.Draining
import Storefront.Proofs.Money.Sum

/-!
# What gift cards are worth

Before an order is charged its cards are added up, and when it is created they are drained one
after the other. A card that is listed twice counts twice in the sum. When it pays a second time it
pays again from what was on it before the first.

* `GiftCard.Exact`: nothing is rounded on the way.
* `GiftCard.units_totalBalance`: what an order is priced with is what its cards are worth.
* `GiftCard.Drains.worth_sub`: what draining takes off the rows of the table.
* `GiftCard.Drains.nonneg`: no card is overdrawn.
-/

namespace Storefront

open Decimal (Fits)

namespace GiftCard

/-- What is on the card, in units of decimals. -/
def units (c : GiftCard) : Int := c.balance.amount.units

/-- What is on the cards together. -/
def worth (cards : List GiftCard) : Int := (cards.map units).sum

/-- What is counted of cards that have been counted before. -/
def recounted (cards : List GiftCard) : Int := worth cards - ∑ c ∈ cards.toFinset, c.units

/-- The cards from the first one on can be added up, and taken off the price, without rounding. -/
def Exact (price : Money) (cards : List GiftCard) : Prop :=
  ∀ front, front <+: cards → Fits (worth front) ∧ Fits (price.amount.units - worth front)

@[simp] theorem worth_nil : worth [] = 0 := rfl

@[simp] theorem worth_cons (c : GiftCard) (cards : List GiftCard) :
    worth (c :: cards) = c.units + worth cards := List.sum_cons

theorem worth_nonneg {cards : List GiftCard} (h : ∀ c ∈ cards, 0 ≤ c.units) : 0 ≤ worth cards :=
  List.sum_nonneg (List.forall_mem_map.2 h)

/-- What the rows are worth changes by what the new one differs from the old one. -/
theorem worth_upsert {c old : GiftCard} {rows : List GiftCard}
    (hold : rows.find? (·.id = c.id) = some old) :
    worth (upsert (·.id) c rows) = worth rows - old.units + c.units := by
  induction rows with
  | nil => cases hold
  | cons first rest ih =>
    by_cases hfirst : first.id = c.id
    · obtain rfl : first = old := by simpa [hfirst] using hold
      rw [upsert, if_pos hfirst, worth_cons, worth_cons]
      omega
    · have hrest : rest.find? (·.id = c.id) = some old := by simpa [hfirst] using hold
      rw [upsert, if_neg hfirst, worth_cons, worth_cons, ih hrest]
      omega

/-- Where no card is listed twice, each is counted once. -/
theorem recounted_of_nodup {cards : List GiftCard} (h : cards.Nodup) : recounted cards = 0 := by
  rw [recounted, List.sum_toFinset _ h]
  exact Int.sub_self _

/-- Amounts with so many places that are together not too large. -/
def HavePlaces (places : Nat) (price : Money) (cards : List GiftCard) : Prop :=
  (pow10 (Decimal.maxPlaces - places) : Int) ∣ price.amount.units ∧
    (∀ c ∈ cards, (pow10 (Decimal.maxPlaces - places) : Int) ∣ c.units ∧ 0 ≤ c.units) ∧
    price.amount.units.natAbs + (worth cards).natAbs <
      Decimal.mantissaBound * pow10 (Decimal.maxPlaces - places)

instance (places : Nat) (price : Money) (cards : List GiftCard) :
    Decidable (HavePlaces places price cards) :=
  inferInstanceAs (Decidable (_ ∧ _ ∧ _))

theorem HavePlaces.exact {places : Nat} {price : Money} {cards : List GiftCard}
    (h : HavePlaces places price cards) (hplaces : places ≤ Decimal.maxPlaces) :
    Exact price cards := by
  obtain ⟨hprice, hcards, hbound⟩ := h
  intro front ⟨rest, hrest⟩
  subst hrest
  obtain ⟨hfront, hback⟩ := List.forall_mem_append.1 hcards
  have hfirst : 0 ≤ worth front := worth_nonneg fun c hc => (hfront c hc).2
  have hothers : 0 ≤ worth rest := worth_nonneg fun c hc => (hback c hc).2
  have hsum : worth (front ++ rest) = worth front + worth rest := by simp [worth]
  have hdvd : (pow10 (Decimal.maxPlaces - places) : Int) ∣ worth front :=
    List.dvd_sum (List.forall_mem_map.2 fun c hc => (hfront c hc).1)
  exact ⟨Decimal.fits_of_dvd hplaces hdvd (by omega),
    Decimal.fits_of_dvd hplaces (Int.dvd_sub hprice hdvd) (by omega)⟩

/-! ## Adding up -/

/-- What an order is priced with is what its cards are worth. -/
theorem units_totalBalance {currency : Currency} {cards : List GiftCard} {total : Money}
    (h : totalBalance currency cards = .ok total)
    (hfits : ∀ front, front <+: cards → Fits (worth front)) : total.amount.units = worth cards :=
  Money.units_sum h hfits

/-! ## Draining -/

variable {o : Order} {now : Moment} {left left' : Money} {c c' : GiftCard}
  {cards rows rows' : List GiftCard} {paid : List GiftCardId} {seen : Finset GiftCard}

/-- The rows are as the cards were listed, but that those which have been `seen` have nothing left
on them. -/
def Emptied (seen : Finset GiftCard) (cards rows : List GiftCard) : Prop :=
  ∀ c ∈ cards, ∃ row, rows.find? (·.id = c.id) = some row ∧
    row.units = if c ∈ seen then 0 else c.units

/-- A card pays all it has, or all that is left to pay. -/
theorem units_pay (hpay : c.pay o (c.balance.min left) now = .ok c')
    (hsub : left.sub (c.balance.min left) = .ok left')
    (hfits : Fits (left.amount.units - c.units)) :
    c'.units = c.units - min c.units left.amount.units ∧
      left'.amount.units = left.amount.units - min c.units left.amount.units := by
  have hmin : (c.balance.min left).amount.units = min c.units left.amount.units :=
    Money.units_min _ _
  have hnothing : Fits 0 := (0 : Decimal).fits
  have hcard : Fits (c.units - min c.units left.amount.units) := by
    rcases Int.le_total c.units left.amount.units with hle | hle
    · rwa [Int.min_eq_left hle, Int.sub_self]
    · rw [Int.min_eq_right hle, ← Int.neg_sub]
      exact Decimal.fits_neg hfits
  have hleft : Fits (left.amount.units - min c.units left.amount.units) := by
    rcases Int.le_total c.units left.amount.units with hle | hle
    · rwa [Int.min_eq_left hle]
    · rwa [Int.min_eq_right hle, Int.sub_self]
  rw [← hmin] at hcard hleft ⊢
  exact ⟨Money.units_sub (pay_ok hpay).2 hcard, Money.units_sub hsub hleft⟩

/-- A card that has paid before what is left was paid has nothing left on it. -/
theorem Emptied.pays (h : Emptied seen (c :: cards) rows)
    (hsame : ∀ d ∈ cards, d.id = c.id → d = c) (hid : c'.id = c.id) (hempty : c'.units = 0) :
    Emptied (insert c seen) cards (upsert (·.id) c' rows) := by
  intro d hd
  rw [find?_upsert, hid]
  by_cases heq : c.id = d.id
  · obtain rfl := hsame d hd heq.symm
    exact ⟨c', if_pos rfl, by rw [if_pos (Finset.mem_insert_self ..), hempty]⟩
  · obtain ⟨row, hrow, hunits⟩ := h d (List.mem_cons_of_mem _ hd)
    have hne : d ≠ c := fun hdc => heq (hdc ▸ rfl)
    exact ⟨row, by rw [if_neg heq, hrow], by simp only [hunits, Finset.mem_insert, hne, false_or]⟩

/-- Counting a card and then those of the others that are not the same. -/
theorem sum_sdiff_cons (c : GiftCard) (cards : List GiftCard) (seen : Finset GiftCard) :
    ∑ d ∈ (c :: cards).toFinset \ seen, d.units =
      (if c ∈ seen then 0 else c.units) + ∑ d ∈ cards.toFinset \ insert c seen, d.units := by
  by_cases hc : c ∈ seen
  · rw [if_pos hc, List.toFinset_cons, Finset.insert_sdiff_of_mem _ hc, Finset.insert_eq_of_mem hc,
      Int.zero_add]
  · have hinsert : (c :: cards).toFinset \ seen = insert c (cards.toFinset \ insert c seen) := by
      ext d
      by_cases hd : d = c <;> simp [hd, hc]
    rw [if_neg hc, hinsert, Finset.sum_insert (by simp)]

/-- What the cards take off rows on which those that have been seen have nothing left. -/
theorem Drains.worth_sub_seen (h : Drains o now left cards rows rows' paid)
    (hsame : ∀ c ∈ cards, ∀ d ∈ cards, d.id = c.id → d = c) (hunits : ∀ c ∈ cards, 0 ≤ c.units)
    (hopen : 0 < left.amount.units → Emptied seen cards rows ∧
      ∀ front, front <+: cards → Fits (left.amount.units - worth front)) :
    ∃ payers, payers <+: cards ∧ paid = payers.map (·.id) ∧
      worth rows - worth rows' = min (max 0 left.amount.units) (worth cards) -
        (worth payers - ∑ c ∈ payers.toFinset \ seen, c.units) := by
  induction h generalizing seen with
  | done => exact ⟨[], List.nil_prefix, rfl, by simp⟩
  | @enough left c rest rows hleft =>
    refine ⟨[], List.nil_prefix, rfl, ?_⟩
    have hnothing : left.amount.units ≤ 0 := hleft
    have hworth := worth_nonneg hunits
    simp only [worth_nil, List.toFinset_nil, Finset.empty_sdiff, Finset.sum_empty]
    omega
  | @pays left left' c c' rest rows rows' paid hleft hpay hsub _ ih =>
    have hpositive : 0 < left.amount.units := Int.not_le.1 hleft
    obtain ⟨hrows, hfits⟩ := hopen hpositive
    obtain ⟨hc', hleft'⟩ := units_pay hpay hsub (by simpa using hfits [c] ⟨rest, rfl⟩)
    obtain ⟨hfirst, hothers⟩ := List.forall_mem_cons.1 hsame
    obtain ⟨hcunits, hrestunits⟩ := List.forall_mem_cons.1 hunits
    have hid := (pay_ok hpay).1
    -- whatever follows is only charged where this card has paid all it has
    obtain ⟨payers, hpayers, rfl, hworth⟩ := @ih (insert c seen)
      (fun d hd e he => hothers d hd e (List.mem_cons_of_mem _ he)) hrestunits fun hmore => by
        have hall : min c.units left.amount.units = c.units := by omega
        rw [hall] at hc' hleft'
        refine ⟨hrows.pays (fun d hd => hfirst d (List.mem_cons_of_mem _ hd)) hid (by omega), ?_⟩
        intro front hfront
        rw [hleft', Int.sub_sub, ← worth_cons]
        exact hfits (c :: front) ((List.prefix_cons_inj c).2 hfront)
    refine ⟨c :: payers, (List.prefix_cons_inj c).2 hpayers, rfl, ?_⟩
    obtain ⟨row, hrow, hrowunits⟩ := hrows c List.mem_cons_self
    have hchange : worth (upsert (·.id) c' rows) = worth rows - row.units + c'.units :=
      worth_upsert (hid ▸ hrow)
    have hrest := worth_nonneg hrestunits
    rw [sum_sdiff_cons, worth_cons, worth_cons, ← hrowunits]
    omega

/-- **What draining takes off the rows**: as much as there is to pay, as far as the cards go, but
for what is paid by cards that have paid before. The first of the cards have paid. -/
theorem Drains.worth_sub (h : Drains o now left cards rows rows' paid)
    (hlisted : ∀ c ∈ cards, rows.find? (·.id = c.id) = some c)
    (hrows : ∀ c ∈ rows, 0 ≤ c.units) (hexact : Exact left cards) :
    ∃ payers, payers <+: cards ∧ paid = payers.map (·.id) ∧
      worth rows - worth rows' =
        min (max 0 left.amount.units) (worth cards) - recounted payers := by
  have hsame : ∀ c ∈ cards, ∀ d ∈ cards, d.id = c.id → d = c := fun c hc d hd hid =>
    Option.some.inj ((hlisted d hd).symm.trans (hid ▸ hlisted c hc))
  have hunits : ∀ c ∈ cards, 0 ≤ c.units := fun c hc =>
    hrows c (List.mem_of_find?_eq_some (hlisted c hc))
  have hempty : Emptied ∅ cards rows := fun c hc => ⟨c, hlisted c hc, by simp⟩
  obtain ⟨payers, hpayers, hpaid, hworth⟩ := h.worth_sub_seen hsame hunits fun _ =>
    ⟨hempty, fun front hfront => (hexact front hfront).2⟩
  rw [Finset.sdiff_empty] at hworth
  exact ⟨payers, hpayers, hpaid, hworth⟩

/-- A card pays no more than it has. -/
theorem nonneg_of_pay (hpay : c.pay o (c.balance.min left) now = .ok c') : 0 ≤ c'.units := by
  obtain ⟨-, -, hsub⟩ := Money.sub_ok (pay_ok hpay).2
  refine Decimal.sub?_nonneg hsub (Decimal.le_def.2 ?_)
  rw [Money.units_min]
  exact Int.min_le_left _ _

/-- No card is overdrawn. -/
theorem Drains.nonneg (h : Drains o now left cards rows rows' paid)
    (hrows : ∀ c ∈ rows, 0 ≤ c.units) : ∀ c ∈ rows', 0 ≤ c.units := by
  induction h with
  | done | enough => exact hrows
  | pays _ hpay _ _ ih =>
    refine ih fun c hc => ?_
    rcases eq_or_mem_of_mem_upsert hc with rfl | hmem
    · exact nonneg_of_pay hpay
    · exact hrows c hmem

end GiftCard

end Storefront
