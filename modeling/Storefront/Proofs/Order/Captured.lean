import Storefront.Order.Charge
import Storefront.Proofs.Completion.Step
import Storefront.Proofs.Money.Whole

/-!
# What gateways have captured

A payment adds up what is captured for it, and nothing else changes that amount. Money that has been
refunded was captured all the same: the payment says that it is refunded, and an order is charged
with the money as before.

* `Payment.captured_settle`: what one answer does to the amount.
* `Payment.map_captured_settleAll`: what any answers do to the amounts of several payments.
* `Payment.totalCaptured_of_answers`: what is captured in total, and what an order is charged with.
* `Payment.miscounts_bookshop`: money that is refunded stays in the total.
-/

namespace Storefront

/-! ## Adding up what can be added -/

namespace Money

open Decimal (Fits)

/-- The amount with others added to it one by one. What cannot be added is passed over. -/
def gather (m : Money) (amounts : List Money) : Money :=
  amounts.foldl (fun m a => (m.add a).toOption.getD m) m

@[simp] theorem gather_nil (m : Money) : m.gather [] = m := rfl

theorem gather_cons (m a : Money) (rest : List Money) :
    m.gather (a :: rest) = (m.gather [a]).gather rest := rfl

/-- Where all can be added, nothing is passed over. -/
theorem gather_of_foldlM {amounts : List Money} {m total : Money}
    (h : amounts.foldlM add m = .ok total) : m.gather amounts = total := by
  induction amounts generalizing m with
  | nil => exact Except.ok.inj h
  | cons a rest ih =>
    obtain ⟨next, hnext, h⟩ := foldlM_cons_ok h
    have hfirst : m.gather [a] = next := by
      show (m.add a).toOption.getD m = next
      rw [hnext]
      rfl
    rw [gather_cons, hfirst, ih h]

/-- Amounts that can be added up in any grouping without being rounded: whichever of them are added,
the sum is a decimal. -/
def AddUp (amounts : List Money) : Prop :=
  ∀ part : List Money, part.Sublist amounts → Fits (part.map (·.amount.units)).sum

/-- Amounts in minor units add up, unless they are too large. -/
theorem InRange.addUp {currency : Currency} {amounts : List Money}
    (h : InRange currency amounts)
    (hwhole : ∀ m ∈ amounts, m.currency = currency ∧ m.quantize = m) : AddUp amounts :=
  fun _ hpart => h.fits hpart fun m hm => hwhole m (hpart.subset hm)

theorem AddUp.sublist {amounts part : List Money} (h : AddUp amounts)
    (hpart : part.Sublist amounts) : AddUp part :=
  fun _ hless => h _ (hless.trans hpart)

/-- Amounts that add up have an exact sum. -/
theorem AddUp.exists_sum {currency : Currency} {amounts : List Money} (h : AddUp amounts)
    (hcurrency : ∀ m ∈ amounts, m.currency = currency) :
    ∃ total, sum currency amounts = .ok total ∧
      total.amount.units = (amounts.map (·.amount.units)).sum := by
  have hfits (front : List Money) (hfront : front <+: amounts) :
      Fits ((zero currency).amount.units + (front.map (·.amount.units)).sum) := by
    rw [zero, Decimal.units_zero, Int.zero_add]
    exact h front hfront.sublist
  obtain ⟨total, htotal⟩ := foldlM_add_of_fits (zero currency) hcurrency hfits
  refine ⟨total, htotal, ?_⟩
  rw [units_foldlM_add htotal hfits, zero, Decimal.units_zero, Int.zero_add]

/-- Of amounts that add up, nothing is passed over. -/
theorem AddUp.gather {currency : Currency} {amounts : List Money} (h : AddUp amounts)
    (hcurrency : ∀ m ∈ amounts, m.currency = currency) :
    ((zero currency).gather amounts).currency = currency ∧
      ((zero currency).gather amounts).amount.units = (amounts.map (·.amount.units)).sum := by
  obtain ⟨total, htotal, hunits⟩ := h.exists_sum hcurrency
  rw [gather_of_foldlM htotal]
  exact ⟨currency_sum htotal, hunits⟩

end Money

/-! ## Answers -/

namespace Payment

/-- What a gateway has answered about one payment of a list. -/
structure Answer where
  place : Nat
  response : GatewayResponse

namespace Answer

/-- The gateway has done something of the given kind. -/
def did (kind : TransactionKind) (a : Answer) : Bool :=
  a.response.isSuccess && a.response.kind = kind

/-- The amounts of the answers that have done something of the given kind. -/
def amounts (kind : TransactionKind) (answers : List Answer) : List Money :=
  (answers.filter (·.did kind)).map (·.response.amount)

@[simp] theorem amounts_nil (kind : TransactionKind) : amounts kind [] = [] := rfl

@[simp] theorem amounts_cons (kind : TransactionKind) (a : Answer) (rest : List Answer) :
    amounts kind (a :: rest) =
      if a.did kind then a.response.amount :: amounts kind rest else amounts kind rest := by
  unfold amounts
  rw [List.filter_cons]
  split <;> rfl

theorem amounts_sublist {kind : TransactionKind} {some answers : List Answer}
    (h : some.Sublist answers) : (amounts kind some).Sublist (amounts kind answers) :=
  (h.filter _).map _

theorem currency_of_mem_amounts {kind : TransactionKind} {answers : List Answer}
    {currency : Currency} (h : ∀ a ∈ answers, a.response.amount.currency = currency) :
    ∀ m ∈ amounts kind answers, m.currency = currency := by
  intro m hm
  obtain ⟨a, ha, rfl⟩ := List.mem_map.1 hm
  exact h a (List.mem_of_mem_filter ha)

/-- What has been done in some places and in another one is what has been done in all of them. -/
theorem sum_amounts_cons (kind : TransactionKind) (answers : List Answer) {place : Nat}
    {places : List Nat} (h : place ∉ places) :
    ((amounts kind (answers.filter (·.place ∈ place :: places))).map (·.amount.units)).sum =
      ((amounts kind (answers.filter (·.place = place))).map (·.amount.units)).sum +
        ((amounts kind (answers.filter (·.place ∈ places))).map (·.amount.units)).sum := by
  induction answers with
  | nil => rfl
  | cons a rest ih =>
    by_cases hplace : a.place = place
    · have hother : a.place ∉ places := hplace ▸ h
      by_cases hdid : a.did kind = true <;> simp_all [Int.add_assoc]
    · by_cases hplaces : a.place ∈ places <;> by_cases hdid : a.did kind = true <;>
        simp_all [Int.add_left_comm]

/-- What has been done in each of some places is what has been done in all of them. -/
theorem sum_amounts_map (kind : TransactionKind) (answers : List Answer) {places : List Nat}
    (h : places.Nodup) :
    (places.map fun place =>
        ((amounts kind (answers.filter (·.place = place))).map (·.amount.units)).sum).sum =
      ((amounts kind (answers.filter (·.place ∈ places))).map (·.amount.units)).sum := by
  induction places with
  | nil => simp
  | cons place rest ih =>
    obtain ⟨hplace, hrest⟩ := List.nodup_cons.1 h
    rw [List.map_cons, List.sum_cons, ih hrest, sum_amounts_cons kind answers hplace]

end Answer

open Answer (amounts)

/-- The payments after answers of gateways, one after the other. -/
def settleAll (payments : List Payment) (answers : List Answer) : List Payment :=
  answers.foldl (fun ps a => ps.modify a.place fun p => (p.settle a.response).1) payments

/-! ## Captured amounts -/

/-- **What one answer does to the captured amount.** Only a capture changes it, and not where the
amount cannot be added. -/
theorem captured_settle (p : Payment) (a : Answer) :
    (p.settle a.response).1.captured = p.captured.gather (amounts .capture [a]) := by
  obtain ⟨place, r⟩ := a
  have hnone (h : (⟨place, r⟩ : Answer).did .capture = false) :
      amounts .capture [⟨place, r⟩] = [] := by
    simp [amounts, h]
  cases hsuccess : r.isSuccess with
  | false =>
    rw [hnone (by simp [Answer.did, hsuccess]), settle, apply, hsuccess]
    rfl
  | true =>
    unfold settle apply
    rw [hsuccess, Bool.not_true, if_neg Bool.false_ne_true]
    cases hkind : r.kind with
    | capture =>
      have hone : amounts .capture [⟨place, r⟩] = [r.amount] := by
        simp [amounts, Answer.did, hsuccess, hkind]
      rw [hone]
      show _ = (p.captured.add r.amount).toOption.getD p.captured
      have hsame : (p.recordReference r).captured = p.captured := rfl
      dsimp only
      rw [hsame]
      cases p.captured.add r.amount <;> rfl
    | auth | actionToConfirm | refund | void =>
      rw [hnone (by simp [Answer.did, hkind])]
      rfl

/-- **What answers do to the captured amounts** of payments: each payment adds up what has been
captured for it. -/
theorem map_captured_settleAll (payments : List Payment) (answers : List Answer) :
    (settleAll payments answers).map (·.captured) = payments.mapIdx fun place p =>
      p.captured.gather (amounts .capture (answers.filter (·.place = place))) := by
  induction answers generalizing payments with
  | nil =>
    refine List.ext_getElem? fun place => ?_
    rw [List.getElem?_map, List.getElem?_mapIdx]
    rfl
  | cons a rest ih =>
    rw [settleAll, List.foldl_cons, ← settleAll, ih]
    refine List.ext_getElem? fun place => ?_
    rw [List.getElem?_mapIdx, List.getElem?_mapIdx, List.getElem?_modify]
    cases payments[place]? with
    | none => rfl
    | some p =>
      by_cases hplace : a.place = place
      · by_cases hdid : a.did .capture = true
        · simp [hplace, captured_settle, hdid, ← Money.gather_cons]
        · simp [hplace, captured_settle, hdid]
      · simp [hplace]

/-- What answers capture for payments in some places that nothing was captured for before. -/
def capturedBy (currency : Currency) (answers : List Answer) (places : List Nat) : List Money :=
  places.map fun place =>
    (Money.zero currency).gather (amounts .capture (answers.filter (·.place = place)))

/-- What answers capture for a number of payments in total. -/
def capturedInTotal (currency : Currency) (answers : List Answer) (count : Nat) :
    Except Error Money :=
  Money.sum currency (capturedBy currency answers (List.range count))

variable {currency : Currency} {payments : List Payment} {answers : List Answer}

theorem map_captured_of_zero (hzero : ∀ p ∈ payments, p.captured = .zero currency)
    (answers : List Answer) :
    (settleAll payments answers).map (·.captured) =
      capturedBy currency answers (List.range payments.length) := by
  rw [map_captured_settleAll, capturedBy]
  refine List.ext_getElem (by simp) fun place hplace _ => ?_
  rw [List.length_mapIdx] at hplace
  simp [hzero _ (List.getElem_mem hplace)]

section Exact

variable (hcurrency : ∀ a ∈ answers, a.response.amount.currency = currency)
  (hadd : Money.AddUp (amounts .capture answers))

include hcurrency hadd

/-- Where the captured amounts add up, what is captured for one payment is exact. -/
theorem gather_captured (place : Nat) :
    ((Money.zero currency).gather
        (amounts .capture (answers.filter (·.place = place)))).currency = currency ∧
      ((Money.zero currency).gather
          (amounts .capture (answers.filter (·.place = place)))).amount.units =
        ((amounts .capture (answers.filter (·.place = place))).map (·.amount.units)).sum :=
  (hadd.sublist (Answer.amounts_sublist List.filter_sublist)).gather
    (Answer.currency_of_mem_amounts fun a ha => hcurrency a (List.mem_of_mem_filter ha))

theorem currency_capturedBy (places : List Nat) :
    ∀ m ∈ capturedBy currency answers places, m.currency = currency := by
  intro m hm
  obtain ⟨place, -, rfl⟩ := List.mem_map.1 hm
  exact (gather_captured hcurrency hadd place).1

/-- What is captured for different payments is what is captured in their places. -/
theorem sum_capturedBy {places : List Nat} (hplaces : places.Nodup) :
    ((capturedBy currency answers places).map (·.amount.units)).sum =
      ((amounts .capture (answers.filter (·.place ∈ places))).map (·.amount.units)).sum := by
  have hunits : (capturedBy currency answers places).map (·.amount.units) =
      places.map fun place =>
        ((amounts .capture (answers.filter (·.place = place))).map (·.amount.units)).sum := by
    rw [capturedBy, List.map_map]
    exact List.map_congr_left fun place _ => (gather_captured hcurrency hadd place).2
  rw [hunits, Answer.sum_amounts_map _ _ hplaces]

theorem addUp_capturedBy {places : List Nat} (hplaces : places.Nodup) :
    Money.AddUp (capturedBy currency answers places) := by
  intro part hpart
  obtain ⟨some, hsome, rfl⟩ := List.sublist_map_iff.1 hpart
  have hsum := sum_capturedBy hcurrency hadd (hplaces.sublist hsome)
  rw [capturedBy] at hsum
  rw [hsum]
  exact hadd _ (Answer.amounts_sublist List.filter_sublist)

/-- Where the captured amounts add up, their total is exact. -/
theorem exists_capturedInTotal {count : Nat} (hplaces : ∀ a ∈ answers, a.place < count) :
    ∃ total, capturedInTotal currency answers count = .ok total ∧
      total.amount.units = ((amounts .capture answers).map (·.amount.units)).sum := by
  have hall : answers.filter (·.place ∈ List.range count) = answers :=
    List.filter_eq_self.2 fun a ha => decide_eq_true (List.mem_range.2 (hplaces a ha))
  obtain ⟨total, htotal, hunits⟩ := (addUp_capturedBy hcurrency hadd List.nodup_range).exists_sum
    (currency_capturedBy hcurrency hadd (List.range count))
  refine ⟨total, htotal, ?_⟩
  rw [hunits, sum_capturedBy hcurrency hadd List.nodup_range, hall]

end Exact

/-- **Captured money is counted, refunded or not.** After any answers about payments that nothing
was captured for, the total captured is that of the captures, whatever else has been done, and an
order is charged with it. It is their exact sum where the captures add up without being rounded. -/
theorem totalCaptured_of_answers (currency : Currency) (payments : List Payment)
    (answers : List Answer) (hzero : ∀ p ∈ payments, p.captured = .zero currency)
    (hanswers : ∀ a ∈ answers,
      a.place < payments.length ∧ a.response.amount.currency = currency) :
    totalCaptured currency (settleAll payments answers) =
        capturedInTotal currency answers payments.length ∧
      (∀ o : Order, o.currency = currency → o.charge (settleAll payments answers) =
        (capturedInTotal currency answers payments.length).map o.withCharge) ∧
      (Money.AddUp (amounts .capture answers) →
        ∃ total, capturedInTotal currency answers payments.length = .ok total ∧
          total.amount.units = ((amounts .capture answers).map (·.amount.units)).sum) := by
  have htotal : totalCaptured currency (settleAll payments answers) =
      capturedInTotal currency answers payments.length := by
    rw [totalCaptured, map_captured_of_zero hzero, capturedInTotal]
  refine ⟨htotal, fun o ho => ?_, fun hadd =>
    exists_capturedInTotal (fun a ha => (hanswers a ha).2) hadd fun a ha => (hanswers a ha).1⟩
  rw [Order.charge, ho, htotal]
  cases capturedInTotal currency answers payments.length <;> rfl

end Payment

/-! ## A refunded payment -/

namespace Bookshop

/-- What the bank answers about the first payment. -/
def answer (kind : TransactionKind) (amount : Decimal) : Payment.Answer :=
  ⟨0, { response false with kind, amount := ⟨amount, .usd⟩ }⟩

/-- A dollar is captured twice for one payment and once for another, and one of the first two is
refunded. -/
def partlyRefunded : List Payment.Answer :=
  [answer .capture 1, { answer .capture 1 with place := 1 }, answer .refund 1, answer .capture 1]

end Bookshop

namespace Payment

open Answer (amounts)

/-- Three dollars are captured, and three are counted. -/
theorem totalCaptured_of_answers_bookshop :
    (∀ p ∈ Bookshop.tables.payments ++ Bookshop.tables.payments, p.captured = .zero .usd) ∧
      (∀ a ∈ Bookshop.partlyRefunded,
        a.place < (Bookshop.tables.payments ++ Bookshop.tables.payments).length ∧
          a.response.amount.currency = .usd) ∧
      Money.AddUp (amounts .capture Bookshop.partlyRefunded) ∧
      ∃ total, totalCaptured .usd (settleAll (Bookshop.tables.payments ++ Bookshop.tables.payments)
          Bookshop.partlyRefunded) = .ok total ∧
        total.amount.units = (Decimal.ofInt 3).units := by
  have hzero : ∀ p ∈ Bookshop.tables.payments ++ Bookshop.tables.payments,
      p.captured = .zero .usd := by decide
  have hanswers : ∀ a ∈ Bookshop.partlyRefunded,
      a.place < (Bookshop.tables.payments ++ Bookshop.tables.payments).length ∧
        a.response.amount.currency = .usd := by decide
  have hrange : Money.InRange .usd (amounts .capture Bookshop.partlyRefunded) := by decide +kernel
  have hadd := hrange.addUp (by decide +kernel)
  obtain ⟨htotal, -, hexact⟩ := totalCaptured_of_answers .usd
    (Bookshop.tables.payments ++ Bookshop.tables.payments) Bookshop.partlyRefunded hzero hanswers
  obtain ⟨total, hcounted, hunits⟩ := hexact hadd
  refine ⟨hzero, hanswers, hadd, total, htotal.trans hcounted, hunits.trans ?_⟩
  decide +kernel

/-- **The total captured may differ from the money that is held**: what has been captured for
payments that nothing was captured for before, less what has been refunded. -/
def Miscounts (currency : Currency) (payments : List Payment) (answers : List Answer) : Prop :=
  (∀ p ∈ payments, p.captured = .zero currency) ∧
    (∀ a ∈ answers, a.place < payments.length ∧ a.response.amount.currency = currency) ∧
    ∃ total, totalCaptured currency (settleAll payments answers) = .ok total ∧
      total.amount.units ≠ ((amounts .capture answers).map (·.amount.units)).sum -
        ((amounts .refund answers).map (·.amount.units)).sum

/-- A dollar that is refunded stays in the total, and forty cents more than the largest decimal do
not come into it. -/
theorem miscounts_bookshop :
    Miscounts .usd Bookshop.tables.payments
        [Bookshop.answer .capture 1, Bookshop.answer .refund 1] ∧
      Miscounts .usd Bookshop.tables.payments
        [Bookshop.answer .capture (.ofInt 79228162514264337593543950335),
          Bookshop.answer .capture ⟨4 * pow10 27, 1, 4, by decide, by decide, rfl⟩] := by
  refine ⟨⟨by decide, by decide, ⟨1, .usd⟩, ?_, ?_⟩,
    ⟨by decide, by decide, ⟨.ofInt 79228162514264337593543950335, .usd⟩, ?_, ?_⟩⟩
  all_goals decide +kernel

end Payment

end Storefront
