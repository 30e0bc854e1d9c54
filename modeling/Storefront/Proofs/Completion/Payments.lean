import Storefront.Proofs.Completion.Creation

/-!
# The payments of a checkout become those of its order

The payment that was charged is kept as the gateway has left it, and all payments of the checkout
are handed over to the order. Other payments are not touched.

* `Payment.HandedOver`: a payment before and after, by what the gateway answers.
* `Payment.handOver`, `Attempt.map_handOver`: the same as a function, and what it makes of the
  table.
* `Attempt.Settles.handedOver`: what becomes of the table where an attempt runs alone.
* `Attempt.Creates.payments_eq_map`, `Attempt.Creates.settled_stored`: what a creation makes of the
  table, and the charged payment in it, whatever others have done to the table.
-/

namespace Storefront

namespace Payment

/-- A response does not change which payment it is about, nor what the payment is for. -/
theorem of_apply {p p' : Payment} {r : GatewayResponse} (h : p.apply r = .ok p') :
    p'.id = p.id ∧ p'.checkoutToken = p.checkoutToken ∧ p'.orderId = p.orderId := by
  unfold apply at h
  split at h
  · cases h
    exact ⟨rfl, rfl, rfl⟩
  · split at h
    · obtain ⟨_captured, -, h⟩ := bind_ok h
      cases h
      exact ⟨rfl, rfl, rfl⟩
    all_goals
      cases h
      exact ⟨rfl, rfl, rfl⟩

theorem id_of_apply {p p' : Payment} {r : GatewayResponse} (h : p.apply r = .ok p') :
    p'.id = p.id := (of_apply h).1

theorem mem_of_lastActive? {payments : List Payment} {p : Payment}
    (h : lastActive? payments = some p) : p ∈ payments := by
  rw [lastActive?, List.findRev?_eq_find?_reverse] at h
  exact List.mem_reverse.1 (List.mem_of_find?_eq_some h)

/-- `Charged answer active p q`: of the payments only the one to charge has become something else,
what the answer about it says. -/
def Charged (answer : Payment → Except Error GatewayResponse) (active : Option Payment)
    (p q : Payment) : Prop :=
  if active = some p then
    ∃ response, Attempt.acceptResponse (answer p) = .ok response ∧ p.apply response = .ok q
  else q = p

/-- A payment before and after the order of a checkout was created. -/
structure HandedOver (answer : Payment → Except Error GatewayResponse) (active : Option Payment)
    (token : CheckoutToken) (order : OrderId) (p p' : Payment) : Prop where
  /-- The payments of the order are those that the checkout had. -/
  ofOrder : p'.orderId = some order ↔ p.checkoutToken = some token
  attached : p.checkoutToken = some token → ∃ q, Charged answer active p q ∧
    p' = { q with checkoutToken := none, orderId := some order }
  other : p.checkoutToken ≠ some token → p' = p

end Payment

/-! ## The table -/

/-- The settled payment is one of a checkout, which still has the payment in the tables. -/
def SettledPayment.Attached (s : SettledPayment) (token : CheckoutToken)
    (payments : List Payment) : Prop :=
  s.payment.checkoutToken = some token ∧
    s.payment.id ∈ (payments.filter (·.checkoutToken = some token)).map (·.id)

namespace Payment

/-- The settled payment in the place of the one it was made from. -/
def settledAs (settled : Option SettledPayment) (p : Payment) : Payment :=
  match settled with
  | some s => if p.id = s.payment.id then s.payment else p
  | none => p

theorem id_settledAs (settled : Option SettledPayment) (p : Payment) :
    (p.settledAs settled).id = p.id := by
  unfold settledAs
  split
  · split
    · rename_i hid
      exact hid.symm
    · rfl
  · rfl

/-- A payment after the order of a checkout was created. -/
def handOver (settled : Option SettledPayment) (token : CheckoutToken) (order : OrderId)
    (p : Payment) : Payment :=
  if p.checkoutToken = some token then
    { p.settledAs settled with checkoutToken := none, orderId := some order }
  else p

end Payment

namespace Attempt

variable {payments : List Payment} {settled : Option SettledPayment} {token : CheckoutToken}

theorem withSettled_eq_map (hids : (payments.map (·.id)).Nodup)
    (hsettled : ∀ s, settled = some s → s.payment.id ∈ payments.map (·.id)) :
    withSettled payments settled = payments.map (·.settledAs settled) := by
  cases settled with
  | none => exact (List.map_id _).symm
  | some s => exact upsert_eq_map hids (hsettled s rfl)

/-- Putting the payments of a checkout in with an order, and removing the checkout, changes each
payment in its place. -/
theorem map_handOver (order : OrderId) (hids : (payments.map (·.id)).Nodup)
    (hsettled : ∀ s, settled = some s → s.Attached token payments) :
    (((withSettled (payments.filter (·.checkoutToken = some token)) settled).map fun p =>
      { p with orderId := some order }).foldl (fun rows p => upsert (·.id) p rows) payments).map
        (·.detach token) = payments.map (·.handOver settled token order) := by
  rw [withSettled_eq_map (hids.sublist (List.filter_sublist.map _)) fun s hs => (hsettled s hs).2,
    List.map_map, foldl_upsert_map_filter hids ?keys, List.map_map]
  case keys => exact fun p _ _ => p.id_settledAs settled
  refine List.map_congr_left fun p _ => ?_
  rw [Function.comp_apply, Payment.handOver]
  by_cases htoken : p.checkoutToken = some token
  · have hkept : (p.settledAs settled).checkoutToken = some token := by
      unfold Payment.settledAs
      split
      · split
        · exact (hsettled _ rfl).1
        · exact htoken
      · exact htoken
    rw [if_pos (decide_eq_true htoken), if_pos htoken, Function.comp_apply, Payment.detach,
      if_pos hkept]
  · rw [if_neg (by simpa using htoken), if_neg htoken, Payment.detach, if_neg htoken]

/-! ## One attempt -/

/-- What the gateway has made of the payment to charge, if there was one. -/
inductive Settles (answer : Payment → Except Error GatewayResponse) :
    Option Payment → Option SettledPayment → Prop where
  | uncharged : Settles answer none none
  | charged {payment settled : Payment} {response : GatewayResponse}
      (hresponse : acceptResponse (answer payment) = .ok response)
      (hsettled : payment.apply response = .ok settled) :
      Settles answer (some payment) (some ⟨settled, response.customerId⟩)

namespace Settles

variable {answer : Payment → Except Error GatewayResponse} {active : Option Payment}

/-- The payment that is charged is one of those of the checkout. -/
theorem attached (h : Settles answer active settled)
    (hactive : active = Payment.lastActive? (payments.filter (·.checkoutToken = some token)))
    (s : SettledPayment) (hs : settled = some s) : s.Attached token payments := by
  cases h with
  | uncharged => cases hs
  | charged _ hsettled =>
    cases hs
    obtain ⟨hid, htoken, -⟩ := Payment.of_apply hsettled
    have hmem := Payment.mem_of_lastActive? hactive.symm
    refine ⟨htoken.trans (by simpa using (List.mem_filter.1 hmem).2), ?_⟩
    rw [hid]
    exact List.mem_map_of_mem hmem

/-- Each payment is what the charge has made of it. -/
theorem charged_settledAs (h : Settles answer active settled)
    (hids : (payments.map (·.id)).Nodup) (hactive : ∀ p, active = some p → p ∈ payments)
    {p : Payment} (hp : p ∈ payments) : Payment.Charged answer active p (p.settledAs settled) := by
  cases h with
  | uncharged => rfl
  | @charged payment settled response hresponse hsettled =>
    have hid := Payment.id_of_apply hsettled
    rw [Payment.Charged, Payment.settledAs]
    by_cases hsame : payment = p
    · subst hsame
      rw [if_pos rfl, if_pos hid.symm]
      exact ⟨response, hresponse, hsettled⟩
    · have hne : ¬p.id = settled.id := fun heq =>
        hsame (List.inj_on_of_nodup_map hids (hactive _ rfl) hp (hid.symm.trans heq.symm))
      rw [if_neg fun heq => hsame (Option.some.inj heq), if_neg hne]

/-- **The payments of the checkout are handed over**, and no others. -/
theorem handedOver {order : OrderId} (h : Settles answer active settled)
    (hactive : active = Payment.lastActive? (payments.filter (·.checkoutToken = some token)))
    (hids : (payments.map (·.id)).Nodup) (hnew : ∀ p ∈ payments, p.orderId ≠ some order) :
    List.Forall₂ (Payment.HandedOver answer active token order) payments
      (((((withSettled (payments.filter (·.checkoutToken = some token)) settled).map fun p =>
        { p with orderId := some order }).foldl (fun rows p => upsert (·.id) p rows) payments).map
          (·.detach token))) := by
  rw [map_handOver order hids (h.attached hactive), List.forall₂_map_right_iff, List.forall₂_same]
  intro p hp
  rw [Payment.handOver]
  split
  · rename_i htoken
    have hcharged := h.charged_settledAs hids (fun p hp =>
      (List.mem_filter.1 (Payment.mem_of_lastActive? (hactive.symm.trans hp))).1) hp
    exact ⟨iff_of_true rfl htoken, fun _ => ⟨_, hcharged, rfl⟩, fun hne => absurd htoken hne⟩
  · rename_i htoken
    exact ⟨iff_of_false (hnew p hp) htoken, fun heq => absurd heq htoken, fun _ => rfl⟩

end Settles

/-! ## The payment that was settled -/

namespace Creates

variable {a : Attempt} {plan : OrderPlan} {settled : Option SettledPayment} {t : Tables}
  {c : Creation}

theorem map_id_detach (payments : List Payment) (token : CheckoutToken) :
    (payments.map (·.detach token)).map (·.id) = payments.map (·.id) := by
  rw [List.map_map]
  refine List.map_congr_left fun p _ => ?_
  rw [Function.comp_apply, Payment.detach]
  split <;> rfl

/-- Payments keep ids of their own. -/
theorem nodup_payments (h : a.Creates plan settled t c) (hids : (t.payments.map (·.id)).Nodup) :
    (c.payments.map (·.id)).Nodup := by
  rw [h.payments, map_id_detach]
  exact nodup_foldl_upsert hids

/-- Each payment is handed over in its place. -/
theorem payments_eq_map (h : a.Creates plan settled t c) (hids : (t.payments.map (·.id)).Nodup)
    (hsettled : ∀ s, settled = some s → s.Attached plan.snapshot.checkout.token t.payments) :
    c.payments =
      t.payments.map (·.handOver settled plan.snapshot.checkout.token c.order.id) := by
  rw [h.payments, h.id]
  exact map_handOver plan.orderId hids hsettled

/-- **The payment is stored with the order**, as it was when it had been settled. -/
theorem settled_stored {paid : SettledPayment} (h : a.Creates plan (some paid) t c)
    (hids : (t.payments.map (·.id)).Nodup)
    (htoken : paid.payment.checkoutToken = some plan.snapshot.checkout.token) :
    { paid.payment with checkoutToken := none, orderId := some c.order.id } ∈ c.payments := by
  rw [h.payments, h.id]
  refine List.mem_map.2 ⟨{ paid.payment with orderId := some plan.orderId },
    mem_foldl_upsert ?_ (.inl ?_), if_pos htoken⟩
  · rw [orderPayments, List.map_map]
    exact nodup_upsert (hids.sublist (List.filter_sublist.map _))
  · exact List.mem_map.2 ⟨paid.payment, mem_upsert_self _ _, rfl⟩

end Creates

end Attempt

end Storefront
