import Storefront.Proofs.Shop.GiftCards

/-!
# The names that gateways know customers by

A gateway may answer with the name that it knows the customer by, which is entered with the order.
The whole customer is put back, as an attempt has read them before the charge. So an entry for one
gateway also brings back what there was for the others by then.

* `Shop.users_step`: what a move changes of the users.
* `Shop.customerId?_run_of_unused`: a gateway for which nothing is entered keeps its name.
* `Shop.remembers_iff`: the names are the last that were entered exactly as long as what an entry
  brings back is what there is.
* `Shop.forgets_bookshop`: a name that is lost.
-/

namespace Storefront

/-! ## Entries -/

/-- The name of a gateway for a customer, who is as an attempt has read them. -/
structure CustomerEntry where
  user : User
  gateway : String
  customerId : String
deriving DecidableEq

namespace CustomerEntry

/-- The customer that is put back. -/
def row (e : CustomerEntry) : User := e.user.withGatewayCustomerId e.gateway e.customerId

@[simp] theorem row_id (e : CustomerEntry) : e.row.id = e.user.id := rfl

theorem gatewayCustomerId?_row (e : CustomerEntry) (g : String) :
    e.row.gatewayCustomerId? g =
      if g = e.gateway then some e.customerId else e.user.gatewayCustomerId? g :=
  User.gatewayCustomerId?_with ..

variable {entries : List CustomerEntry} {u : UserId} {g : String}

/-- The name that was entered last for a user and a gateway. -/
def last? (entries : List CustomerEntry) (u : UserId) (g : String) : Option String :=
  (entries.reverse.find? fun e => e.user.id = u ∧ e.gateway = g).map (·.customerId)

theorem last?_append (entries : List CustomerEntry) (e : CustomerEntry) (u : UserId) (g : String) :
    last? (entries ++ [e]) u g =
      if e.user.id = u ∧ e.gateway = g then some e.customerId else last? entries u g := by
  rw [last?, List.reverse_concat, List.find?_cons]
  by_cases h : e.user.id = u ∧ e.gateway = g <;> simp [h, last?]

theorem last?_eq_none :
    last? entries u g = none ↔ ∀ e ∈ entries, e.user.id = u → e.gateway ≠ g := by
  simp [last?]

end CustomerEntry

/-- What is entered about the customer where the stage creates an order. -/
def Stage.entered? : Stage → Option CustomerEntry
  | .ordering plan (some settled) => do
    return ⟨← plan.snapshot.user, settled.payment.gateway, ← settled.customerId⟩
  | .preparing | .charging .. | .ordering _ none | .releasing .. | .finished _ => none

theorem Stage.plan?_of_entered? {stage : Stage} {e : CustomerEntry} (h : stage.entered? = some e) :
    ∃ plan, stage.plan? = some plan ∧ plan.snapshot.user = some e.user := by
  unfold entered? at h
  split at h
  · rename_i plan settled
    obtain ⟨user, huser, h⟩ := Option.bind_eq_some_iff.1 h
    obtain ⟨customerId, -, h⟩ := Option.bind_eq_some_iff.1 h
    cases h
    exact ⟨plan, rfl, huser⟩
  all_goals cases h

theorem Attempt.usersAfter_eq (plan : OrderPlan) (settled : Option SettledPayment)
    (users : List User) : usersAfter plan settled users =
      (Stage.entered? (.ordering plan settled)).elim users fun e => upsert (·.id) e.row users := by
  cases settled with
  | none => rfl
  | some s =>
    cases hcustomer : s.customerId <;> cases huser : plan.snapshot.user <;>
      simp [usersAfter, Stage.entered?, hcustomer, huser, CustomerEntry.row]

namespace Tables

/-- The name that a gateway knows a user by. -/
def customerId? (t : Tables) (u : UserId) (g : String) : Option String :=
  (t.user? u).bind (·.gatewayCustomerId? g)

/-- The names for a user are the last of the entries. -/
def Remembers (t : Tables) (u : UserId) (entries : List CustomerEntry) : Prop :=
  ∀ g customerId, CustomerEntry.last? entries u g = some customerId →
    t.customerId? u g = some customerId

end Tables

/-- What an entry brings back for the other gateways is what there is. -/
def CustomerEntry.UpToDate (e : CustomerEntry) (t : Tables) : Prop :=
  ∀ g, g ≠ e.gateway → e.user.gatewayCustomerId? g = t.customerId? e.user.id g

/-! ## One move -/

namespace Shop

variable {t : Tables} {attempts : List Attempt} {moves : List Move} {m : Move} {e : CustomerEntry}
  {u : UserId} {g : String}

/-- What a move enters about the customer of the order that it creates. -/
def entered? (s : Shop) (m : Move) : Option CustomerEntry := do
  let p ← s.processes[m.process]?
  let p' ← (s.step m).processes[m.process]?
  if p'.created = p.created then none else p.stage.entered?

/-- **Users change by what is entered** about them and by nothing else. -/
theorem users_step (s : Shop) (m : Move) :
    (s.step m).tables.users =
      (s.entered? m).elim s.tables.users fun e => upsert (·.id) e.row s.tables.users := by
  cases hp : s.processes[m.process]? with
  | none => simp [entered?, step, hp]
  | some p =>
    obtain ⟨next, hnext, hp', htables⟩ := getElem?_step hp
    rw [htables]
    rcases hnext.created_or_sameGoods with ⟨plan, settled, c, hstage, hcreates, rfl⟩ |
      ⟨hsame, hevents⟩
    · have hentry : s.entered? m = Stage.entered? (.ordering plan settled) := by
        simp [entered?, hp, hp', hstage, Process.created_after, Creation.created_events]
      rw [hentry, ← Attempt.usersAfter_eq, ← hcreates.users]
      rfl
    · have hentry : s.entered? m = none := by
        simp [entered?, hp, hp', p.created_after_of_silent hevents]
      rw [hentry, hsame.users]
      rfl

theorem customerId?_step_of_none {s : Shop} (h : ∀ e, s.entered? m = some e → e.user.id ≠ u) :
    (s.step m).tables.customerId? u g = s.tables.customerId? u g := by
  unfold Tables.customerId? Tables.user?
  rw [users_step]
  cases hentry : s.entered? m with
  | none => rfl
  | some e => rw [Option.elim_some, find?_upsert, e.row_id, if_neg (h e hentry)]

theorem customerId?_step_of_entered {s : Shop} (h : s.entered? m = some e) (hu : e.user.id = u) :
    (s.step m).tables.customerId? u g =
      if g = e.gateway then some e.customerId else e.user.gatewayCustomerId? g := by
  unfold Tables.customerId? Tables.user?
  rw [users_step, h, Option.elim_some, find?_upsert, e.row_id, if_pos hu, Option.bind_some,
    e.gatewayCustomerId?_row]

/-- The customer of an entry is as the store has had them at some time before. -/
theorem read_of_entered (h : ((opening t attempts).run moves).entered? m = some e) :
    ∃ earlier, earlier <+: moves ∧
      ((opening t attempts).run earlier).tables.user? e.user.id = some e.user := by
  obtain ⟨p, hp, h⟩ := Option.bind_eq_some_iff.1 h
  obtain ⟨p', -, h⟩ := Option.bind_eq_some_iff.1 h
  split at h
  · cases h
  obtain ⟨plan, hplan, huser⟩ := Stage.plan?_of_entered? h
  obtain ⟨earlier, payment, hearlier, hprepared⟩ :=
    prepared_run t attempts moves p (List.mem_of_getElem? hp) plan hplan
  exact ⟨earlier, hearlier, hprepared.user? huser⟩

/-! ## Every schedule -/

/-- What the moves of a schedule enter about customers. -/
def entries (s : Shop) (moves : List Move) : List CustomerEntry := s.collect entered? moves

theorem entries_concat (s : Shop) (moves : List Move) (m : Move) :
    s.entries (moves ++ [m]) = s.entries moves ++ ((s.run moves).entered? m).toList :=
  s.collect_concat entered? moves m

/-- **A gateway for which nothing is entered keeps its name.** Nothing else is brought back, because
what was read earlier was the same. -/
theorem customerId?_run_of_unused (t : Tables) (attempts : List Attempt) (moves : List Move)
    (h : ∀ e ∈ (opening t attempts).entries moves, e.user.id = u → e.gateway ≠ g) :
    ((opening t attempts).run moves).tables.customerId? u g = t.customerId? u g := by
  -- what is brought back may have been read at any time before, so all of the prefixes are needed
  suffices hall : ∀ earlier, earlier <+: moves →
      ((opening t attempts).run earlier).tables.customerId? u g = t.customerId? u g from
    hall moves List.prefix_rfl
  induction moves using List.reverseRecOn with
  | nil =>
    intro earlier hearlier
    rw [List.prefix_nil.1 hearlier]
    rfl
  | append_singleton moves m ih =>
    rw [entries_concat] at h
    have hbefore := ih fun e he => h e (List.mem_append_left _ he)
    intro earlier hearlier
    rcases List.prefix_concat_iff.1 hearlier with rfl | hearlier
    · rw [run_append]
      by_cases hentry : ∃ e, ((opening t attempts).run moves).entered? m = some e ∧ e.user.id = u
      · obtain ⟨e, he, rfl⟩ := hentry
        have hother := h e (List.mem_append_right _ (Option.mem_toList.2 he)) rfl
        obtain ⟨earlier, hread, huser⟩ := read_of_entered he
        refine (customerId?_step_of_entered he rfl).trans ?_
        rw [if_neg hother.symm, ← hbefore earlier hread, Tables.customerId?, huser]
        rfl
      · refine (customerId?_step_of_none fun e he hu => hentry ⟨e, he, hu⟩).trans ?_
        exact hbefore moves List.prefix_rfl
    · exact hbefore earlier hearlier

/-- Where the names are the last that were entered, all others are those from the start. -/
theorem customerId?_of_remembers
    (h : ((opening t attempts).run moves).tables.Remembers u ((opening t attempts).entries moves))
    (g : String) : ((opening t attempts).run moves).tables.customerId? u g =
      (CustomerEntry.last? ((opening t attempts).entries moves) u g).or (t.customerId? u g) := by
  cases hlast : CustomerEntry.last? ((opening t attempts).entries moves) u g with
  | none => exact customerId?_run_of_unused t attempts moves (CustomerEntry.last?_eq_none.1 hlast)
  | some customerId => exact h g customerId hlast

/-- An entry that is up to date costs no other gateway its name. -/
theorem remembers_concat
    (h : ((opening t attempts).run moves).tables.Remembers u ((opening t attempts).entries moves))
    (hdate : ∀ e, ((opening t attempts).run moves).entered? m = some e → e.user.id = u →
      e.UpToDate ((opening t attempts).run moves).tables) :
    ((opening t attempts).run (moves ++ [m])).tables.Remembers u
      ((opening t attempts).entries (moves ++ [m])) := by
  intro g customerId hlast
  rw [entries_concat] at hlast
  rw [run_append]
  cases hentry : ((opening t attempts).run moves).entered? m with
  | none =>
    rw [hentry, Option.toList_none, List.append_nil] at hlast
    refine (customerId?_step_of_none fun e he => ?_).trans (h g customerId hlast)
    rw [hentry] at he
    cases he
  | some e =>
    rw [hentry, Option.toList_some, CustomerEntry.last?_append] at hlast
    by_cases hu : e.user.id = u
    · refine (customerId?_step_of_entered hentry hu).trans ?_
      by_cases hg : g = e.gateway
      · rw [if_pos ⟨hu, hg.symm⟩] at hlast
        rw [if_pos hg, hlast]
      · rw [if_neg fun heq => hg heq.2.symm] at hlast
        rw [if_neg hg, hdate e hentry hu g hg, hu, h g customerId hlast]
    · rw [if_neg fun heq => hu heq.1] at hlast
      refine (customerId?_step_of_none fun e' he' => ?_).trans (h g customerId hlast)
      rwa [← Option.some.inj (hentry.symm.trans he')]

/-- An entry that costs no gateway its name is up to date. -/
theorem upToDate_of_remembers
    (h : ((opening t attempts).run moves).tables.Remembers u ((opening t attempts).entries moves))
    (hnext : ((opening t attempts).run (moves ++ [m])).tables.Remembers u
      ((opening t attempts).entries (moves ++ [m])))
    (hentry : ((opening t attempts).run moves).entered? m = some e) (hu : e.user.id = u) :
    e.UpToDate ((opening t attempts).run moves).tables := by
  intro g hg
  have hafter := customerId?_of_remembers hnext g
  rw [entries_concat, hentry, Option.toList_some, CustomerEntry.last?_append,
    if_neg fun heq => hg heq.2.symm, ← customerId?_of_remembers h, run_append] at hafter
  rw [hu, ← hafter]
  exact ((customerId?_step_of_entered hentry hu).trans (if_neg hg)).symm

/-- **The names that gateways know a user by are the last that were entered**, at all times, exactly
as long as what each entry brings back for the other gateways is what there is. A gateway for which
nothing is entered keeps its name in any case. -/
theorem remembers_iff (t : Tables) (attempts : List Attempt) (moves : List Move) (u : UserId) :
    (∀ g, (∀ e ∈ (opening t attempts).entries moves, e.user.id = u → e.gateway ≠ g) →
      ((opening t attempts).run moves).tables.customerId? u g = t.customerId? u g) ∧
    ((∀ earlier, earlier <+: moves → ((opening t attempts).run earlier).tables.Remembers u
        ((opening t attempts).entries earlier)) ↔
      ∀ earlier m e, earlier ++ [m] <+: moves →
        ((opening t attempts).run earlier).entered? m = some e → e.user.id = u →
        e.UpToDate ((opening t attempts).run earlier).tables) := by
  refine ⟨fun g => customerId?_run_of_unused t attempts moves, fun h earlier m e hearlier => ?_,
    fun h => ?_⟩
  · exact upToDate_of_remembers (h earlier ((List.prefix_append ..).trans hearlier)) (h _ hearlier)
  · intro earlier hearlier
    induction earlier using List.reverseRecOn with
    | nil => exact fun g customerId hlast => nomatch hlast
    | append_singleton earlier m ih =>
      exact remembers_concat (ih ((List.prefix_append ..).trans hearlier)) fun e =>
        h earlier m e hearlier

end Shop

/-! ## A reader with an account -/

namespace Bookshop

def reader : User := ⟨⟨⟨12⟩⟩, "ada@example.com", false, true, []⟩

/-- Two checkouts of the reader, each with a payment of a gateway of its own. -/
def readerTables : Tables :=
  { giftTables 1 0 with
    users := [reader]
    checkouts := (giftTables 1 0).checkouts.map fun c => { c with userId := some reader.id }
    payments := [(⟨⟨9⟩⟩, ⟨⟨8⟩⟩, "bank"), (⟨⟨10⟩⟩, ⟨⟨10⟩⟩, "wallet")].flatMap
      fun (id, token, gateway) => tables.payments.map fun p =>
        { p with id, checkoutToken := some token, gateway } }

/-- The two checkouts are completed in turn, and each gateway has a name for the reader. -/
def readerMoves : List Move :=
  [0, 1, 0, 1, 0, 1].map fun process =>
    ⟨process, .ok { response false with customerId := some "ada" }⟩

end Bookshop

namespace Shop

/-- **The name that a gateway knows a user by may be lost**: the last one entered is not there. -/
def Forgets (t : Tables) (attempts : List Attempt) (moves : List Move) (u : UserId) : Prop :=
  (t.user? u).isSome ∧ ∃ g customerId,
    CustomerEntry.last? ((opening t attempts).entries moves) u g = some customerId ∧
      ((opening t attempts).run moves).tables.customerId? u g ≠ some customerId

/-- The second order puts the reader back as they were before the bank had a name for them. -/
theorem forgets_bookshop :
    Forgets Bookshop.readerTables Bookshop.giftAttempts Bookshop.readerMoves Bookshop.reader.id :=
  ⟨by decide, "bank", "ada", by decide +kernel, by decide +kernel⟩

end Shop

end Storefront
