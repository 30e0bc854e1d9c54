import Storefront.Proofs.Completion.Lines
import Storefront.Proofs.Shop.Schedule
import Storefront.Proofs.Stock.Preorders

/-!
# Preorders are never oversold

Preorders are checked before a payment is charged, and once more in the transaction that allocates
them. They may also be allocated to order lines that do not come from a checkout. Since both go
through the same check, no schedule takes the preorders of a listing or of a variant beyond their
thresholds.

* `Attempt.Prepared.proper`: the lines of a plan carry rows of the store.
* `Attempt.Creates.preordersWithin`: creating an order keeps both limits.
* `Shop.acts`: attempts that go on, and preorders that are allocated by themselves, in any order.
* `Shop.preorders_within`: both limits are kept by whatever happens.
-/

namespace Storefront

/-! ## The lines of a plan -/

/-- What a cart asks for of a variant altogether. -/
def Checkout.asked (c : Checkout) (variant : VariantId) : Nat :=
  Quantity.total ((c.lines.filter (·.variantId = variant)).map (·.quantity))

/-- What a cart asks for of each variant does not go beyond the largest quantity. -/
def Checkout.InRange (c : Checkout) : Prop :=
  ∀ line ∈ c.lines, c.asked line.variantId ≤ Quantity.largest

instance (c : Checkout) : Decidable c.InRange :=
  inferInstanceAs (Decidable (∀ line ∈ c.lines, _))

namespace Attempt

variable {a : Attempt} {plan : OrderPlan} {payment : Option Payment}
  {settled : Option SettledPayment} {t : Tables} {c : Creation}

/-- A line of a plan carries its stored rows, and asks for what its line of the cart asks for. -/
theorem Prepared.demanded (h : a.Prepared t plan payment) :
    List.Forall₂ (fun line l => l.demand.Stored t ∧ l.demand.variant.id = line.variantId ∧
      l.demand.quantity = line.quantity) plan.snapshot.checkout.lines plan.lines := by
  refine h.planned.imp fun line l hl => ?_
  obtain ⟨hcart, hvariant, hid, hlisting⟩ := hl.1.rows
  rw [← hid] at hvariant hlisting
  exact ⟨⟨hvariant, List.mem_of_find?_eq_some hlisting⟩, hid, congrArg CartLine.quantity hcart⟩

/-- A plan asks for what the cart asks for. -/
theorem Prepared.asked (h : a.Prepared t plan payment) (variant : VariantId) :
    Demand.asked (plan.lines.map (·.demand)) variant = plan.snapshot.checkout.asked variant := by
  unfold Checkout.asked
  have hlines := h.demanded
  generalize plan.snapshot.checkout.lines = cart at hlines ⊢
  generalize plan.lines = lines at hlines ⊢
  induction hlines with
  | nil => rfl
  | @cons line l cart lines hl _ ih =>
    obtain ⟨-, hid, hquantity⟩ := hl
    rw [List.map_cons, Demand.asked_cons, Quantity.total_filter_cons, ih, hid, hquantity]
    simp

/-- **The lines of a plan carry rows of the store.** -/
theorem Prepared.proper (h : a.Prepared t plan payment)
    (hcart : plan.snapshot.checkout.InRange) :
    Demand.Proper t (plan.lines.map (·.demand)) := by
  constructor
  · refine List.forall_mem_map.2 fun l hl => ?_
    obtain ⟨_, -, hstored, -⟩ := forall₂_exists_left h.demanded hl
    exact hstored
  · refine List.forall_mem_map.2 fun l hl => ?_
    obtain ⟨line, hline, -, hid, -⟩ := forall₂_exists_left h.demanded hl
    rw [h.asked, hid]
    exact hcart line hline

/-- **Creating an order keeps both limits.** -/
theorem Creates.preordersWithin (h : a.Creates plan settled t c) (ht : t.PreordersWithin)
    (hids : (t.variantListings.map (·.id)).Nodup)
    (hproper : Demand.Proper t (plan.lines.map (·.demand))) :
    (c.tables plan t).PreordersWithin := by
  have hwithin := ht.allocate hids (hproper.sublist List.filter_sublist) h.preorderable
  rw [← h.preorders] at hwithin
  exact ⟨hwithin.channel, hwithin.variant⟩

end Attempt

/-! ## The catalog -/

/-- `t.SameCatalog t'`: the variants and their listings are the same. -/
structure Tables.SameCatalog (t t' : Tables) : Prop where
  variants : t'.variants = t.variants
  variantListings : t'.variantListings = t.variantListings

namespace Tables.SameCatalog

variable {t t' : Tables} {demands : List Demand}

theorem refl (t : Tables) : t.SameCatalog t := ⟨rfl, rfl⟩

/-- Demands carry rows of the store as long as the catalog is the same. -/
theorem proper_iff (h : t.SameCatalog t') : Demand.Proper t' demands ↔ Demand.Proper t demands := by
  have hstored (d : Demand) : d.Stored t' ↔ d.Stored t := by
    constructor
    · exact fun ⟨hvariant, hlisting⟩ => ⟨by rwa [variant?, ← h.variants],
        by rwa [listingsOf, ← h.variantListings]⟩
    · exact fun ⟨hvariant, hlisting⟩ => ⟨by rwa [variant?, h.variants],
        by rwa [listingsOf, h.variantListings]⟩
  constructor
  · exact fun hproper => ⟨fun d hd => (hstored d).1 (hproper.stored d hd), hproper.inRange⟩
  · exact fun hproper => ⟨fun d hd => (hstored d).2 (hproper.stored d hd), hproper.inRange⟩

end Tables.SameCatalog

/-! ## Orders and other preorders in turn -/

/-- What may happen at a shop that takes preorders. -/
inductive Act where
  /-- An attempt goes on. -/
  | move (m : Move)
  /-- Preorders are allocated to order lines, in a transaction of their own. -/
  | allocate (demands : List Demand) (now : Moment)

/-! ## A book that has not been printed yet -/

namespace Bookshop

def unprinted : Variant :=
  ⟨⟨⟨3⟩⟩, ⟨⟨2⟩⟩, none, "Paperback", true, false, false, true, none, some 3⟩

/-- A listing of the book in another channel, which has no limit of its own. -/
def subscription : VariantListing := ⟨⟨⟨12⟩⟩, unprinted.id, ⟨⟨13⟩⟩, none, none, none⟩

/-- The store with the book sold ahead: two copies to customers, and three altogether. -/
def preorderTables : Tables :=
  { tables with
    variants := [unprinted]
    variantListings :=
      [⟨⟨⟨4⟩⟩, unprinted.id, channel.id, some ⟨1, .usd⟩, none, some 2⟩, subscription] }

/-- Two subscribers ask for a copy each. -/
def subscribers : List Demand :=
  [⟨some ⟨⟨14⟩⟩, unprinted, subscription, 1⟩, ⟨some ⟨⟨15⟩⟩, unprinted, subscription, 1⟩]

/-- Subscribers are served while a payment is charged, and others ask in vain afterwards. -/
def preorderActs : List Act :=
  let go : Act := .move ⟨0, .ok (response false)⟩
  [go, .allocate subscribers ⟨1⟩, go, go, .allocate subscribers ⟨1⟩]

theorem subscribers_proper : Demand.Proper preorderTables subscribers where
  stored := List.forall_mem_cons.2 ⟨⟨rfl, by decide⟩,
    List.forall_mem_singleton.2 ⟨rfl, by decide⟩⟩
  inRange := by decide

/-- Nothing has been preordered at the start. -/
theorem preorderTables_within : preorderTables.PreordersWithin :=
  ⟨fun _ _ _ _ => Nat.zero_le _, fun _ _ _ _ => Nat.zero_le _⟩

end Bookshop

namespace Shop

variable {t : Tables} {attempts : List Attempt} {s s' : Shop}

/-- Preorders are allocated if they are not short. -/
def allocate (s : Shop) (demands : List Demand) (now : Moment) : Shop :=
  { s with tables := (s.tables.transact (allocatePreorders demands now)).2.1 }

def act (s : Shop) : Act → Shop
  | .move m => s.step m
  | .allocate demands now => s.allocate demands now

def acts (s : Shop) (all : List Act) : Shop := all.foldl act s

/-- What holds in every state of a shop that has begun with the tables `t`. -/
structure Preordering (t : Tables) (attempts : List Attempt) (s : Shop) : Prop where
  attempts : ∀ p ∈ s.processes, p.attempt ∈ attempts
  catalog : t.SameCatalog s.tables
  checkouts : s.tables.checkouts ⊆ t.checkouts
  /-- What is about to be ordered carries rows of the store. -/
  plans : ∀ p ∈ s.processes, ∀ plan, p.stage.plan? = some plan →
    Demand.Proper t (plan.lines.map (·.demand))
  within : s.tables.PreordersWithin

theorem preordering_opening (attempts : List Attempt) (ht : t.PreordersWithin) :
    Preordering t attempts (opening t attempts) where
  attempts := forall_opening fun _ ha => ha
  catalog := .refl t
  checkouts := List.Subset.refl _
  plans := forall_opening fun _ _ _ hplan => nomatch hplan
  within := ht

namespace Preordering

variable (hs : Preordering t attempts s) (hids : (t.variantListings.map (·.id)).Nodup)
include hs hids

theorem unique : (s.tables.variantListings.map (·.id)).Nodup :=
  hs.catalog.variantListings ▸ hids

theorem allocate {demands : List Demand} (hproper : Demand.Proper t demands) (now : Moment) :
    Preordering t attempts (s.allocate demands now) := by
  unfold Shop.allocate
  rcases htransact : s.tables.transact (allocatePreorders demands now) with
    ⟨_ | allocations, t', events⟩
  · obtain ⟨rfl, -⟩ := Tables.transact_error htransact
    exact hs
  · have hrun := Tables.transact_ok htransact
    have hwithin := allocatePreorders_within hrun hs.within (hs.unique hids)
      (hs.catalog.proper_iff.2 hproper)
    obtain ⟨-, -, hsession⟩ := allocatePreorders_ok hrun
    cases hsession
    exact ⟨hs.attempts, ⟨hs.catalog.variants, hs.catalog.variantListings⟩, hs.checkouts, hs.plans,
      hwithin⟩

variable (hcarts : ∀ a ∈ attempts, ∀ c ∈ t.checkouts, c.token = a.token → c.InRange)
include hcarts

theorem steps (h : Steps s s') : Preordering t attempts s' := by
  have hattempts : ∀ p ∈ s'.processes, p.attempt ∈ attempts :=
    h.forall_processes hs.attempts fun p hp _ _ _ _ => hs.attempts p hp
  have hplans : ∀ p ∈ s'.processes, ∀ plan, p.stage.plan? = some plan →
      Demand.Proper t (plan.lines.map (·.demand)) := by
    refine h.forall_processes hs.plans fun p hp next _ hnext _ plan hplan => ?_
    rcases hnext.plan_of_plan hplan with hbefore | ⟨payment, hprepared⟩
    · exact hs.plans p hp plan hbefore
    · have hmem := hs.checkouts (List.mem_of_find?_eq_some hprepared.checkout)
      have hcart := hcarts _ (hs.attempts p hp) _ hmem hprepared.token
      exact hs.catalog.proper_iff.1 (hprepared.proper hcart)
  obtain @⟨t₁, before, after, p, next, _, h⟩ := h
  rcases h.created_or_sameGoods with ⟨plan, settled, c, hstage, hcreates, rfl⟩ | ⟨hsame, -⟩
  · have hproper := hs.plans p (by simp) plan (by rw [hstage]; rfl)
    exact {
      attempts := hattempts
      catalog := ⟨hs.catalog.variants, hs.catalog.variantListings⟩
      checkouts := fun _ hc => hs.checkouts (List.mem_of_mem_filter hc)
      plans := hplans
      within := hcreates.preordersWithin hs.within (hs.unique hids)
        (hs.catalog.proper_iff.2 hproper) }
  · obtain ⟨_, _, _, htables⟩ := hsame
    refine ⟨hattempts, ?_, ?_, hplans, ?_⟩ <;> rw [htables]
    · exact ⟨hs.catalog.variants, hs.catalog.variantListings⟩
    · exact hs.checkouts
    · exact ⟨hs.within.channel, hs.within.variant⟩

theorem acts (all : List Act)
    (hall : ∀ demands now, .allocate demands now ∈ all → Demand.Proper t demands) :
    Preordering t attempts (s.acts all) := by
  induction all generalizing s with
  | nil => exact hs
  | cons one rest ih =>
    refine ih ?_ fun demands now hmem => hall demands now (List.mem_cons_of_mem _ hmem)
    cases one with
    | move m =>
      show Preordering t attempts (s.step m)
      rcases step_eq_or_steps s m with heq | hsteps
      · exact heq.symm ▸ hs
      · exact hs.steps hids hcarts hsteps
    | allocate demands now =>
      exact hs.allocate hids (hall demands now List.mem_cons_self) now

end Preordering

/-- **Preorder thresholds are never exceeded**, whatever the attempts do in which order and whatever
else is allocated in between. The thresholds are those of the catalog, which never changes. -/
theorem preorders_within (t : Tables) (attempts : List Attempt) (all : List Act)
    (hids : (t.variantListings.map (·.id)).Nodup)
    (hcarts : ∀ a ∈ attempts, ∀ c ∈ t.checkouts, c.token = a.token → c.InRange)
    (hall : ∀ demands now, .allocate demands now ∈ all → Demand.Proper t demands)
    (ht : t.PreordersWithin) :
    let s := (opening t attempts).acts all
    t.SameCatalog s.tables ∧ s.tables.PreordersWithin := by
  have hs : Preordering t attempts ((opening t attempts).acts all) :=
    (preordering_opening attempts ht).acts hids hcarts all hall
  exact ⟨hs.catalog, hs.within⟩

/-- A customer and two subscribers take all copies that are to be printed. -/
theorem preorders_within_bookshop :
    (Bookshop.preorderTables.variantListings.map (·.id)).Nodup ∧
      (∀ a ∈ [Bookshop.attempt 1], ∀ c ∈ Bookshop.preorderTables.checkouts,
        c.token = a.token → c.InRange) ∧
      (∀ demands now, .allocate demands now ∈ Bookshop.preorderActs →
        Demand.Proper Bookshop.preorderTables demands) ∧
      Bookshop.preorderTables.PreordersWithin ∧
      ((opening Bookshop.preorderTables [Bookshop.attempt 1]).acts
        Bookshop.preorderActs).tables.PreordersWithin := by
  have hids : (Bookshop.preorderTables.variantListings.map (·.id)).Nodup := by decide
  have hcarts : ∀ a ∈ [Bookshop.attempt 1], ∀ c ∈ Bookshop.preorderTables.checkouts,
      c.token = a.token → c.InRange := List.forall_mem_singleton.2 (by decide)
  have hall : ∀ demands now, .allocate demands now ∈ Bookshop.preorderActs →
      Demand.Proper Bookshop.preorderTables demands := by
    intro demands now hmem
    obtain ⟨rfl, -⟩ : demands = Bookshop.subscribers ∧ now = ⟨1⟩ := by
      simpa [Bookshop.preorderActs] using hmem
    exact Bookshop.subscribers_proper
  exact ⟨hids, hcarts, hall, Bookshop.preorderTables_within,
    (preorders_within Bookshop.preorderTables [Bookshop.attempt 1] Bookshop.preorderActs hids hcarts
      hall Bookshop.preorderTables_within).2⟩

/-- The copies go to the subscribers first, and then to the customer. -/
example : ((opening Bookshop.preorderTables [Bookshop.attempt 1]).acts
    Bookshop.preorderActs).tables.preorderAllocations =
      [⟨⟨⟨14⟩⟩, ⟨⟨12⟩⟩, 1⟩, ⟨⟨⟨15⟩⟩, ⟨⟨12⟩⟩, 1⟩, ⟨⟨⟨1⟩⟩, ⟨⟨4⟩⟩, 1⟩] := by
  decide +kernel

end Shop

end Storefront
