import Storefront.Proofs.Completion.Creation
import Storefront.Proofs.Completion.Preparing
import Storefront.Proofs.Stock.Lines

/-!
# The lines of a checkout and those of its order

A line of a cart is read with its rows, may be given a voucher, is priced as an order line, and is
served from stock or as a preorder. On this way no line is lost, doubled or taken for another.

* `Tables.Fetches`: a line of a cart and the line that was read for it.
* `Attempt.Prepared.fetched`: the lines of a plan come from those of the cart, one to one.
* `Attempt.Creates.supplied`: what the order lines of a plan get.
-/

namespace Storefront

/-! ## Reading the cart -/

/-- The line without a voucher on it. -/
def CheckoutLine.bare (l : CheckoutLine) : CheckoutLine := { l with voucher := none }

/-- A voucher is put on lines that are there, and nothing else is done to them. -/
theorem CheckoutLine.attach_ok {v : Voucher} {channel : ChannelId} {sales : List Sale}
    {lines lines' : List CheckoutLine} (h : attach v channel sales lines = .ok lines') :
    lines'.map bare = lines.map bare := by
  unfold attach at h
  split at h
  · cases h
    rfl
  · split at h
    · obtain ⟨found, -, h⟩ := bind_ok h
      cases found with
      | none =>
        cases h
        rfl
      | some index =>
        cases h
        refine List.ext_getElem? fun i => ?_
        rw [List.getElem?_map, List.getElem?_map, List.getElem?_modify]
        cases lines[i]? with
        | none => rfl
        | some l => by_cases hi : index = i <;> simp [hi, bare]
    · cases h
      rw [List.map_map]
      refine List.map_congr_left fun l _ => ?_
      rw [Function.comp_apply]
      split <;> rfl

namespace Tables

variable {t : Tables} {channel : ChannelId} {now : Moment}

theorem id_of_channel {id : ChannelId} {channel : Channel} (h : t.channel id = .ok channel) :
    channel.id = id := by
  unfold Tables.channel orFail at h
  split at h
  · cases h
    exact (find?_key (k := Channel.id) ‹_›).2
  · cases h

/-- `t.Fetches channel now line l`: the line `l` was read for a line of a cart. -/
def Fetches (t : Tables) (channel : ChannelId) (now : Moment) (line : CartLine)
    (l : CheckoutLine) : Prop :=
  t.checkoutLine? channel now line = some l.bare

/-- A line is read with the row of its variant and the first listing of that in the channel. -/
theorem Fetches.rows {line : CartLine} {l : CheckoutLine} (h : t.Fetches channel now line l) :
    l.cart = line ∧ t.variant? line.variantId = some l.variant ∧ l.variant.id = line.variantId ∧
      (t.listingsOf line.variantId).find? (·.channelId = channel) = some l.listing := by
  unfold Fetches checkoutLine? at h
  obtain ⟨variant, hvariant, h⟩ := Option.bind_eq_some_iff.1 h
  obtain ⟨listing, hlisting, h⟩ := Option.bind_eq_some_iff.1 h
  obtain ⟨price, -, h⟩ := Option.bind_eq_some_iff.1 h
  obtain ⟨product, -, h⟩ := Option.bind_eq_some_iff.1 h
  have hid : variant.id = line.variantId := (find?_key (k := Variant.id) hvariant).2
  split at h
  · obtain ⟨rfl, rfl, rfl, -⟩ := (CheckoutLine.mk.injEq ..).mp (Option.some.inj h)
    exact ⟨rfl, hvariant, hid, hid ▸ hlisting⟩
  · cases h

/-- A line has no voucher when it is read. -/
theorem bare_of_checkoutLine? {line : CartLine} {l : CheckoutLine}
    (h : t.checkoutLine? channel now line = some l) : l.bare = l := by
  unfold checkoutLine? at h
  obtain ⟨_, -, h⟩ := Option.bind_eq_some_iff.1 h
  obtain ⟨_, -, h⟩ := Option.bind_eq_some_iff.1 h
  obtain ⟨_, -, h⟩ := Option.bind_eq_some_iff.1 h
  obtain ⟨_, -, h⟩ := Option.bind_eq_some_iff.1 h
  split at h
  · cases h
    rfl
  · cases h

/-- Where all lines of a cart can be bought, each is read, and in its place. -/
theorem fetches_of_bare {cart : List CartLine} {lines : List CheckoutLine}
    (hall : ∀ line ∈ cart, (t.checkoutLine? channel now line).isSome)
    (h : lines.map CheckoutLine.bare =
      (cart.filterMap (t.checkoutLine? channel now)).map CheckoutLine.bare) :
    List.Forall₂ (t.Fetches channel now) cart lines := by
  induction cart generalizing lines with
  | nil =>
    obtain rfl : lines = [] := by simpa using h
    exact .nil
  | cons line rest ih =>
    obtain ⟨hline, hrest⟩ := List.forall_mem_cons.1 hall
    obtain ⟨read, hread⟩ := Option.isSome_iff_exists.1 hline
    rw [List.filterMap_cons_some hread, List.map_cons] at h
    obtain ⟨l, more, rfl, hl, hmore⟩ := List.map_eq_cons_iff.1 h
    refine .cons ?_ (ih hrest hmore)
    rw [Fetches, hread, hl, bare_of_checkoutLine? hread]

/-- The lines of a checkout are those of the cart that can be bought, with its voucher put on
them. -/
theorem checkoutLines_attached {checkout : Checkout} {sales : List Sale}
    {lines : List CheckoutLine} {unavailable : List VariantId}
    (h : t.checkoutLines checkout channel sales now = .ok (lines, unavailable)) :
    unavailable = (checkout.lines.filter fun l => (t.checkoutLine? channel now l).isNone).map
        (·.variantId) ∧
      (t.voucherFor? checkout now = none ∧
          lines = checkout.lines.filterMap (t.checkoutLine? channel now) ∨
        ∃ v, t.voucherFor? checkout now = some v ∧ CheckoutLine.attach v channel sales
          (checkout.lines.filterMap (t.checkoutLine? channel now)) = .ok lines) := by
  unfold checkoutLines at h
  dsimp only at h
  split at h
  · rename_i v hv
    obtain ⟨attached, hattach, h⟩ := bind_ok h
    obtain ⟨rfl, hgone⟩ := Prod.mk.inj (Except.ok.inj h)
    exact ⟨hgone.symm, .inr ⟨v, hv, hattach⟩⟩
  · rename_i hnone
    obtain ⟨hread, hgone⟩ := Prod.mk.inj (Except.ok.inj h)
    exact ⟨hgone.symm, .inl ⟨hnone, hread.symm⟩⟩

theorem checkoutLines_bare {checkout : Checkout} {sales : List Sale}
    {lines : List CheckoutLine} {unavailable : List VariantId}
    (h : t.checkoutLines checkout channel sales now = .ok (lines, unavailable)) :
    lines.map CheckoutLine.bare =
      (checkout.lines.filterMap (t.checkoutLine? channel now)).map CheckoutLine.bare := by
  rcases (checkoutLines_attached h).2 with ⟨-, rfl⟩ | ⟨v, -, hattach⟩
  · rfl
  · exact CheckoutLine.attach_ok hattach

theorem checkoutLines_ok {checkout : Checkout} {sales : List Sale} {lines : List CheckoutLine}
    (h : t.checkoutLines checkout channel sales now = .ok (lines, [])) :
    List.Forall₂ (t.Fetches channel now) checkout.lines lines := by
  refine fetches_of_bare (fun line hline => ?_) (checkoutLines_bare h)
  have hnone := (checkoutLines_attached h).1.symm
  rw [List.map_eq_nil_iff, List.filter_eq_nil_iff] at hnone
  simpa [Option.isSome_iff_ne_none] using hnone line hline

end Tables

/-! ## From the cart to the plan -/

namespace Attempt

variable {a : Attempt} {t : Tables}

theorem snapshot_lines {checkout : Checkout} {x : Snapshot} (h : a.snapshot t checkout = .ok x) :
    List.Forall₂ (t.Fetches checkout.channelId a.request.now) checkout.lines x.lines := by
  obtain ⟨channel, hchannel, h⟩ := bind_ok h
  have hid := Tables.id_of_channel hchannel
  obtain ⟨⟨lines, unavailable⟩, hlines, h⟩ := bind_ok h
  obtain ⟨hempty, h⟩ := unless_ok h
  obtain ⟨-, h⟩ := guard_ok h
  obtain ⟨_baseSubtotal, -, h⟩ := bind_ok h
  cases h
  obtain rfl : unavailable = [] := List.isEmpty_iff.1 hempty
  exact hid ▸ Tables.checkoutLines_ok hlines

/-- **No line is lost on the way to the plan**, and none is doubled: the lines of the plan are for
what those of the cart are for. -/
theorem Prepared.planned {plan : OrderPlan} {payment : Option Payment}
    (h : a.Prepared t plan payment) :
    List.Forall₂ (fun line l =>
      t.Fetches plan.snapshot.checkout.channelId a.request.now line l.source ∧
        l.line.orderId = a.ids.order ∧ l.line.variantId = some l.source.variant.id ∧
        l.line.quantity = l.source.quantity) plan.snapshot.checkout.lines plan.lines := by
  obtain ⟨_, _, -, -, -, hplan⟩ := h.priced
  have hlines := (Snapshot.plan_ok hplan).2.2.2
  have hread := snapshot_lines h.snapshot
  rw [← (Snapshot.orderLines_map hlines).1] at hread
  exact forall₂_and_right (List.forall₂_map_right_iff.1 hread) (Snapshot.orderLines_ok hlines)

/-- The lines of the plan are for the variants in the cart. -/
theorem Prepared.variants {plan : OrderPlan} {payment : Option Payment}
    (h : a.Prepared t plan payment) :
    plan.lines.map (·.source.variant.id) = plan.snapshot.checkout.lines.map (·.variantId) := by
  have hsame : List.Forall₂ Eq (plan.snapshot.checkout.lines.map (·.variantId))
      (plan.lines.map (·.source.variant.id)) := by
    rw [List.forall₂_map_left_iff, List.forall₂_map_right_iff]
    exact h.planned.imp fun line l hl => hl.1.rows.2.2.1.symm
  rw [List.forall₂_eq_eq_eq] at hsame
  exact hsame.symm

/-- The lines of the plan have the ids of the attempt, one after the other. -/
theorem Prepared.lineIds {plan : OrderPlan} {payment : Option Payment}
    (h : a.Prepared t plan payment) :
    plan.lines.map (·.line.id) =
      (List.range plan.snapshot.checkout.lines.length).map a.ids.line := by
  obtain ⟨_, _, -, -, -, hplan⟩ := h.priced
  rw [(Snapshot.orderLines_map (Snapshot.plan_ok hplan).2.2.2).2, List.range_eq_range',
    (snapshot_lines h.snapshot).length_eq]

end Attempt

/-! ## What the lines get -/

/-- What the rows that an order adds give to an order line with a demand: all of it from stock
where that is tracked, all of it as one preorder where the variant is sold ahead. -/
structure Demand.Met (d : Demand) (line : OrderLineId) (now : Moment)
    (allocations : List Allocation) (preorders : List PreorderAllocation) : Prop where
  stocked : d.isStocked now = true → Allocation.ofLine allocations line = d.quantity
  unstocked : d.isStocked now = false → ∀ x ∈ allocations, x.orderLineId ≠ line
  preordered : d.variant.isPreorderActive now = true →
    preorders.filter (·.orderLineId = line) = [⟨line, d.listing.id, d.quantity⟩]
  unpreordered : d.variant.isPreorderActive now = false → ∀ x ∈ preorders, x.orderLineId ≠ line

/-- The preorders of an order line are those for its demands. -/
theorem Demand.filter_preorders (demands : List Demand) (line : OrderLineId) :
    (preorders demands).filter (·.orderLineId = line) =
      preorders (demands.filter (·.orderLineId = some line)) := by
  induction demands with
  | nil => rfl
  | cons d rest ih =>
    rw [preorders, preorders] at ih ⊢
    cases hd : d.orderLineId with
    | none => simp [hd, ih]
    | some own => by_cases hline : own = line <;> simp [hd, hline, ih]

namespace PlannedLine

variable {lines : List PlannedLine} {l : PlannedLine}

/-- Each line has a demand of its own. -/
theorem filter_demand (hids : (lines.map (·.line.id)).Nodup) (hl : l ∈ lines) (p : Demand → Bool) :
    ((lines.map (·.demand)).filter p).filter (·.orderLineId = some l.line.id) =
      if p l.demand then [l.demand] else [] := by
  have hown : lines.filter (fun l' => l'.demand.orderLineId = some l.line.id) = [l] := by
    simpa [demand] using filter_key_of_mem (k := (·.line.id)) hids hl
  rw [List.filter_comm, List.filter_map, Function.comp_def, hown]
  cases hp : p l.demand <;> simp [hp]

/-- A demand that has the order line of a line is the demand of that line. -/
theorem demand_of_orderLineId (hids : (lines.map (·.line.id)).Nodup) (hl : l ∈ lines) {d : Demand}
    (hd : d ∈ lines.map (·.demand)) (hline : d.orderLineId = some l.line.id) : d = l.demand := by
  obtain ⟨l', hl', rfl⟩ := List.mem_map.1 hd
  rw [List.inj_on_of_nodup_map hids hl' hl (Option.some.inj hline)]

end PlannedLine

namespace Attempt.Creates

variable {a : Attempt} {plan : OrderPlan} {settled : Option SettledPayment} {t : Tables}
  {c : Creation}

theorem mem_demands_isSome : ∀ d ∈ plan.lines.map (·.demand), d.orderLineId.isSome :=
  List.forall_mem_map.2 fun _ _ => rfl

/-- Serving the lines of an order misses nothing. -/
theorem lines_served (h : a.Creates plan settled t c) :
    Shelf.Served t.stocks ((plan.lines.map (·.demand)).filter (·.isStocked a.request.now))
      c.serving := by
  have hserved := h.served
  rw [h.serving] at hserved ⊢
  exact Tables.serve_served (fun d hd => mem_demands_isSome d (List.mem_of_mem_filter hd)) hserved

/-- An allocation is made for a line of the order, from a stock of the variant of the line. -/
theorem allocated (h : a.Creates plan settled t c) {x : Allocation}
    (hx : x ∈ c.serving.allocations) :
    ∃ l ∈ plan.lines, x.orderLineId = l.line.id ∧
      ∃ r ∈ t.stocks, r.id = x.stockId ∧ r.variantId = l.source.variant.id := by
  obtain ⟨d, hd, hline, hstock⟩ := h.lines_served.source x hx
  obtain ⟨l, hl, rfl⟩ := List.mem_map.1 (List.mem_of_mem_filter hd)
  exact ⟨l, hl, (Option.some.inj hline).symm, hstock⟩

/-- A preorder is made for a line of the order. -/
theorem preordered (h : a.Creates plan settled t c) {x : PreorderAllocation}
    (hx : x ∈ c.preorders) : ∃ l ∈ plan.lines, x.orderLineId = l.line.id := by
  rw [h.preorders, Demand.preorders] at hx
  obtain ⟨d, hd, hline⟩ := List.mem_filterMap.1 hx
  obtain ⟨l, hl, rfl⟩ := List.mem_map.1 (List.mem_of_mem_filter hd)
  cases hline
  exact ⟨l, hl, rfl⟩

/-- **Every line gets what it asks for**, and nothing else is handed out for it. -/
theorem met (h : a.Creates plan settled t c) (hids : (plan.lines.map (·.line.id)).Nodup)
    {l : PlannedLine} (hl : l ∈ plan.lines) :
    l.demand.Met l.line.id a.request.now c.serving.allocations c.preorders where
  stocked hstocked := by
    rw [h.lines_served.ofLine, Demand.ofLine, PlannedLine.filter_demand hids hl, if_pos hstocked]
    exact Nat.add_zero _
  unstocked hstocked x hx hline := by
    obtain ⟨d, hd, hd_line, -⟩ := h.lines_served.source x hx
    obtain ⟨hd, hd_stocked⟩ := List.mem_filter.1 hd
    rw [PlannedLine.demand_of_orderLineId hids hl hd (hline ▸ hd_line), hstocked] at hd_stocked
    cases hd_stocked
  preordered hpreorder := by
    rw [h.preorders, Demand.filter_preorders, PlannedLine.filter_demand hids hl,
      if_pos hpreorder]
    rfl
  unpreordered hpreorder x hx hline := by
    rw [h.preorders, Demand.preorders] at hx
    obtain ⟨d, hd, hrow⟩ := List.mem_filterMap.1 hx
    obtain ⟨hd, hd_preorder⟩ := List.mem_filter.1 hd
    obtain ⟨_, hd_line, rfl⟩ := Option.map_eq_some_iff.1 hrow
    obtain rfl := hline
    rw [PlannedLine.demand_of_orderLineId hids hl hd hd_line] at hd_preorder
    exact absurd (hpreorder.symm.trans hd_preorder) Bool.false_ne_true

end Attempt.Creates

end Storefront
