import Storefront.Checkout.Validation
import Storefront.Proofs.Checkout.OrderDiscount
import Storefront.Proofs.Checkout.PickUp
import Storefront.Proofs.Tax.Chain

/-!
# Which choices of delivery can serve a checkout

What a customer has chosen is looked up in one way, and whether the choice is still there is decided
in another: a method of the shop is the first one listed with its id, and has to be among the
methods that fit the order; an external one is looked for among those methods and must be active; a
pick-up point is a warehouse of the channel, and has to be among those whose stock covers the cart.
Where nothing is listed twice both ways lead to the same row.

* `Snapshot.Serves`: the choices that can serve a checkout at an address, with their price.
* `Snapshot.mem_activeOffers`, `Tables.mem_collectionPoints_iff`: what can be selected.
* `Snapshot.validateDelivery_iff`: **the delivery is valid exactly if the choice can serve**.
-/

namespace Storefront

/-! ## Choices -/

/-- `s.Serves t address choice price`: a choice can serve a checkout that is shipped to an address,
or collected at it, and has a price if it is shipped. -/
inductive Snapshot.Serves (s : Snapshot) (t : Tables) (address : Address) :
    DeliveryChoice → Option Money → Prop
  | shipping {method : ShippingMethod} {listing : ShippingListing}
      (listed : (method, listing) ∈ s.shippingMethods) (active : method.active = true)
      (country : address.country ∈ method.countries)
      (minimum : ∀ least ∈ listing.minimumOrderPrice, least.amount ≤ s.baseSubtotal.amount)
      (maximum : ∀ most ∈ listing.maximumOrderPrice, s.baseSubtotal.amount ≤ most.amount) :
      s.Serves t address (.shipping method.id) (some listing.price)
  | external {offer : ShippingOffer} {id : String} (offered : offer ∈ s.externalOffers)
      (key : offer.key = .external id) (active : offer.active = true) :
      s.Serves t address (.external id) (some offer.price)
  | collectionPoint {w : Warehouse} (listed : w ∈ s.warehouses) (at_address : w.address = address)
      (enabled : w.clickAndCollect ≠ .disabled)
      (covered : ∀ l ∈ s.lines, l.quantity ≤ t.supply (w.pool s.warehouses) l.variant.id) :
      s.Serves t address (.collectionPoint w.id) none

/-- Nothing that can be chosen is listed twice, and the external provider offers methods of its own
only. -/
structure Snapshot.ChoicesUnique (s : Snapshot) : Prop where
  methods : (s.shippingMethods.map (·.1.id)).Nodup
  warehouses : (s.warehouses.map (·.id)).Nodup
  external : ∀ offer ∈ s.externalOffers, ∃ id, offer.key = .external id
  offers : (s.externalOffers.map (·.key)).Nodup

/-! ## What can be selected -/

theorem ShippingOffer.accepts_iff {o : ShippingOffer} {subtotal : Money} :
    o.accepts subtotal = true ↔
      (∀ least ∈ o.minimumOrderPrice, least.amount ≤ subtotal.amount) ∧
        ∀ most ∈ o.maximumOrderPrice, subtotal.amount ≤ most.amount := by
  simp [accepts, Option.all_eq_true]

namespace Tables

variable {t : Tables} {w : Warehouse} {warehouses : List Warehouse} {lines : List CheckoutLine}

/-- Whether stock covers a quantity that can be counted. -/
theorem le_available?_iff {variant : VariantId} {quantity : Nat}
    (hquantity : quantity ≤ Quantity.largest) :
    quantity ≤ (t.available? warehouses variant).getD 0 ↔
      quantity ≤ t.supply warehouses variant := by
  rcases t.available?_cases warehouses variant with ⟨hnone, hzero⟩ | hsome
  · rw [hnone, hzero, Option.getD_none]
  · rw [hsome, Option.getD_some]
    omega

/-- **The pick-up points that can be selected** are the warehouses whose pool covers each line. -/
theorem mem_collectionPoints_iff (hshipped : CheckoutLine.anyShipped lines = true)
    (hquantities : ∀ l ∈ lines, l.quantity ≤ Quantity.largest) :
    w ∈ t.collectionPoints warehouses lines ↔
      w ∈ warehouses ∧ w.clickAndCollect ≠ .disabled ∧
        ∀ l ∈ lines, l.quantity ≤ t.supply (w.pool warehouses) l.variant.id := by
  refine ⟨mem_collectionPoints, fun ⟨hmem, hkind, hcovers⟩ => ?_⟩
  unfold collectionPoints
  dsimp only
  rw [if_pos hshipped]
  refine List.mem_filter.2 ⟨hmem, ?_⟩
  unfold Warehouse.pool at hcovers
  cases hpoint : w.clickAndCollect with
  | disabled => exact absurd hpoint hkind
  | ownStock =>
    simp only [List.all_eq_true, decide_eq_true_eq]
    intro l hl
    refine (hcovers l hl).trans_eq ?_
    rw [if_pos hpoint, supply]
    simp [Bool.and_comm, eq_comm]
  | allWarehouses =>
    simp only [List.all_eq_true, decide_eq_true_eq]
    intro l hl
    have hline := hcovers l hl
    rw [if_neg (by rw [hpoint]; decide)] at hline
    exact (le_available?_iff (hquantities l hl)).2 hline

end Tables

namespace Snapshot

variable {s : Snapshot} {t : Tables} {address : Address}

/-- **The methods that can be selected** are those of the shop that fit the order, and those of the
external provider, as far as they are active. -/
theorem mem_activeOffers (hshipped : s.shippingRequired = true)
    (haddress : s.checkout.shippingAddress = some address) {offer : ShippingOffer} :
    offer ∈ s.activeOffers ↔ offer.active = true ∧
      ((∃ m ∈ s.shippingMethods, address.country ∈ m.1.countries ∧
        (ShippingOffer.ofListing m.1 m.2).accepts s.baseSubtotal = true ∧
          ShippingOffer.ofListing m.1 m.2 = offer) ∨ offer ∈ s.externalOffers) := by
  rw [activeOffers, offers, haddress]
  dsimp only
  rw [if_pos hshipped, List.mem_filter, List.mem_append, and_comm]
  refine and_congr_right fun _ => or_congr_left ?_
  rw [ShippingOffer.builtIn, List.mem_filter, List.mem_map]
  constructor
  · rintro ⟨⟨m, hm, rfl⟩, haccepts⟩
    obtain ⟨hm, hcountry⟩ := List.mem_filter.1 hm
    exact ⟨m, hm, List.contains_iff_mem.1 hcountry, haccepts, rfl⟩
  · rintro ⟨m, hm, hcountry, haccepts, rfl⟩
    exact ⟨⟨m, List.mem_filter.2 ⟨hm, List.contains_iff_mem.2 hcountry⟩, rfl⟩, haccepts⟩

/-- The delivery of a checkout that needs shipping is settled if it fits the address and can be
selected. -/
theorem validateDelivery_eq_ok (hshipped : s.shippingRequired = true) :
    s.validateDelivery t = .ok () ↔
      s.delivery.isValid = true ∧ s.isDeliveryAvailable t = true := by
  have hselected : s.delivery.isValid = true → s.delivery.isSelected = true := by
    cases s.delivery <;> simp [Delivery.isValid, Delivery.isSelected]
  unfold validateDelivery
  rw [hshipped]
  cases hvalid : s.delivery.isValid with
  | false => cases s.delivery.isSelected <;> simp
  | true => cases s.isDeliveryAvailable t <;> simp [hselected hvalid]

variable {price : Option Money}

/-- **A choice that can serve** is looked up, and can be selected. -/
theorem Serves.delivery (h : s.Serves t address s.checkout.deliveryChoice price)
    (hshipped : s.shippingRequired = true) (hunique : s.ChoicesUnique)
    (hquantities : ∀ l ∈ s.lines, l.quantity ≤ Quantity.largest)
    (haddress : s.checkout.shippingAddress = some address) :
    s.delivery.price? = price ∧ s.delivery.isValid = true ∧ s.isDeliveryAvailable t = true := by
  generalize hchoice : s.checkout.deliveryChoice = choice at h
  cases h with
  | @shipping method listing listed active country minimum maximum =>
    have hfound := find?_key_of_mem (k := fun m => m.1.id) hunique.methods listed
    have hdelivery : s.delivery =
        .shipping (.ofListing method listing) s.checkout.shippingAddress := by
      rw [Snapshot.delivery, hchoice]
      dsimp only
      rw [hfound]
    have hoffer : ShippingOffer.ofListing method listing ∈ s.activeOffers :=
      (mem_activeOffers hshipped haddress).2 ⟨active, .inl ⟨_, listed, country,
        ShippingOffer.accepts_iff.2 ⟨minimum, maximum⟩, rfl⟩⟩
    rw [isDeliveryAvailable, hdelivery, haddress]
    exact ⟨rfl, rfl, List.any_eq_true.2 ⟨_, hoffer, decide_eq_true rfl⟩⟩
  | @external offer id offered key active =>
    have hoffers : s.offersShipping = true := by
      rw [offersShipping, hshipped, haddress]
      rfl
    have hfound := find?_key_of_mem hunique.offers offered
    rw [key] at hfound
    have hdelivery : s.delivery = .shipping offer s.checkout.shippingAddress := by
      rw [Snapshot.delivery, hchoice]
      dsimp only
      rw [find?_offers, if_pos hoffers, hfound]
    have hoffer : offer ∈ s.activeOffers :=
      (mem_activeOffers hshipped haddress).2 ⟨active, .inr offered⟩
    rw [isDeliveryAvailable, hdelivery, haddress]
    exact ⟨rfl, rfl, List.any_eq_true.2 ⟨offer, hoffer, decide_eq_true rfl⟩⟩
  | @collectionPoint w listed at_address enabled covered =>
    have hfound := find?_key_of_mem hunique.warehouses listed
    have hdelivery : s.delivery = .collectionPoint w s.checkout.shippingAddress := by
      rw [Snapshot.delivery, hchoice]
      dsimp only
      rw [hfound]
    have hpoint : w ∈ s.pickUpPoints t :=
      (Tables.mem_collectionPoints_iff hshipped hquantities).2 ⟨listed, enabled, covered⟩
    rw [isDeliveryAvailable, hdelivery, haddress]
    exact ⟨rfl, decide_eq_true (congrArg some at_address.symm),
      List.any_eq_true.2 ⟨w, hpoint, decide_eq_true rfl⟩⟩

/-- What a choice is looked up to: nothing, or a row that is there. -/
inductive LookedUp (s : Snapshot) : DeliveryChoice → Delivery → Prop
  | missing {choice : DeliveryChoice} : s.LookedUp choice .none
  | shipping {method : ShippingMethod} {listing : ShippingListing}
      (listed : (method, listing) ∈ s.shippingMethods) :
      s.LookedUp (.shipping method.id)
        (.shipping (.ofListing method listing) s.checkout.shippingAddress)
  | external {offer : ShippingOffer} {id : String} (offered : offer ∈ s.externalOffers)
      (key : offer.key = .external id) :
      s.LookedUp (.external id) (.shipping offer s.checkout.shippingAddress)
  | collectionPoint {w : Warehouse} (listed : w ∈ s.warehouses) :
      s.LookedUp (.collectionPoint w.id) (.collectionPoint w s.checkout.shippingAddress)

theorem lookedUp_delivery (s : Snapshot) : s.LookedUp s.checkout.deliveryChoice s.delivery := by
  unfold Snapshot.delivery
  cases s.checkout.deliveryChoice with
  | none => exact .missing
  | shipping id =>
    dsimp only
    split
    · rename_i method listing hfound
      obtain ⟨listed, rfl⟩ := find?_key (k := fun m : ShippingMethod × ShippingListing => m.1.id)
        hfound
      exact .shipping listed
    · exact .missing
  | external id =>
    dsimp only
    split
    · rename_i offer hfound
      obtain ⟨offered, key⟩ := find?_key (find?_offers_external hfound)
      exact .external offered key
    · exact .missing
  | collectionPoint id =>
    dsimp only
    split
    · rename_i w hfound
      obtain ⟨listed, rfl⟩ := find?_key hfound
      exact .collectionPoint listed
    · exact .missing

/-- **A choice that is looked up and can be selected can serve.** -/
theorem exists_serves (hshipped : s.shippingRequired = true) (hunique : s.ChoicesUnique)
    (hquantities : ∀ l ∈ s.lines, l.quantity ≤ Quantity.largest)
    (hvalid : s.delivery.isValid = true) (havailable : s.isDeliveryAvailable t = true) :
    ∃ address price, s.checkout.shippingAddress = some address ∧
      s.Serves t address s.checkout.deliveryChoice price := by
  have hlookup := s.lookedUp_delivery
  unfold isDeliveryAvailable at havailable
  generalize s.checkout.deliveryChoice = choice at hlookup ⊢
  generalize s.delivery = delivery at hlookup hvalid havailable
  cases hlookup with
  | missing => cases hvalid
  | @shipping method listing listed =>
    obtain ⟨address, haddress⟩ := Option.isSome_iff_exists.1 hvalid
    obtain ⟨offer, hoffer, hkey⟩ := List.any_eq_true.1 havailable
    have hkey : offer.key = .builtIn method.id := of_decide_eq_true hkey
    obtain ⟨active, ⟨m, listed', country, accepts, rfl⟩ | hexternal⟩ :=
      (mem_activeOffers hshipped haddress).1 hoffer
    · obtain rfl : m = (method, listing) :=
        List.inj_on_of_nodup_map hunique.methods listed' listed (MethodKey.builtIn.inj hkey)
      obtain ⟨minimum, maximum⟩ := ShippingOffer.accepts_iff.1 accepts
      exact ⟨address, _, haddress, .shipping listed active country minimum maximum⟩
    · obtain ⟨_, hother⟩ := hunique.external offer hexternal
      cases hother.symm.trans hkey
  | @external offer id offered key =>
    obtain ⟨address, haddress⟩ := Option.isSome_iff_exists.1 hvalid
    obtain ⟨offer', hoffer, hkey⟩ := List.any_eq_true.1 havailable
    have hkey : offer'.key = offer.key := of_decide_eq_true hkey
    obtain ⟨active, ⟨m, -, -, -, rfl⟩ | offered'⟩ :=
      (mem_activeOffers hshipped haddress).1 hoffer
    · cases hkey.trans key
    · obtain rfl := List.inj_on_of_nodup_map hunique.offers offered' offered hkey
      exact ⟨address, _, haddress, .external offered' key active⟩
  | @collectionPoint w listed =>
    have haddress : s.checkout.shippingAddress = some w.address := of_decide_eq_true hvalid
    obtain ⟨w', hpoint, hid⟩ := List.any_eq_true.1 havailable
    obtain ⟨listed', enabled, covered⟩ :=
      (Tables.mem_collectionPoints_iff hshipped hquantities).1 hpoint
    obtain rfl := List.inj_on_of_nodup_map hunique.warehouses listed' listed
      (of_decide_eq_true hid)
    exact ⟨_, _, haddress, .collectionPoint listed rfl enabled covered⟩

/-- **The delivery is valid exactly if the choice can serve** the checkout at its shipping address.
A choice that is shipped costs what the row says that it leads to, rounded. -/
theorem validateDelivery_iff (s : Snapshot) (t : Tables) (hshipped : s.shippingRequired = true)
    (hunique : s.ChoicesUnique) (hquantities : ∀ l ∈ s.lines, l.quantity ≤ Quantity.largest) :
    (s.validateDelivery t = .ok () ↔ ∃ address price,
      s.checkout.shippingAddress = some address ∧
        s.Serves t address s.checkout.deliveryChoice price) ∧
    ∀ address price, s.checkout.shippingAddress = some address →
      s.Serves t address s.checkout.deliveryChoice (some price) →
        s.deliveryPrice = price.quantize := by
  refine ⟨(validateDelivery_eq_ok hshipped).trans ⟨fun ⟨hvalid, havailable⟩ =>
    exists_serves hshipped hunique hquantities hvalid havailable, ?_⟩, ?_⟩
  · rintro ⟨address, price, haddress, hserves⟩
    exact (hserves.delivery hshipped hunique hquantities haddress).2
  · intro address price haddress hserves
    obtain ⟨hprice, -⟩ := hserves.delivery hshipped hunique hquantities haddress
    rw [deliveryPrice, hprice]
    exact if_pos hshipped

end Snapshot

/-! ## What is read -/

namespace Tables

variable {t : Tables}

/-- A method that has one listing in a channel is offered once there. -/
theorem nodup_shippingMethodsOf (channel : ChannelId)
    (h : (t.shippingListings.map fun l => (l.methodId, l.channelId)).Nodup) :
    ((t.shippingMethodsOf channel).map (·.1.id)).Nodup := by
  have hlisted : ((t.shippingListings.filter (·.channelId = channel)).map (·.methodId)).Nodup := by
    have hchannel : (t.shippingListings.filter (·.channelId = channel)).Sublist
        t.shippingListings := List.filter_sublist
    have hpairs := h.sublist (hchannel.map _)
    rw [List.map_congr_left (g := fun l => (l.methodId, channel)) fun l hl => by
      rw [of_decide_eq_true (List.mem_filter.1 hl).2]] at hpairs
    exact List.Nodup.of_map (·, channel) (by rwa [List.map_map])
  have hids : (t.shippingMethodsOf channel).map (·.1.id) =
      ((t.shippingListings.filter (·.channelId = channel)).map (·.methodId)).filterMap fun id =>
        (t.shippingMethods.find? (·.id = id)).map (·.id) := by
    rw [shippingMethodsOf, List.map_filterMap, List.filterMap_map]
    simp only [Option.map_map, Function.comp_def]
  rw [hids]
  refine hlisted.filterMap fun id id' found hfound hfound' => ?_
  obtain ⟨method, hmethod, rfl⟩ := Option.map_eq_some_iff.1 hfound
  obtain ⟨method', hmethod', hsame⟩ := Option.map_eq_some_iff.1 hfound'
  rw [← (find?_key hmethod).2, ← (find?_key hmethod').2, hsame]

/-- **Where rows have keys of their own, choices are unique.** -/
theorem snapshot_choicesUnique {checkout : Checkout} {channel : Channel}
    {lines : List CheckoutLine} {sales : List Sale} {external : Checkout → List ShippingOffer}
    {now : Moment} {s : Snapshot}
    (h : t.snapshot checkout channel lines sales external now = .ok s)
    (hlistings : (t.shippingListings.map fun l => (l.methodId, l.channelId)).Nodup)
    (hwarehouses : (t.warehouses.map (·.id)).Nodup)
    (hexternal : ∀ offer ∈ external checkout, ∃ id, offer.key = .external id)
    (hoffers : ((external checkout).map (·.key)).Nodup) : s.ChoicesUnique := by
  obtain ⟨_, -, h⟩ := bind_ok h
  cases h
  refine ⟨nodup_shippingMethodsOf channel.id hlistings, ?_, hexternal, hoffers⟩
  refine nodup_of_subperm (List.Perm.subperm_right (List.mergeSort_perm ..) |>.2 ?_) hwarehouses
  exact List.filter_sublist.subperm

end Tables

theorem Attempt.choicesUnique {a : Attempt} {t : Tables} {checkout : Checkout} {s : Snapshot}
    (h : a.snapshot t checkout = .ok s)
    (hlistings : (t.shippingListings.map fun l => (l.methodId, l.channelId)).Nodup)
    (hwarehouses : (t.warehouses.map (·.id)).Nodup)
    (hexternal : ∀ offer ∈ a.externalOffers checkout, ∃ id, offer.key = .external id)
    (hoffers : ((a.externalOffers checkout).map (·.key)).Nodup) : s.ChoicesUnique := by
  obtain ⟨_channel, -, h⟩ := bind_ok h
  obtain ⟨⟨_lines, _unavailable⟩, -, h⟩ := bind_ok h
  obtain ⟨-, h⟩ := unless_ok h
  obtain ⟨-, h⟩ := guard_ok h
  exact Tables.snapshot_choicesUnique h hlistings hwarehouses hexternal hoffers

/-- A copy that is shipped can be sent with the van, for the five dollars that this costs. -/
theorem Snapshot.validateDelivery_iff_bookshop :
    ∃ checkout ∈ Bookshop.shippedTables.checkouts, ∃ s,
      (Bookshop.attempt 1).snapshot Bookshop.shippedTables checkout = .ok s ∧
      s.shippingRequired = true ∧ s.ChoicesUnique ∧
      (∀ l ∈ s.lines, l.quantity ≤ Quantity.largest) ∧
      ∃ address price, s.checkout.shippingAddress = some address ∧
        s.Serves Bookshop.shippedTables address s.checkout.deliveryChoice (some price) ∧
        s.validateDelivery Bookshop.shippedTables = .ok () ∧
        s.deliveryPrice = ⟨.ofInt 5, .usd⟩ := by
  have heval : ∃ checkout ∈ Bookshop.shippedTables.checkouts,
      ((Bookshop.attempt 1).snapshot Bookshop.shippedTables checkout).toOption.any (fun s =>
        s.shippingRequired = true ∧ (∀ l ∈ s.lines, l.quantity ≤ Quantity.largest) ∧
        s.validateDelivery Bookshop.shippedTables = .ok () ∧
        s.checkout.deliveryChoice = .shipping ⟨⟨13⟩⟩ ∧
        s.deliveryPrice = ⟨.ofInt 5, .usd⟩) = true := by
    decide +kernel
  obtain ⟨checkout, hcheckout, hsnapshot⟩ := heval
  obtain ⟨s, hs, hsnapshot⟩ := ok_of_any hsnapshot
  obtain ⟨hshipped, hquantities, hvalid, hchoice, hprice⟩ := of_decide_eq_true hsnapshot
  have hlistings : (Bookshop.shippedTables.shippingListings.map fun l =>
      (l.methodId, l.channelId)).Nodup := by decide +kernel
  have hwarehouses : (Bookshop.shippedTables.warehouses.map (·.id)).Nodup := by decide +kernel
  have hexternal : ∀ offer ∈ (Bookshop.attempt 1).externalOffers checkout,
      ∃ id, offer.key = .external id := fun _ hoffer => absurd hoffer List.not_mem_nil
  have hunique := Attempt.choicesUnique hs hlistings hwarehouses hexternal List.nodup_nil
  obtain ⟨hiff, -⟩ := validateDelivery_iff s Bookshop.shippedTables hshipped hunique hquantities
  obtain ⟨address, price, haddress, hserves⟩ := hiff.1 hvalid
  -- the van is no pick-up point, so that it has a price
  obtain ⟨amount, rfl⟩ : ∃ amount, price = some amount := by
    generalize s.checkout.deliveryChoice = choice at hserves hchoice
    cases hserves with
    | shipping => exact ⟨_, rfl⟩
    | external => exact ⟨_, rfl⟩
    | collectionPoint => cases hchoice
  exact ⟨checkout, hcheckout, s, hs, hshipped, hunique, hquantities, address, amount, haddress,
    hserves, hvalid, hprice⟩

end Storefront
