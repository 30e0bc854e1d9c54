import Storefront.Proofs.Completion.Lines

/-!
# What a snapshot was read from

A snapshot is read when a checkout is priced and when it is completed. Both read the same rows, so
that two snapshots of one cart agree as far as the tables do.

* `Tables.Reads`: what is in a snapshot that was read.
* `Tables.snapshotOf_reads`, `Attempt.snapshot_reads`: the two ways to read one.
* `Tables.SamePriceList`: the tables that prices are read from are the same.
* `Tables.Reads.lines_eq`: apart from vouchers the lines of one cart are the same.
-/

namespace Storefront

namespace Tables

/-- `t.Reads external now s`: the snapshot was read for its checkout. The lines are those of the
cart that can be bought, and a voucher is put on them. -/
structure Reads (t : Tables) (external : Checkout → List ShippingOffer) (now : Moment)
    (s : Snapshot) : Prop where
  channel : t.channel s.checkout.channelId = .ok s.channel
  voucher : s.voucher = t.voucherFor? s.checkout now
  lines : ∃ unavailable, t.checkoutLines s.checkout s.channel.id s.sales now =
    .ok (s.lines, unavailable)
  sales : s.sales = Sale.activeAt t.sales now
  shippingMethods : s.shippingMethods = t.shippingMethodsOf s.channel.id
  externalOffers : s.externalOffers = external s.checkout

variable {t t' : Tables} {external external' : Checkout → List ShippingOffer} {now : Moment}
  {checkout : Checkout} {s s' : Snapshot}

theorem snapshotOf_reads {unavailable : List VariantId}
    (h : t.snapshotOf checkout external now = .ok (s, unavailable)) :
    s.checkout = checkout ∧ t.Reads external now s := by
  obtain ⟨channel, hchannel, h⟩ := bind_ok h
  obtain ⟨⟨lines, _⟩, hlines, h⟩ := bind_ok h
  obtain ⟨read, hread, h⟩ := bind_ok h
  obtain ⟨_base, -, hread⟩ := bind_ok hread
  cases hread
  cases h
  exact ⟨rfl, {
    channel := hchannel
    voucher := rfl
    lines := ⟨_, hlines⟩
    sales := rfl
    shippingMethods := rfl
    externalOffers := rfl }⟩

namespace Reads

theorem channelId (h : t.Reads external now s) : s.channel.id = s.checkout.channelId :=
  id_of_channel h.channel

/-- Apart from the voucher the lines are what was read for the cart. -/
theorem bare_lines (h : t.Reads external now s) :
    s.lines.map CheckoutLine.bare =
      s.checkout.lines.filterMap (t.checkoutLine? s.checkout.channelId now) := by
  obtain ⟨_, hlines⟩ := h.lines
  rw [checkoutLines_bare hlines, h.channelId]
  refine (List.map_congr_left fun l hl => ?_).trans (List.map_id _)
  obtain ⟨_, -, hread⟩ := List.mem_filterMap.1 hl
  exact bare_of_checkoutLine? hread

/-- A voucher that does not work on lines is not put on any. -/
theorem bare_of_not_lineLevel (h : t.Reads external now s)
    (hlevel : ∀ v, s.voucher = some v → v.isLineLevel = false) :
    s.lines.map CheckoutLine.bare = s.lines := by
  obtain ⟨_, hlines⟩ := h.lines
  rw [h.bare_lines, ← h.channelId]
  rcases (checkoutLines_attached hlines).2 with ⟨-, hread⟩ | ⟨v, hv, hattach⟩
  · exact hread.symm
  · rw [CheckoutLine.attach, hlevel v (h.voucher.trans hv)] at hattach
    exact Except.ok.inj hattach

end Reads

/-! ## Two snapshots -/

/-- The tables that prices are read from are the same. Stock, vouchers, gift cards, checkouts,
payments and orders may differ. -/
structure SamePriceList (t t' : Tables) : Prop where
  channels : t'.channels = t.channels
  products : t'.products = t.products
  productListings : t'.productListings = t.productListings
  variants : t'.variants = t.variants
  variantListings : t'.variantListings = t.variantListings
  sales : t'.sales = t.sales
  shippingMethods : t'.shippingMethods = t.shippingMethods
  shippingListings : t'.shippingListings = t.shippingListings

namespace SamePriceList

theorem checkoutLine? (h : t.SamePriceList t') (channel : ChannelId) (now : Moment) :
    t'.checkoutLine? channel now = t.checkoutLine? channel now := by
  funext line
  unfold Tables.checkoutLine? variant? listingsOf product? productListing?
  rw [h.variants, h.variantListings, h.products, h.productListings]

theorem shippingMethodsOf (h : t.SamePriceList t') (channel : ChannelId) :
    t'.shippingMethodsOf channel = t.shippingMethodsOf channel := by
  simp only [Tables.shippingMethodsOf, h.shippingMethods, h.shippingListings]

end SamePriceList

/-- **The lines of one cart are the same** in two snapshots, apart from what vouchers are put on
them. -/
theorem Reads.lines_eq (h : t.Reads external now s) (h' : t'.Reads external' now s')
    (hcatalog : t.SamePriceList t') (hchannel : s'.checkout.channelId = s.checkout.channelId)
    (hcart : s'.checkout.lines = s.checkout.lines) :
    s'.lines.map CheckoutLine.bare = s.lines.map CheckoutLine.bare := by
  rw [h'.bare_lines, h.bare_lines, hchannel, hcart, hcatalog.checkoutLine?]

end Tables

theorem Attempt.snapshot_reads {a : Attempt} {t : Tables} {checkout : Checkout} {x : Snapshot}
    (h : a.snapshot t checkout = .ok x) : t.Reads a.externalOffers a.request.now x := by
  obtain ⟨channel, hchannel, h⟩ := bind_ok h
  obtain ⟨⟨lines, _⟩, hlines, h⟩ := bind_ok h
  obtain ⟨-, h⟩ := unless_ok h
  obtain ⟨-, h⟩ := guard_ok h
  obtain ⟨_base, -, h⟩ := bind_ok h
  cases h
  exact {
    channel := hchannel
    voucher := rfl
    lines := ⟨_, hlines⟩
    sales := rfl
    shippingMethods := rfl
    externalOffers := rfl }

end Storefront
