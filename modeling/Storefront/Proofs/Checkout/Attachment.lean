import Storefront.Proofs.Completion.Lines
import Storefront.Proofs.Sale.Best

/-!
# The lines of a checkout and its voucher

A cart is split into the lines that can be bought and the variants that cannot, each in the order of
the cart. A line-level voucher is then put on the lines that it works on: on all that it selects, or
on the first of the cheapest if it applies once per order. A voucher for selected products looks at
the lines that it selects, and any other that applies once per order looks at all lines.

* `CheckoutLine.cheapest?_ok`: the search for the cheapest line finds it.
* `CheckoutLine.attach_cases`: all that putting a voucher on lines can do.
* `CheckoutLine.Carry`: which lines have the voucher.
* `Tables.isForSale`: whether a line can be bought.
* `Tables.checkoutLines_classified`: **every line is read or reported, and the voucher is on the
  right ones**.
-/

namespace Storefront

open Money (IsLowest)

namespace CheckoutLine

variable {v : Voucher} {channel : ChannelId} {sales : List Sale} {l : CheckoutLine}
  {lines lines' : List CheckoutLine}

/-! ## The cheapest line -/

/-- The sale price of an eligible line. -/
def eligiblePrice? (v : Voucher) (channel : ChannelId) (sales : List Sale) (l : CheckoutLine) :
    Option Money :=
  if isEligible v l then (l.salePrice channel sales).toOption.map (·.2) else none

/-- What the search for the cheapest line has found among some lines. -/
def IsCheapest (v : Voucher) (channel : ChannelId) (sales : List Sale)
    (lines : List CheckoutLine) : Option (Nat × Money) → Prop
  | none => ∀ l ∈ lines, isEligible v l = false
  | some (i, price) => IsLowest (eligiblePrice? v channel sales) lines i price

theorem eligiblePrice?_of_eligible {id : Option SaleId} {price : Money}
    (h : isEligible v l = true) (hsale : l.salePrice channel sales = .ok (id, price)) :
    eligiblePrice? v channel sales l = some price := by
  rw [eligiblePrice?, if_pos h, hsale]
  rfl

theorem eligiblePrice?_of_not_eligible (h : isEligible v l = false) :
    eligiblePrice? v channel sales l = none :=
  if_neg (ne_true_of_eq_false h)

theorem isEligible_of_eligiblePrice? {price : Money}
    (h : eligiblePrice? v channel sales l = some price) : isEligible v l = true := by
  by_contra hnot
  rw [eligiblePrice?_of_not_eligible (Bool.not_eq_true _ ▸ hnot)] at h
  cases h

/-- A line that is not eligible is passed over. -/
theorem IsCheapest.skip {best : Option (Nat × Money)}
    (h : IsCheapest v channel sales lines best) (hl : isEligible v l = false) :
    IsCheapest v channel sales (lines ++ [l]) best := by
  cases best with
  | none => exact List.forall_mem_append.2 ⟨h, List.forall_mem_singleton.2 hl⟩
  | some found => exact IsLowest.concat h (by simp [eligiblePrice?_of_not_eligible hl])

/-- An eligible line counts if it is cheaper. -/
theorem IsCheapest.look {best : Option (Nat × Money)} {price : Money}
    (h : IsCheapest v channel sales lines best)
    (hl : eligiblePrice? v channel sales l = some price) :
    IsCheapest v channel sales (lines ++ [l]) (cheaper best lines.length price) := by
  cases best with
  | none =>
    refine IsLowest.last hl fun other hother _ hprice => ?_
    cases (h other hother).symm.trans (isEligible_of_eligiblePrice? hprice)
  | some found =>
    obtain ⟨i, lowest⟩ := found
    rw [cheaper]
    split
    · exact IsLowest.concat_lt h hl ‹_›
    · refine IsLowest.concat h ?_
      rw [hl]
      rintro _ ⟨⟩
      exact Int.not_lt.1 ‹_›

/-- **The search finds the cheapest line** among those it has seen and those to come. -/
theorem cheapestFrom_ok {seen : List CheckoutLine} {best found : Option (Nat × Money)}
    (hbest : IsCheapest v channel sales seen best)
    (h : cheapestFrom v channel sales seen.length best lines = .ok found) :
    IsCheapest v channel sales (seen ++ lines) found := by
  induction lines generalizing seen best with
  | nil =>
    cases h
    rwa [List.append_nil]
  | cons l rest ih =>
    rw [← List.singleton_append, ← List.append_assoc]
    have hlength : seen.length + 1 = (seen ++ [l]).length := by simp
    rw [cheapestFrom, hlength] at h
    split at h
    · obtain ⟨⟨id, price⟩, hprice, h⟩ := bind_ok h
      exact ih (hbest.look (eligiblePrice?_of_eligible ‹_› hprice)) h
    · exact ih (hbest.skip (eq_false_of_ne_true ‹_›)) h

theorem cheapest?_ok {found : Option Nat} (h : cheapest? v channel sales lines = .ok found) :
    ∃ best, found = best.map (·.1) ∧ IsCheapest v channel sales lines best := by
  obtain ⟨best, hbest, rfl⟩ := map_ok h
  have hnone : IsCheapest v channel sales [] none := List.forall_mem_nil _
  have hfound := cheapestFrom_ok hnone hbest
  rw [List.nil_append] at hfound
  exact ⟨best, rfl, hfound⟩

/-- The search comes to an end exactly if each eligible line has a sale price. -/
theorem cheapestFrom_run_iff {i : Nat} {best : Option (Nat × Money)} :
    (∃ found, cheapestFrom v channel sales i best lines = .ok found) ↔
      ∀ l ∈ lines, isEligible v l = true → ∃ sale, l.salePrice channel sales = .ok sale := by
  induction lines generalizing i best with
  | nil => exact iff_of_true ⟨best, rfl⟩ (List.forall_mem_nil _)
  | cons l rest ih =>
    rw [cheapestFrom, List.forall_mem_cons]
    cases heligible : isEligible v l with
    | false =>
      rw [if_neg Bool.false_ne_true, ih]
      simp
    | true =>
      rw [if_pos rfl]
      cases hsale : l.salePrice channel sales with
      | error e =>
        refine iff_of_false ?_ fun h => ?_
        · rintro ⟨found, hfound⟩
          cases hfound
        · obtain ⟨sale, hok⟩ := h.1 rfl
          cases hok
      | ok sale =>
        rw [ok_bind, ih]
        simp

/-! ## The voucher on the lines -/

/-- The line with a voucher on it. -/
def carrying (v : Voucher) (l : CheckoutLine) : CheckoutLine := { l with voucher := some v }

/-- All that putting a voucher on lines can do. -/
inductive Attaches (v : Voucher) (channel : ChannelId) (sales : List Sale)
    (lines : List CheckoutLine) : List CheckoutLine → Prop
  | other (hlevel : v.isLineLevel = false) : Attaches v channel sales lines lines
  | selected (htype : v.type = .specificProduct) (honce : v.applyOncePerOrder = false) :
    Attaches v channel sales lines
      (lines.map fun l => if l.isSelectedBy v then l.carrying v else l)
  | noneEligible (honce : v.applyOncePerOrder = true)
    (hnone : ∀ l ∈ lines, isEligible v l = false) : Attaches v channel sales lines lines
  | cheapest {i : Nat} {price : Money} (honce : v.applyOncePerOrder = true)
    (h : IsLowest (eligiblePrice? v channel sales) lines i price) :
    Attaches v channel sales lines (lines.modify i (carrying v))

theorem isEligible_of_specificProduct (h : v.type = .specificProduct) :
    isEligible v l = l.isSelectedBy v := by
  rw [isEligible, decide_eq_false (not_not.2 h), Bool.false_or]

/-- A voucher that does not apply once per order is put on the lines that it selects. -/
theorem attach_selected (hlevel : v.isLineLevel = true) (honce : v.applyOncePerOrder = false) :
    v.type = .specificProduct ∧ attach v channel sales lines =
      .ok (lines.map fun l => if l.isSelectedBy v then l.carrying v else l) := by
  have htype : v.type = .specificProduct := by
    simpa [Voucher.isLineLevel, honce] using hlevel
  refine ⟨htype, ?_⟩
  rw [attach, hlevel, honce]
  simp only [isEligible_of_specificProduct htype]
  rfl

theorem attach_cases (h : attach v channel sales lines = .ok lines') :
    Attaches v channel sales lines lines' := by
  cases hlevel : v.isLineLevel with
  | false =>
    rw [attach, hlevel] at h
    cases h
    exact .other hlevel
  | true =>
    cases honce : v.applyOncePerOrder with
    | false =>
      obtain ⟨htype, hattach⟩ := attach_selected hlevel honce
      cases hattach.symm.trans h
      exact .selected htype honce
    | true =>
      rw [attach, hlevel, honce] at h
      obtain ⟨found, hfound, h⟩ := bind_ok h
      obtain ⟨best, rfl, hbest⟩ := cheapest?_ok hfound
      cases best with
      | none =>
        cases h
        exact .noneEligible honce hbest
      | some best =>
        cases h
        exact .cheapest honce hbest

/-- A voucher can be put on lines, unless it applies once per order and an eligible line has no sale
price. -/
theorem attach_run_iff :
    (∃ lines', attach v channel sales lines = .ok lines') ↔
      (v.applyOncePerOrder = true → ∀ l ∈ lines, isEligible v l = true →
        ∃ sale, l.salePrice channel sales = .ok sale) := by
  cases honce : v.applyOncePerOrder with
  | false =>
    refine iff_of_true ?_ fun htrue => by cases htrue
    cases hlevel : v.isLineLevel with
    | false => exact ⟨lines, by rw [attach, hlevel]; rfl⟩
    | true => exact ⟨_, (attach_selected hlevel honce).2⟩
  | true =>
    have hlevel : v.isLineLevel = true := by rw [Voucher.isLineLevel, honce, Bool.or_true]
    have hrun : (∃ lines', attach v channel sales lines = .ok lines') ↔
        ∃ found, cheapestFrom v channel sales 0 none lines = .ok found := by
      rw [attach, hlevel, honce, cheapest?]
      cases cheapestFrom v channel sales 0 none lines with
      | error e => constructor <;> (rintro ⟨_, h⟩; cases h)
      | ok found => cases found <;> exact iff_of_true ⟨_, rfl⟩ ⟨_, rfl⟩
    rw [hrun, cheapestFrom_run_iff]
    simp

/-- `Carry v channel sales lines`: the lines that `v` works on have it, and no others. What these
are depends on the flags of the voucher, and on whether any line is eligible. -/
inductive Carry (v : Voucher) (channel : ChannelId) (sales : List Sale)
    (lines : List CheckoutLine) : Prop
  | other (hlevel : v.isLineLevel = false) (h : ∀ l ∈ lines, l.voucher = none)
  | selected (hlevel : v.isLineLevel = true) (honce : v.applyOncePerOrder = false)
    (h : ∀ l ∈ lines, l.voucher = if isEligible v l then some v else none)
  | noneEligible (honce : v.applyOncePerOrder = true) (hnone : ∀ l ∈ lines, isEligible v l = false)
    (h : ∀ l ∈ lines, l.voucher = none)
  | cheapest {i : Nat} {price : Money} (honce : v.applyOncePerOrder = true)
    (hlowest : IsLowest (eligiblePrice? v channel sales) lines i price)
    (h : ∀ j l, lines[j]? = some l → l.voucher = if j = i then some v else none)

/-- The eligible lines and their prices do not depend on vouchers. -/
theorem isLowest_of_bare {i : Nat} {price : Money} (hbare : lines'.map bare = lines.map bare)
    (h : IsLowest (eligiblePrice? v channel sales) lines i price) :
    IsLowest (eligiblePrice? v channel sales) lines' i price := by
  have hoffer (l : CheckoutLine) :
      eligiblePrice? v channel sales l.bare = eligiblePrice? v channel sales l := rfl
  rw [← IsLowest.map_iff hoffer, hbare, IsLowest.map_iff hoffer]
  exact h

/-- **A voucher is put on the right lines.** -/
theorem attach_carry (h : attach v channel sales lines = .ok lines')
    (hbare : ∀ l ∈ lines, l.voucher = none) : Carry v channel sales lines' := by
  have hsame := attach_ok h
  cases attach_cases h with
  | other hlevel => exact .other hlevel hbare
  | selected htype honce =>
    have hlevel : v.isLineLevel = true := by simp [Voucher.isLineLevel, htype]
    refine .selected hlevel honce (List.forall_mem_map.2 fun l hl => ?_)
    rw [isEligible_of_specificProduct htype]
    cases hselected : l.isSelectedBy v with
    | false =>
      rw [if_neg Bool.false_ne_true, hselected]
      exact hbare l hl
    | true =>
      have hselected : (l.carrying v).isSelectedBy v = true := hselected
      rw [if_pos rfl, hselected]
      rfl
  | noneEligible honce hnone => exact .noneEligible honce hnone hbare
  | @cheapest i _ honce hlowest =>
    refine .cheapest honce (isLowest_of_bare hsame hlowest) fun j l hj => ?_
    rw [List.getElem?_modify] at hj
    obtain ⟨l₀, hl₀, rfl⟩ := Option.map_eq_some_iff.1 hj
    by_cases hij : i = j
    · rw [if_pos hij, if_pos hij.symm]
      rfl
    · rw [if_neg hij, if_neg (Ne.symm hij)]
      exact hbare l₀ (List.mem_of_getElem? hl₀)

/-- A line has a sale price if the sales are in the currency of its price and no number is too
large. -/
theorem salePrice_run
    (hcurrency : ∀ s ∈ sales, ∀ x ∈ s.listing? channel, x.currency = l.price.currency)
    (hfits : ∀ s ∈ sales, ∀ d ∈ (s.discountOn l.product l.product.collectionIds channel
      (some l.variant.id)).toOption, d.FitsIn l.price) :
    ∃ sale, l.salePrice channel sales = .ok sale := by
  refine Sale.best_run_iff.2 fun s hs happlies => ?_
  rw [Sale.left?_isSome_iff happlies (hfits s hs)]
  rintro ⟨-, x, hx, hforeign⟩
  exact hforeign (hcurrency s hs x hx)

end CheckoutLine

/-! ## The lines of a cart -/

namespace Tables

variable {t : Tables} {checkout : Checkout} {channel : ChannelId} {sales : List Sale}
  {now : Moment}

/-- Whether a line of a cart can be bought: its variant exists, the first listing of that in the
channel has a price, and its product exists and is available there. -/
def isForSale (t : Tables) (channel : ChannelId) (now : Moment) (line : CartLine) : Bool :=
  (t.variant? line.variantId).any fun variant =>
    ((t.listingsOf variant.id).find? (·.channelId = channel)).any (·.price.isSome) &&
      (t.product? variant.productId).any fun product =>
        (t.productListing? product.id channel).any (·.isAvailable now)

theorem isSome_checkoutLine? (line : CartLine) :
    (t.checkoutLine? channel now line).isSome = t.isForSale channel now line := by
  unfold checkoutLine? isForSale
  cases t.variant? line.variantId with
  | none => rfl
  | some variant =>
    rw [Option.any_some, Option.bind_eq_bind, Option.bind_some]
    cases (t.listingsOf variant.id).find? (·.channelId = channel) with
    | none => rfl
    | some listing =>
      rw [Option.any_some, Option.bind_eq_bind, Option.bind_some]
      cases listing.price with
      | none => rfl
      | some price =>
        rw [Option.isSome_some, Bool.true_and, Option.bind_eq_bind, Option.bind_some]
        cases t.product? variant.productId with
        | none => rfl
        | some product =>
          rw [Option.any_some, Option.bind_eq_bind, Option.bind_some]
          split
          · rename_i havailable
            exact havailable.symm
          · rename_i hgone
            exact (eq_false_of_ne_true hgone).symm

theorem filterMap_checkoutLine? (cart : List CartLine) :
    cart.filterMap (t.checkoutLine? channel now) =
      (cart.filter (t.isForSale channel now)).filterMap (t.checkoutLine? channel now) := by
  rw [List.filterMap_filter]
  refine List.filterMap_congr fun line _ => ?_
  cases hline : t.isForSale channel now line with
  | false =>
    rw [← isSome_checkoutLine?] at hline
    rw [if_neg Bool.false_ne_true]
    exact Option.not_isSome_iff_eq_none.1 (ne_true_of_eq_false hline)
  | true => rfl

/-- **The lines that can be bought are read**, each with its rows, and in their order. -/
theorem checkoutLines_fetches {lines : List CheckoutLine} {unavailable : List VariantId}
    (h : t.checkoutLines checkout channel sales now = .ok (lines, unavailable)) :
    List.Forall₂ (t.Fetches channel now) (checkout.lines.filter (t.isForSale channel now))
      lines := by
  refine fetches_of_bare (fun line hline => ?_) ?_
  · rw [isSome_checkoutLine?]
    exact (List.mem_filter.1 hline).2
  · rw [checkoutLines_bare h, ← filterMap_checkoutLine?]

theorem map_cart {cart : List CartLine} {lines : List CheckoutLine}
    (h : List.Forall₂ (t.Fetches channel now) cart lines) : cart = lines.map (·.cart) := by
  rw [← List.forall₂_eq_eq_eq, List.forall₂_map_right_iff]
  exact h.imp fun _ _ hl => hl.rows.1.symm

/-- The lines can be read, unless the voucher applies once per order and an eligible line has no
sale price. -/
theorem checkoutLines_run_iff :
    (∃ result, t.checkoutLines checkout channel sales now = .ok result) ↔
      ∀ v, t.voucherFor? checkout now = some v → v.applyOncePerOrder = true →
        ∀ line ∈ checkout.lines, ∀ l, t.checkoutLine? channel now line = some l →
          CheckoutLine.isEligible v l = true → ∃ sale, l.salePrice channel sales = .ok sale := by
  rw [checkoutLines]
  cases t.voucherFor? checkout now with
  | none =>
    refine iff_of_true ⟨_, rfl⟩ fun v hv => ?_
    cases hv
  | some v =>
    have hrun : (∃ lines, CheckoutLine.attach v channel sales
        (checkout.lines.filterMap (t.checkoutLine? channel now)) = .ok lines) ↔ _ :=
      CheckoutLine.attach_run_iff
    have hlines : (∀ l ∈ checkout.lines.filterMap (t.checkoutLine? channel now),
        CheckoutLine.isEligible v l = true → ∃ sale, l.salePrice channel sales = .ok sale) ↔
        ∀ line ∈ checkout.lines, ∀ l, t.checkoutLine? channel now line = some l →
          CheckoutLine.isEligible v l = true → ∃ sale, l.salePrice channel sales = .ok sale := by
      simp only [List.mem_filterMap]
      exact ⟨fun h line hline l hl => h l ⟨line, hline, hl⟩,
        fun h l ⟨line, hline, hl⟩ => h line hline l hl⟩
    rw [hlines] at hrun
    simp only [Option.some.injEq, forall_eq']
    rw [← hrun]
    cases CheckoutLine.attach v channel sales
      (checkout.lines.filterMap (t.checkoutLine? channel now)) with
    | error e => constructor <;> (rintro ⟨_, h⟩; cases h)
    | ok lines => exact iff_of_true ⟨_, rfl⟩ ⟨_, rfl⟩

/-- The voucher of the checkout is on the right lines. -/
theorem checkoutLines_carry {lines : List CheckoutLine} {unavailable : List VariantId}
    (h : t.checkoutLines checkout channel sales now = .ok (lines, unavailable)) :
    match t.voucherFor? checkout now with
    | some v => CheckoutLine.Carry v channel sales lines
    | none => ∀ l ∈ lines, l.voucher = none := by
  have hbare : ∀ l ∈ checkout.lines.filterMap (t.checkoutLine? channel now),
      l.voucher = none := by
    intro l hl
    obtain ⟨line, -, hline⟩ := List.mem_filterMap.1 hl
    rw [← bare_of_checkoutLine? hline]
    rfl
  rcases (checkoutLines_attached h).2 with ⟨hnone, rfl⟩ | ⟨v, hv, hattach⟩
  · rw [hnone]
    exact hbare
  · rw [hv]
    exact CheckoutLine.attach_carry hattach hbare

/-- **Every line of a cart is read or reported, and the voucher is on the right lines.** The lines
that can be bought are read with their rows, and the variants of the others are reported, both in
the order of the cart. Reading fails only if the voucher of the checkout applies once per order and
an eligible line has no sale price, which each has where sales and prices are in one currency and no
number is too large. -/
theorem checkoutLines_classified (t : Tables) (checkout : Checkout) (channel : ChannelId)
    (sales : List Sale) (now : Moment) :
    ((∃ e, t.checkoutLines checkout channel sales now = .error e) ↔
      ∃ v, t.voucherFor? checkout now = some v ∧ v.applyOncePerOrder = true ∧
        ∃ line ∈ checkout.lines, ∃ l, t.checkoutLine? channel now line = some l ∧
          CheckoutLine.isEligible v l = true ∧ ∃ e, l.salePrice channel sales = .error e) ∧
    ((∀ line ∈ checkout.lines, ∀ l, t.checkoutLine? channel now line = some l →
        l.price.currency = checkout.currency ∧
        ∀ s ∈ sales, ∀ d ∈ (s.discountOn l.product l.product.collectionIds channel
          (some l.variant.id)).toOption, d.FitsIn l.price) →
      (∀ s ∈ sales, ∀ x ∈ s.listing? channel, x.currency = checkout.currency) →
      ∃ lines unavailable, t.checkoutLines checkout channel sales now =
        .ok (lines, unavailable)) ∧
    ∀ lines unavailable, t.checkoutLines checkout channel sales now = .ok (lines, unavailable) →
      List.Forall₂ (t.Fetches channel now) (checkout.lines.filter (t.isForSale channel now))
        lines ∧
      lines.map (·.cart) = checkout.lines.filter (t.isForSale channel now) ∧
      unavailable = (checkout.lines.filter fun line => !t.isForSale channel now line).map
        (·.variantId) ∧
      match t.voucherFor? checkout now with
      | some v => CheckoutLine.Carry v channel sales lines
      | none => ∀ l ∈ lines, l.voucher = none := by
  have herror {α : Type} (x : Except Error α) : (∃ e, x = .error e) ↔ ¬ ∃ a, x = .ok a := by
    cases x <;> simp
  refine ⟨?_, fun hprices hsales => ?_, fun lines unavailable h => ?_⟩
  · rw [herror, checkoutLines_run_iff]
    simp only [herror, not_forall, exists_prop]
  · obtain ⟨result, hresult⟩ := checkoutLines_run_iff.2 fun v _ _ line hline l hl _ => by
      obtain ⟨hcurrency, hfits⟩ := hprices line hline l hl
      exact CheckoutLine.salePrice_run (fun s hs x hx => (hsales s hs x hx).trans hcurrency.symm)
        hfits
    exact ⟨result.1, result.2, hresult⟩
  · have hfetches := checkoutLines_fetches h
    refine ⟨hfetches, (map_cart hfetches).symm, ?_, checkoutLines_carry h⟩
    simpa only [← Option.not_isSome, isSome_checkoutLine?] using (checkoutLines_attached h).1

end Tables

/-! ## A novel and an atlas -/

namespace Bookshop

/-- Takes five dollars off one item of the whole order, though it names the novel. -/
def choosy : Voucher :=
  { saleVoucher with
    applyOncePerOrder := true, productIds := [novel.id]
    channelListings := [⟨channel.id, cents 500, .usd, none⟩] }

/-- A novel for ten dollars and an atlas for eight. In the cart are both, and a book that is not
there any more. -/
def shelf (v : Voucher) : Tables :=
  { saleTables with
    products := [novel, { novel with id := ⟨⟨20⟩⟩, name := "Atlas" }]
    productListings := [⟨novel.id, channel.id, true, true, some ⟨0⟩⟩,
      ⟨⟨⟨20⟩⟩, channel.id, true, true, some ⟨0⟩⟩]
    variants := [⟨⟨⟨3⟩⟩, novel.id, none, "Paperback", true, false, false, false, none, none⟩,
      ⟨⟨⟨30⟩⟩, ⟨⟨20⟩⟩, none, "Hardback", true, false, false, false, none, none⟩]
    variantListings := [⟨⟨⟨4⟩⟩, ⟨⟨3⟩⟩, channel.id, some ⟨cents 1000, .usd⟩, none, none⟩,
      ⟨⟨⟨40⟩⟩, ⟨⟨30⟩⟩, channel.id, some ⟨cents 800, .usd⟩, none, none⟩]
    sales := []
    vouchers := [v]
    checkouts := saleTables.checkouts.map fun c => { c with
      voucherCode := some v.code, lines := [⟨⟨⟨3⟩⟩, 2⟩, ⟨⟨⟨31⟩⟩, 1⟩, ⟨⟨⟨30⟩⟩, 3⟩] } }

end Bookshop

namespace Tables

/-- The two books are read, the third is reported, and one line has the voucher. -/
theorem checkoutLines_classified_bookshop :
    ∃ checkout ∈ (Bookshop.shelf Bookshop.choosy).checkouts, ∃ lines unavailable,
      (Bookshop.shelf Bookshop.choosy).checkoutLines checkout Bookshop.channel.id [] ⟨0⟩ =
        .ok (lines, unavailable) ∧
      lines.map (·.cart) = [⟨⟨⟨3⟩⟩, 2⟩, ⟨⟨⟨30⟩⟩, 3⟩] ∧ unavailable = [⟨⟨31⟩⟩] ∧
      CheckoutLine.Carry Bookshop.choosy Bookshop.channel.id [] lines := by
  have heval : ∃ checkout ∈ (Bookshop.shelf Bookshop.choosy).checkouts,
      (Bookshop.shelf Bookshop.choosy).voucherFor? checkout ⟨0⟩ = some Bookshop.choosy ∧
      (∀ line ∈ checkout.lines, ∀ l, (Bookshop.shelf Bookshop.choosy).checkoutLine?
        Bookshop.channel.id ⟨0⟩ line = some l → l.price.currency = checkout.currency) ∧
      checkout.lines.filter ((Bookshop.shelf Bookshop.choosy).isForSale Bookshop.channel.id ⟨0⟩) =
        [⟨⟨⟨3⟩⟩, 2⟩, ⟨⟨⟨30⟩⟩, 3⟩] ∧
      (checkout.lines.filter fun line =>
        !(Bookshop.shelf Bookshop.choosy).isForSale Bookshop.channel.id ⟨0⟩ line).map
          (·.variantId) = [⟨⟨31⟩⟩] := by
    decide +kernel
  obtain ⟨checkout, hcheckout, hvoucher, hcurrency, hread, hgone⟩ := heval
  obtain ⟨-, hrun, hlines⟩ := checkoutLines_classified (Bookshop.shelf Bookshop.choosy) checkout
    Bookshop.channel.id [] ⟨0⟩
  obtain ⟨lines, unavailable, h⟩ := hrun
    (fun line hline l hl => ⟨hcurrency line hline l hl, List.forall_mem_nil _⟩)
    (List.forall_mem_nil _)
  obtain ⟨-, hcart, hunavailable, hcarry⟩ := hlines lines unavailable h
  rw [hvoucher] at hcarry
  exact ⟨checkout, hcheckout, lines, unavailable, h, hcart.trans hread, hunavailable.trans hgone,
    hcarry⟩

/-- **The cheapest line need not be selected.** A voucher for the whole order that applies once per
order names the novel, and it is put on the atlas. -/
theorem cheapest_unselected_bookshop :
    ∃ checkout ∈ (Bookshop.shelf Bookshop.choosy).checkouts, ∃ lines unavailable,
      (Bookshop.shelf Bookshop.choosy).voucherFor? checkout ⟨0⟩ = some Bookshop.choosy ∧
      Bookshop.choosy.isLineLevel = true ∧ Bookshop.choosy.applyOncePerOrder = true ∧
      (Bookshop.shelf Bookshop.choosy).checkoutLines checkout Bookshop.channel.id [] ⟨0⟩ =
        .ok (lines, unavailable) ∧
      (∃ l ∈ lines, l.isSelectedBy Bookshop.choosy = true ∧ l.voucher = none) ∧
      ∀ l ∈ lines, l.voucher = some Bookshop.choosy → l.isSelectedBy Bookshop.choosy = false := by
  have heval : ∃ checkout ∈ (Bookshop.shelf Bookshop.choosy).checkouts,
      (Bookshop.shelf Bookshop.choosy).voucherFor? checkout ⟨0⟩ = some Bookshop.choosy ∧
      ((Bookshop.shelf Bookshop.choosy).checkoutLines checkout Bookshop.channel.id []
        ⟨0⟩).toOption.any (fun read =>
          (∃ l ∈ read.1, l.isSelectedBy Bookshop.choosy = true ∧ l.voucher = none) ∧
          ∀ l ∈ read.1, l.voucher = some Bookshop.choosy →
            l.isSelectedBy Bookshop.choosy = false) = true := by
    decide +kernel
  obtain ⟨checkout, hcheckout, hvoucher, hread⟩ := heval
  obtain ⟨⟨lines, unavailable⟩, hread, hlines⟩ := ok_of_any hread
  obtain ⟨hunselected, hcarrying⟩ := of_decide_eq_true hlines
  exact ⟨checkout, hcheckout, lines, unavailable, hvoucher, rfl, rfl, hread, hunselected,
    hcarrying⟩

end Tables

end Storefront
