import Storefront.Proofs.Checkout.OrderDiscount

/-!
# Prices are not negative

Sales, vouchers and discounts never leave less than nothing, and rounding keeps the sign. So a
checkout whose variants and whose delivery have no negative prices has no negative price anywhere.

* `Sale.best_nonneg`, `CheckoutLine.totalPrice_nonneg`: the price of a variant and of a line.
* `Snapshot.PricesNonneg`: the prices that a snapshot starts from.
* `Snapshot.PricesNonneg.subtotal`, `Snapshot.PricesNonneg.deliveryPrice`: the parts of its total.
-/

namespace Storefront

/-! ## Lines -/

namespace Sale

variable {product : Product} {price : Money} {collections : List CollectionId}
  {channel : ChannelId} {variant : Option VariantId}

/-- A sale that is looked at is passed over, or leaves the price of its discount. -/
theorem consider_ok {best best' : Option (SaleId × Money)} {s : Sale}
    (h : consider product price collections channel variant best s = .ok best') :
    best' = best ∨ ∃ d left, s.discountOn product collections channel variant = .ok d ∧
      d.apply price = .ok left ∧ best' = some (s.id, left) := by
  unfold consider at h
  split at h
  · rename_i d hd
    cases hleft : d.apply price with
    | error e =>
      rw [hleft] at h
      cases h
    | ok left =>
      rw [hleft] at h
      cases h
      cases best with
      | none => exact .inr ⟨d, left, hd, hleft, rfl⟩
      | some lowest =>
        by_cases hlower : left.amount < lowest.2.amount
        · exact .inr ⟨d, left, hd, hleft, if_pos hlower⟩
        · exact .inl (if_neg hlower)
  · cases h
    exact .inl rfl
  · cases h

theorem foldlM_consider_ok {sales : List Sale} {found found' : Option (SaleId × Money)}
    (h : sales.foldlM (consider product price collections channel variant) found = .ok found') :
    ∀ x ∈ found', x ∈ found ∨ ∃ s ∈ sales, ∃ d,
      s.discountOn product collections channel variant = .ok d ∧ d.apply price = .ok x.2 := by
  induction sales generalizing found with
  | nil =>
    cases h
    exact fun x hx => .inl hx
  | cons s rest ih =>
    rw [List.foldlM_cons] at h
    obtain ⟨next, hnext, h⟩ := bind_ok h
    intro x hx
    rcases ih h x hx with hold | ⟨s', hs', hrest⟩
    · rcases consider_ok hnext with rfl | ⟨d, left, hd, hleft, rfl⟩
      · exact .inl hold
      · cases hold
        exact .inr ⟨s, List.mem_cons_self, d, hd, hleft⟩
    · exact .inr ⟨s', List.mem_cons_of_mem _ hs', hrest⟩

/-- The lowest price is the price without a sale, or what one of the sales leaves of it. -/
theorem best_ok {sales : List Sale} {lowest : Money} {id : Option SaleId}
    (h : best sales product price collections channel variant = .ok (id, lowest)) :
    lowest = price ∨ ∃ s ∈ sales, ∃ d,
      s.discountOn product collections channel variant = .ok d ∧ d.apply price = .ok lowest := by
  obtain ⟨found, hfound, h⟩ := bind_ok h
  have hall := foldlM_consider_ok hfound
  cases found with
  | none =>
    cases h
    exact .inl rfl
  | some x =>
    cases h
    exact .inr ((hall _ rfl).resolve_left nofun)

/-- **A sale leaves no negative price.** -/
theorem best_nonneg {sales : List Sale} {lowest : Money} {id : Option SaleId}
    (hprice : 0 ≤ price.amount)
    (h : best sales product price collections channel variant = .ok (id, lowest)) :
    0 ≤ lowest.amount := by
  rcases best_ok h with rfl | ⟨_, _, d, -, hleft⟩
  · exact hprice
  · exact Discount.apply_nonneg hleft

end Sale

namespace CheckoutLine

variable {l : CheckoutLine} {channel : ChannelId} {sales : List Sale} {p : LinePrice}

theorem afterVoucher_nonneg {v : Voucher} {price left : Money}
    (h : afterVoucher v price channel = .ok left) : 0 ≤ left.amount := by
  have hlast : ∀ off, (price.sub off >>= fun left => .ok left.floorAtZero) =
      Except.ok (ε := Error) left → 0 ≤ left.amount := by
    intro off h
    obtain ⟨rest, -, h⟩ := bind_ok h
    cases h
    exact rest.floorAtZero_nonneg
  unfold afterVoucher at h
  split at h
  · exact hlast _ h
  · obtain ⟨off, -, h⟩ := bind_ok h
    exact hlast off h

theorem exactUnitPrice_nonneg (hprice : 0 ≤ l.price.amount)
    (h : l.exactUnitPrice channel sales = .ok p) :
    0 ≤ p.withSale.amount ∧ 0 ≤ p.withDiscounts.amount := by
  obtain ⟨⟨_, withSale⟩, hsale, h⟩ := bind_ok h
  have hwithSale := Sale.best_nonneg hprice hsale
  dsimp only at h
  split at h
  · split at h
    · cases h
      exact ⟨hwithSale, hwithSale⟩
    · obtain ⟨withDiscounts, hafter, h⟩ := bind_ok h
      cases h
      exact ⟨hwithSale, afterVoucher_nonneg hafter⟩
  · cases h
    exact ⟨hwithSale, hwithSale⟩

/-- **No line has a negative price.** -/
theorem totalPrice_nonneg (hprice : 0 ≤ l.price.amount)
    (h : l.totalPrice channel sales = .ok p) :
    0 ≤ p.withSale.amount ∧ 0 ≤ p.withDiscounts.amount := by
  obtain ⟨unit, _, withSale, withDiscounts, hunit, -, hsale, rfl, hdiscounts⟩ := totalPrice_ok h
  obtain ⟨hwithSale, hwithDiscounts⟩ := exactUnitPrice_nonneg hprice hunit
  refine ⟨Money.quantize_nonneg (Money.times_nonneg hwithSale hsale), Money.quantize_nonneg ?_⟩
  rcases hdiscounts with hall | ⟨_, once, others, -, -, honce, hothers, hadd⟩
  · exact Money.times_nonneg hwithDiscounts hall
  · exact Money.add_nonneg (Money.times_nonneg hwithSale hothers) (afterVoucher_nonneg honce) hadd

end CheckoutLine

/-! ## Computations for each item -/

/-- The results of a `mapM` are those of the items of the list, in their order. -/
theorem forall₂_of_mapM {α β : Type} {f : α → Except Error β} {items : List α} {results : List β}
    (h : items.mapM f = .ok results) : List.Forall₂ (fun x y => f x = .ok y) items results := by
  induction items generalizing results with
  | nil =>
    cases h
    exact .nil
  | cons x rest ih =>
    rw [List.mapM_cons] at h
    obtain ⟨y, hy, h⟩ := bind_ok h
    obtain ⟨ys, hys, h⟩ := bind_ok h
    cases h
    exact .cons hy (ih hys)

/-- The results of a `mapM` have what each of them has. -/
theorem forall_mapM_ok {α β : Type} {f : α → Except Error β} {P : β → Prop} {items : List α}
    {results : List β} (hall : ∀ x ∈ items, ∀ y, f x = .ok y → P y)
    (h : items.mapM f = .ok results) : ∀ y ∈ results, P y := by
  intro y hy
  obtain ⟨x, hx, hxy⟩ := forall₂_exists_left (forall₂_of_mapM h) hy
  exact hall x hx y hxy

/-- The results of a `mapM` are those of a function. -/
theorem exists_eq_map_of_mapM {α β : Type} [Inhabited β] {f : α → Except Error β} {items : List α}
    {results : List β} (h : items.mapM f = .ok results) :
    ∃ g : α → β, results = items.map g ∧ ∀ x ∈ items, f x = .ok (g x) := by
  refine ⟨fun x => (f x).toOption.getD default, ?_⟩
  have hall := forall₂_of_mapM h
  clear h
  induction hall with
  | nil => exact ⟨rfl, by simp⟩
  | cons hfirst _ ih =>
    obtain ⟨hrest, hresults⟩ := ih
    refine ⟨?_, List.forall_mem_cons.2 ⟨?_, hresults⟩⟩
    · rw [List.map_cons, ← hrest, hfirst]
      rfl
    · dsimp only
      rw [hfirst]
      rfl

/-- A result is that of the item in its place. -/
theorem getElem?_of_mapM {α β : Type} {f : α → Except Error β} {items : List α} {results : List β}
    (h : items.mapM f = .ok results) {j : Nat} {b : β} (hb : results[j]? = some b) :
    ∃ a, items[j]? = some a ∧ f a = .ok b := by
  have hall := forall₂_of_mapM h
  clear h
  induction hall generalizing j with
  | nil => cases hb
  | cons hfirst _ ih =>
    cases j with
    | zero =>
      obtain rfl := Option.some.inj hb
      exact ⟨_, rfl, hfirst⟩
    | succ j => exact ih hb

/-- The same item has the same result each time. -/
theorem mapM_replicate_ok {α β : Type} {f : α → Except Error β} {a : α} {n : Nat} {results : List β}
    (hpos : 0 < n) (h : (List.replicate n a).mapM f = .ok results) :
    ∃ b, f a = .ok b ∧ results = List.replicate n b := by
  have hall := forall₂_of_mapM h
  have hsame {b : β} (hb : b ∈ results) : f a = .ok b := by
    obtain ⟨x, hx, hb⟩ := forall₂_exists_left hall hb
    rwa [List.eq_of_mem_replicate hx] at hb
  have hlength : results.length = n := by rw [← hall.length_eq, List.length_replicate]
  obtain ⟨b, hb⟩ := List.exists_mem_of_length_pos (hlength ▸ hpos)
  refine ⟨b, hsame hb, List.eq_replicate_iff.2 ⟨hlength, fun b' hb' => ?_⟩⟩
  exact Except.ok.inj ((hsame hb').symm.trans (hsame hb))

/-- A computation that succeeds for each item, with results that are related to other items. -/
theorem mapM_of_forall₂ {α β γ : Type} {f : α → Except Error β} {R : β → γ → Prop}
    {items : List α} {others : List γ}
    (h : List.Forall₂ (fun x c => ∃ b, f x = .ok b ∧ R b c) items others) :
    ∃ results, items.mapM f = .ok results ∧ List.Forall₂ R results others := by
  induction h with
  | nil => exact ⟨[], rfl, .nil⟩
  | cons hx _ ih =>
    obtain ⟨b, hb, hrelated⟩ := hx
    obtain ⟨results, hresults, hall⟩ := ih
    refine ⟨b :: results, ?_, .cons hrelated hall⟩
    rw [List.mapM_cons, hb, ok_bind, hresults]
    rfl

/-! ## Snapshots -/

/-- The prices that a snapshot starts from are not negative. -/
structure Snapshot.PricesNonneg (s : Snapshot) : Prop where
  lines : ∀ l ∈ s.lines, 0 ≤ l.price.amount
  delivery : ∀ price ∈ s.delivery.price?, 0 ≤ price.amount

namespace Snapshot.PricesNonneg

variable {s : Snapshot} {amount : Money}

theorem subtotal (h : s.PricesNonneg) (hsubtotal : s.subtotal = .ok amount) :
    0 ≤ amount.amount := by
  obtain ⟨totals, htotals, hsum⟩ := bind_ok hsubtotal
  refine Money.sum_nonneg (forall_mapM_ok (fun l hl total htotal => ?_) htotals) hsum
  obtain ⟨p, hp, htotal⟩ := bind_ok htotal
  cases htotal
  exact (CheckoutLine.totalPrice_nonneg (h.lines l hl) hp).2

/-- The price of the lines with sales is a sum of prices that are not negative. -/
theorem totals (h : s.PricesNonneg) {totals : List Money}
    (htotals : s.lines.mapM (fun l => do
      return (← l.totalPrice s.channel.id s.sales).withSale) = .ok totals) :
    ∀ m ∈ totals, 0 ≤ m.amount := by
  refine forall_mapM_ok (fun l hl total htotal => ?_) htotals
  obtain ⟨p, hp, htotal⟩ := bind_ok htotal
  cases htotal
  exact (CheckoutLine.totalPrice_nonneg (h.lines l hl) hp).1

theorem subtotalWithSales (h : s.PricesNonneg) (hsubtotal : s.subtotalWithSales = .ok amount) :
    0 ≤ amount.amount := by
  obtain ⟨totals, htotals, hsum⟩ := bind_ok hsubtotal
  exact Money.sum_nonneg (h.totals htotals) hsum

theorem deliveryPrice (h : s.PricesNonneg) : 0 ≤ s.deliveryPrice.amount := by
  have hdelivery := h.delivery
  unfold Snapshot.deliveryPrice
  split
  · rename_i price hprice
    split
    · exact Money.quantize_nonneg (hdelivery price hprice)
    · exact Int.le_refl 0
  · exact Int.le_refl 0

end Snapshot.PricesNonneg

end Storefront
