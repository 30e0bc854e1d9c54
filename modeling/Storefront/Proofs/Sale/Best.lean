import Storefront.Proofs.Checkout.PriceOrder
import Storefront.Proofs.Money.Lowest

/-!
# The best sale

Of the sales that apply to a product the one counts that leaves the lowest price, and the first of
those that leave the same price. A sale applies if it covers the product and is listed in the
channel. The others are passed over, in whatever currency they are.

* `Sale.applies`, `Sale.left?`: whether a sale applies, and the price it leaves.
* `Sale.Found`: what a look at some sales has found, and `Sale.Found.next` for one more of them.
* `Sale.best_ok`, `Sale.best_run`: what the best sale is, and when there is one.
* `Sale.best_isLowest`: **the best sale is the first of the cheapest**, whatever the sales are.
-/

namespace Storefront

open Money (IsLowest)

/-! ## When a discount can be applied -/

namespace Discount

/-- No number is too large where the discount is taken off a price. -/
def FitsIn (price : Money) : Discount → Prop
  | fixed amount => amount.currency = price.currency → (price.amount.sub? amount.amount).isSome
  | percentage fraction => ((fraction.mul? price.amount).bind price.amount.sub?).isSome

instance (price : Money) : (d : Discount) → Decidable (d.FitsIn price)
  | fixed _ => inferInstanceAs (Decidable (_ → _))
  | percentage _ => inferInstanceAs (Decidable (_ = true))

/-- A discount leaves a price in the currency of the price. -/
theorem currency_apply {d : Discount} {price left : Money} (h : d.apply price = .ok left) :
    left.currency = price.currency := by
  cases d with
  | fixed amount =>
    obtain ⟨rest, hrest, h⟩ := bind_ok h
    cases h
    rw [Money.currency_floorAtZero, (Money.sub_ok hrest).2.1]
  | percentage fraction =>
    obtain ⟨part, -, h⟩ := bind_ok h
    obtain ⟨rest, -, h⟩ := bind_ok h
    cases h
    exact Money.currency_floorAtZero _

/-- **Only a fixed discount in another currency cannot be applied**, if no number is too large. -/
theorem apply_ok_iff {type : DiscountType} {value : Decimal} {currency : Currency} {price : Money}
    {d : Discount} (hd : ofValue type value currency = .ok d) (hfits : d.FitsIn price) :
    (∃ left, d.apply price = .ok left) ↔ (type = .fixed → currency = price.currency) := by
  cases type with
  | fixed =>
    cases hd
    constructor
    · rintro ⟨left, hleft⟩ -
      obtain ⟨rest, hrest, -⟩ := bind_ok hleft
      exact (Money.sub_ok hrest).1.symm
    · intro hsame
      obtain ⟨rest, hrest⟩ := Option.isSome_iff_exists.1 (hfits (hsame rfl))
      have hsub : price.sub ⟨value, currency⟩ = .ok ⟨rest, price.currency⟩ := by
        rw [Money.sub, Money.combine, if_pos (hsame rfl).symm, hrest]
        rfl
      exact ⟨_, by rw [apply, applyFixed, hsub]; rfl⟩
  | percentage =>
    obtain ⟨fraction, hfraction, -⟩ := value.div?_hundred
    rw [ofValue, hfraction] at hd
    cases hd
    obtain ⟨rest, hrest⟩ := Option.isSome_iff_exists.1 hfits
    obtain ⟨part, hpart, hrest⟩ := Option.bind_eq_some_iff.1 hrest
    refine iff_of_true ⟨Money.floorAtZero ⟨rest, price.currency⟩, ?_⟩ fun hfixed => by cases hfixed
    rw [apply, applyPercentage, hpart, orFail, ok_bind, hrest]
    rfl

end Discount

/-! ## One sale -/

namespace Sale

variable {product : Product} {price : Money} {collections : List CollectionId}
  {channel : ChannelId} {variant : Option VariantId} {s : Sale}

/-- Whether the sale covers the product and is listed in the channel. -/
def applies (s : Sale) (product : Product) (collections : List CollectionId)
    (channel : ChannelId) (variant : Option VariantId) : Bool :=
  s.covers product collections variant && (s.listing? channel).isSome

/-- A sale applies in four ways, and only where it is listed. -/
theorem applies_iff : s.applies product collections channel variant ↔
    (product.id ∈ s.productIds ∨ (∃ category ∈ product.categoryId, category ∈ s.categoryIds) ∨
      (∃ collection ∈ collections, collection ∈ s.collectionIds) ∨
      ∃ v ∈ variant, v ∈ s.variantIds) ∧
    ∃ x ∈ s.channelListings, x.channelId = channel := by
  rw [applies, Bool.and_eq_true, covers_iff, listing?_isSome_iff]

/-- Whether the sale takes off an amount of another currency in the channel. -/
def IsForeign (s : Sale) (channel : ChannelId) (price : Money) : Prop :=
  s.valueType = .fixed ∧ ∃ x ∈ s.listing? channel, x.currency ≠ price.currency

instance : Decidable (s.IsForeign channel price) := inferInstanceAs (Decidable (_ ∧ _))

/-- The price that the sale leaves, if it applies and its discount can be taken off. -/
def left? (product : Product) (price : Money) (collections : List CollectionId)
    (channel : ChannelId) (variant : Option VariantId) (s : Sale) : Option Money :=
  ((s.discountOn product collections channel variant).bind (·.apply price)).toOption

theorem discountOn_of_applies (h : s.applies product collections channel variant = true) :
    ∃ x d, s.listing? channel = some x ∧
      Discount.ofValue s.valueType x.discountValue x.currency = .ok d ∧
      s.discountOn product collections channel variant = .ok d := by
  obtain ⟨hcovers, hlisted⟩ := Bool.and_eq_true_iff.1 h
  obtain ⟨x, hx⟩ := Option.isSome_iff_exists.1 hlisted
  have hon : s.discountOn product collections channel variant =
      Discount.ofValue s.valueType x.discountValue x.currency := by
    rw [discountOn, if_pos hcovers, discountFor, hx]
  obtain ⟨d, hd⟩ : ∃ d, Discount.ofValue s.valueType x.discountValue x.currency = .ok d := by
    cases s.valueType with
    | fixed => exact ⟨_, rfl⟩
    | percentage =>
      obtain ⟨fraction, hfraction, -⟩ := x.discountValue.div?_hundred
      exact ⟨_, by rw [Discount.ofValue, hfraction]; rfl⟩
  exact ⟨x, d, hx, hd, hon.trans hd⟩

theorem discountOn_of_not_applies (h : s.applies product collections channel variant = false) :
    ∃ reason, s.discountOn product collections channel variant =
      .error (.notApplicable reason) := by
  unfold discountOn
  split
  · rename_i hcovers
    have hlisted : s.listing? channel = none := by
      simpa [applies, hcovers] using h
    exact ⟨_, by rw [discountFor, hlisted]⟩
  · exact ⟨_, rfl⟩

theorem applies_of_left? {left : Money}
    (h : left? product price collections channel variant s = some left) :
    s.applies product collections channel variant = true := by
  by_contra hnot
  obtain ⟨reason, hreason⟩ := discountOn_of_not_applies (Bool.not_eq_true _ ▸ hnot)
  rw [left?, hreason] at h
  cases h

/-- What an applicable sale leaves is in the currency of the price. -/
theorem currency_left? {left : Money}
    (h : left? product price collections channel variant s = some left) :
    left.currency = price.currency := by
  obtain ⟨x, d, -, -, hd⟩ := discountOn_of_applies (applies_of_left? h)
  rw [left?, hd] at h
  cases hleft : d.apply price with
  | error e =>
    rw [Except.bind, hleft] at h
    cases h
  | ok rest =>
    rw [Except.bind, hleft] at h
    cases h
    exact Discount.currency_apply hleft

/-- **An applicable sale leaves a price unless it is foreign**, if no number is too large. -/
theorem left?_isSome_iff (h : s.applies product collections channel variant = true)
    (hfits : ∀ d ∈ (s.discountOn product collections channel variant).toOption,
      d.FitsIn price) :
    (left? product price collections channel variant s).isSome ↔ ¬ s.IsForeign channel price := by
  obtain ⟨x, d, hx, hd, hon⟩ := discountOn_of_applies h
  have happly := Discount.apply_ok_iff hd (hfits d (by rw [hon]; rfl))
  have hsome : (left? product price collections channel variant s).isSome ↔
      ∃ left, d.apply price = .ok left := by
    rw [left?, hon, Except.bind]
    cases d.apply price <;> simp [Except.toOption]
  rw [hsome, happly, IsForeign, hx]
  simp

theorem consider_of_not_applies {found : Option (SaleId × Money)}
    (h : s.applies product collections channel variant = false) :
    consider product price collections channel variant found s = .ok found := by
  obtain ⟨reason, hreason⟩ := discountOn_of_not_applies h
  rw [consider, hreason]

/-- A look at an applicable sale needs the price that it leaves, which counts if it is lower. -/
theorem consider_of_left? {found : Option (SaleId × Money)} {left : Money}
    (h : left? product price collections channel variant s = some left) :
    consider product price collections channel variant found s =
      .ok (if found.all fun best => left.amount < best.2.amount then some (s.id, left)
        else found) := by
  obtain ⟨x, d, -, -, hd⟩ := discountOn_of_applies (applies_of_left? h)
  rw [left?, hd] at h
  cases hleft : d.apply price with
  | error e =>
    rw [Except.bind, hleft] at h
    cases h
  | ok rest =>
    rw [Except.bind, hleft] at h
    cases h
    rw [consider, hd]
    dsimp only
    rw [hleft]
    cases found with
    | none => rfl
    | some best =>
      rw [Option.all_some]
      by_cases hlower : left.amount < best.2.amount
      · rw [if_pos (decide_eq_true hlower)]
        exact congrArg Except.ok (if_pos hlower)
      · rw [if_neg (ne_true_of_eq_false (decide_eq_false hlower))]
        exact congrArg Except.ok (if_neg hlower)

/-- An applicable sale that is looked at leaves a price. -/
theorem exists_left? {found next : Option (SaleId × Money)}
    (h : s.applies product collections channel variant = true)
    (hnext : consider product price collections channel variant found s = .ok next) :
    ∃ left, left? product price collections channel variant s = some left := by
  obtain ⟨x, d, -, -, hd⟩ := discountOn_of_applies h
  rw [consider, hd] at hnext
  dsimp only at hnext
  cases hleft : d.apply price with
  | error e =>
    rw [hleft] at hnext
    cases hnext
  | ok left => exact ⟨left, by rw [left?, hd, Except.bind, hleft]; rfl⟩

/-! ## All sales -/

/-- What a look at some sales has found: the first of those that leave the lowest price, or nothing
where none applies. -/
inductive Found (product : Product) (price : Money) (collections : List CollectionId)
    (channel : ChannelId) (variant : Option VariantId) (sales : List Sale) :
    Option (SaleId × Money) → Prop
  | nothing (h : ∀ s ∈ sales, s.applies product collections channel variant = false) :
    Found product price collections channel variant sales none
  | lowest {i : Nat} {s : Sale} {left : Money} (hs : sales[i]? = some s)
    (h : IsLowest (left? product price collections channel variant) sales i left) :
    Found product price collections channel variant sales (some (s.id, left))

section

variable {sales : List Sale} {found found' : Option (SaleId × Money)}

/-- **A look at one more sale** finds the first of the cheapest among all of them. -/
theorem Found.next (h : Found product price collections channel variant sales found)
    (hnext : consider product price collections channel variant found s = .ok found') :
    Found product price collections channel variant (sales ++ [s]) found' := by
  cases happlies : s.applies product collections channel variant with
  | false =>
    rw [consider_of_not_applies happlies] at hnext
    cases hnext
    cases h with
    | nothing h => exact .nothing (List.forall_mem_append.2 ⟨h, List.forall_mem_singleton.2 happlies⟩)
    | lowest hs h =>
      have hskip : left? product price collections channel variant s = none := by
        by_contra hsome
        obtain ⟨left, hleft⟩ := Option.ne_none_iff_exists'.1 hsome
        exact Bool.false_ne_true (happlies.symm.trans (applies_of_left? hleft))
      exact .lowest (by rw [List.getElem?_append_left h.lt_length, hs])
        (h.concat (by simp [hskip]))
  | true =>
    obtain ⟨left, hleft⟩ := exists_left? happlies hnext
    rw [consider_of_left? hleft] at hnext
    cases hnext
    cases h with
    | nothing h =>
      refine .lowest List.getElem?_concat_length (.last hleft fun s hs other hother => ?_)
      exact absurd ((h s hs).symm.trans (applies_of_left? hother)) Bool.false_ne_true
    | @lowest _ _ lowest hs h =>
      rw [Option.all_some]
      by_cases hlower : left.amount < lowest.amount
      · rw [if_pos (decide_eq_true hlower)]
        exact .lowest List.getElem?_concat_length (h.concat_lt hleft hlower)
      · rw [if_neg (ne_true_of_eq_false (decide_eq_false hlower))]
        refine .lowest (by rw [List.getElem?_append_left h.lt_length, hs]) (h.concat ?_)
        rw [hleft]
        rintro _ ⟨⟩
        exact Int.not_lt.1 hlower

/-- Looking at sales in turn finds the first of the cheapest. -/
theorem Found.foldlM {seen : List Sale}
    (h : Found product price collections channel variant seen found)
    (hnext : sales.foldlM (consider product price collections channel variant) found = .ok found') :
    Found product price collections channel variant (seen ++ sales) found' ∧
      ∀ s ∈ sales, s.applies product collections channel variant = true →
        (left? product price collections channel variant s).isSome := by
  induction sales generalizing seen found with
  | nil =>
    cases hnext
    rw [List.append_nil]
    exact ⟨h, nofun⟩
  | cons s rest ih =>
    rw [List.foldlM_cons] at hnext
    obtain ⟨mid, hs, hnext⟩ := bind_ok hnext
    obtain ⟨hfound, hrest⟩ := ih (h.next hs) hnext
    rw [List.append_assoc, List.singleton_append] at hfound
    refine ⟨hfound, List.forall_mem_cons.2 ⟨fun happlies => ?_, hrest⟩⟩
    exact Option.isSome_iff_exists.2 (exists_left? happlies hs)

/-- Sales can be looked at in turn if each that applies leaves a price. -/
theorem foldlM_consider_run (found : Option (SaleId × Money))
    (h : ∀ s ∈ sales, s.applies product collections channel variant = true →
      (left? product price collections channel variant s).isSome) :
    ∃ next, sales.foldlM (consider product price collections channel variant) found =
      .ok next := by
  induction sales generalizing found with
  | nil => exact ⟨found, rfl⟩
  | cons s rest ih =>
    obtain ⟨hs, hrest⟩ := List.forall_mem_cons.1 h
    cases happlies : s.applies product collections channel variant with
    | false =>
      rw [List.foldlM_cons, consider_of_not_applies happlies]
      exact ih found hrest
    | true =>
      obtain ⟨left, hleft⟩ := Option.isSome_iff_exists.1 (hs happlies)
      rw [List.foldlM_cons, consider_of_left? hleft]
      exact ih _ hrest

/-- **There is a best sale** exactly if each sale that applies leaves a price. -/
theorem best_run_iff :
    (∃ result, best sales product price collections channel variant = .ok result) ↔
      ∀ s ∈ sales, s.applies product collections channel variant = true →
        (left? product price collections channel variant s).isSome := by
  have hnone : Found product price collections channel variant [] none := .nothing nofun
  constructor
  · rintro ⟨result, h⟩
    obtain ⟨found, hfound, -⟩ := bind_ok h
    exact (hnone.foldlM hfound).2
  · intro h
    obtain ⟨found, hfound⟩ := foldlM_consider_run none h
    rw [best, hfound]
    cases found with
    | none => exact ⟨_, rfl⟩
    | some x => exact ⟨_, rfl⟩

/-- The best sale is the first of the cheapest. Where none applies the price stays. -/
theorem best_found {id : Option SaleId} {lowest : Money}
    (h : best sales product price collections channel variant = .ok (id, lowest)) :
    (id = none ∧ lowest = price ∧
        ∀ s ∈ sales, s.applies product collections channel variant = false) ∨
      ∃ (i : Nat) (s : Sale), sales[i]? = some s ∧ id = some s.id ∧
        IsLowest (left? product price collections channel variant) sales i lowest := by
  have hnone : Found product price collections channel variant [] none := .nothing nofun
  obtain ⟨found, hfound, h⟩ := bind_ok h
  cases (hnone.foldlM hfound).1 with
  | nothing hall =>
    cases h
    exact .inl ⟨rfl, rfl, hall⟩
  | lowest hs hlowest =>
    cases h
    exact .inr ⟨_, _, hs, rfl, hlowest⟩

/-- **The order of the sales** does not matter for the price. -/
theorem best_perm {sales' : List Sale} (hperm : sales.Perm sales') :
    (best sales product price collections channel variant).toOption.map (·.2) =
      (best sales' product price collections channel variant).toOption.map (·.2) := by
  have hrun : (∃ result, best sales product price collections channel variant = .ok result) ↔
      ∃ result, best sales' product price collections channel variant = .ok result := by
    rw [best_run_iff, best_run_iff]
    simp only [hperm.mem_iff]
  cases hbest : best sales product price collections channel variant with
  | error e =>
    cases hbest' : best sales' product price collections channel variant with
    | error e' => rfl
    | ok result =>
      obtain ⟨_, hsome⟩ := hrun.2 ⟨result, hbest'⟩
      cases hbest.symm.trans hsome
  | ok result =>
    obtain ⟨result', hbest'⟩ := hrun.1 ⟨result, hbest⟩
    rw [hbest']
    refine congrArg some ?_
    rcases best_found hbest with ⟨-, hprice, hall⟩ | ⟨i, s, hs, -, h⟩
    · rcases best_found hbest' with ⟨-, hprice', -⟩ | ⟨i', s', hs', -, h'⟩
      · exact hprice.trans hprice'.symm
      · obtain ⟨x, hx, hleft⟩ := h'.exists_item
        have hmem := hperm.mem_iff.2 (List.mem_of_getElem? hx)
        cases (hall x hmem).symm.trans (applies_of_left? hleft)
    · obtain ⟨x, hx, hleft⟩ := h.exists_item
      rcases best_found hbest' with ⟨-, -, hall'⟩ | ⟨i', s', hs', -, h'⟩
      · have hmem := hperm.mem_iff.1 (List.mem_of_getElem? hx)
        cases (hall' x hmem).symm.trans (applies_of_left? hleft)
      · obtain ⟨x', -, hleft'⟩ := h'.exists_item
        refine Money.eq_of_units ?_ (Int.le_antisymm (h.mono h' hperm.symm.subset)
          (h'.mono h hperm.subset))
        rw [currency_left? hleft, currency_left? hleft']

/-- **More sales leave no higher price**, if one of them applies. -/
theorem best_mono {sales' : List Sale} {id id' : Option SaleId} {lowest lowest' : Money}
    (hsub : sales ⊆ sales') (happlies : ∃ s ∈ sales, s.applies product collections channel variant)
    (h : best sales product price collections channel variant = .ok (id, lowest))
    (h' : best sales' product price collections channel variant = .ok (id', lowest')) :
    lowest'.amount ≤ lowest.amount := by
  obtain ⟨s, hs, happlies⟩ := happlies
  rcases best_found h with ⟨-, -, hall⟩ | ⟨i, _, -, -, hlowest⟩
  · cases (hall s hs).symm.trans happlies
  · rcases best_found h' with ⟨-, -, hall'⟩ | ⟨i', _, -, -, hlowest'⟩
    · cases (hall' s (hsub hs)).symm.trans happlies
    · exact hlowest'.mono hlowest hsub

end

/-- **The best sale is the first of the cheapest**, among those that cover the product in one of
four ways and are listed in the channel. If no number is too large, there is none only if a sale
that applies takes off an amount of another currency. The price that it leaves does not depend on
the order of the sales, is not raised by one more sale where one applies already, and is between
zero and the price where nothing is negative. -/
theorem best_isLowest (sales : List Sale) (product : Product) (price : Money)
    (collections : List CollectionId) (channel : ChannelId) (variant : Option VariantId)
    (hfits : ∀ s ∈ sales, ∀ d ∈ (s.discountOn product collections channel variant).toOption,
      d.FitsIn price) :
    (∀ s ∈ sales, s.applies product collections channel variant ↔
      (product.id ∈ s.productIds ∨ (∃ category ∈ product.categoryId, category ∈ s.categoryIds) ∨
        (∃ collection ∈ collections, collection ∈ s.collectionIds) ∨
        ∃ v ∈ variant, v ∈ s.variantIds) ∧
      ∃ x ∈ s.channelListings, x.channelId = channel) ∧
    ((∃ e, best sales product price collections channel variant = .error e) ↔
      ∃ s ∈ sales, s.applies product collections channel variant ∧ s.IsForeign channel price) ∧
    ((∀ s ∈ sales, s.applies product collections channel variant = false) →
      best sales product price collections channel variant = .ok (none, price)) ∧
    ((∃ s ∈ sales, s.applies product collections channel variant) →
      (∀ s ∈ sales, s.applies product collections channel variant →
        ¬ s.IsForeign channel price) →
      (∀ s ∈ sales, s.applies product collections channel variant →
        (left? product price collections channel variant s).isSome) ∧
      ∃ (i : Nat) (s : Sale) (lowest : Money), sales[i]? = some s ∧
        IsLowest (left? product price collections channel variant) sales i lowest ∧
        best sales product price collections channel variant = .ok (some s.id, lowest)) ∧
    (∀ sales', sales.Perm sales' →
      (best sales product price collections channel variant).toOption.map (·.2) =
        (best sales' product price collections channel variant).toOption.map (·.2)) ∧
    (∀ front back more id id' lowest lowest', sales = front ++ back →
      (∃ s ∈ sales, s.applies product collections channel variant) →
      best sales product price collections channel variant = .ok (id, lowest) →
      best (front ++ more :: back) product price collections channel variant =
        .ok (id', lowest') → lowest'.amount ≤ lowest.amount) ∧
    (0 ≤ price.amount → (∀ s ∈ sales, ∀ x ∈ s.listing? channel, 0 ≤ x.discountValue) →
      ∀ id lowest, best sales product price collections channel variant = .ok (id, lowest) →
        lowest.IsPartOf price) := by
  have hrun : (∃ result, best sales product price collections channel variant = .ok result) ↔
      ∀ s ∈ sales, s.applies product collections channel variant = true →
        ¬ s.IsForeign channel price := by
    rw [best_run_iff]
    exact forall₃_congr fun s hs happlies => left?_isSome_iff happlies (hfits s hs)
  refine ⟨fun _ _ => applies_iff, ?_, ?_, ?_, fun _ => best_perm, ?_,
    fun hprice hvalues _ _ => best_part hprice hvalues⟩
  · cases hbest : best sales product price collections channel variant with
    | error e =>
      refine iff_of_true ⟨e, rfl⟩ ?_
      by_contra hforeign
      obtain ⟨result, hok⟩ := hrun.2 fun s hs happlies hs' => hforeign ⟨s, hs, happlies, hs'⟩
      cases hbest.symm.trans hok
    | ok result =>
      refine iff_of_false nofun ?_
      rintro ⟨s, hs, happlies, hforeign⟩
      exact hrun.1 ⟨result, hbest⟩ s hs happlies hforeign
  · intro hall
    obtain ⟨⟨id, lowest⟩, hbest⟩ := hrun.2 fun s hs happlies =>
      absurd ((hall s hs).symm.trans happlies) Bool.false_ne_true
    rcases best_found hbest with ⟨rfl, rfl, -⟩ | ⟨i, s, -, -, h⟩
    · exact hbest
    · obtain ⟨x, hx, hleft⟩ := h.exists_item
      cases (hall x (List.mem_of_getElem? hx)).symm.trans (applies_of_left? hleft)
  · rintro ⟨s, hs, happlies⟩ hforeign
    obtain ⟨⟨id, lowest⟩, hbest⟩ := hrun.2 hforeign
    refine ⟨best_run_iff.1 ⟨_, hbest⟩, ?_⟩
    rcases best_found hbest with ⟨-, -, hall⟩ | ⟨i, x, hx, rfl, h⟩
    · cases (hall s hs).symm.trans happlies
    · exact ⟨i, x, lowest, hx, h, hbest⟩
  · rintro front back more id id' lowest lowest' rfl happlies
    refine best_mono (fun s hs => ?_) happlies
    rw [List.mem_append] at hs ⊢
    exact hs.imp_right (List.mem_cons_of_mem _)

end Sale

/-! ## Sales of a novel -/

namespace Bookshop

/-- A sale of the novel. -/
def novelSale (id : Nat) (valueType : DiscountType) (listing : SaleListing) : Sale where
  id := ⟨⟨id⟩⟩
  name := "Summer"
  valueType
  startDate := ⟨1⟩
  endDate := none
  channelListings := [listing]
  productIds := [⟨⟨2⟩⟩]
  categoryIds := []
  collectionIds := []
  variantIds := []

/-- One percent, two dollars fifty and a quarter off, and ten euros off in another channel. -/
def novelSales : List Sale := [
  novelSale 20 .percentage ⟨channel.id, 1, .usd⟩,
  novelSale 21 .fixed ⟨channel.id, cents 250, .usd⟩,
  novelSale 22 .percentage ⟨channel.id, .ofInt 25, .usd⟩,
  novelSale 23 .fixed ⟨⟨⟨8⟩⟩, cents 1000, .eur⟩]

/-- A novel for ten dollars. -/
def novel : Product := { (default : Product) with id := ⟨⟨2⟩⟩ }

end Bookshop

/-- The sales of a novel for ten dollars. -/
theorem Sale.best_isLowest_bookshop :
    (∀ s ∈ Bookshop.novelSales,
      ∀ d ∈ (s.discountOn Bookshop.novel [] Bookshop.channel.id none).toOption,
        d.FitsIn ⟨.ofInt 10, .usd⟩) ∧
    (∃ s ∈ Bookshop.novelSales, s.applies Bookshop.novel [] Bookshop.channel.id none) ∧
    (∀ s ∈ Bookshop.novelSales, s.applies Bookshop.novel [] Bookshop.channel.id none →
      ¬ s.IsForeign Bookshop.channel.id ⟨.ofInt 10, .usd⟩) ∧
    ∃ (i : Nat) (s : Sale) (lowest : Money), Bookshop.novelSales[i]? = some s ∧
      IsLowest (Sale.left? Bookshop.novel ⟨.ofInt 10, .usd⟩ [] Bookshop.channel.id none)
        Bookshop.novelSales i lowest ∧
      Sale.best Bookshop.novelSales Bookshop.novel ⟨.ofInt 10, .usd⟩ [] Bookshop.channel.id none =
        .ok (some s.id, lowest) := by
  have hfits : ∀ s ∈ Bookshop.novelSales,
      ∀ d ∈ (s.discountOn Bookshop.novel [] Bookshop.channel.id none).toOption,
        d.FitsIn ⟨.ofInt 10, .usd⟩ := by
    decide +kernel
  have happlies : ∃ s ∈ Bookshop.novelSales,
      s.applies Bookshop.novel [] Bookshop.channel.id none := by
    decide +kernel
  have hforeign : ∀ s ∈ Bookshop.novelSales,
      s.applies Bookshop.novel [] Bookshop.channel.id none →
        ¬ s.IsForeign Bookshop.channel.id ⟨.ofInt 10, .usd⟩ := by
    decide +kernel
  obtain ⟨-, -, -, hlowest, -⟩ := Sale.best_isLowest Bookshop.novelSales Bookshop.novel
    ⟨.ofInt 10, .usd⟩ [] Bookshop.channel.id none hfits
  exact ⟨hfits, happlies, hforeign, (hlowest happlies hforeign).2⟩

/-- Two dollars fifty and a quarter off come to the same, and the first of them counts. -/
example :
    Sale.best Bookshop.novelSales Bookshop.novel ⟨.ofInt 10, .usd⟩ [] Bookshop.channel.id none =
      .ok (some ⟨⟨21⟩⟩, ⟨Bookshop.cents 750, .usd⟩) := by
  decide +kernel

end Storefront
