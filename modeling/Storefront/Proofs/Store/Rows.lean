import Mathlib.Data.List.Forall2
import Mathlib.Data.List.Nodup
import Mathlib.Data.List.Perm.Subperm
import Storefront.Store

/-!
# Rows of a table

A table is a list of rows with a key. These are the laws of looking a row up by its key (`find?`)
and of putting a row into its place (`upsert`).

* `key_ne_of_split`, `filter_key_of_mem`, `nodup_of_subperm`: what it means that keys are unique.
* `find?_upsert`: a row that was put in is found by its key, and all others are found as before.
* `upsert_upsert`, `upsert_self`: of two rows put into the same place the second counts, and
  putting in what is found changes nothing.
* `upsert_of_split`: where the keys before a row differ from its own, exactly that row is exchanged.
* `foldl_upsert`, `foldl_upsert_map_filter`: what comes of putting in several rows, and of changing
  some of the rows.
* `KeptBut`: rows of which only those with some keys have changed.
* `forall₂_exists_left`, `forall₂_and_right`: rows of two tables that are related one to one.
-/

namespace Storefront

variable {α κ : Type} [DecidableEq κ] {k : α → κ}

/-! ## Looking up -/

theorem find?_key {rows : List α} {i : κ} {row : α} (h : rows.find? (k · = i) = some row) :
    row ∈ rows ∧ k row = i :=
  ⟨List.mem_of_find?_eq_some h, by simpa using List.find?_some h⟩

omit [DecidableEq κ] in
/-- Where keys are unique, those of all other rows differ from that of a row. -/
theorem key_ne_of_split {before after : List α} {row : α}
    (hkeys : ((before ++ row :: after).map k).Nodup) : ∀ old ∈ before ++ after, k old ≠ k row := by
  intro old hold heq
  have hmiddle : (k row :: (before ++ after).map k).Nodup := by
    rw [← List.map_cons]
    exact (List.perm_middle.map k).nodup_iff.1 hkeys
  exact (List.nodup_cons.1 hmiddle).1 (heq ▸ List.mem_map_of_mem hold)

/-- Where keys are unique, a row is all there is of its key. -/
theorem filter_key_of_mem {rows : List α} {row : α} (hkeys : (rows.map k).Nodup)
    (h : row ∈ rows) : rows.filter (k · = k row) = [row] := by
  obtain ⟨before, after, rfl⟩ := List.append_of_mem h
  have hother := key_ne_of_split hkeys
  have hb : before.filter (k · = k row) = [] :=
    List.filter_eq_nil_iff.2 fun old hold => by simp [hother old (List.mem_append_left _ hold)]
  have ha : after.filter (k · = k row) = [] :=
    List.filter_eq_nil_iff.2 fun old hold => by simp [hother old (List.mem_append_right _ hold)]
  rw [List.filter_append, List.filter_cons_of_pos (by simp), hb, ha, List.nil_append]

/-- Where keys are unique, a row is found by its key. -/
theorem find?_key_of_mem {rows : List α} {row : α} (hkeys : (rows.map k).Nodup) (h : row ∈ rows) :
    rows.find? (k · = k row) = some row := by
  rw [← List.head?_filter, filter_key_of_mem hkeys h]
  rfl

omit [DecidableEq κ] in
/-- Rows that are among others have unique keys if those do. -/
theorem nodup_of_subperm {rows rows' : List α} (h : rows.Subperm rows')
    (hkeys : (rows'.map k).Nodup) : (rows.map k).Nodup := by
  obtain ⟨chosen, hperm, hsub⟩ := h
  exact (hperm.map k).nodup_iff.1 (hkeys.sublist (hsub.map k))

/-! ## Putting in -/

theorem find?_upsert (row : α) (rows : List α) (i : κ) :
    (upsert k row rows).find? (k · = i) =
      if k row = i then some row else rows.find? (k · = i) := by
  induction rows with
  | nil => by_cases hi : k row = i <;> simp [upsert, hi]
  | cons old rest ih =>
    by_cases hold : k old = k row
    · by_cases hi : k row = i <;> simp [upsert, hold, hi]
    · by_cases hi : k row = i
      · simp [upsert, ih, hi, hi ▸ hold]
      · simp [upsert, hold, ih, hi, List.find?_cons]

theorem upsert_upsert {row row' : α} (h : k row' = k row) (rows : List α) :
    upsert k row' (upsert k row rows) = upsert k row' rows := by
  induction rows with
  | nil => simp [upsert, h]
  | cons old rest ih =>
    by_cases hold : k old = k row
    · simp [upsert, hold, h]
    · simp [upsert, hold, h, ih]

theorem upsert_self {row : α} {rows : List α} (h : rows.find? (k · = k row) = some row) :
    upsert k row rows = rows := by
  induction rows with
  | nil => simp at h
  | cons old rest ih =>
    by_cases hold : k old = k row
    · obtain rfl : old = row := by simpa [hold] using h
      simp [upsert]
    · have hrest : rest.find? (k · = k row) = some row := by simpa [hold] using h
      simp [upsert, hold, ih hrest]

theorem upsert_of_split {row old : α} {before after : List α}
    (hbefore : ∀ r ∈ before, k r ≠ k row) (hold : k old = k row) :
    upsert k row (before ++ old :: after) = before ++ row :: after := by
  induction before with
  | nil => simp [upsert, hold]
  | cons r rest ih =>
    rw [List.cons_append, upsert, if_neg (hbefore r List.mem_cons_self),
      ih fun r' hr' => hbefore r' (List.mem_cons_of_mem _ hr'), List.cons_append]

/-- A key that is there stays in its place. -/
theorem map_upsert {row : α} {rows : List α} (h : k row ∈ rows.map k) :
    (upsert k row rows).map k = rows.map k := by
  induction rows with
  | nil => simp at h
  | cons old rest ih =>
    by_cases hold : k old = k row
    · simp [upsert, hold]
    · have : k row ∈ rest.map k := by
        rcases List.mem_cons.1 h with heq | hrest
        · exact absurd heq.symm hold
        · exact hrest
      simp [upsert, hold, ih this]

theorem mem_upsert_self (row : α) (rows : List α) : row ∈ upsert k row rows := by
  induction rows with
  | nil => exact List.mem_singleton_self row
  | cons old rest ih =>
    rw [upsert]
    split
    · exact List.mem_cons_self
    · exact List.mem_cons_of_mem _ ih

theorem eq_or_mem_of_mem_upsert {row r : α} {rows : List α} (h : r ∈ upsert k row rows) :
    r = row ∨ r ∈ rows := by
  induction rows with
  | nil => exact .inl (List.mem_singleton.1 h)
  | cons old rest ih =>
    rw [upsert] at h
    split at h
    · exact (List.mem_cons.1 h).imp_right (List.mem_cons_of_mem _)
    · rcases List.mem_cons.1 h with rfl | hrest
      · exact .inr List.mem_cons_self
      · exact (ih hrest).imp_right (List.mem_cons_of_mem _)

/-- Where keys are unique, a row of the same key is gone. -/
theorem mem_upsert_of_nodup {row r : α} {rows : List α} (hkeys : (rows.map k).Nodup)
    (h : r ∈ upsert k row rows) : r = row ∨ r ∈ rows ∧ k r ≠ k row := by
  induction rows with
  | nil => simpa [upsert] using h
  | cons old rest ih =>
    obtain ⟨hnew, hrest⟩ := List.nodup_cons.1 hkeys
    by_cases hold : k old = k row
    · rw [upsert, if_pos hold] at h
      refine (List.mem_cons.1 h).imp_right fun hr => ⟨List.mem_cons_of_mem _ hr, fun heq => ?_⟩
      exact hnew (hold ▸ heq ▸ List.mem_map_of_mem (f := k) hr)
    · rw [upsert, if_neg hold] at h
      rcases List.mem_cons.1 h with rfl | hr
      · exact .inr ⟨List.mem_cons_self, hold⟩
      · exact (ih hrest hr).imp_right (And.imp_left (List.mem_cons_of_mem _))

/-- A row with a new key goes to the end. -/
theorem upsert_of_notMem {row : α} {rows : List α} (h : k row ∉ rows.map k) :
    upsert k row rows = rows ++ [row] := by
  induction rows with
  | nil => rfl
  | cons old rest ih =>
    obtain ⟨hold, hrest⟩ := not_or.1 (mt List.mem_cons.2 h)
    rw [upsert, if_neg fun heq => hold heq.symm, ih hrest, List.cons_append]

/-- Keys stay unique. -/
theorem nodup_upsert {row : α} {rows : List α} (hkeys : (rows.map k).Nodup) :
    ((upsert k row rows).map k).Nodup := by
  by_cases h : k row ∈ rows.map k
  · rwa [map_upsert h]
  · rw [upsert_of_notMem h, List.map_append, List.nodup_append_comm]
    exact List.nodup_cons.2 ⟨h, hkeys⟩

theorem mem_upsert_of_ne {row r : α} {rows : List α} (h : r ∈ rows) (hne : k r ≠ k row) :
    r ∈ upsert k row rows := by
  induction rows with
  | nil => cases h
  | cons old rest ih =>
    rw [upsert]
    split
    · rename_i hold
      refine List.mem_cons_of_mem _ ((List.mem_cons.1 h).resolve_left fun heq => ?_)
      exact hne (heq ▸ hold)
    · rcases List.mem_cons.1 h with rfl | hrest
      · exact List.mem_cons_self
      · exact List.mem_cons_of_mem _ (ih hrest)

/-! ## All rows at once -/

omit [DecidableEq κ] in
/-- Rows that have kept their keys, each made from the row of its key. -/
theorem eq_map_of_key {rows rows' : List α} {f : α → α} (hkeys : (rows.map k).Nodup)
    (hmap : rows'.map k = rows.map k) (h : ∀ r' ∈ rows', ∃ r ∈ rows, k r = k r' ∧ r' = f r) :
    rows' = rows.map f := by
  induction rows generalizing rows' with
  | nil => exact List.map_eq_nil_iff.1 hmap
  | cons r rest ih =>
    obtain ⟨r', rest', rfl, hr, hrest⟩ := List.map_eq_cons_iff.1 hmap
    obtain ⟨hnew, hkeys'⟩ := List.nodup_cons.1 hkeys
    obtain ⟨hfirst, hothers⟩ := List.forall_mem_cons.1 h
    have hhead : r' = f r := by
      obtain ⟨r₀, hr₀, hkey, heq⟩ := hfirst
      rw [heq, List.inj_on_of_nodup_map hkeys hr₀ List.mem_cons_self (hkey.trans hr)]
    rw [List.map_cons, ← hhead, ih hkeys' hrest fun r'' hr'' => ?_]
    obtain ⟨r₀, hr₀, hkey, heq⟩ := hothers r'' hr''
    rcases List.mem_cons.1 hr₀ with rfl | hr₀
    · exact absurd (hkey ▸ hrest ▸ List.mem_map_of_mem hr'') hnew
    · exact ⟨r₀, hr₀, hkey, heq⟩

/-- Where keys are unique, a row is put into the place of its key. -/
theorem upsert_eq_map {row : α} {rows : List α} (hkeys : (rows.map k).Nodup)
    (h : k row ∈ rows.map k) :
    upsert k row rows = rows.map fun old => if k old = k row then row else old := by
  refine eq_map_of_key hkeys (map_upsert h) fun r hr => ?_
  rcases mem_upsert_of_nodup hkeys hr with rfl | ⟨hmem, hne⟩
  · obtain ⟨old, hold, hkey⟩ := List.mem_map.1 h
    exact ⟨old, hold, hkey, (if_pos hkey).symm⟩
  · exact ⟨r, hmem, rfl, (if_neg hne).symm⟩

/-- Where keys are unique, rows are put into the places of their keys. -/
theorem foldl_upsert {new rows : List α} (hkeys : (rows.map k).Nodup) (hnew : (new.map k).Nodup)
    (h : ∀ r ∈ new, k r ∈ rows.map k) :
    new.foldl (fun rows r => upsert k r rows) rows =
      rows.map fun old => (new.find? (k · = k old)).getD old := by
  induction new generalizing rows with
  | nil => exact (List.map_id' rows).symm
  | cons r rest ih =>
    obtain ⟨hr, hrest⟩ := List.forall_mem_cons.1 h
    obtain ⟨hother, hnew⟩ := List.nodup_cons.1 hnew
    have hmap : (upsert k r rows).map k = rows.map k := map_upsert hr
    rw [List.foldl_cons, ih (hmap ▸ hkeys) hnew fun r' hr' => hmap ▸ hrest r' hr',
      upsert_eq_map hkeys hr, List.map_map]
    refine List.map_congr_left fun old _ => ?_
    rw [Function.comp_apply]
    by_cases hold : k old = k r
    · have hnone : rest.find? (k · = k r) = none := List.find?_eq_none.2 fun r' hr' => by
        simpa using fun heq : k r' = k r => hother (heq ▸ List.mem_map_of_mem hr')
      simp [hold, hnone]
    · have hne : ¬k r = k old := fun heq => hold heq.symm
      simp [hold, hne]

/-- Where keys are unique, some of the rows that were changed are put back into their places. -/
theorem foldl_upsert_map_filter {rows : List α} {f : α → α} {P : α → Bool}
    (hkeys : (rows.map k).Nodup) (hf : ∀ r ∈ rows, P r = true → k (f r) = k r) :
    ((rows.filter P).map f).foldl (fun rows r => upsert k r rows) rows =
      rows.map fun r => if P r then f r else r := by
  have hsub : (rows.filter P).Sublist rows := List.filter_sublist
  have hmap : ((rows.filter P).map f).map k = (rows.filter P).map k := by
    rw [List.map_map]
    exact List.map_congr_left fun r hr => hf r (hsub.subset hr) (List.mem_filter.1 hr).2
  have hnew : (((rows.filter P).map f).map k).Nodup := hmap ▸ hkeys.sublist (hsub.map k)
  rw [foldl_upsert hkeys hnew fun r hr =>
    (hsub.map k).subset (hmap ▸ List.mem_map_of_mem hr)]
  refine List.map_congr_left fun old hold => ?_
  split
  · rename_i hP
    have hmem : f old ∈ (rows.filter P).map f := List.mem_map_of_mem (List.mem_filter.2 ⟨hold, hP⟩)
    rw [← hf old hold hP, find?_key_of_mem hnew hmem, Option.getD_some]
  · rename_i hP
    have hnone : ((rows.filter P).map f).find? (k · = k old) = none := by
      refine List.find?_eq_none.2 fun r' hr' => ?_
      obtain ⟨r, hr, rfl⟩ := List.mem_map.1 hr'
      obtain ⟨hmem, hPr⟩ := List.mem_filter.1 hr
      rw [hf r hmem hPr, decide_eq_true_eq]
      intro heq
      rw [List.inj_on_of_nodup_map hkeys hmem hold heq] at hPr
      exact hP hPr
    rw [hnone, Option.getD_none]

/-- Rows of different keys that were put in are all there. -/
theorem mem_foldl_upsert {new rows : List α} {r : α} (hnew : (new.map k).Nodup)
    (h : r ∈ new ∨ r ∈ rows ∧ k r ∉ new.map k) :
    r ∈ new.foldl (fun rows r => upsert k r rows) rows := by
  induction new generalizing rows with
  | nil => exact (h.resolve_left List.not_mem_nil).1
  | cons row rest ih =>
    obtain ⟨hrow, hrest⟩ := List.nodup_cons.1 hnew
    refine ih hrest ?_
    rcases h with h | ⟨hmem, hkey⟩
    · rcases List.mem_cons.1 h with rfl | h
      · exact .inr ⟨mem_upsert_self r rows, hrow⟩
      · exact .inl h
    · obtain ⟨hne, hkey⟩ := not_or.1 (mt List.mem_cons.2 hkey)
      exact .inr ⟨mem_upsert_of_ne hmem hne, hkey⟩

theorem nodup_foldl_upsert {new rows : List α} (hkeys : (rows.map k).Nodup) :
    ((new.foldl (fun rows r => upsert k r rows) rows).map k).Nodup := by
  induction new generalizing rows with
  | nil => exact hkeys
  | cons row rest ih => exact ih (nodup_upsert hkeys)

/-! ## Rows left alone -/

/-- `KeptBut k changed rows rows'`: all rows are in their places, and those whose key is not among
the changed ones are as they were. -/
def KeptBut (k : α → κ) (changed : κ → Prop) : List α → List α → Prop :=
  List.Forall₂ fun r r' => k r' = k r ∧ (¬changed (k r) → r' = r)

namespace KeptBut

variable {changed : κ → Prop} {rows rows' rows'' : List α}

omit [DecidableEq κ] in
theorem refl (rows : List α) : KeptBut k changed rows rows :=
  List.forall₂_same.2 fun _ _ => ⟨rfl, fun _ => rfl⟩

omit [DecidableEq κ] in
theorem trans (h : KeptBut k changed rows rows') (h' : KeptBut k changed rows' rows'') :
    KeptBut k changed rows rows'' := by
  induction h generalizing rows'' with
  | nil => exact h'
  | cons hr _ ih =>
    cases h' with
    | cons hr' hrest' =>
      refine .cons ⟨hr'.1.trans hr.1, fun hkept => ?_⟩ (ih hrest')
      exact (hr'.2 (hr.1.symm ▸ hkept)).trans (hr.2 hkept)

theorem upsert {row : α} (hrow : k row ∈ rows.map k) (hchanged : changed (k row)) :
    KeptBut k changed rows (upsert k row rows) := by
  induction rows with
  | nil => cases hrow
  | cons old rest ih =>
    rw [Storefront.upsert]
    split
    · rename_i hold
      exact .cons ⟨hold.symm, fun hkept => absurd (hold ▸ hchanged) hkept⟩ (refl rest)
    · rename_i hold
      refine .cons ⟨rfl, fun _ => rfl⟩ (ih ?_)
      exact (List.mem_cons.1 hrow).resolve_left fun heq => hold heq.symm

end KeptBut

/-! ## Rows of two tables -/

/-- What holds of the rows on the right holds beside what relates them to those on the left. -/
theorem forall₂_and_right {α β : Type} {R : α → β → Prop} {Q : β → Prop} {l : List α} {l' : List β}
    (h : List.Forall₂ R l l') (hright : ∀ b ∈ l', Q b) :
    List.Forall₂ (fun a b => R a b ∧ Q b) l l' := by
  induction h with
  | nil => exact .nil
  | cons hr _ ih =>
    obtain ⟨hb, hrest⟩ := List.forall_mem_cons.1 hright
    exact .cons ⟨hr, hb⟩ (ih hrest)

/-- A row on the right has one on the left that it is related to. -/
theorem forall₂_exists_left {α β : Type} {R : α → β → Prop} {l : List α} {l' : List β}
    (h : List.Forall₂ R l l') {b : β} (hb : b ∈ l') : ∃ a ∈ l, R a b := by
  induction h with
  | nil => cases hb
  | cons hr _ ih =>
    rcases List.mem_cons.1 hb with rfl | hb
    · exact ⟨_, List.mem_cons_self, hr⟩
    · obtain ⟨a, ha, hr⟩ := ih hb
      exact ⟨a, List.mem_cons_of_mem _ ha, hr⟩

end Storefront
