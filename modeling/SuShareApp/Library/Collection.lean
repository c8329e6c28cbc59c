import Mathlib.Data.List.Basic
import Mathlib.Order.Lattice

/-!
# Document collections

A collection holds documents by id, listed in ascending order of id : the order in
which a query without an explicit one returns them. The listing is part of the value,
so two collections with the same lookups are equal (`Collection.ext_get?`), and a
query is determined by the documents it selects (`query_congr`).

`setData` replaces the whole document, `updateData` changes a document that is there
and fails on one that is not, `delete` is silent on a missing one.
-/

/-- Documents by id, in ascending order of id. -/
structure Collection (ι δ : Type*) [LinearOrder ι] where
  docs : List (ι × δ)
  sorted : docs.Pairwise fun a b => a.1 < b.1

namespace Collection

variable {ι δ : Type*} [LinearOrder ι]

/-- The collection with no documents. -/
def empty : Collection ι δ := ⟨[], .nil⟩

/-- The document with the id, if there is one. -/
def get? (c : Collection ι δ) (id : ι) : Option δ :=
  (c.docs.find? fun e => e.1 = id).map Prod.snd

/-- Put a document at its place in an ascending list, over one with the same id. -/
def insertDoc (id : ι) (d : δ) : List (ι × δ) → List (ι × δ)
  | [] => [(id, d)]
  | e :: l =>
    if id < e.1 then (id, d) :: e :: l
    else if id = e.1 then (id, d) :: l
    else e :: insertDoc id d l

theorem mem_insertDoc {id : ι} {d : δ} {x : ι × δ} :
    ∀ {l : List (ι × δ)}, x ∈ insertDoc id d l → x = (id, d) ∨ x ∈ l
  | [], h => by simpa [insertDoc] using h
  | e :: l, h => by
    unfold insertDoc at h
    split_ifs at h with h1 h2
    · exact List.mem_cons.mp h
    · rcases List.mem_cons.mp h with rfl | h
      · exact Or.inl rfl
      · exact Or.inr (List.mem_cons_of_mem _ h)
    · rcases List.mem_cons.mp h with rfl | h
      · exact Or.inr List.mem_cons_self
      · exact (mem_insertDoc h).imp_right (List.mem_cons_of_mem _)

theorem pairwise_insertDoc (id : ι) (d : δ) :
    ∀ {l : List (ι × δ)}, (l.Pairwise fun a b => a.1 < b.1) →
      (insertDoc id d l).Pairwise fun a b => a.1 < b.1
  | [], _ => by simp [insertDoc]
  | e :: l, h => by
    obtain ⟨he, hl⟩ := List.pairwise_cons.mp h
    unfold insertDoc
    split_ifs with h1 h2
    · refine List.pairwise_cons.mpr ⟨fun x hx => ?_, h⟩
      rcases List.mem_cons.mp hx with rfl | hx
      · exact h1
      · exact h1.trans (he x hx)
    · exact List.pairwise_cons.mpr ⟨fun x hx => h2 ▸ he x hx, hl⟩
    · refine List.pairwise_cons.mpr ⟨fun x hx => ?_, pairwise_insertDoc id d hl⟩
      rcases mem_insertDoc hx with rfl | hx
      · exact lt_of_le_of_ne (not_lt.mp h1) (Ne.symm h2)
      · exact he x hx

/-- With no document of the id, the new one is all that the list gains. -/
theorem insertDoc_perm {id : ι} (d : δ) : ∀ {l : List (ι × δ)}, (∀ e ∈ l, e.1 ≠ id) →
    (insertDoc id d l).Perm ((id, d) :: l)
  | [], _ => .refl _
  | e :: l, h => by
    obtain ⟨he, hl⟩ := List.forall_mem_cons.mp h
    unfold insertDoc
    split_ifs with h1 h2
    · exact .refl _
    · exact absurd h2.symm he
    · exact ((insertDoc_perm d hl).cons e).trans (.swap _ _ l)

/-- Write the whole document. -/
def setData (c : Collection ι δ) (id : ι) (d : δ) : Collection ι δ :=
  ⟨insertDoc id d c.docs, pairwise_insertDoc id d c.sorted⟩

/-- Change the document with the id, which must be there. -/
def updateData (c : Collection ι δ) (id : ι) (f : δ → δ) : Option (Collection ι δ) :=
  (c.get? id).map fun d => c.setData id (f d)

/-- Remove the document with the id. -/
def delete (c : Collection ι δ) (id : ι) : Collection ι δ :=
  ⟨c.docs.filter fun e => e.1 ≠ id, c.sorted.filter _⟩

/-- The documents that `p` selects, with their ids, in ascending order of id. -/
def query (c : Collection ι δ) (p : δ → Bool) : List (ι × δ) :=
  c.docs.filter fun e => p e.2

/-! ## Lookups -/

theorem mem_docs_iff {c : Collection ι δ} {id : ι} {d : δ} :
    (id, d) ∈ c.docs ↔ c.get? id = some d := by
  obtain ⟨l, hl⟩ := c
  simp only [get?]
  induction l with
  | nil => simp
  | cons e l ih =>
    obtain ⟨he, hl⟩ := List.pairwise_cons.mp hl
    by_cases hid : e.1 = id
    · have hn : (id, d) ∉ l := fun h => absurd (he _ h) (by simp [hid])
      simp [hid, hn, Prod.ext_iff, eq_comm]
    · rw [List.mem_cons, or_iff_right fun h => hid (by rw [← h]), ih hl]
      simp [hid]

theorem find?_insertDoc (id : ι) (d : δ) (k : ι) :
    ∀ l : List (ι × δ), ((insertDoc id d l).find? fun e => e.1 = k).map Prod.snd =
      if k = id then some d else (l.find? fun e => e.1 = k).map Prod.snd
  | [] => by by_cases hk : k = id <;> simp [insertDoc, hk, eq_comm]
  | e :: l => by
    have ih := find?_insertDoc id d k l
    unfold insertDoc
    by_cases hk : k = id
    · subst hk
      rw [if_pos rfl] at ih ⊢
      split_ifs with h1 h2
      · simp
      · simp
      · simp [Ne.symm h2, ih]
    · rw [if_neg hk] at ih ⊢
      split_ifs with h1 h2
      · simp [Ne.symm hk]
      · simp [Ne.symm hk, ← h2]
      · by_cases he : e.1 = k
        · simp [he]
        · simp [he, ih]

@[simp] theorem get?_empty (id : ι) : (empty : Collection ι δ).get? id = none :=
  rfl

theorem get?_setData (c : Collection ι δ) (id k : ι) (d : δ) :
    (c.setData id d).get? k = if k = id then some d else c.get? k :=
  find?_insertDoc id d k c.docs

@[simp] theorem get?_setData_self (c : Collection ι δ) (id : ι) (d : δ) :
    (c.setData id d).get? id = some d := by
  simp [get?_setData]

theorem get?_setData_of_ne (c : Collection ι δ) {id k : ι} (h : k ≠ id) (d : δ) :
    (c.setData id d).get? k = c.get? k := by
  simp [get?_setData, h]

/-- A document that is there after a write was written, or was there before. -/
theorem of_get?_setData {c : Collection ι δ} {k id : ι} {d d' : δ}
    (h : (c.setData k d).get? id = some d') : k = id ∨ c.get? id = some d' := by
  rw [get?_setData] at h
  split_ifs at h with hid
  · exact Or.inl hid.symm
  · exact Or.inr h

/-- A write under a new id adds its document to those that are there. -/
theorem docs_setData_perm {c : Collection ι δ} {id : ι} (h : c.get? id = none) (d : δ) :
    (c.setData id d).docs.Perm ((id, d) :: c.docs) := by
  refine insertDoc_perm d ?_
  rintro ⟨k, d'⟩ hd rfl
  exact Option.some_ne_none d' ((mem_docs_iff.mp hd).symm.trans h)

/-- What an update that succeeded did. -/
theorem updateData_eq_some {c c' : Collection ι δ} {id : ι} {f : δ → δ}
    (h : c.updateData id f = some c') : ∃ d, c.get? id = some d ∧ c' = c.setData id (f d) := by
  obtain ⟨d, hd, rfl⟩ := Option.map_eq_some_iff.mp h
  exact ⟨d, hd, rfl⟩

theorem get?_delete (c : Collection ι δ) (id k : ι) :
    (c.delete id).get? k = if k = id then none else c.get? k := by
  by_cases hk : k = id
  · subst hk
    simp [delete, get?, List.find?_filter]
  · have hkid : ∀ e : ι × δ, (¬e.1 = id ∧ e.1 = k) ↔ e.1 = k := fun e =>
      and_iff_right_of_imp fun he => he ▸ hk
    simp [delete, get?, List.find?_filter, hk, hkid]

/-- A document that a deletion left was there before. -/
theorem get?_of_get?_delete {c : Collection ι δ} {id k : ι} {d : δ}
    (h : (c.delete id).get? k = some d) : c.get? k = some d := by
  rw [get?_delete] at h
  split_ifs at h
  exact h

theorem get?_foldl_delete (c : Collection ι δ) (ids : List ι) (k : ι) :
    (ids.foldl delete c).get? k = if k ∈ ids then none else c.get? k := by
  induction ids generalizing c with
  | nil => simp
  | cons id ids ih =>
    rw [List.foldl_cons, ih, get?_delete]
    by_cases hk : k = id <;> by_cases hm : k ∈ ids <;> simp [hk, hm]

theorem mem_query {c : Collection ι δ} {p : δ → Bool} {id : ι} {d : δ} :
    (id, d) ∈ c.query p ↔ c.get? id = some d ∧ p d = true := by
  simp [query, mem_docs_iff]

/-! ## Listings -/

/-- The ids of the documents. -/
def ids (c : Collection ι δ) : List ι :=
  c.docs.map Prod.fst

theorem mem_ids {c : Collection ι δ} {id : ι} : id ∈ c.ids ↔ ∃ d, c.get? id = some d := by
  simp [ids, mem_docs_iff]

theorem nodup_ids (c : Collection ι δ) : c.ids.Nodup :=
  List.pairwise_map.mpr (c.sorted.imp fun h => h.ne)

theorem eq_of_mem_iff {l l' : List (ι × δ)} (h : l.Pairwise fun a b => a.1 < b.1)
    (h' : l'.Pairwise fun a b => a.1 < b.1) (hmem : ∀ x, x ∈ l ↔ x ∈ l') : l = l' := by
  have hn : ∀ {l : List (ι × δ)}, (l.Pairwise fun a b => a.1 < b.1) → l.Nodup := fun h =>
    h.imp fun hab he => absurd hab (by simp [he])
  refine ((List.perm_ext_iff_of_nodup (hn h) (hn h')).mpr hmem).eq_of_pairwise ?_ h h'
  intro a b _ _ hab hba
  exact absurd hab hba.not_gt

theorem ext_get? {a b : Collection ι δ} (h : ∀ id, a.get? id = b.get? id) : a = b := by
  obtain ⟨l, hl⟩ := a
  obtain ⟨l', hl'⟩ := b
  obtain rfl : l = l' := by
    refine eq_of_mem_iff hl hl' fun ⟨id, d⟩ => ?_
    have ha : (id, d) ∈ l ↔ _ := mem_docs_iff (c := ⟨l, hl⟩)
    have hb : (id, d) ∈ l' ↔ _ := mem_docs_iff (c := ⟨l', hl'⟩)
    rw [ha, hb, h id]
  rfl

/-- Collections that agree on the documents `p` selects return the same query. -/
theorem query_congr {a b : Collection ι δ} {p : δ → Bool}
    (h : ∀ id d, p d = true → (a.get? id = some d ↔ b.get? id = some d)) :
    a.query p = b.query p := by
  refine eq_of_mem_iff (a.sorted.filter _) (b.sorted.filter _) fun x => ?_
  obtain ⟨id, d⟩ := x
  have ha : (id, d) ∈ a.query p ↔ a.get? id = some d ∧ p d = true := mem_query
  have hb : (id, d) ∈ b.query p ↔ b.get? id = some d ∧ p d = true := mem_query
  exact ha.trans ((and_congr_left fun hp => h id d hp).trans hb.symm)

end Collection
