import Mathlib.Data.Finset.Card
import Mathlib.Data.Finset.Image
import Mathlib.Data.Finset.Range

/-!
# Matching what is used with what was made

Some actions of a history make a token with a key, and some use one. If before each action
that uses a token more tokens of its key were made than used, every use can be given an
earlier action that made a token of its key, and no two uses the same one
(`exists_matching`). A system shows the hypothesis by counting what it holds : the tokens used
and those in its state are no more than those made.
-/

namespace Matching

variable {α κ : Type*} {makes uses p : α → Option κ} {as : List α} {k : κ} {i : ℕ}

theorem lt_length_of_bind (h : as[i]?.bind p = some k) : i < as.length := by
  obtain ⟨a, ha, -⟩ := Option.bind_eq_some_iff.mp h
  exact (List.getElem?_eq_some_iff.mp ha).1

/-- A position of a longer history is one of the shorter, or the last. -/
theorem bind_concat_iff {a : α} : (as ++ [a])[i]?.bind p = some k ↔
    as[i]?.bind p = some k ∨ i = as.length ∧ p a = some k := by
  rcases lt_trichotomy i as.length with hi | rfl | hi
  · rw [List.getElem?_append_left hi]
    exact (or_iff_left fun h => hi.ne h.1).symm
  · simp
  · have hnone : ¬(as ++ [a])[i]?.bind p = some k := fun h => by
      have hlt := lt_length_of_bind h
      simp at hlt
      omega
    refine iff_of_false hnone ?_
    rintro (h | ⟨rfl, -⟩)
    · exact hi.not_gt (lt_length_of_bind h)
    · exact hi.false

/-- Each action that uses a token has an earlier one of its own that made a token of the same
key. -/
structure IsMatching (makes uses : α → Option κ) (as : List α) (f : ℕ → ℕ) : Prop where
  injOn : ∀ i i' k k', as[i]?.bind uses = some k → as[i']?.bind uses = some k' → f i = f i' →
    i = i'
  earlier : ∀ i k, as[i]?.bind uses = some k → f i < i ∧ as[f i]?.bind makes = some k

variable [DecidableEq κ]

/-- The positions of the history at which `p` gives the key. -/
def positions (p : α → Option κ) (k : κ) (as : List α) : Finset ℕ :=
  (Finset.range as.length).filter fun i => as[i]?.bind p = some k

theorem mem_positions : i ∈ positions p k as ↔ as[i]?.bind p = some k := by
  rw [positions, Finset.mem_filter, Finset.mem_range]
  exact and_iff_right_of_imp lt_length_of_bind

theorem card_positions (p : α → Option κ) (k : κ) (as : List α) :
    (positions p k as).card = as.countP fun a => p a = some k := by
  induction as using List.reverseRecOn with
  | nil => rfl
  | append_singleton as a ih =>
    rw [List.countP_append, List.countP_singleton, ← ih]
    by_cases ha : p a = some k
    · have hconcat : positions p k (as ++ [a]) = insert as.length (positions p k as) := by
        ext i
        simp only [mem_positions, Finset.mem_insert, bind_concat_iff, ha, and_true, or_comm]
      have hlast : as.length ∉ positions p k as := fun h =>
        (lt_length_of_bind (mem_positions.mp h)).false
      rw [hconcat, Finset.card_insert_of_notMem hlast]
      simp [ha]
    · have hconcat : positions p k (as ++ [a]) = positions p k as := by
        ext i
        simp only [mem_positions, bind_concat_iff, ha, and_false, or_false]
      rw [hconcat]
      simp [ha]

/-- If more tokens were made than are matched, one is left. -/
theorem exists_unmatched {f : ℕ → ℕ}
    (h : (as.countP fun a => uses a = some k) < as.countP fun a => makes a = some k) :
    ∃ j, as[j]?.bind makes = some k ∧ ∀ i, as[i]?.bind uses = some k → f i ≠ j := by
  have hcard : ((positions uses k as).image f).card < (positions makes k as).card := by
    refine Finset.card_image_le.trans_lt ?_
    rwa [card_positions, card_positions]
  obtain ⟨j, hj, hn⟩ := Finset.exists_mem_notMem_of_card_lt_card hcard
  refine ⟨j, mem_positions.mp hj, fun i hi he => hn ?_⟩
  exact Finset.mem_image.mpr ⟨i, mem_positions.mpr hi, he⟩

/-- Induction on the history : the last action, if it uses a token, gets one that is left. -/
theorem exists_matching : ∀ {as : List α}, (∀ bs a cs k, as = bs ++ a :: cs → uses a = some k →
    (bs.countP fun a => uses a = some k) < bs.countP fun a => makes a = some k) →
      ∃ f, IsMatching makes uses as f := by
  intro as
  induction as using List.reverseRecOn with
  | nil => exact fun _ => ⟨id, fun i _ _ _ hi => by simp at hi, fun i _ hi => by simp at hi⟩
  | append_singleton as a ih =>
    intro h
    obtain ⟨f, hf⟩ := ih fun bs b cs k he hk => h bs b (cs ++ [a]) k (by simp [he]) hk
    cases ha : uses a with
    | none =>
      have hold : ∀ {i : ℕ} {k : κ}, (as ++ [a])[i]?.bind uses = some k →
          as[i]?.bind uses = some k := by
        intro i k hi
        rcases bind_concat_iff.mp hi with hi | ⟨-, hk⟩
        · exact hi
        · simp [ha] at hk
      refine ⟨f, fun i i' k k' hi hi' => hf.injOn i i' k k' (hold hi) (hold hi'), fun i k hi => ?_⟩
      obtain ⟨hlt, hmakes⟩ := hf.earlier i k (hold hi)
      exact ⟨hlt, bind_concat_iff.mpr (Or.inl hmakes)⟩
    | some k =>
      obtain ⟨j, hj, hfree⟩ := exists_unmatched (f := f) (h as a [] k rfl ha)
      -- an earlier use keeps its match, which is not the one that is left
      have hcases : ∀ {i : ℕ} {k' : κ}, (as ++ [a])[i]?.bind uses = some k' →
          as[i]?.bind uses = some k' ∧ Function.update f as.length j i = f i ∧ f i ≠ j ∨
            i = as.length ∧ k' = k ∧ Function.update f as.length j i = j := by
        intro i k' hi
        rcases bind_concat_iff.mp hi with hi | ⟨rfl, hk⟩
        · have hne : i ≠ as.length := (lt_length_of_bind hi).ne
          refine Or.inl ⟨hi, Function.update_of_ne hne _ _, fun he => ?_⟩
          have hmakes := (hf.earlier i k' hi).2
          rw [he, hj] at hmakes
          obtain rfl := Option.some.inj hmakes
          exact hfree i hi he
        · obtain rfl := Option.some.inj (ha.symm.trans hk)
          exact Or.inr ⟨rfl, rfl, Function.update_self _ _ _⟩
      refine ⟨Function.update f as.length j, fun i i' k₁ k₂ hi hi' he => ?_, fun i k' hi => ?_⟩
      · rcases hcases hi with ⟨hi, hfi, hne⟩ | ⟨rfl, -, hfi⟩ <;>
          rcases hcases hi' with ⟨hi', hfi', hne'⟩ | ⟨rfl, -, hfi'⟩
        · exact hf.injOn i i' k₁ k₂ hi hi' (hfi.symm.trans (he.trans hfi'))
        · exact (hne (hfi.symm.trans (he.trans hfi'))).elim
        · exact (hne' (hfi'.symm.trans (he.symm.trans hfi))).elim
        · rfl
      · rcases hcases hi with ⟨hi, hfi, -⟩ | ⟨rfl, rfl, hfi⟩
        · obtain ⟨hlt, hmakes⟩ := hf.earlier i k' hi
          rw [hfi]
          exact ⟨hlt, bind_concat_iff.mpr (Or.inl hmakes)⟩
        · rw [hfi]
          exact ⟨lt_length_of_bind hj, bind_concat_iff.mpr (Or.inl hj)⟩

end Matching
