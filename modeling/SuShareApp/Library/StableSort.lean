import Mathlib.Data.List.Chain
import Mathlib.Data.List.Sort

/-!
# Stable sorting and filters

Insertion sort by a total preorder is stable, so it commutes with taking a part of the list
(`filter_insertionSort`) : the order among the elements that are kept does not depend on
the others. By a reflexive relation it leaves a list as it is exactly if each element is related
to the next (`insertionSort_eq_self_iff`).
-/

namespace List

variable {α : Type*} (r : α → α → Prop) [DecidableRel r] (p : α → Bool)

theorem orderedInsert_of_forall_rel {a : α} : ∀ {l : List α}, (∀ b ∈ l, r a b) →
    l.orderedInsert r a = a :: l
  | [], _ => rfl
  | b :: l, h => orderedInsert_cons_of_le r l (h b mem_cons_self)

theorem filter_orderedInsert_of_neg {a : α} (ha : ¬p a = true) :
    ∀ l : List α, (l.orderedInsert r a).filter p = l.filter p
  | [] => by simp [ha]
  | b :: l => by
    have ih := filter_orderedInsert_of_neg ha l
    rw [orderedInsert_cons]
    split_ifs with hab
    · rw [filter_cons_of_neg ha]
    · rw [filter_cons, filter_cons, ih]

/-- Inserting into a sorted list and filtering commute. -/
theorem filter_orderedInsert_of_pos [IsTrans α r] {a : α} (ha : p a = true) :
    ∀ {l : List α}, l.Pairwise r → (l.orderedInsert r a).filter p = (l.filter p).orderedInsert r a
  | [], _ => by simp [ha]
  | b :: l, h => by
    obtain ⟨hb, hl⟩ := pairwise_cons.mp h
    have ih := filter_orderedInsert_of_pos ha hl
    rw [orderedInsert_cons]
    split_ifs with hab
    · -- `a` is before `b`, and so before all that is left of the list
      have hall : ∀ c ∈ (b :: l).filter p, r a c := by
        intro c hc
        rcases mem_cons.mp (mem_of_mem_filter hc) with rfl | hc
        · exact hab
        · exact IsTrans.trans a b c hab (hb c hc)
      rw [orderedInsert_of_forall_rel r hall, filter_cons_of_pos ha]
    · by_cases hpb : p b = true
      · rw [filter_cons_of_pos hpb, filter_cons_of_pos hpb, orderedInsert_of_not_le r _ hab, ih]
      · rw [filter_cons_of_neg hpb, filter_cons_of_neg hpb, ih]

/-- Sorting and filtering commute. -/
theorem filter_insertionSort [IsTrans α r] [Std.Total r] :
    ∀ l : List α, (l.insertionSort r).filter p = (l.filter p).insertionSort r
  | [] => rfl
  | a :: l => by
    have ih := filter_insertionSort l
    rw [insertionSort_cons]
    by_cases ha : p a = true
    · rw [filter_orderedInsert_of_pos r p ha (pairwise_insertionSort r l), ih,
        filter_cons_of_pos ha, insertionSort_cons]
    · rw [filter_orderedInsert_of_neg r p ha, ih, filter_cons_of_neg ha]

/-- Inserting leaves the element in front exactly if it is related to the first of the others. -/
theorem orderedInsert_eq_cons_iff [Std.Refl r] {a : α} {l l' : List α} :
    l.orderedInsert r a = a :: l' ↔ l = l' ∧ ∀ b ∈ l.head?, r a b := by
  cases l with
  | nil => simp [eq_comm]
  | cons b l =>
    rw [orderedInsert_cons]
    split_ifs with hab
    · simp [hab]
    · refine iff_of_false (fun h => ?_) fun h => hab (h.2 b rfl)
      obtain rfl := (cons.inj h).1
      exact hab (Std.Refl.refl b)

theorem insertionSort_eq_self_iff [Std.Refl r] :
    ∀ l : List α, l.insertionSort r = l ↔ l.IsChain r
  | [] => by simp
  | a :: l => by
    rw [insertionSort_cons, orderedInsert_eq_cons_iff, insertionSort_eq_self_iff l,
      isChain_cons, and_comm]
    refine and_congr_left fun hl => ?_
    rw [(insertionSort_eq_self_iff l).mpr hl]

end List
