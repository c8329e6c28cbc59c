import Mathlib.Algebra.Ring.Parity
import Mathlib.Data.List.Nodup
import Mathlib.Data.List.Perm.Basic

/-!
# Toggling

A list that starts without repetition, and from which a press of an element erases it, or to
which it appends it if it was not there, is a set : it holds an element if the presses of it
and its place at the start say so together (`mem_foldl_toggle`). So the order of the presses
does not count (`foldl_toggle_perm`).
-/

namespace List

variable {α : Type*} [DecidableEq α] {l ps ps' : List α} {a b : α}

/-- A press of `a`. -/
def toggle (l : List α) (a : α) : List α :=
  if a ∈ l then l.erase a else l ++ [a]

theorem mem_toggle (h : l.Nodup) : b ∈ l.toggle a ↔ (b ∈ l ↔ b ≠ a) := by
  unfold toggle
  split_ifs with ha
  · rw [h.mem_erase_iff]
    by_cases hb : b = a
    · simp [hb, ha]
    · simp [hb]
  · rw [mem_append, mem_singleton]
    by_cases hb : b = a
    · simp [hb, ha]
    · simp [hb]

theorem Nodup.toggle (h : l.Nodup) (a : α) : (l.toggle a).Nodup := by
  unfold List.toggle
  split_ifs with ha
  · exact h.erase a
  · refine h.append (nodup_singleton a) ?_
    rw [disjoint_singleton]
    exact ha

theorem Nodup.foldl_toggle : ∀ {l : List α} (_ : l.Nodup) (ps : List α),
    (ps.foldl List.toggle l).Nodup
  | _, h, [] => h
  | _, h, a :: ps => (h.toggle a).foldl_toggle ps

/-- An even number of presses leaves an element as it was. -/
theorem mem_foldl_toggle (h : l.Nodup) (ps : List α) (b : α) :
    b ∈ ps.foldl toggle l ↔ (b ∈ l ↔ Even (ps.count b)) := by
  induction ps generalizing l with
  | nil => simp
  | cons a ps ih =>
    rw [foldl_cons, ih (h.toggle a), mem_toggle h]
    by_cases hb : b = a
    · subst hb
      rw [count_cons_self, Nat.even_add_one]
      tauto
    · rw [count_cons_of_ne (Ne.symm hb)]
      tauto

/-- From nothing, the elements are those that were pressed an odd number of times. -/
theorem mem_foldl_toggle_nil (ps : List α) (b : α) :
    b ∈ ps.foldl toggle [] ↔ Odd (ps.count b) := by
  rw [mem_foldl_toggle nodup_nil, ← Nat.not_even_iff_odd]
  simp

theorem foldl_toggle_perm (h : l.Nodup) (hp : ps.Perm ps') :
    (ps.foldl toggle l).Perm (ps'.foldl toggle l) := by
  rw [perm_ext_iff_of_nodup (h.foldl_toggle ps) (h.foldl_toggle ps')]
  intro b
  rw [mem_foldl_toggle h, mem_foldl_toggle h, hp.count_eq b]

end List
