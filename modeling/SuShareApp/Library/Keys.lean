import Mathlib.Data.List.Nodup
import Mathlib.Data.List.Perm.Basic

/-!
# Keys of list entries

Some entries of a list carry a key : `f a = some b`. The keys of the list are `l.filterMap f`,
and no two entries carry the same one exactly if these have no duplicates. Requests in flight
carry the ids that were drawn for them, actions of a run the ids that they drew.
-/

namespace Keys

variable {α β : Type*} {f : α → Option β}

/-- Keys that a partial function takes from another one are a sublist of its keys. -/
theorem sublist {g : α → Option β} (h : ∀ a b, f a = some b → g a = some b) :
    ∀ l : List α, (l.filterMap f).Sublist (l.filterMap g)
  | [] => .slnil
  | a :: l => by
    have ih := sublist h l
    cases hf : f a with
    | none =>
      rw [List.filterMap_cons_none hf]
      exact ih.trans ((List.sublist_cons_self a l).filterMap g)
    | some b =>
      rw [List.filterMap_cons_some hf, List.filterMap_cons_some (h a b hf)]
      exact ih.cons_cons b

/-- The key of an entry is not that of another one. -/
theorem ne_of_mem_erase [DecidableEq α] {l : List α} (h : (l.filterMap f).Nodup) {x y : α}
    (hx : x ∈ l) (hy : y ∈ l.erase x) {b : β} (hb : f y = some b) : f x ≠ some b := by
  intro hxb
  have hperm := (List.perm_cons_erase hx).filterMap f
  have hnodup := hperm.nodup_iff.mp h
  rw [List.filterMap_cons_some hxb, List.nodup_cons] at hnodup
  exact hnodup.1 (List.mem_filterMap.mpr ⟨y, hy, hb⟩)

/-- Entries with a key are determined by it. -/
theorem eq_of_nodup : ∀ {l : List α}, (l.filterMap f).Nodup → ∀ {x y : α} {b : β}, x ∈ l →
    y ∈ l → f x = some b → f y = some b → x = y
  | [], _, _, _, _, hx, _, _, _ => by cases hx
  | a :: l, h, x, y, b, hx, hy, hxb, hyb => by
    have htail : (l.filterMap f).Nodup := ((List.sublist_cons_self a l).filterMap f).nodup h
    -- the head has no key in common with the tail
    have hhead : ∀ {z}, z ∈ l → f a = some b → f z = some b → False := fun hz ha hzb => by
      rw [List.filterMap_cons_some ha, List.nodup_cons] at h
      exact h.1 (List.mem_filterMap.mpr ⟨_, hz, hzb⟩)
    rcases List.mem_cons.mp hx with rfl | hxl
    · rcases List.mem_cons.mp hy with rfl | hyl
      · rfl
      · exact (hhead hyl hxb hyb).elim
    · rcases List.mem_cons.mp hy with rfl | hyl
      · exact (hhead hxl hyb hxb).elim
      · exact eq_of_nodup htail hxl hyl hxb hyb

end Keys
