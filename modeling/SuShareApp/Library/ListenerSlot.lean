import Mathlib.Data.List.Chain
import Mathlib.Data.List.Induction

/-!
# Listeners and the variable that holds their handle

A component registers listeners with a source and keeps one handle, that of the last. What it
removes is the listener of that handle; those whose handles were overwritten stay active.

So the component has at most one active listener exactly if it never registers twice in a row
(`isChain_concat_iff`), and then a removal leaves none (`active_after_remove`).
-/

/-- The registrations of a component, by number, and the handle it holds. -/
structure ListenerSlot where
  issued : ℕ
  active : List ℕ
  handle : Option ℕ
deriving DecidableEq, Repr

inductive SlotOp
  | register
  | remove
deriving DecidableEq, Repr

namespace ListenerSlot

/-- Nothing was registered yet. -/
def empty : ListenerSlot := ⟨0, [], none⟩

/-- Register a listener and keep its handle. -/
def register (s : ListenerSlot) : ListenerSlot :=
  ⟨s.issued + 1, s.issued :: s.active, some s.issued⟩

/-- Remove the listener of the handle, if there is one. The handle is kept. -/
def remove (s : ListenerSlot) : ListenerSlot :=
  { s with active := s.active.filter fun h => s.handle ≠ some h }

/-- The source gives a listener up. -/
def drop (s : ListenerSlot) (h : ℕ) : ListenerSlot :=
  { s with active := s.active.filter fun k => k ≠ h }

def apply (s : ListenerSlot) : SlotOp → ListenerSlot
  | .register => s.register
  | .remove => s.remove

/-- The slot after the operations. -/
def after (ops : List SlotOp) : ListenerSlot :=
  ops.foldl apply empty

theorem after_concat (ops : List SlotOp) (op : SlotOp) :
    after (ops ++ [op]) = (after ops).apply op := by
  simp [after, List.foldl_append]

theorem length_active_register (s : ListenerSlot) :
    s.register.active.length = s.active.length + 1 :=
  rfl

/-- No listener is active but that of the handle. -/
def Tidy (s : ListenerSlot) : Prop :=
  s.active = [] ∨ ∃ h, s.handle = some h ∧ s.active = [h]

variable {s : ListenerSlot} {ops : List SlotOp} {op : SlotOp}

theorem Tidy.length_le_one (h : s.Tidy) : s.active.length ≤ 1 := by
  rcases h with h | ⟨_, -, h⟩ <;> simp [h]

theorem tidy_register (h : s.active = []) : s.register.Tidy :=
  Or.inr ⟨s.issued, rfl, by rw [register, h]⟩

theorem Tidy.active_remove (h : s.Tidy) : s.remove.active = [] := by
  rcases h with h | ⟨k, hk, h⟩
  · simp [remove, h]
  · simp [remove, h, hk]

/-- One of two operations in a row is a removal. -/
def Alternates (a b : SlotOp) : Prop :=
  a = .remove ∨ b = .remove

instance : DecidableRel Alternates := fun a b =>
  inferInstanceAs (Decidable (a = .remove ∨ b = .remove))

theorem isChain_concat : (ops ++ [op]).IsChain Alternates ↔
    ops.IsChain Alternates ∧ ∀ a ∈ ops.getLast?, Alternates a op := by
  rw [List.isChain_append]
  simp

/-- Without two registrations in a row, a listener is active if the last operation was its
registration. -/
theorem tidy_after (h : ops.IsChain Alternates) :
    (after ops).Tidy ∧ ((after ops).active = [] ↔ ops.getLast? ≠ some .register) := by
  induction ops using List.reverseRecOn with
  | nil => exact ⟨Or.inl rfl, by simp [after, empty]⟩
  | append_singleton ops op ih =>
    obtain ⟨hchain, hlast⟩ := isChain_concat.mp h
    obtain ⟨htidy, hnone⟩ := ih hchain
    rw [after_concat, List.getLast?_concat]
    cases op with
    | register =>
      have hempty : (after ops).active = [] := by
        refine hnone.mpr fun he => ?_
        rcases hlast _ he with hreg | hreg <;> cases hreg
      exact ⟨tidy_register hempty, by simp [apply, register]⟩
    | remove => exact ⟨Or.inl htidy.active_remove, by simp [apply, htidy.active_remove]⟩

theorem active_after_remove (h : ops.IsChain Alternates) : (after ops).remove.active = [] :=
  (tidy_after h).1.active_remove

/-- An operation leaves at most one listener exactly if it does not register a second time in a
row. -/
theorem isChain_concat_iff (h : ops.IsChain Alternates) :
    (ops ++ [op]).IsChain Alternates ↔ ((after ops).apply op).active.length ≤ 1 := by
  obtain ⟨htidy, hnone⟩ := tidy_after h
  rw [isChain_concat, and_iff_right h]
  cases op with
  | register =>
    have hlength : ((after ops).apply .register).active.length ≤ 1 ↔ (after ops).active = [] := by
      rw [apply, length_active_register, ← List.length_eq_zero_iff]
      omega
    rw [hlength, hnone]
    constructor
    · intro hall he
      rcases hall _ he with hreg | hreg <;> cases hreg
    · intro hne a ha
      cases a with
      | register => exact absurd ha hne
      | remove => exact Or.inl rfl
  | remove =>
    refine iff_of_true (fun _ _ => Or.inr rfl) ?_
    rw [apply, htidy.active_remove]
    exact Nat.zero_le 1

end ListenerSlot
