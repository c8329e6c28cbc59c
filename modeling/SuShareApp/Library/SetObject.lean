import SuShareApp.Library.TransitionSystem
import Mathlib.Data.Set.Insert

/-!
# A set as an object

A set that starts empty and takes insertions and erasures, one after another. An element is
in it exactly if the last operation on that element was an insertion (`Run.mem_iff`). A store
that projects onto this system is a set for its clients.
-/

/-- An operation of a set. -/
inductive SetOp (α : Type*)
  | insert (a : α)
  | erase (a : α)
deriving DecidableEq, Repr

namespace SetOp

variable {α : Type*}

def element : SetOp α → α
  | .insert a | .erase a => a

/-- The set after the operation. -/
def apply (s : Set α) : SetOp α → Set α
  | .insert a => {a} ∪ s
  | .erase a => s \ {a}

/-- The last operation on the element. -/
def last [DecidableEq α] (a : α) (ops : List (SetOp α)) : Option (SetOp α) :=
  ops.reverse.find? fun op => op.element = a

theorem last_concat [DecidableEq α] (a : α) (ops : List (SetOp α)) (op : SetOp α) :
    last a (ops ++ [op]) = if op.element = a then some op else last a ops := by
  by_cases h : op.element = a <;> simp [last, h]

/-- An operation decides about its own element, and about no other. -/
theorem mem_apply (a : α) (s : Set α) (op : SetOp α) :
    a ∈ op.apply s ↔ op = .insert a ∨ op.element ≠ a ∧ a ∈ s := by
  cases op with
  | insert b =>
    by_cases h : b = a
    · simp [apply, h]
    · simp [apply, element, h, Ne.symm h]
  | erase b => simp [apply, element, and_comm, eq_comm]

end SetOp

/-- The empty set, and every operation at any time. -/
def setObject (α : Type*) : TransitionSystem (Set α) (SetOp α) where
  init s := s = ∅
  step s op := some (op.apply s)

namespace TransitionSystem

variable {α : Type*} [DecidableEq α]

theorem Run.mem_iff {ops : List (SetOp α)} {s : Set α} (h : (setObject α).Run ops s) (a : α) :
    a ∈ s ↔ SetOp.last a ops = some (.insert a) := by
  refine h.invariant (I := fun ops s => a ∈ s ↔ SetOp.last a ops = some (.insert a))
    (fun s h0 => ?_) fun ops s op s' _ ih hs => ?_
  · obtain rfl : s = ∅ := h0
    simp [SetOp.last]
  · obtain rfl : op.apply s = s' := Option.some.inj hs
    rw [SetOp.mem_apply, SetOp.last_concat, ih]
    split_ifs with ha
    · simp [ha]
    · have hne : op ≠ .insert a := by
        rintro rfl
        exact ha rfl
      simp [ha, hne]

end TransitionSystem
