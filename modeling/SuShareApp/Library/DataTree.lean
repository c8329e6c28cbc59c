import Mathlib.Data.List.Infix

/-!
# A tree of named children

A database of nested objects has its values at the leaves of a tree, and a node is there as long
as a leaf is below it. So the tree is the list of its leaves, each with the path that leads to it.

`get` is the subtree at a path, and `set` puts a tree in its place. Below the path that is written
one reads what was written (`get_set_append`), and beside it what was there (`get_set_of_disjoint`,
`get_set_append_of_ne`).
-/

/-- A tree with values `V` at its leaves, each at the end of a path of names. -/
structure DataTree (K V : Type*) where
  leaves : List (List K × V)
deriving DecidableEq, Repr

namespace DataTree

variable {K V : Type*}

/-- The tree with nothing in it. -/
def null : DataTree K V := ⟨[]⟩

/-- A value that is not an object. -/
def leaf (v : V) : DataTree K V := ⟨[([], v)]⟩

variable [DecidableEq K]

/-- The subtree at the end of the path. -/
def get (t : DataTree K V) (path : List K) : DataTree K V where
  leaves := t.leaves.filterMap fun (p, v) =>
    if path <+: p then some (p.drop path.length, v) else none

/-- The tree with `value` at the end of the path. A value on the way there gives way to it, unless
it is `null`. -/
def set (t : DataTree K V) (path : List K) (value : DataTree K V) : DataTree K V where
  leaves :=
    (t.leaves.filter fun (p, _) => ¬ path <+: p ∧ (value.leaves.isEmpty ∨ ¬ p <+: path)) ++
      value.leaves.map fun (p, v) => (path ++ p, v)

@[simp] theorem get_nil (t : DataTree K V) : t.get [] = t := by
  obtain ⟨leaves⟩ := t
  simp [get]

/-- A subtree of a subtree. -/
theorem get_get (t : DataTree K V) (path q : List K) : (t.get path).get q = t.get (path ++ q) := by
  simp only [get, mk.injEq, List.filterMap_filterMap]
  refine List.filterMap_congr fun ⟨p, v⟩ _ => ?_
  by_cases h : path <+: p
  · obtain ⟨p, rfl⟩ := h
    simp [List.prefix_append_right_inj]
  · have h' : ¬ path ++ q <+: p := fun h' => h ((List.prefix_append path q).trans h')
    simp [h, h']

theorem get_set_append (t : DataTree K V) (path q : List K) (value : DataTree K V) :
    (t.set path value).get (path ++ q) = value.get q := by
  simp only [get, set, mk.injEq, List.filterMap_append, List.filterMap_map]
  have hold : (t.leaves.filter fun (p, _) =>
      ¬ path <+: p ∧ (value.leaves.isEmpty ∨ ¬ p <+: path)).filterMap (fun (p, v) =>
        if path ++ q <+: p then some (p.drop (path ++ q).length, v) else none) = [] := by
    rw [List.filterMap_eq_nil_iff]
    rintro ⟨p, v⟩ hp
    have hpath : ¬ path <+: p := (of_decide_eq_true (List.mem_filter.mp hp).2).1
    exact if_neg fun h => hpath ((List.prefix_append path q).trans h)
  rw [hold, List.nil_append]
  refine List.filterMap_congr fun ⟨p, v⟩ _ => ?_
  simp

@[simp] theorem get_set_self (t : DataTree K V) (path : List K) (value : DataTree K V) :
    (t.set path value).get path = value := by
  simpa using t.get_set_append path [] value

theorem get_set_of_disjoint (t : DataTree K V) {path q : List K} (h : ¬ path <+: q)
    (h' : ¬ q <+: path) (value : DataTree K V) : (t.set path value).get q = t.get q := by
  simp only [get, set, mk.injEq, List.filterMap_append, List.filterMap_map, List.filterMap_filter]
  have hnew : value.leaves.filterMap ((fun (p, v) =>
      if q <+: p then some (p.drop q.length, v) else none) ∘ fun (p, v) => (path ++ p, v)) =
        [] := by
    rw [List.filterMap_eq_nil_iff]
    rintro ⟨p, v⟩ -
    exact if_neg fun hq =>
      (List.prefix_or_prefix_of_prefix (List.prefix_append path p) hq).elim h h'
  rw [hnew, List.append_nil]
  refine List.filterMap_congr fun ⟨p, v⟩ _ => ?_
  by_cases hq : q <+: p
  · have hp : ¬ path <+: p := fun hp => (List.prefix_or_prefix_of_prefix hp hq).elim h h'
    have hp' : ¬ p <+: path := fun hp' => h' (hq.trans hp')
    simp [hq, hp, hp']
  · simp [hq]

/-- Subtrees at two nodes of one depth are apart. -/
theorem get_set_append_of_ne (t : DataTree K V) {path q : List K} (hlength : path.length = q.length)
    (hne : path ≠ q) (below below' : List K) (value : DataTree K V) :
    (t.set (path ++ below) value).get (q ++ below') = t.get (q ++ below') := by
  have happart : ∀ {r : List K}, path <+: r → q <+: r → False := fun hp hq =>
    hne ((List.prefix_of_prefix_length_le hp hq hlength.le).eq_of_length hlength)
  refine t.get_set_of_disjoint (fun h => ?_) (fun h => ?_) value
  · exact happart ((List.prefix_append path below).trans h) (List.prefix_append q below')
  · exact happart (List.prefix_append path below) ((List.prefix_append q below').trans h)

end DataTree
