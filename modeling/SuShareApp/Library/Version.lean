import Mathlib.Data.List.Nodup
import Mathlib.Logic.Relation

/-!
# Lists overwritten from stale copies

A client that reads a shared list, appends to its copy and writes the copy back may
start from a copy that other writes have left behind. The list it writes is then not an
extension of the list it overwrites, but it is still one append away from some earlier
value. `Version A c xs` says that `xs` is reached from `[c]` by such appends, where
`A ys y` says that `y` was appended to the copy `ys`.

A property of a single list that every allowed append keeps holds of every version,
however stale the copies were (`Version.induction`). What a stale copy does break is a
property of two successive values, such as being an extension.
-/

variable {α : Type*}

/-- `ys` is the copy `xs` with one element appended, as `A` allows. -/
def Appends (A : List α → α → Prop) (xs ys : List α) : Prop :=
  ∃ y, A xs y ∧ ys = xs ++ [y]

/-- The lists reached from `[c]` by the appends that `A` allows. -/
def Version (A : List α → α → Prop) (c : α) : List α → Prop :=
  Relation.ReflTransGen (Appends A) [c]

namespace Version

variable {A B : List α → α → Prop} {c : α} {xs : List α}

theorem singleton : Version A c [c] :=
  .refl

theorem append (h : Version A c xs) {y : α} (hy : A xs y) : Version A c (xs ++ [y]) :=
  h.tail ⟨y, hy, rfl⟩

theorem mono (hAB : ∀ ys y, A ys y → B ys y) (h : Version A c xs) : Version B c xs :=
  Relation.ReflTransGen.mono (fun _ _ ⟨y, hy, he⟩ => ⟨y, hAB _ _ hy, he⟩) _ _ h

/-- A property of `[c]` that every allowed append keeps holds of every version. -/
theorem induction {P : List α → Prop} (h0 : P [c]) (hP : ∀ ys y, P ys → A ys y → P (ys ++ [y]))
    (h : Version A c xs) : P xs := by
  induction h with
  | refl => exact h0
  | tail _ hs ih =>
    obtain ⟨y, hy, rfl⟩ := hs
    exact hP _ _ ih hy

/-- A version starts with `c`, and every later element was appended to some copy. -/
theorem exists_eq_cons (h : Version A c xs) :
    ∃ ys, xs = c :: ys ∧ ∀ y ∈ ys, ∃ zs, A zs y := by
  refine h.induction (P := fun xs => ∃ ys, xs = c :: ys ∧ ∀ y ∈ ys, ∃ zs, A zs y)
    ⟨[], rfl, by simp⟩ ?_
  rintro _ y ⟨ys, rfl, hys⟩ hy
  refine ⟨ys ++ [y], rfl, fun z hz => ?_⟩
  rcases List.mem_append.mp hz with hz | hz
  · exact hys z hz
  · rw [List.mem_singleton.mp hz]
    exact ⟨_, hy⟩

theorem mem_head (h : Version A c xs) : c ∈ xs := by
  obtain ⟨ys, rfl, -⟩ := h.exists_eq_cons
  exact List.mem_cons_self

/-- If nobody is appended to a copy that already has him, no version has an element
twice. -/
theorem nodup (hA : ∀ ys y, A ys y → y ∉ ys) (h : Version A c xs) : xs.Nodup := by
  refine h.induction (List.nodup_singleton c) fun ys y hn hy => ?_
  exact List.nodup_append.mpr ⟨hn, List.nodup_singleton y, fun a ha b hb => by
    rw [List.mem_singleton.mp hb]
    exact fun he => hA ys y hy (he ▸ ha)⟩

/-- If nothing is appended to a copy of length `n` or more, no version is longer. -/
theorem length_le {n : ℕ} (hn : 1 ≤ n) (hA : ∀ ys y, A ys y → ys.length < n)
    (h : Version A c xs) : xs.length ≤ n := by
  refine h.induction (P := fun xs => xs.length ≤ n) (by simpa using hn) fun ys y _ hy => ?_
  rw [List.length_append, List.length_singleton]
  exact hA ys y hy

end Version
