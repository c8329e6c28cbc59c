import SuShareApp.Library.Toggle
import SuShareApp.Library.TransitionSystem
import SuShareApp.Models

/-!
# The categories of the create form

The table of `CreateSusuViewController` shows either every category or the selected ones, and the
drop-down button switches between the two. `cellForRowAt` names the categories of the list that is
shown, but `didSelectRowAt` looks the row up in the list of all categories, and changes the selected
ones without a reload.

So a tap while every category is shown toggles the category in its row. A tap while the selected
ones are shown either toggles another category, or removes the one in its row from a table that
goes on showing it : of the sequences of presses and taps, those without such a tap keep the law
(`runWhere_lawful_iff`).
-/

namespace SuShareApp

theorem Category.mem_allCases (category : Category) : category ∈ allCases := by
  cases category <;> decide

theorem Category.categoryName_injective : Function.Injective categoryName := by
  intro c d h
  cases c <;> cases d <;> first | rfl | exact absurd h (by decide)

/-- `selectedCategories`, `showingAllCategories` and the table of the create form. -/
structure CategoryTable where
  selectedCategories : List Category
  showingAllCategories : Bool
  /-- The names in the rows of `tableView`, from its last reload. -/
  rows : List String
deriving DecidableEq, Repr

namespace CategoryTable

/-! ## The data source -/

def numberOfRowsInSection (s : CategoryTable) : ℕ :=
  if s.showingAllCategories = false then s.selectedCategories.length
  else Category.allCases.length

/-- The text of the cell, `none` where the subscript is out of range. -/
def cellForRowAt (s : CategoryTable) (row : ℕ) : Option String :=
  if s.showingAllCategories = false then s.selectedCategories[row]?.map Category.categoryName
  else Category.allCases[row]?.map Category.categoryName

/-- `tableView.reloadData()` -/
def reloadData (s : CategoryTable) : CategoryTable :=
  { s with rows := (List.range s.numberOfRowsInSection).filterMap s.cellForRowAt }

theorem filterMap_getElem?_range {α : Type*} :
    ∀ l : List α, (List.range l.length).filterMap (l[·]?) = l
  | [] => rfl
  | a :: l => by
    have ih := filterMap_getElem?_range l
    simpa [List.range_succ_eq_map, List.filterMap_map, Function.comp_def] using ih

/-- The categories that the data source serves. -/
def shown (s : CategoryTable) : List Category :=
  if s.showingAllCategories = false then s.selectedCategories else Category.allCases

theorem numberOfRowsInSection_eq (s : CategoryTable) :
    s.numberOfRowsInSection = s.shown.length := by
  unfold numberOfRowsInSection shown
  split_ifs <;> rfl

theorem cellForRowAt_eq (s : CategoryTable) (row : ℕ) :
    s.cellForRowAt row = s.shown[row]?.map Category.categoryName := by
  unfold cellForRowAt shown
  split_ifs <;> rfl

/-- The data source serves every row that it counts, and no other. -/
theorem isSome_cellForRowAt_iff (s : CategoryTable) (row : ℕ) :
    (s.cellForRowAt row).isSome ↔ row < s.numberOfRowsInSection := by
  rw [cellForRowAt_eq, numberOfRowsInSection_eq, Option.isSome_map]
  simp

/-- A reload puts the name of each category that is shown into its row. -/
theorem reloadData_rows (s : CategoryTable) :
    s.reloadData.rows = s.shown.map Category.categoryName := by
  have hcell : s.cellForRowAt = fun row => (s.shown.map Category.categoryName)[row]? := by
    funext row
    rw [cellForRowAt_eq, List.getElem?_map]
  unfold reloadData
  rw [hcell, numberOfRowsInSection_eq, ← List.length_map Category.categoryName]
  exact filterMap_getElem?_range _

/-! ## The presses and the taps -/

/-- The table after `viewDidLoad`. -/
def viewDidLoad : CategoryTable where
  selectedCategories := []
  showingAllCategories := false
  rows := []

/-- `showingAllCategories` is set, and its `didSet` reloads the table. -/
def setShowingAllCategories (s : CategoryTable) (newValue : Bool) : CategoryTable :=
  reloadData { s with showingAllCategories := newValue }

def animate (s : CategoryTable) (toogle : Bool) : CategoryTable :=
  if toogle then s.setShowingAllCategories true else s.setShowingAllCategories false

/-- `WhenClickedDropDownButton` -/
def whenClickedDropDownButton (s : CategoryTable) : CategoryTable :=
  if s.showingAllCategories then s.animate false else s.animate true

/-- `tableView(_:didSelectRowAt:)`, `none` where the subscript is out of range. -/
def didSelectRowAt (s : CategoryTable) (row : ℕ) : Option CategoryTable := do
  let item ← Category.allCases[row]?
  if item ∉ s.selectedCategories then
    return { s with selectedCategories := s.selectedCategories ++ [item] }
  match s.selectedCategories.idxOf? item with
  | some index => return { s with selectedCategories := s.selectedCategories.eraseIdx index }
  | none => return s

inductive Event
  | whenClickedDropDownButton
  | didSelectRowAt (row : ℕ)
deriving DecidableEq, Repr

/-- The form's table. A row can be tapped while it is displayed. -/
def system : TransitionSystem CategoryTable Event where
  init s := s = viewDidLoad
  step
    | s, .whenClickedDropDownButton => some s.whenClickedDropDownButton
    | s, .didSelectRowAt row => if row < s.rows.length then s.didSelectRowAt row else none

theorem whenClickedDropDownButton_eq (s : CategoryTable) :
    s.whenClickedDropDownButton = s.setShowingAllCategories (!s.showingAllCategories) := by
  unfold whenClickedDropDownButton animate
  cases s.showingAllCategories <;> rfl

/-- A tap toggles the category that has the row among all categories. -/
theorem didSelectRowAt_eq (s : CategoryTable) (row : ℕ) :
    s.didSelectRowAt row = Category.allCases[row]?.map fun item =>
      { s with selectedCategories := s.selectedCategories.toggle item } := by
  unfold didSelectRowAt List.toggle
  cases Category.allCases[row]? with
  | none => rfl
  | some item =>
    by_cases hitem : item ∈ s.selectedCategories
    · have herase := List.erase_eq_eraseIdx s.selectedCategories item
      cases hindex : s.selectedCategories.idxOf? item with
      | none => exact absurd hitem (List.idxOf?_eq_none_iff.mp hindex)
      | some index =>
        rw [hindex] at herase
        simp [hitem, hindex, herase]
    · simp [hitem]

theorem step_didSelectRowAt_eq_some {s s' : CategoryTable} {row : ℕ} :
    system.step s (.didSelectRowAt row) = some s' ↔ row < s.rows.length ∧
      ∃ item, Category.allCases[row]? = some item ∧
        s' = { s with selectedCategories := s.selectedCategories.toggle item } := by
  have heq : system.step s (.didSelectRowAt row) =
      if row < s.rows.length then s.didSelectRowAt row else none := rfl
  rw [heq, didSelectRowAt_eq]
  split_ifs with hrow
  · simp [hrow, eq_comm]
  · simp [hrow]

/-! ## What the table shows -/

theorem step_nodup {s s' : CategoryTable} {e : Event} (h : s.selectedCategories.Nodup)
    (hs : system.step s e = some s') : s'.selectedCategories.Nodup := by
  cases e with
  | whenClickedDropDownButton =>
    obtain rfl : s.whenClickedDropDownButton = s' := Option.some.inj hs
    rw [whenClickedDropDownButton_eq]
    exact h
  | didSelectRowAt row =>
    obtain ⟨-, item, -, rfl⟩ := step_didSelectRowAt_eq_some.mp hs
    exact h.toggle item

theorem nodup {es : List Event} {s : CategoryTable} (h : system.Run es s) :
    s.selectedCategories.Nodup := by
  refine h.invariant (I := fun _ s => s.selectedCategories.Nodup) ?_ ?_
  · rintro _ rfl
    exact List.nodup_nil
  · intro _ _ _ _ _ hnodup hs
    exact step_nodup hnodup hs

/-- The rows show what the data source serves. -/
def Synced (s : CategoryTable) : Prop :=
  s.rows = s.shown.map Category.categoryName

theorem Synced.length_rows {s : CategoryTable} (h : s.Synced) :
    s.rows.length = s.numberOfRowsInSection := by
  rw [h, List.length_map, numberOfRowsInSection_eq]

theorem Synced.getElem?_rows {s : CategoryTable} (h : s.Synced) (row : ℕ) :
    s.rows[row]? = s.shown[row]?.map Category.categoryName := by
  rw [h, List.getElem?_map]

theorem synced_whenClickedDropDownButton (s : CategoryTable) :
    s.whenClickedDropDownButton.Synced := by
  rw [whenClickedDropDownButton_eq]
  exact reloadData_rows _

/-- A tap changes the selected categories only, so it leaves the table of all categories as the
rows show it. -/
theorem Synced.didSelectRowAt {s s' : CategoryTable} {row : ℕ} (h : s.Synced)
    (hall : s.showingAllCategories = true) (hs : system.step s (.didSelectRowAt row) = some s') :
    s'.Synced := by
  obtain ⟨-, item, -, rfl⟩ := step_didSelectRowAt_eq_some.mp hs
  have hshown : s.shown = Category.allCases := if_neg (by simp [hall])
  have hshown' : ({ s with selectedCategories := s.selectedCategories.toggle item } :
      CategoryTable).shown = Category.allCases := if_neg (by simp [hall])
  unfold Synced at h ⊢
  rw [hshown', ← hshown]
  exact h

/-! ## The law -/

/-- What the event may do : a tap toggles the category whose name its row displays, no category is
selected twice, and the data source can serve every row that is displayed. -/
structure Lawful (s : CategoryTable) (e : Event) (s' : CategoryTable) : Prop where
  toggles : ∀ row name, e = .didSelectRowAt row → s.rows[row]? = some name →
    ∃ category : Category, category.categoryName = name ∧
      ∀ c, c ∈ s'.selectedCategories ↔ (c ∈ s.selectedCategories ↔ c ≠ category)
  nodup : s'.selectedCategories.Nodup
  rows_le : s'.rows.length ≤ s'.numberOfRowsInSection

/-- A tapped row is one of the table of all categories. -/
def TapsAll (s : CategoryTable) (e : Event) : Prop :=
  ∀ row, e = .didSelectRowAt row → s.showingAllCategories = true

theorem synced {es : List Event} {s : CategoryTable} (h : system.RunWhere TapsAll es s) :
    s.Synced := by
  refine h.invariant (I := fun _ s => s.Synced) ?_ ?_
  · rintro _ rfl
    rfl
  · intro _ s e s' _ hsynced htaps hs
    cases e with
    | whenClickedDropDownButton =>
      obtain rfl : s.whenClickedDropDownButton = s' := Option.some.inj hs
      exact s.synced_whenClickedDropDownButton
    | didSelectRowAt row => exact hsynced.didSelectRowAt (htaps row rfl) hs

theorem lawful_whenClickedDropDownButton {s s' : CategoryTable} (h : s.selectedCategories.Nodup)
    (hs : system.step s .whenClickedDropDownButton = some s') :
    Lawful s .whenClickedDropDownButton s' := by
  refine ⟨fun _ _ he => Event.noConfusion he, step_nodup h hs, ?_⟩
  obtain rfl : s.whenClickedDropDownButton = s' := Option.some.inj hs
  exact s.synced_whenClickedDropDownButton.length_rows.le

/-- A tap while the selected categories are shown breaks the law : it toggles another category than
its row displays, or leaves the row of a category that is no longer selected. -/
theorem Synced.not_lawful_didSelectRowAt {s s' : CategoryTable} {row : ℕ} (h : s.Synced)
    (hnodup : s.selectedCategories.Nodup) (hall : s.showingAllCategories = false)
    (hs : system.step s (.didSelectRowAt row) = some s') :
    ¬ Lawful s (.didSelectRowAt row) s' := by
  intro hlawful
  obtain ⟨hrow, item, -, rfl⟩ := step_didSelectRowAt_eq_some.mp hs
  have hlength := h.length_rows
  have hshown : s.shown = s.selectedCategories := if_pos hall
  rw [numberOfRowsInSection_eq, hshown] at hlength
  rw [hlength] at hrow
  have hname : s.rows[row]? = some s.selectedCategories[row].categoryName := by
    rw [h.getElem?_rows, hshown, List.getElem?_eq_getElem hrow, Option.map_some]
  obtain ⟨category, hcategory, htoggles⟩ := hlawful.toggles row _ rfl hname
  have hmem : category ∈ s.selectedCategories := by
    rw [Category.categoryName_injective hcategory]
    exact List.getElem_mem hrow
  have hitem : category = item := by
    have := (List.mem_toggle hnodup (a := item)).symm.trans (htoggles category)
    tauto
  subst hitem
  -- the row of the category stays, though the data source serves one row less
  have hle : s.rows.length ≤ (s.selectedCategories.toggle category).length := by
    have hserved : ({ s with selectedCategories := s.selectedCategories.toggle category } :
        CategoryTable).numberOfRowsInSection = (s.selectedCategories.toggle category).length :=
      if_pos hall
    exact hserved ▸ hlawful.rows_le
  have herase := List.length_erase_of_mem hmem
  rw [List.toggle, if_pos hmem] at hle
  omega

/-- A tap while every category is shown is lawful. -/
theorem Synced.lawful_didSelectRowAt {s s' : CategoryTable} {row : ℕ} (h : s.Synced)
    (hnodup : s.selectedCategories.Nodup) (hall : s.showingAllCategories = true)
    (hs : system.step s (.didSelectRowAt row) = some s') :
    Lawful s (.didSelectRowAt row) s' := by
  refine ⟨fun row' name he hname => ?_, step_nodup hnodup hs, ?_⟩
  · obtain rfl := Event.didSelectRowAt.inj he
    obtain ⟨-, item, hitem, rfl⟩ := step_didSelectRowAt_eq_some.mp hs
    have hshown : s.shown = Category.allCases := if_neg (by simp [hall])
    rw [h.getElem?_rows, hshown, hitem] at hname
    exact ⟨item, Option.some.inj hname, fun c => List.mem_toggle hnodup⟩
  · exact (h.didSelectRowAt hall hs).length_rows.le

/-- A run keeps the law exactly if each of its taps is on a row of the table of all categories. -/
theorem runWhere_lawful_iff (es : List Event) (s : CategoryTable) :
    system.RunWhere (fun s e => ∀ s', system.step s e = some s' → Lawful s e s') es s ↔
      system.RunWhere TapsAll es s := by
  refine TransitionSystem.runWhere_congr ?_
  intro es s e s' h hs
  have hnodup := nodup h.run
  cases e with
  | whenClickedDropDownButton =>
    refine iff_of_true (fun _ hs => lawful_whenClickedDropDownButton hnodup hs) ?_
    exact fun _ he => Event.noConfusion he
  | didSelectRowAt row =>
    constructor
    · intro hlawful row' _
      by_contra hall
      exact (synced h).not_lawful_didSelectRowAt hnodup (by simpa using hall) hs (hlawful s' hs)
    · intro htaps s' hs
      exact (synced h).lawful_didSelectRowAt hnodup (htaps row rfl) hs

/-- Select "travel", and go back to the selected categories. -/
def selectingTravel : List Event :=
  [.whenClickedDropDownButton, .didSelectRowAt 2, .whenClickedDropDownButton]

def travelSelected : CategoryTable where
  selectedCategories := [.travel]
  showingAllCategories := false
  rows := ["travel"]

/-- A tap on "travel", the only row, adds "technology". -/
theorem not_lawful :
    ¬ ∀ es s e s', system.Run es s → system.step s e = some s' → Lawful s e s' := by
  intro h
  have hrun : system.Run selectingTravel travelSelected :=
    TransitionSystem.run_of_exec rfl (by decide +kernel)
  have hlawful := h _ _ (.didSelectRowAt 0)
    { travelSelected with selectedCategories := [.travel, .technology] } hrun (by decide +kernel)
  obtain ⟨category, hcategory, htoggles⟩ := hlawful.toggles 0 "travel" rfl rfl
  obtain rfl : category = .travel := Category.categoryName_injective hcategory
  exact absurd (htoggles .technology) (by decide)

/-! ### No tap traps -/

theorem Synced.length_rows_le {s : CategoryTable} (h : s.Synced)
    (hnodup : s.selectedCategories.Nodup) : s.rows.length ≤ Category.allCases.length := by
  rw [h.length_rows, numberOfRowsInSection_eq]
  unfold shown
  split_ifs
  · exact (hnodup.subperm fun c _ => c.mem_allCases).length_le
  · exact le_rfl

/-- A tap leaves the rows alone, so there are never more than there are categories. -/
theorem length_rows_le {es : List Event} {s : CategoryTable} (h : system.Run es s) :
    s.rows.length ≤ Category.allCases.length := by
  refine h.invariant (I := fun _ s => s.rows.length ≤ Category.allCases.length) ?_ ?_
  · rintro _ rfl
    exact Nat.zero_le _
  · intro es s e s' hrun hle hs
    cases e with
    | whenClickedDropDownButton =>
      have hnodup := nodup (hrun.snoc hs)
      obtain rfl : s.whenClickedDropDownButton = s' := Option.some.inj hs
      exact s.synced_whenClickedDropDownButton.length_rows_le hnodup
    | didSelectRowAt row =>
      obtain ⟨-, item, -, rfl⟩ := step_didSelectRowAt_eq_some.mp hs
      exact hle

/-- Every displayed row can be tapped : its index is one of `Category.allCases`. -/
theorem exists_step_didSelectRowAt {es : List Event} {s : CategoryTable} (h : system.Run es s)
    {row : ℕ} (hrow : row < s.rows.length) :
    ∃ s', system.step s (.didSelectRowAt row) = some s' := by
  have hlt := hrow.trans_le (length_rows_le h)
  exact ⟨_, step_didSelectRowAt_eq_some.mpr ⟨hrow, _, List.getElem?_eq_getElem hlt, rfl⟩⟩

end CategoryTable

end SuShareApp
