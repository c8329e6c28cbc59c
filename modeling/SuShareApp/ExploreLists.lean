import SuShareApp.ExploreFilters
import SuShareApp.Library.Toggle

/-!
# What the Explore screen keeps

`originalSusus` is the catalogue of the latest snapshot (`originalSusus_after`), and
`currentTags` is what the tag presses leave when each of them toggles its tag
(`currentTags_after`). As long as nothing is searched, the list on screen is the catalogue of
the latest snapshot whenever no tag is pressed, and after a press it depends on which tags are
pressed, and not on their order (`tags_parity`).

Whatever was searched and pressed, the list on screen was selected from one catalogue, which
need not be the latest (`selection_of_one_snapshot`).
-/

namespace SuShareApp

/-! ## The past of a session -/

/-- The tag that the event presses. -/
def SessionEvent.pressed? : SessionEvent → Option ℤ
  | .event (.tagButtonPressed tag) => some tag
  | _ => none

/-- The catalogue that the event delivers. -/
def SessionEvent.catalogue? : SessionEvent → Option (List SuShare)
  | .snapshot now documents => some (ExploreViewController.catalogue now documents)
  | _ => none

namespace Session

open ExploreViewController Filters

/-- The tags that were pressed, in order. -/
def presses (es : List SessionEvent) : List ℤ :=
  es.filterMap SessionEvent.pressed?

/-- The catalogue of the latest snapshot. -/
def latest (es : List SessionEvent) : List SuShare :=
  (es.filterMap SessionEvent.catalogue?).getLastD []

/-- Nothing was searched. -/
def Unsearched (es : List SessionEvent) : Prop :=
  ∀ text, .event (.searchBarSearchButtonClicked text) ∉ es

variable {t : TextSearch} {es : List SessionEvent} {e : SessionEvent}

theorem presses_append (es fs : List SessionEvent) :
    presses (es ++ fs) = presses es ++ presses fs :=
  List.filterMap_append

theorem latest_append_snapshot (es : List SessionEvent) (now : Timestamp)
    (documents : List Dictionary) : latest (es ++ [.snapshot now documents]) =
      catalogue now documents := by
  simp [latest, SessionEvent.catalogue?]

theorem latest_append_event (es : List SessionEvent) (e : ExploreEvent) :
    latest (es ++ [.event e]) = latest es := by
  simp [latest, SessionEvent.catalogue?]

theorem Unsearched.of_append {fs : List SessionEvent} (h : Unsearched (es ++ fs)) :
    Unsearched es :=
  fun text hmem => h text (List.mem_append_left _ hmem)

/-- The latest catalogue is that of a snapshot. -/
theorem exists_latest_eq (h : latest es ≠ []) : ∃ now documents, .snapshot now documents ∈ es ∧
    latest es = catalogue now documents := by
  induction es using List.reverseRecOn with
  | nil => exact absurd rfl h
  | append_singleton es e ih =>
    cases e with
    | snapshot now documents =>
      exact ⟨now, documents, by simp, latest_append_snapshot es now documents⟩
    | event e =>
      rw [latest_append_event] at h ⊢
      obtain ⟨now, documents, hmem, heq⟩ := ih h
      exact ⟨now, documents, List.mem_append_left _ hmem, heq⟩

/-! ## The three variables -/

theorem after_snapshot (t : TextSearch) (es : List SessionEvent) (now : Timestamp)
    (documents : List Dictionary) :
    (after t (es ++ [.snapshot now documents])).vc = (after t es).vc.snapshot now documents := by
  rw [after_append, step]

theorem after_press (t : TextSearch) (es : List SessionEvent) (tag : ℤ) :
    (after t (es ++ [.event (.tagButtonPressed tag)])).vc = ((after t es).vc.tagFilter tag).2 := by
  rw [after_append, step, ExploreViewController.handle]

theorem after_search (t : TextSearch) (es : List SessionEvent) (text : Option String) :
    (after t (es ++ [.event (.searchBarSearchButtonClicked text)])).vc =
      (after t es).vc.searchBarSearchButtonClicked t text := by
  rw [after_append, step, ExploreViewController.handle]

theorem originalSusus_after (t : TextSearch) (es : List SessionEvent) :
    (after t es).vc.originalSusus = latest es := by
  induction es using List.reverseRecOn with
  | nil => rfl
  | append_singleton es e ih =>
    cases e with
    | snapshot now documents => rw [latest_append_snapshot, after_snapshot, snapshot_eq]
    | event e =>
      rw [latest_append_event, ← ih]
      cases e with
      | tagButtonPressed tag => rw [after_press, tagFilter_eq]
      | searchBarSearchButtonClicked text => rw [after_search, searchBarSearchButtonClicked_eq]

theorem currentTags_after (t : TextSearch) (es : List SessionEvent) :
    (after t es).vc.currentTags = (presses es).foldl List.toggle [] := by
  induction es using List.reverseRecOn with
  | nil => rfl
  | append_singleton es e ih =>
    rw [presses_append, List.foldl_append, ← ih]
    cases e with
    | snapshot now documents =>
      rw [after_snapshot, snapshot_eq]
      rfl
    | event e =>
      cases e with
      | tagButtonPressed tag =>
        rw [after_press, tagFilter_eq]
        rfl
      | searchBarSearchButtonClicked text =>
        rw [after_search, searchBarSearchButtonClicked_eq]
        rfl

theorem currentQuery_after (t : TextSearch) (h : Unsearched es) :
    (after t es).vc.currentQuery = "" := by
  induction es using List.reverseRecOn with
  | nil => rfl
  | append_singleton es e ih =>
    cases e with
    | snapshot now documents =>
      rw [after_snapshot, snapshot_eq]
      exact ih h.of_append
    | event e =>
      cases e with
      | tagButtonPressed tag =>
        rw [after_press, tagFilter_eq]
        exact ih h.of_append
      | searchBarSearchButtonClicked text => exact absurd (by simp) (h text)

/-! ## Tags -/

theorem toggle_eq (tags : List ℤ) (tag : ℤ) : Filters.toggle tags tag = tags.toggle tag :=
  rfl

/-- What a press puts on screen, if nothing was searched. -/
theorem currentSusus_press (h : Unsearched es) (tag : ℤ) :
    (after t (es ++ [.event (.tagButtonPressed tag)])).vc.currentSusus =
      if (after t es).vc.currentTags.toggle tag = [] then latest es
      else (latest es).filter (hasTag ((after t es).vc.currentTags.toggle tag)) := by
  rw [after_press, tagFilter_eq, currentQuery_after t h, originalSusus_after]
  simp only [toggle_eq, and_true]

/-- With no tag pressed, the latest catalogue is on screen. -/
theorem currentSusus_of_currentTags (t : TextSearch) (h : Unsearched es)
    (htags : (after t es).vc.currentTags = []) : (after t es).vc.currentSusus = latest es := by
  induction es using List.reverseRecOn with
  | nil => rfl
  | append_singleton es e ih =>
    cases e with
    | snapshot now documents =>
      have hquery := currentQuery_after t h.of_append
      rw [after_snapshot, snapshot_eq] at htags ⊢
      rw [latest_append_snapshot]
      exact if_pos (Or.inl ⟨htags, hquery⟩)
    | event e =>
      cases e with
      | tagButtonPressed tag =>
        rw [currentSusus_press h.of_append, latest_append_event]
        rw [after_press, tagFilter_eq] at htags
        exact if_pos htags
      | searchBarSearchButtonClicked text => exact absurd (by simp) (h text)

/-- A list of tags decides by what is in it. -/
theorem hasTag_congr {tags tags' : List ℤ} (h : tags.Perm tags') : hasTag tags = hasTag tags' := by
  funext s
  rw [hasTag, hasTag, Bool.eq_iff_iff, List.contains_iff_mem, List.contains_iff_mem, h.mem_iff]

/-- A press returns whether it put its tag among the pressed ones. -/
theorem tagFilter_fst (vc : ExploreViewController) (hnodup : vc.currentTags.Nodup) (tag : ℤ) :
    (vc.tagFilter tag).1 = true ↔
      tag ∉ vc.currentTags ∧ tag ∈ (vc.tagFilter tag).2.currentTags := by
  have hmem : tag ∈ (vc.tagFilter tag).2.currentTags ↔ tag ∉ vc.currentTags := by
    rw [tagFilter_eq]
    exact (List.mem_toggle hnodup).trans (by simp)
  rw [hmem, and_self]
  unfold ExploreViewController.tagFilter
  by_cases htag : tag ∈ vc.currentTags
  · simp only [htag, if_true]
    split_ifs <;> simp
  · simp [htag]

/-- The presses of the tags. -/
def pressing (tags : List ℤ) : List SessionEvent :=
  tags.map fun tag => .event (.tagButtonPressed tag)

theorem presses_pressing (tags : List ℤ) : presses (pressing tags) = tags := by
  rw [presses, pressing, List.filterMap_map]
  exact List.filterMap_some

theorem latest_append_pressing (es : List SessionEvent) (tags : List ℤ) :
    latest (es ++ pressing tags) = latest es := by
  induction tags using List.reverseRecOn with
  | nil => simp [pressing]
  | append_singleton tags tag ih =>
    rw [pressing, List.map_append, ← pressing, ← List.append_assoc]
    exact (latest_append_event _ _).trans ih

theorem Unsearched.append_pressing (h : Unsearched es) (tags : List ℤ) :
    Unsearched (es ++ pressing tags) := by
  intro text hmem
  rcases List.mem_append.mp hmem with hmem | hmem
  · exact h text hmem
  · simp [pressing] at hmem

/-- After a press the list on screen is determined by the pressed tags. -/
theorem currentSusus_append_pressing (h : Unsearched es) {tags : List ℤ} (hne : tags ≠ []) :
    (after t (es ++ pressing tags)).vc.currentSusus =
      if (presses es ++ tags).foldl List.toggle [] = [] then latest es
      else (latest es).filter (hasTag ((presses es ++ tags).foldl List.toggle [])) := by
  obtain ⟨tags, tag, rfl⟩ := (List.eq_nil_or_concat' tags).resolve_left hne
  have hsplit : es ++ pressing (tags ++ [tag]) =
      es ++ pressing tags ++ [.event (.tagButtonPressed tag)] := by
    simp [pressing]
  rw [hsplit, currentSusus_press (h.append_pressing tags), currentTags_after,
    latest_append_pressing, presses_append, presses_pressing, ← List.append_assoc,
    List.foldl_concat]

/-- The order of presses in a row does not show. -/
theorem currentSusus_perm (h : Unsearched es) {tags tags' : List ℤ} (hp : tags.Perm tags') :
    (after t (es ++ pressing tags)).vc.currentSusus =
      (after t (es ++ pressing tags')).vc.currentSusus := by
  rcases eq_or_ne tags [] with rfl | hne
  · rw [hp.nil_eq]
  · have hne' : tags' ≠ [] := fun hnil => hne (List.perm_nil.mp (hnil ▸ hp))
    have hfold : ((presses es ++ tags).foldl List.toggle []).Perm
        ((presses es ++ tags').foldl List.toggle []) :=
      List.foldl_toggle_perm List.nodup_nil (hp.append_left _)
    rw [currentSusus_append_pressing h hne, currentSusus_append_pressing h hne',
      hasTag_congr hfold]
    simp only [← List.length_eq_zero_iff, hfold.length_eq]

/-- Without a search, the tags are those that were pressed an odd number of times, a press
returns whether it put its tag there, the latest catalogue is on screen whenever there is none,
and the order of presses in a row does not show. -/
theorem tags_parity (t : TextSearch) (h : Unsearched es) :
    (after t es).vc.currentTags.Nodup ∧
    (∀ tag, tag ∈ (after t es).vc.currentTags ↔ Odd ((presses es).count tag)) ∧
    (∀ tag, ((after t es).vc.tagFilter tag).1 = true ↔ tag ∉ (after t es).vc.currentTags ∧
      tag ∈ ((after t es).vc.tagFilter tag).2.currentTags) ∧
    ((after t es).vc.currentTags = [] → (after t es).vc.currentSusus = latest es) ∧
    ∀ pre tags tags', es = pre ++ pressing tags → tags.Perm tags' →
      (after t (pre ++ pressing tags')).vc.currentSusus = (after t es).vc.currentSusus := by
  have htags := currentTags_after t es
  have hnodup : (after t es).vc.currentTags.Nodup := by
    rw [htags]
    exact List.nodup_nil.foldl_toggle _
  refine ⟨hnodup, fun tag => ?_, tagFilter_fst _ hnodup, currentSusus_of_currentTags t h, ?_⟩
  · rw [htags, List.mem_foldl_toggle_nil]
  · rintro pre tags tags' rfl hp
    exact (currentSusus_perm h.of_append hp).symm

/-- The sofa is on screen while furniture is pressed, whichever tag was pressed first. -/
theorem tags_parity_sofa :
    (after ascii ([.snapshot ⟨0, 0⟩ [sofa false]] ++ pressing [3, 1])).vc.currentSusus =
      (after ascii ([.snapshot ⟨0, 0⟩ [sofa false]] ++ pressing [1, 3])).vc.currentSusus := by
  have h : Unsearched ([.snapshot ⟨0, 0⟩ [sofa false]] ++ pressing [1, 3]) := by
    simp [Unsearched, pressing]
  obtain ⟨-, -, -, -, hperm⟩ := tags_parity ascii h
  exact hperm _ _ _ rfl (List.Perm.swap _ _ _)

/-! ## One catalogue -/

theorem originalSusus_handle (t : TextSearch) (vc : ExploreViewController) (e : ExploreEvent) :
    (vc.handle t e).originalSusus = vc.originalSusus := by
  cases e with
  | tagButtonPressed tag => rw [ExploreViewController.handle, tagFilter_eq]
  | searchBarSearchButtonClicked text =>
    rw [ExploreViewController.handle, searchBarSearchButtonClicked_eq]

/-- A press or a search selects from the catalogue of the latest snapshot. -/
theorem currentSusus_handle_sublist (t : TextSearch) (vc : ExploreViewController)
    (e : ExploreEvent) : (vc.handle t e).currentSusus.Sublist vc.originalSusus := by
  cases e with
  | tagButtonPressed tag =>
    rw [ExploreViewController.handle, tagFilter_eq]
    dsimp only
    split_ifs
    · exact List.Sublist.refl _
    · exact List.filter_sublist
  | searchBarSearchButtonClicked text =>
    rw [ExploreViewController.handle, searchBarSearchButtonClicked_eq]
    dsimp only
    split_ifs
    · exact List.Sublist.refl _
    · exact List.filter_sublist
    · exact List.filter_sublist

/-- The list was selected from the catalogue of a snapshot. -/
def SelectedIn (es : List SessionEvent) (susus : List SuShare) : Prop :=
  ∃ now documents, .snapshot now documents ∈ es ∧ susus.Sublist (catalogue now documents)

theorem SelectedIn.append {susus : List SuShare} (h : SelectedIn es susus) (e : SessionEvent) :
    SelectedIn (es ++ [e]) susus := by
  obtain ⟨now, documents, hmem, hsub⟩ := h
  exact ⟨now, documents, List.mem_append_left _ hmem, hsub⟩

/-- What is on screen was selected from one catalogue. -/
theorem selectedIn_currentSusus (t : TextSearch) (es : List SessionEvent) :
    (after t es).vc.currentSusus ≠ [] → SelectedIn es (after t es).vc.currentSusus := by
  induction es using List.reverseRecOn with
  | nil => exact fun hne => absurd rfl hne
  | append_singleton es e ih =>
    cases e with
    | snapshot now documents =>
      rw [after_snapshot, snapshot_eq]
      dsimp only
      split_ifs
      · exact fun _ => ⟨now, documents, by simp, List.Sublist.refl _⟩
      · -- the list stays, and so does the snapshot that it comes from
        exact fun hne => (ih hne).append _
    | event e =>
      rw [after_append]
      intro hne
      have hsub := currentSusus_handle_sublist t (after t es).vc e
      rw [originalSusus_after] at hsub
      have hlatest : latest es ≠ [] := fun hnil => hne (List.sublist_nil.mp (hnil ▸ hsub))
      obtain ⟨now, documents, hmem, heq⟩ := exists_latest_eq hlatest
      exact ⟨now, documents, List.mem_append_left _ hmem, heq ▸ hsub⟩

/-- After a snapshot, the list on screen is a part of the unflagged documents of one snapshot,
in their order from newest to oldest, each at most once. -/
theorem selection_of_one_snapshot (t : TextSearch)
    (h : ∃ now documents, .snapshot now documents ∈ es) :
    ∃ now documents, .snapshot now documents ∈ es ∧
      (after t es).vc.currentSusus.Sublist (catalogue now documents) ∧
      (catalogue now documents).Pairwise Newer ∧
      (catalogue now documents).Perm
        ((documents.map (SuShare.init now)).filter fun s => s.isTheSuShareFlagged ≠ true) := by
  have hselected : SelectedIn es (after t es).vc.currentSusus := by
    rcases eq_or_ne (after t es).vc.currentSusus [] with hnil | hne
    · obtain ⟨now, documents, hmem⟩ := h
      exact ⟨now, documents, hmem, hnil ▸ List.nil_sublist _⟩
    · exact selectedIn_currentSusus t es hne
  obtain ⟨now, documents, hmem, hsub⟩ := hselected
  exact ⟨now, documents, hmem, hsub, List.pairwise_insertionSort _ _,
    List.perm_insertionSort _ _⟩

/-- A later snapshot flags the sofa while furniture is pressed. -/
def flaggingSofa : List SessionEvent :=
  [.snapshot ⟨0, 0⟩ [sofa false], .event (.tagButtonPressed 3), .snapshot ⟨1, 0⟩ [sofa true]]

theorem selection_of_one_snapshot_flaggingSofa :
    ∃ now documents, .snapshot now documents ∈ flaggingSofa ∧
      (after ascii flaggingSofa).vc.currentSusus.Sublist (catalogue now documents) := by
  have hsnapshot : ∃ now documents, .snapshot now documents ∈ flaggingSofa :=
    ⟨⟨0, 0⟩, [sofa false], by simp [flaggingSofa]⟩
  obtain ⟨now, documents, hmem, hsub, -⟩ := selection_of_one_snapshot ascii hsnapshot
  exact ⟨now, documents, hmem, hsub⟩

end Session

end SuShareApp
