import SuShareApp.ExploreLists

/-!
# What a snapshot leaves on the Explore screen

A snapshot recomputes the displayed list only if no filter is active, or if it shows nothing.
Otherwise the list stays as it is, whatever became of the SuShares on it. So what is on screen
after a snapshot is right only if nothing became of them : the list was taken from an earlier
snapshot, and this one has the documents of its SuShares as they were. And the press or the
search that made the list must have let through nothing that the filters keep out
(`respected_iff`).
-/

namespace SuShareApp

namespace Session

open ExploreViewController Filters

/-- Every SuShare on screen is a document of the snapshot, is not flagged in it, and passes
the filters. -/
def Respects (t : TextSearch) (documents : List Dictionary) (x : Session) : Prop :=
  ∀ s ∈ x.vc.currentSusus, (∃ now, ∃ doc ∈ documents, s = SuShare.init now doc) ∧
    s.isTheSuShareFlagged = false ∧ x.filters.selects t s = true

/-- No tag is pressed, and no query was entered. -/
def Inactive (x : Session) : Prop :=
  x.filters.tags = [] ∧ x.vc.currentQuery = ""

instance (x : Session) : Decidable x.Inactive :=
  inferInstanceAs (Decidable (_ ∧ _))

/-! ## The past of the list on screen -/

/-- The documents of a snapshot, and when they were decoded. -/
structure Delivery where
  now : Timestamp
  documents : List Dictionary

/-- A session, with the latest snapshot, the snapshot that the list on screen was taken from, and
the last press or search and the session that it found. -/
structure Traced where
  session : Session
  latest : Delivery
  source : Delivery
  press : Option (Session × ExploreEvent)

namespace Traced

/-- A press and a search take the list from the latest snapshot. A snapshot is taken itself where
the handler shows it. -/
def step (t : TextSearch) (x : Traced) : SessionEvent → Traced
  | .snapshot now documents =>
    { x with
      session := x.session.step t (.snapshot now documents)
      latest := ⟨now, documents⟩
      source :=
        if x.session.Inactive ∨ x.session.vc.currentSusus = [] then ⟨now, documents⟩
        else x.source }
  | .event e =>
    { x with
      session := x.session.step t (.event e)
      source := x.latest
      press := some (x.session, e) }

end Traced

/-- The session after the events, with its past. -/
def traced (t : TextSearch) (es : List SessionEvent) : Traced :=
  es.foldl (Traced.step t) ⟨start, ⟨⟨0, 0⟩, []⟩, ⟨⟨0, 0⟩, []⟩, none⟩

/-- The rule of the handler lets through nothing of the catalogue that the filters keep out :

* for a tag press, what has a pressed first category has a pressed category, and matches the
  text of the last search;
* for a search while a tag is pressed, what matches its text has a pressed category, and if
  there is no text, then what has a pressed first category. -/
def LetsThrough (t : TextSearch) (x : Session) : ExploreEvent → Prop
  | .tagButtonPressed tag => ∀ s ∈ x.vc.originalSusus,
    hasTag (toggle x.filters.tags tag) s = true →
      hasCategory (toggle x.filters.tags tag) s = true ∧ matchesText t x.filters.text s = true
  | .searchBarSearchButtonClicked text =>
    x.filters.tags = [] ∨
      if submitted t text = "" then ∀ s ∈ x.vc.originalSusus, hasTag x.filters.tags s = true →
        hasCategory x.filters.tags s = true
      else ∀ s ∈ x.vc.originalSusus, matchesText t (submitted t text) s = true →
        hasCategory x.filters.tags s = true

/-- Each SuShare that was taken from the earlier snapshot onto the list has a document in the
later one that decodes to it : the document was not changed, flagged or dropped. -/
def Keeps (source : Delivery) (susus : List SuShare) (documents : List Dictionary) : Prop :=
  ∀ doc ∈ source.documents, SuShare.init source.now doc ∈ susus →
    ∃ now, ∃ doc' ∈ documents, SuShare.init source.now doc = SuShare.init now doc'

/-- The snapshot finds no filter active; or nothing on screen, and only SuShares that pass the
filters to put there; or a list that was taken from documents which it still has, by a press or a
search that let through only what passes. -/
def SnapshotAgrees (t : TextSearch) (es : List SessionEvent) (now : Timestamp)
    (documents : List Dictionary) : Prop :=
  (after t es).Inactive ∨
    if (after t es).vc.currentSusus = [] then
      ∀ s ∈ catalogue now documents, (after t es).filters.selects t s = true
    else
      Keeps (traced t es).source (after t es).vc.currentSusus documents ∧
        ∀ p ∈ (traced t es).press, p.1.LetsThrough t p.2

variable {t : TextSearch} {es : List SessionEvent} {x : Session} {now : Timestamp}
  {documents : List Dictionary}

@[simp] theorem traced_append (t : TextSearch) (es : List SessionEvent) (e : SessionEvent) :
    traced t (es ++ [e]) = (traced t es).step t e := by
  simp [traced, List.foldl_append]

@[simp] theorem session_traced (t : TextSearch) (es : List SessionEvent) :
    (traced t es).session = after t es := by
  induction es using List.reverseRecOn with
  | nil => rfl
  | append_singleton es e ih => cases e <;> simp [Traced.step, ih]

/-- The catalogue is that of the latest snapshot, and the list on screen is a part of that of the
snapshot it was taken from. -/
theorem taken (t : TextSearch) (es : List SessionEvent) :
    (after t es).vc.originalSusus =
        catalogue (traced t es).latest.now (traced t es).latest.documents ∧
      (after t es).vc.currentSusus.Sublist
        (catalogue (traced t es).source.now (traced t es).source.documents) := by
  induction es using List.reverseRecOn with
  | nil => exact ⟨rfl, List.nil_sublist _⟩
  | append_singleton es e ih =>
    obtain ⟨horiginal, hcurrent⟩ := ih
    rw [traced_append]
    cases e with
    | snapshot now documents =>
      rw [after_snapshot, snapshot_eq]
      refine ⟨rfl, ?_⟩
      simp only [Traced.step, session_traced, Inactive, (follows t es).currentTags]
      split_ifs
      · exact List.Sublist.refl _
      · exact hcurrent
    | event e =>
      rw [after_append]
      refine ⟨(originalSusus_handle t _ e).trans horiginal, ?_⟩
      have hsub := currentSusus_handle_sublist t (after t es).vc e
      rwa [horiginal] at hsub

/-- The list keeps its documents exactly if each of its SuShares is decoded from one of them. -/
theorem keeps_iff (t : TextSearch) (es : List SessionEvent) (documents : List Dictionary) :
    Keeps (traced t es).source (after t es).vc.currentSusus documents ↔
      ∀ s ∈ (after t es).vc.currentSusus, ∃ now, ∃ doc ∈ documents, s = SuShare.init now doc := by
  constructor
  · intro h s hs
    obtain ⟨⟨doc, hdoc, rfl⟩, -⟩ := mem_catalogue.mp ((taken t es).2.subset hs)
    exact h doc hdoc hs
  · exact fun h doc _ hs => h _ hs

/-- Nothing on screen is flagged, as it was decoded. -/
theorem unflagged (t : TextSearch) (es : List SessionEvent) {s : SuShare}
    (hs : s ∈ (after t es).vc.currentSusus) : s.isTheSuShareFlagged = false :=
  (mem_catalogue.mp ((taken t es).2.subset hs)).2

/-! ## What passes the filters -/

/-- Everything on screen passes the filters. -/
def Passes (t : TextSearch) (x : Session) : Prop :=
  ∀ s ∈ x.vc.currentSusus, x.filters.selects t s = true

/-- Without an active filter everything passes. -/
theorem Follows.passes (h : Follows x) (hx : x.Inactive) : x.Passes t := by
  obtain ⟨vc, tags, text⟩ := x
  obtain ⟨htags, hq⟩ := hx
  obtain rfl : tags = [] := htags
  obtain rfl : text = "" := h.currentQuery hq
  simp [Passes]

theorem passes_tagButtonPressed_iff (h : Follows x) (tag : ℤ) :
    (x.step t (.event (.tagButtonPressed tag))).Passes t ↔
      (x.step t (.event (.tagButtonPressed tag))).Inactive ∨
        x.LetsThrough t (.tagButtonPressed tag) := by
  by_cases hinactive : (x.step t (.event (.tagButtonPressed tag))).Inactive
  · exact iff_of_true ((h.tagButtonPressed tag).passes hinactive) (Or.inl hinactive)
  · rw [or_iff_right hinactive]
    simp only [Inactive, step, ExploreViewController.handle, tagFilter_eq, Filters.handle]
      at hinactive
    simp only [Passes, LetsThrough, step, ExploreViewController.handle, tagFilter_eq,
      Filters.handle, h.currentTags, if_neg hinactive, List.mem_filter, and_imp]
    refine forall₂_congr fun s _ => imp_congr_right fun htag => ?_
    by_cases htags : toggle x.filters.tags tag = []
    · rw [htags, hasTag_nil] at htag
      cases htag
    · exact selects_of_ne_nil htags

theorem passes_search_iff (h : Follows x) (text : Option String) :
    (x.step t (.event (.searchBarSearchButtonClicked text))).Passes t ↔
      x.LetsThrough t (.searchBarSearchButtonClicked text) := by
  simp only [Passes, LetsThrough, step, ExploreViewController.handle,
    searchBarSearchButtonClicked_eq, Filters.handle, h.currentTags]
  by_cases htags : x.filters.tags = []
  · by_cases hq : submitted t text = "" <;> simp [htags, hq]
  · rw [or_iff_right htags]
    by_cases hq : submitted t text = ""
    · simp [hq, htags, selects_of_ne_nil htags, List.mem_filter]
    · simp +contextual [hq, selects_of_ne_nil htags, List.mem_filter]

theorem passes_event_iff (h : Follows x) (e : ExploreEvent) :
    (x.step t (.event e)).Passes t ↔ (x.step t (.event e)).Inactive ∨ x.LetsThrough t e := by
  cases e with
  | tagButtonPressed tag => exact passes_tagButtonPressed_iff h tag
  | searchBarSearchButtonClicked text =>
    have hiff := passes_search_iff (t := t) h text
    refine hiff.trans ⟨Or.inr, fun hor => hor.elim (fun hinactive => ?_) id⟩
    exact hiff.mp ((h.search text).passes hinactive)

/-! ## Snapshots -/

theorem inactive_snapshot :
    (x.step t (.snapshot now documents)).Inactive ↔ x.Inactive := by
  simp only [Inactive, step, snapshot_eq]

theorem currentSusus_snapshot (h : Follows x) (now : Timestamp) (documents : List Dictionary) :
    (x.step t (.snapshot now documents)).vc.currentSusus =
      if x.Inactive ∨ x.vc.currentSusus = [] then catalogue now documents
      else x.vc.currentSusus := by
  simp only [step, snapshot_eq, h.currentTags]
  exact if_congr Iff.rfl rfl rfl

/-- What is on screen after a snapshot passes if no filter is active, if what was put there
passes, or if what was there already does. -/
theorem passes_snapshot_iff (h : Follows x) (now : Timestamp) (documents : List Dictionary) :
    (x.step t (.snapshot now documents)).Passes t ↔ x.Inactive ∨
      if x.vc.currentSusus = [] then ∀ s ∈ catalogue now documents, x.filters.selects t s = true
      else x.Passes t := by
  by_cases hinactive : x.Inactive
  · exact iff_of_true ((h.snapshot now documents).passes (inactive_snapshot.mpr hinactive))
      (Or.inl hinactive)
  · unfold Passes
    rw [currentSusus_snapshot h]
    by_cases hnone : x.vc.currentSusus = []
    · rw [if_pos (Or.inr hnone), if_pos hnone, or_iff_right hinactive]
      exact Iff.rfl
    · rw [if_neg (not_or.mpr ⟨hinactive, hnone⟩), if_neg hnone, or_iff_right hinactive]
      exact Iff.rfl

/-- Every snapshot of the run that found nothing on screen while a filter was active put only
SuShares there that pass it. -/
def Refills (t : TextSearch) (es : List SessionEvent) : Prop :=
  ∀ pre now documents, pre ++ [.snapshot now documents] <+: es → ¬(after t pre).Inactive →
    (after t pre).vc.currentSusus = [] →
      ∀ s ∈ catalogue now documents, (after t pre).filters.selects t s = true

theorem Refills.of_prefix {pre : List SessionEvent} (h : Refills t es) (hpre : pre <+: es) :
    Refills t pre :=
  fun pre' now documents hpre' => h pre' now documents (hpre'.trans hpre)

/-- Then the last press or search decides whether what is on screen passes. -/
theorem Refills.passes_iff (h : Refills t es) : (after t es).Passes t ↔
    (after t es).Inactive ∨ ∀ p ∈ (traced t es).press, p.1.LetsThrough t p.2 := by
  induction es using List.reverseRecOn with
  | nil => exact iff_of_true nofun (Or.inl ⟨rfl, rfl⟩)
  | append_singleton es e ih =>
    have ih := ih (h.of_prefix (List.prefix_append _ _))
    rw [after_append, traced_append]
    cases e with
    | snapshot now documents =>
      rw [passes_snapshot_iff (follows t es), inactive_snapshot]
      change _ ↔ _ ∨ ∀ p ∈ (traced t es).press, p.1.LetsThrough t p.2
      by_cases hinactive : (after t es).Inactive
      · simp only [hinactive, true_or]
      rw [or_iff_right hinactive, or_iff_right hinactive]
      rw [or_iff_right hinactive] at ih
      split_ifs with hnone
      · -- a press that shows nothing lets through nothing
        refine iff_of_true (h es now documents (List.prefix_refl _) hinactive hnone) (ih.mp ?_)
        exact fun s hs => by simp [hnone] at hs
      · exact ih
    | event e =>
      rw [passes_event_iff (follows t es) e]
      simp [Traced.step]

theorem respects_iff (t : TextSearch) (es : List SessionEvent) (documents : List Dictionary) :
    (after t es).Respects t documents ↔
      (∀ s ∈ (after t es).vc.currentSusus, ∃ now, ∃ doc ∈ documents, s = SuShare.init now doc) ∧
        (after t es).Passes t := by
  constructor
  · exact fun h => ⟨fun s hs => (h s hs).1, fun s hs => (h s hs).2.2⟩
  · exact fun h s hs => ⟨h.1 s hs, unflagged t es hs, h.2 s hs⟩

/-- A snapshot leaves the right list exactly where it agrees with the past. -/
theorem Refills.respects_snapshot_iff (h : Refills t es) (now : Timestamp)
    (documents : List Dictionary) :
    (after t (es ++ [.snapshot now documents])).Respects t documents ↔
      SnapshotAgrees t es now documents := by
  have hcatalogue : ∀ s ∈ catalogue now documents,
      ∃ now, ∃ doc ∈ documents, s = SuShare.init now doc := fun s hs => by
    obtain ⟨⟨doc, hdoc, hs⟩, -⟩ := mem_catalogue.mp hs
    exact ⟨now, doc, hdoc, hs⟩
  rw [respects_iff, after_append, passes_snapshot_iff (follows t es),
    currentSusus_snapshot (follows t es), SnapshotAgrees]
  by_cases hinactive : (after t es).Inactive
  · simp only [hinactive, true_or, if_true, and_true, iff_true]
    exact hcatalogue
  by_cases hnone : (after t es).vc.currentSusus = []
  · rw [if_pos (Or.inr hnone), if_pos hnone, if_pos hnone, or_iff_right hinactive]
    exact and_iff_right hcatalogue
  · rw [if_neg (not_or.mpr ⟨hinactive, hnone⟩), if_neg hnone, if_neg hnone, keeps_iff,
      h.passes_iff, or_iff_right hinactive, or_iff_right hinactive, or_iff_right hinactive]

/-- Each snapshot of a run leaves on screen only unflagged documents of its own that pass the
filters, exactly where no filter is active, or where it fills an empty list with what passes, or
where it changes, flags and drops no document of the list, and the press or the search that made
the list let nothing through that the filters keep out. -/
theorem respected_iff (t : TextSearch) (es : List SessionEvent) :
    (∀ pre now documents, pre ++ [.snapshot now documents] <+: es →
      (after t (pre ++ [.snapshot now documents])).Respects t documents) ↔
      ∀ pre now documents, pre ++ [.snapshot now documents] <+: es →
        SnapshotAgrees t pre now documents := by
  have hiff : Refills t es → ∀ pre now documents, pre ++ [.snapshot now documents] <+: es →
      ((after t (pre ++ [.snapshot now documents])).Respects t documents ↔
        SnapshotAgrees t pre now documents) := fun h pre now documents hpre =>
    (h.of_prefix ((List.prefix_append _ _).trans hpre)).respects_snapshot_iff now documents
  constructor
  · intro h
    have hrefills : Refills t es := fun pre now documents hpre hinactive hnone => by
      have hpasses := ((respects_iff t _ documents).mp (h pre now documents hpre)).2
      rw [after_append, passes_snapshot_iff (follows t pre), or_iff_right hinactive,
        if_pos hnone] at hpasses
      exact hpasses
    exact fun pre now documents hpre =>
      (hiff hrefills pre now documents hpre).mp (h pre now documents hpre)
  · intro h
    have hrefills : Refills t es := fun pre now documents hpre hinactive hnone => by
      have hagrees := (h pre now documents hpre).resolve_left hinactive
      rwa [if_pos hnone] at hagrees
    exact fun pre now documents hpre =>
      (hiff hrefills pre now documents hpre).mpr (h pre now documents hpre)

/-- While furniture is pressed, the sofa on screen is flagged : it stays. -/
theorem not_respected : ¬ ∀ (t : TextSearch) (es pre : List SessionEvent) (now : Timestamp)
    (documents : List Dictionary), pre ++ [.snapshot now documents] <+: es →
      (after t (pre ++ [.snapshot now documents])).Respects t documents := by
  intro h
  have hr := h ascii _ [.snapshot ⟨0, 0⟩ [sofa false], .event (.tagButtonPressed 3)] ⟨1, 0⟩
    [sofa true] (List.prefix_refl _)
  obtain ⟨s, hs⟩ : ∃ s, s ∈ (after ascii ([.snapshot ⟨0, 0⟩ [sofa false],
      .event (.tagButtonPressed 3)] ++ [.snapshot ⟨1, 0⟩ [sofa true]])).vc.currentSusus :=
    List.exists_mem_of_ne_nil _ (by decide +kernel)
  obtain ⟨⟨now, doc, hdoc, rfl⟩, hflag, -⟩ := hr s hs
  obtain rfl := List.mem_singleton.mp hdoc
  cases hflag

end Session

end SuShareApp
