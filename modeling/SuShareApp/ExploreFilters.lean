import Mathlib.Data.List.Induction
import SuShareApp.Explore

/-!
# The filters of the Explore list

What a user asks of the Explore list is the tags that are pressed and the text of the last
search (`Filters`). The controller keeps them in `currentTags` and `currentQuery`, and each
of its handlers recomputes the displayed list by a rule of its own : a tag press forgets the
search, a search forgets the tags, an empty search leaves the last query in place, and only
the first category of a SuShare counts. `filtered_iff` says exactly on which catalogues this
is not noticed.
-/

namespace SuShareApp

/-! ## What the user asks for -/

/-- The pressed tags, and the text of the last search in lower case. -/
structure Filters where
  tags : List ℤ
  text : String

namespace Filters

/-- Nothing pressed and nothing searched. -/
def none : Filters :=
  ⟨[], ""⟩

/-- A press of a tag button presses or releases it. -/
def toggle (tags : List ℤ) (tag : ℤ) : List ℤ :=
  if tag ∈ tags then tags.erase tag else tags ++ [tag]

/-- The text of the search bar, in lower case. -/
def submitted (t : TextSearch) (text : Option String) : String :=
  (text.map t.lowercased).getD ""

def handle (t : TextSearch) (f : Filters) : ExploreEvent → Filters
  | .tagButtonPressed tag => ⟨toggle f.tags tag, f.text⟩
  | .searchBarSearchButtonClicked text => ⟨f.tags, submitted t text⟩

/-- Some category of the SuShare is pressed. -/
def hasCategory (tags : List ℤ) (s : SuShare) : Bool :=
  s.category.any fun c => c ∈ tags

/-- There is no text, or the title or the description contains it, ignoring case. -/
def matchesText (t : TextSearch) (text : String) (s : SuShare) : Bool :=
  text = "" || t.contains (t.lowercased s.suShareDescription) text ||
    t.contains (t.lowercased s.susuTitle) text

/-- The SuShares that the filters let through. -/
def selects (t : TextSearch) (f : Filters) (s : SuShare) : Bool :=
  (f.tags = [] || hasCategory f.tags s) && matchesText t f.text s

variable {t : TextSearch} {tags : List ℤ} {text : String} {s : SuShare}

@[simp] theorem matchesText_empty : matchesText t "" = fun _ => true := by
  funext s
  simp [matchesText]

@[simp] theorem selects_nil : selects t ⟨[], text⟩ = matchesText t text := by
  funext s
  simp [selects]

theorem selects_of_ne_nil (h : tags ≠ []) : selects t ⟨tags, text⟩ s = true ↔
    hasCategory tags s = true ∧ matchesText t text s = true := by
  simp [selects, h]

end Filters

/-! ## Snapshots -/

namespace ExploreViewController

/-- The SuShares of a snapshot that are not flagged in it, newest first. -/
def catalogue (now : Timestamp) (documents : List Dictionary) : List SuShare :=
  ((documents.map (SuShare.init now)).filter fun s => s.isTheSuShareFlagged ≠ true).insertionSort
    Newer

theorem mem_catalogue {now : Timestamp} {documents : List Dictionary} {s : SuShare} :
    s ∈ catalogue now documents ↔
      (∃ doc ∈ documents, s = SuShare.init now doc) ∧ s.isTheSuShareFlagged = false := by
  rw [catalogue, List.mem_insertionSort, List.mem_filter, List.mem_map]
  simp [eq_comm (a := s)]

/-- A snapshot is displayed if no filter is active or nothing is displayed. -/
theorem snapshot_eq (vc : ExploreViewController) (now : Timestamp) (documents : List Dictionary) :
    vc.snapshot now documents =
      { vc with
        originalSusus := catalogue now documents
        currentSusus :=
          if (vc.currentTags = [] ∧ vc.currentQuery = "") ∨ vc.currentSusus = [] then
            catalogue now documents
          else vc.currentSusus } := by
  unfold snapshot setOriginalSusus
  by_cases hf : vc.currentTags = [] ∧ vc.currentQuery = ""
  · simp [hf, catalogue]
  · simp [hf, catalogue]

end ExploreViewController

/-! ## Sessions -/

/-- What an Explore list is exposed to. -/
inductive SessionEvent
  | snapshot (now : Timestamp) (documents : List Dictionary)
  | event (e : ExploreEvent)

/-- The controller, and what the user asked of it. -/
structure Session where
  vc : ExploreViewController
  filters : Filters

namespace Session

open ExploreViewController Filters

/-- A new controller. -/
def start : Session :=
  ⟨.initial, .none⟩

def step (t : TextSearch) (x : Session) : SessionEvent → Session
  | .snapshot now documents => { x with vc := x.vc.snapshot now documents }
  | .event e => ⟨x.vc.handle t e, x.filters.handle t e⟩

/-- The session after the events. -/
def after (t : TextSearch) (es : List SessionEvent) : Session :=
  es.foldl (step t) start

variable {t : TextSearch} {x : Session}

@[simp] theorem after_append (es : List SessionEvent) (e : SessionEvent) :
    after t (es ++ [e]) = (after t es).step t e := by
  simp [after, List.foldl_append]

/-- The list on screen is what the filters select, in order. -/
def Filtered (t : TextSearch) (x : Session) : Prop :=
  x.vc.currentSusus = x.vc.originalSusus.filter (x.filters.selects t)

/-! ## The controller's own bookkeeping -/

/-- The controller follows the tags, and has no query only if the last search was empty. -/
structure Follows (x : Session) : Prop where
  currentTags : x.vc.currentTags = x.filters.tags
  currentQuery : x.vc.currentQuery = "" → x.filters.text = ""

theorem Follows.snapshot (h : Follows x) (now : Timestamp) (documents : List Dictionary) :
    Follows (x.step t (.snapshot now documents)) := by
  simp only [step, snapshot_eq]
  exact ⟨h.currentTags, h.currentQuery⟩

theorem Follows.tagButtonPressed (h : Follows x) (tag : ℤ) :
    Follows (x.step t (.event (.tagButtonPressed tag))) := by
  simp only [step, ExploreViewController.handle, tagFilter, Filters.handle, toggle,
    ← h.currentTags]
  split_ifs
  · exact ⟨rfl, h.currentQuery⟩
  · exact ⟨rfl, h.currentQuery⟩
  · exact ⟨rfl, h.currentQuery⟩

theorem Follows.search (h : Follows x) (text : Option String) :
    Follows (x.step t (.event (.searchBarSearchButtonClicked text))) := by
  simp only [step, ExploreViewController.handle,
    ExploreViewController.searchBarSearchButtonClicked, Filters.handle, submitted]
  split_ifs with hq
  · exact ⟨h.currentTags, fun _ => hq⟩
  · exact ⟨h.currentTags, fun _ => hq⟩
  · exact ⟨h.currentTags, fun he => he⟩

/-- The bookkeeping holds after every run of events. -/
theorem follows (t : TextSearch) (es : List SessionEvent) : Follows (after t es) := by
  induction es using List.reverseRecOn with
  | nil => exact ⟨rfl, fun _ => rfl⟩
  | append_singleton es e ih =>
    rw [after_append]
    cases e with
    | snapshot now documents => exact ih.snapshot now documents
    | event e =>
      cases e with
      | tagButtonPressed tag => exact ih.tagButtonPressed tag
      | searchBarSearchButtonClicked text => exact ih.search text

/-! ## When a press shows what the filters select -/

theorem filter_eq_filter_iff {α : Type*} {l : List α} {p q : α → Bool} :
    l.filter p = l.filter q ↔ ∀ a ∈ l, (p a = true ↔ q a = true) := by
  refine ⟨fun h a ha => ?_, fun h => List.filter_congr fun a ha => Bool.eq_iff_iff.mpr (h a ha)⟩
  have hmem : a ∈ l.filter p ↔ a ∈ l.filter q := by rw [h]
  simpa [List.mem_filter, ha] using hmem

/-- The first category of the SuShare, or technology if it has none, decides as all of its
categories would. -/
def FirstDecides (tags : List ℤ) (s : SuShare) : Prop :=
  hasTag tags s = true ↔ hasCategory tags s = true

/-- The catalogue and the filters are such that the handler's own rule makes no difference :

* releasing the last tag needs that no query was ever entered, or that nothing matches the
  last text;
* any other tag press needs that what the tags select matches the last text, and that the
  first category decides for what matches;
* while a tag is pressed, an empty search needs that the first category decides, and any
  other search that what matches has a pressed category. -/
def FiltersAgree (t : TextSearch) (x : Session) : ExploreEvent → Prop
  | .tagButtonPressed tag =>
    if toggle x.filters.tags tag = [] then
      x.vc.currentQuery = "" ∨
        ∀ s ∈ x.vc.originalSusus, matchesText t x.filters.text s = false
    else ∀ s ∈ x.vc.originalSusus,
      (hasTag (toggle x.filters.tags tag) s = true → matchesText t x.filters.text s = true) ∧
      (matchesText t x.filters.text s = true → FirstDecides (toggle x.filters.tags tag) s)
  | .searchBarSearchButtonClicked text =>
    x.filters.tags = [] ∨
      if submitted t text = "" then ∀ s ∈ x.vc.originalSusus, FirstDecides x.filters.tags s
      else ∀ s ∈ x.vc.originalSusus, matchesText t (submitted t text) s = true →
        hasCategory x.filters.tags s = true

/-- What a tag press does. -/
theorem tagFilter_eq (vc : ExploreViewController) (tag : ℤ) :
    (vc.tagFilter tag).2 =
      { vc with
        currentTags := toggle vc.currentTags tag
        currentSusus :=
          if toggle vc.currentTags tag = [] ∧ vc.currentQuery = "" then vc.originalSusus
          else vc.originalSusus.filter (hasTag (toggle vc.currentTags tag)) } := by
  unfold tagFilter toggle
  dsimp only
  split_ifs with htag hlast hlast
  · rfl
  · rfl
  · simp at hlast
  · rfl

/-- What a search does. -/
theorem searchBarSearchButtonClicked_eq (vc : ExploreViewController) (text : Option String) :
    vc.searchBarSearchButtonClicked t text =
      { vc with
        currentQuery := if submitted t text = "" then vc.currentQuery else submitted t text
        currentSusus :=
          if submitted t text = "" then
            if vc.currentTags = [] then vc.originalSusus
            else vc.originalSusus.filter (hasTag vc.currentTags)
          else vc.originalSusus.filter (matchesText t (submitted t text)) } := by
  unfold ExploreViewController.searchBarSearchButtonClicked submitted
  dsimp only
  by_cases hq : (text.map t.lowercased).getD "" = ""
  · by_cases htags : vc.currentTags = []
    · simp [hq, htags]
    · simp [hq, htags]
  · have hmatch : matchesText t ((text.map t.lowercased).getD "") = fun s =>
        t.contains (t.lowercased s.suShareDescription) ((text.map t.lowercased).getD "") ||
          t.contains (t.lowercased s.susuTitle) ((text.map t.lowercased).getD "") := by
      funext s
      simp [matchesText, hq]
    rw [hmatch, if_neg hq, if_neg hq, if_neg hq]

theorem hasTag_nil (s : SuShare) : hasTag [] s = false :=
  rfl

theorem filtered_tagButtonPressed_iff (h : Follows x) (tag : ℤ) :
    (x.step t (.event (.tagButtonPressed tag))).Filtered t ↔
      x.FiltersAgree t (.tagButtonPressed tag) := by
  simp only [Filtered, FiltersAgree, step, ExploreViewController.handle, tagFilter_eq,
    Filters.handle, h.currentTags]
  by_cases htags : toggle x.filters.tags tag = []
  · rw [if_pos htags, htags]
    by_cases hq : x.vc.currentQuery = ""
    · simp [hq, h.currentQuery hq]
    · have hstale : ¬(([] : List ℤ) = [] ∧ x.vc.currentQuery = "") := fun he => hq he.2
      rw [if_neg hstale, filter_eq_filter_iff, or_iff_right hq]
      simp [hasTag_nil]
  · have hactive : ¬(toggle x.filters.tags tag = [] ∧ x.vc.currentQuery = "") := fun he =>
      htags he.1
    rw [if_neg hactive, if_neg htags, filter_eq_filter_iff]
    refine forall₂_congr fun s _ => ?_
    rw [selects_of_ne_nil htags, FirstDecides]
    tauto

theorem filtered_search_iff (h : Follows x) (text : Option String) :
    (x.step t (.event (.searchBarSearchButtonClicked text))).Filtered t ↔
      x.FiltersAgree t (.searchBarSearchButtonClicked text) := by
  simp only [Filtered, FiltersAgree, step, ExploreViewController.handle,
    searchBarSearchButtonClicked_eq, Filters.handle, h.currentTags]
  by_cases htags : x.filters.tags = []
  · rw [htags]
    by_cases hq : submitted t text = ""
    · simp [hq]
    · simp [hq]
  · rw [or_iff_right htags]
    by_cases hq : submitted t text = ""
    · rw [if_pos hq, if_pos hq, if_neg htags, filter_eq_filter_iff, hq]
      refine forall₂_congr fun s _ => ?_
      rw [selects_of_ne_nil htags, FirstDecides]
      simp
    · rw [if_neg hq, if_neg hq, filter_eq_filter_iff]
      refine forall₂_congr fun s _ => ?_
      rw [selects_of_ne_nil htags]
      tauto

/-- Each press and each search of a run shows what the filters select, in the order of the
catalogue, exactly where the catalogue and the filters of the moment agree. -/
theorem filtered_iff (t : TextSearch) (es : List SessionEvent) :
    (∀ pre e, pre ++ [.event e] <+: es → (after t (pre ++ [.event e])).Filtered t) ↔
      ∀ pre e, pre ++ [.event e] <+: es → (after t pre).FiltersAgree t e := by
  refine forall₂_congr fun pre e => imp_congr_right fun _ => ?_
  rw [after_append]
  cases e with
  | tagButtonPressed tag => exact filtered_tagButtonPressed_iff (follows t pre) tag
  | searchBarSearchButtonClicked text => exact filtered_search_iff (follows t pre) text

/-- A SuShare of the category furniture. -/
def sofa (flagged : Bool) : Dictionary :=
  .ofList [("susuTitle", .string "Sofa"), ("category", .ints [Category.furniture.rawValue]),
    ("isTheSuShareFlagged", .bool flagged)]

/-- After a search for it, furniture is pressed and released : nothing is displayed. -/
theorem not_filtered : ¬ ∀ (t : TextSearch) (es pre : List SessionEvent) (e : ExploreEvent),
    pre ++ [.event e] <+: es → (after t (pre ++ [.event e])).Filtered t := by
  intro h
  have hf := h ascii _ [.snapshot ⟨0, 0⟩ [sofa false],
    .event (.searchBarSearchButtonClicked (some "Sofa")), .event (.tagButtonPressed 3)]
    (.tagButtonPressed 3) (List.prefix_refl _)
  unfold Filtered at hf
  exact absurd hf (by decide +kernel)

end Session

end SuShareApp
