import SuShareApp.Library.Collection
import SuShareApp.Library.StableSort
import SuShareApp.Models

/-!
# The Explore list

`ExploreViewController` keeps the SuShares of the last snapshot, newest first and without
the flagged ones (`originalSusus`), and the list it displays (`currentSusus`), which the
tag buttons and the search bar recompute from it.

No path reads `securityState`, so a private SuShare is displayed to everybody
(`not_private_noninterference`). What holds is that the displayed lists of two stores
differ by the documents in which the stores differ and by nothing else : the order and the
selection of the rest are those of the other store (`displayed_agree`). A private SuShare
does not disturb the rest, and a flagged one leaves no trace (`interference_bounded`).

Swift's `lowercased()` and `contains(_:)` are parameters, since nothing here depends on
what they return.
-/

namespace SuShareApp

/-- What the search bar uses of Swift's strings. -/
structure TextSearch where
  lowercased : String → String
  contains : String → String → Bool

structure ExploreViewController where
  originalSusus : List SuShare
  currentSusus : List SuShare
  currentTags : List ℤ
  currentQuery : String

/-- A press of a tag button, or of search with the text of the search bar. -/
inductive ExploreEvent
  | tagButtonPressed (tag : ℤ)
  | searchBarSearchButtonClicked (text : Option String)

/-- `$0.createdDate.dateValue() > $1.createdDate.dateValue()`, as the order that a stable
sort leaves the list in. -/
def Newer (a b : SuShare) : Prop :=
  b.createdDate.dateValue ≤ a.createdDate.dateValue

instance : DecidableRel Newer := fun a b =>
  inferInstanceAs (Decidable (b.createdDate.dateValue ≤ a.createdDate.dateValue))

instance : IsTrans SuShare Newer :=
  ⟨fun _ _ _ hab hbc => le_trans hbc hab⟩

instance : Std.Total Newer :=
  ⟨fun a b => le_total b.createdDate.dateValue a.createdDate.dateValue⟩

namespace ExploreViewController

/-- The controller before the first snapshot. -/
def initial : ExploreViewController :=
  ⟨[], [], [], ""⟩

/-- `originalSusus = susus`, with its `didSet`. -/
def setOriginalSusus (vc : ExploreViewController) (susus : List SuShare) :
    ExploreViewController :=
  { vc with
    originalSusus := susus
    currentSusus := if vc.currentSusus = [] then susus else vc.currentSusus }

/-- The handler of `setSuShareListener`, for the documents of a snapshot. -/
def snapshot (vc : ExploreViewController) (now : Timestamp) (documents : List Dictionary) :
    ExploreViewController :=
  let allShares := documents.map (SuShare.init now)
  let sortByFlagged := allShares.filter fun s => s.isTheSuShareFlagged ≠ true
  let sortedAllShares := sortByFlagged.insertionSort Newer
  let vc := vc.setOriginalSusus sortedAllShares
  if vc.currentTags = [] ∧ vc.currentQuery = "" then { vc with currentSusus := sortedAllShares }
  else vc

/-- `currentTags.contains($0.category.first ?? 0)` -/
def hasTag (currentTags : List ℤ) (s : SuShare) : Bool :=
  currentTags.contains (s.category.head?.getD 0)

/-- `tagFilter`, with whether the tag is now pressed. -/
def tagFilter (vc : ExploreViewController) (tag : ℤ) : Bool × ExploreViewController :=
  if tag ∈ vc.currentTags then
    let currentTags := vc.currentTags.erase tag
    if currentTags = [] ∧ vc.currentQuery = "" then
      (false, { vc with currentTags, currentSusus := vc.originalSusus })
    else
      (false, { vc with currentTags, currentSusus := vc.originalSusus.filter (hasTag currentTags) })
  else
    let currentTags := vc.currentTags ++ [tag]
    (true, { vc with currentTags, currentSusus := vc.originalSusus.filter (hasTag currentTags) })

def searchBarSearchButtonClicked (t : TextSearch) (vc : ExploreViewController)
    (text : Option String) : ExploreViewController :=
  let query := (text.map t.lowercased).getD ""
  if query = "" then
    if vc.currentTags ≠ [] then
      { vc with currentSusus := vc.originalSusus.filter (hasTag vc.currentTags) }
    else { vc with currentSusus := vc.originalSusus }
  else
    { vc with
      currentQuery := query
      currentSusus := vc.originalSusus.filter fun s =>
        t.contains (t.lowercased s.suShareDescription) query ||
          t.contains (t.lowercased s.susuTitle) query }

def handle (t : TextSearch) (vc : ExploreViewController) : ExploreEvent → ExploreViewController
  | .tagButtonPressed tag => (vc.tagFilter tag).2
  | .searchBarSearchButtonClicked text => vc.searchBarSearchButtonClicked t text

/-- The list displayed after the snapshot of the collection and the events. -/
def displayed (t : TextSearch) (now : Timestamp) (suShare : Collection String Dictionary)
    (es : List ExploreEvent) : List SuShare :=
  (es.foldl (handle t) (initial.snapshot now (suShare.docs.map Prod.snd))).currentSusus

/-! ## Two stores -/

/-- The collections hold the same documents, as far as `V` selects the SuShares in them. -/
def AgreeOn (V : SuShare → Bool) (now : Timestamp) (a b : Collection String Dictionary) : Prop :=
  ∀ id doc, V (SuShare.init now doc) = true → (a.get? id = some doc ↔ b.get? id = some doc)

/-- The controllers are alike, as far as `V` selects SuShares. -/
structure Alike (V : SuShare → Bool) (vc vc' : ExploreViewController) : Prop where
  originalSusus : vc.originalSusus.filter V = vc'.originalSusus.filter V
  currentSusus : vc.currentSusus.filter V = vc'.currentSusus.filter V
  currentTags : vc.currentTags = vc'.currentTags
  currentQuery : vc.currentQuery = vc'.currentQuery

variable {V : SuShare → Bool} {vc vc' : ExploreViewController} {t : TextSearch} {now : Timestamp}
  {a b : Collection String Dictionary}

/-- A selection from alike originals. -/
theorem Alike.filter_originalSusus (h : Alike V vc vc') (p : SuShare → Bool) :
    (vc.originalSusus.filter p).filter V = (vc'.originalSusus.filter p).filter V := by
  rw [List.filter_comm, h.originalSusus, List.filter_comm]

theorem Alike.tagFilter (h : Alike V vc vc') (tag : ℤ) :
    (vc.tagFilter tag).1 = (vc'.tagFilter tag).1 ∧
      Alike V (vc.tagFilter tag).2 (vc'.tagFilter tag).2 := by
  unfold ExploreViewController.tagFilter
  dsimp only
  rw [← h.currentTags, ← h.currentQuery]
  split_ifs
  · exact ⟨rfl, h.originalSusus, h.originalSusus, rfl, rfl⟩
  · exact ⟨rfl, h.originalSusus, h.filter_originalSusus _, rfl, rfl⟩
  · exact ⟨rfl, h.originalSusus, h.filter_originalSusus _, rfl, rfl⟩

theorem Alike.searchBarSearchButtonClicked (h : Alike V vc vc') (text : Option String) :
    Alike V (vc.searchBarSearchButtonClicked t text) (vc'.searchBarSearchButtonClicked t text) := by
  unfold ExploreViewController.searchBarSearchButtonClicked
  dsimp only
  rw [← h.currentTags]
  split_ifs
  · exact ⟨h.originalSusus, h.filter_originalSusus _, rfl, h.currentQuery⟩
  · exact ⟨h.originalSusus, h.originalSusus, rfl, h.currentQuery⟩
  · exact ⟨h.originalSusus, h.filter_originalSusus _, rfl, rfl⟩

theorem Alike.handle (h : Alike V vc vc') (e : ExploreEvent) :
    Alike V (vc.handle t e) (vc'.handle t e) := by
  cases e with
  | tagButtonPressed tag => exact (h.tagFilter tag).2
  | searchBarSearchButtonClicked text => exact h.searchBarSearchButtonClicked text

theorem Alike.foldl_handle : ∀ (es : List ExploreEvent) {vc vc' : ExploreViewController},
    Alike V vc vc' → Alike V (es.foldl (ExploreViewController.handle t) vc)
      (es.foldl (ExploreViewController.handle t) vc')
  | [], _, _, h => h
  | e :: es, _, _, h => foldl_handle es (h.handle e)

/-- The first snapshot fills both lists with the unflagged SuShares, newest first. -/
theorem initial_snapshot (now : Timestamp) (documents : List Dictionary) :
    initial.snapshot now documents =
      { initial with
        originalSusus := ((documents.map (SuShare.init now)).filter
          fun s => s.isTheSuShareFlagged ≠ true).insertionSort Newer
        currentSusus := ((documents.map (SuShare.init now)).filter
          fun s => s.isTheSuShareFlagged ≠ true).insertionSort Newer } := by
  simp [snapshot, setOriginalSusus, initial]

/-- The SuShares that `V` selects, decoded from collections that agree on them. -/
theorem AgreeOn.filter_decoded (h : AgreeOn V now a b) :
    ((a.docs.map Prod.snd).map (SuShare.init now)).filter V =
      ((b.docs.map Prod.snd).map (SuShare.init now)).filter V := by
  have hq : a.query (fun doc => V (SuShare.init now doc)) =
      b.query fun doc => V (SuShare.init now doc) := Collection.query_congr h
  have hmap := congrArg (List.map fun e : String × Dictionary => SuShare.init now e.2) hq
  simpa only [Collection.query, List.map_map, List.filter_map, Function.comp_def] using hmap

theorem AgreeOn.alike_snapshot (h : AgreeOn V now a b) :
    Alike V (initial.snapshot now (a.docs.map Prod.snd))
      (initial.snapshot now (b.docs.map Prod.snd)) := by
  rw [initial_snapshot, initial_snapshot]
  have hsorted : ∀ c : Collection String Dictionary,
      ((((c.docs.map Prod.snd).map (SuShare.init now)).filter
        fun s => s.isTheSuShareFlagged ≠ true).insertionSort Newer).filter V =
      ((((c.docs.map Prod.snd).map (SuShare.init now)).filter V).filter
        fun s => s.isTheSuShareFlagged ≠ true).insertionSort Newer := fun c => by
    rw [List.filter_insertionSort, List.filter_comm]
  refine ⟨?_, ?_, rfl, rfl⟩
  · rw [hsorted, hsorted, h.filter_decoded]
  · rw [hsorted, hsorted, h.filter_decoded]

/-- The displayed lists of two stores agree on everything the stores agree on. -/
theorem displayed_agree (h : AgreeOn V now a b) (t : TextSearch) (es : List ExploreEvent) :
    (displayed t now a es).filter V = (displayed t now b es).filter V :=
  (Alike.foldl_handle es h.alike_snapshot).currentSusus

/-! ## Flagged and private SuShares -/

/-- Both lists have only unflagged SuShares. -/
structure Unflagged (vc : ExploreViewController) : Prop where
  originalSusus : ∀ s ∈ vc.originalSusus, s.isTheSuShareFlagged = false
  currentSusus : ∀ s ∈ vc.currentSusus, s.isTheSuShareFlagged = false

theorem Unflagged.of_filter (h : Unflagged vc) {p : SuShare → Bool} :
    ∀ s ∈ vc.originalSusus.filter p, s.isTheSuShareFlagged = false :=
  fun s hs => h.originalSusus s (List.mem_of_mem_filter hs)

theorem Unflagged.handle (h : Unflagged vc) (e : ExploreEvent) : Unflagged (vc.handle t e) := by
  cases e with
  | tagButtonPressed tag =>
    simp only [ExploreViewController.handle, ExploreViewController.tagFilter]
    split_ifs
    · exact ⟨h.originalSusus, h.originalSusus⟩
    · exact ⟨h.originalSusus, h.of_filter⟩
    · exact ⟨h.originalSusus, h.of_filter⟩
  | searchBarSearchButtonClicked text =>
    simp only [ExploreViewController.handle, ExploreViewController.searchBarSearchButtonClicked]
    split_ifs
    · exact ⟨h.originalSusus, h.of_filter⟩
    · exact ⟨h.originalSusus, h.originalSusus⟩
    · exact ⟨h.originalSusus, h.of_filter⟩

theorem Unflagged.foldl_handle : ∀ (es : List ExploreEvent) {vc : ExploreViewController},
    Unflagged vc → Unflagged (es.foldl (ExploreViewController.handle t) vc)
  | [], _, h => h
  | e :: es, _, h => foldl_handle es (h.handle e)

/-- No flagged SuShare is ever displayed. -/
theorem displayed_unflagged (t : TextSearch) (now : Timestamp) (c : Collection String Dictionary)
    (es : List ExploreEvent) : ∀ s ∈ displayed t now c es, s.isTheSuShareFlagged = false := by
  have h0 : Unflagged (initial.snapshot now (c.docs.map Prod.snd)) := by
    have hs : ∀ s ∈ (((c.docs.map Prod.snd).map (SuShare.init now)).filter
        fun s => s.isTheSuShareFlagged ≠ true).insertionSort Newer,
        s.isTheSuShareFlagged = false := fun s hs => by
      rw [List.mem_insertionSort] at hs
      simpa using List.of_mem_filter hs
    rw [initial_snapshot]
    exact ⟨hs, hs⟩
  exact (Unflagged.foldl_handle es h0).currentSusus

/-- A private SuShare of which the user is neither creator nor member. -/
def hidden (v : String) (s : SuShare) : Bool :=
  s.securityState = Security.privateState.rawValue ∧ s.userId ≠ v ∧ v ∉ s.usersInTheSuShare

/-- Stores that agree but for SuShares that are private to others display the same lists,
but for these; stores that agree but for flagged SuShares display the same lists. -/
theorem interference_bounded (v : String) (t : TextSearch) (now : Timestamp)
    (a b : Collection String Dictionary) (es : List ExploreEvent) :
    (AgreeOn (fun s => !hidden v s) now a b →
      (displayed t now a es).filter (fun s => !hidden v s) =
        (displayed t now b es).filter fun s => !hidden v s) ∧
    (AgreeOn (fun s => !s.isTheSuShareFlagged) now a b →
      displayed t now a es = displayed t now b es) := by
  refine ⟨fun h => displayed_agree h t es, fun h => ?_⟩
  have hall : ∀ c : Collection String Dictionary,
      (displayed t now c es).filter (fun s => !s.isTheSuShareFlagged) = displayed t now c es :=
    fun c => List.filter_eq_self.mpr fun s hs => by simp [displayed_unflagged t now c es s hs]
  rw [← hall a, ← hall b]
  exact displayed_agree h t es

/-- Ann's private SuShare. -/
def secret : Dictionary :=
  .ofList [("securityState", .string Security.privateState.rawValue), ("userId", .string "ann"),
    ("usersInTheSuShare", .strings ["ann"])]

/-- A store with it and one without agree on what Bob may see. -/
theorem agreeOn_secret : AgreeOn (fun s => !hidden "bob" s) ⟨0, 0⟩
    (Collection.empty.setData "s1" secret) Collection.empty := by
  intro id doc hV
  rw [Collection.get?_setData, Collection.get?_empty]
  refine iff_of_false (fun h => ?_) (by simp)
  split_ifs at h
  obtain rfl := Option.some.inj h
  exact absurd hV (by decide)

/-- Search on ASCII text. -/
def ascii : TextSearch where
  lowercased := String.toLower
  contains s query := s.toList.tails.any fun rest => query.toList.isPrefixOf rest

theorem interference_bounded_secret :
    (displayed ascii ⟨0, 0⟩ (Collection.empty.setData "s1" secret)
        [.tagButtonPressed 2]).filter (fun s => !hidden "bob" s) =
      (displayed ascii ⟨0, 0⟩ Collection.empty
        [.tagButtonPressed 2]).filter fun s => !hidden "bob" s :=
  (interference_bounded "bob" ascii ⟨0, 0⟩ _ _ _).1 agreeOn_secret

/-- Bob sees Ann's private SuShare. -/
theorem not_private_noninterference : ¬ ∀ (v : String) (t : TextSearch) (now : Timestamp)
    (a b : Collection String Dictionary) (es : List ExploreEvent),
    AgreeOn (fun s => !hidden v s) now a b → displayed t now a es = displayed t now b es := by
  intro h
  have heq := congrArg List.length (h "bob" ascii ⟨0, 0⟩ _ _ [] agreeOn_secret)
  exact absurd heq (by decide +kernel)

end ExploreViewController

end SuShareApp
