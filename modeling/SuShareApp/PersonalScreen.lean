import SuShareApp.Library.ListenerSlot
import SuShareApp.Library.TransitionSystem
import SuShareApp.Service

/-!
# The Personal screen

The screen of a profile has three tabs. The Created tab and the Favorites tab each register a
snapshot listener whenever they are configured : when the screen appears, when the tab is
selected, and when the screen is pulled. A snapshot issues a query for the profile's documents,
and the answer of the query becomes the list. The screen also loads the created SuShares once,
and the Backed tab empties the list.

All of these assign one list, whichever tab is selected when they do, and the listener of a tab
stays when another is selected. So the list is that of the selected tab only if nothing else
is on its way when the tab is selected, and no listener of another tab fires after (`OnTab`).

Queries are served and answered in any order, and others write the collections. A failure is
printed and changes nothing; Firestore gives up a listener that it reports an error to. The
clock counts only for documents without a date, and is taken to stand still.
-/

namespace SuShareApp

/-- The tabs, whose buttons have the tags 0, 1 and 2. -/
inductive HeaderTag
  | created
  | favorites
  | backed
deriving DecidableEq, Repr

/-- The collections that the screen listens to. -/
inductive Listened
  | suShare
  | favorites
deriving DecidableEq, Repr

def HeaderTag.listened? : HeaderTag → Option Listened
  | .created => some .suShare
  | .favorites => some .favorites
  | .backed => none

/-- Where a screen is between being loaded, shown and gone. -/
inductive Appearance
  | loaded
  | visible
  | disappeared
deriving DecidableEq, Repr

namespace Store

def listened (db : Store) : Listened → Collection String Dictionary
  | .suShare => db.suShare
  | .favorites => db.favorites

/-- The store when others have left the collection like this. -/
def write (db : Store) (documents : Collection String Dictionary) : Listened → Store
  | .suShare => { db with suShare := documents }
  | .favorites => { db with favorites := documents }

end Store

/-! ## The controller -/

/-- The part of the controller that its listeners depend on. -/
structure PersonalViewController where
  appearance : Appearance
  headerTag : HeaderTag
  createListner : ListenerSlot
  favListener : ListenerSlot
deriving DecidableEq, Repr

namespace PersonalViewController

def initial : PersonalViewController := ⟨.loaded, .created, .empty, .empty⟩

def slot (vc : PersonalViewController) : Listened → ListenerSlot
  | .suShare => vc.createListner
  | .favorites => vc.favListener

def configureSuShares2 (vc : PersonalViewController) : HeaderTag → PersonalViewController
  | .created => { vc with createListner := vc.createListner.register }
  | .favorites => { vc with favListener := vc.favListener.register }
  | .backed => vc

def viewDidLoad (vc : PersonalViewController) : PersonalViewController :=
  { vc with appearance := .loaded, headerTag := .created }

def viewDidAppear (vc : PersonalViewController) : PersonalViewController :=
  { vc.configureSuShares2 vc.headerTag with appearance := .visible }

def viewDidDisappear (vc : PersonalViewController) : PersonalViewController :=
  { vc with
    appearance := .disappeared
    createListner := vc.createListner.remove
    favListener := vc.favListener.remove }

def selectedHeader (vc : PersonalViewController) (tag : HeaderTag) : PersonalViewController :=
  { vc.configureSuShares2 tag with headerTag := tag }

def refreshSuShares (vc : PersonalViewController) : PersonalViewController :=
  vc.configureSuShares2 vc.headerTag

/-- Firestore gives up a listener. -/
def drop (vc : PersonalViewController) (listener : ℕ) : Listened → PersonalViewController
  | .suShare => { vc with createListner := vc.createListner.drop listener }
  | .favorites => { vc with favListener := vc.favListener.drop listener }

@[simp] theorem headerTag_drop (vc : PersonalViewController) (listener : ℕ) (c : Listened) :
    (vc.drop listener c).headerTag = vc.headerTag := by
  cases c <;> rfl

@[simp] theorem appearance_drop (vc : PersonalViewController) (listener : ℕ) (c : Listened) :
    (vc.drop listener c).appearance = vc.appearance := by
  cases c <;> rfl

@[simp] theorem headerTag_configureSuShares2 (vc : PersonalViewController) (tag : HeaderTag) :
    (vc.configureSuShares2 tag).headerTag = vc.headerTag := by
  cases tag <;> rfl

@[simp] theorem appearance_configureSuShares2 (vc : PersonalViewController) (tag : HeaderTag) :
    (vc.configureSuShares2 tag).appearance = vc.appearance := by
  cases tag <;> rfl

theorem slot_drop_of_ne (vc : PersonalViewController) (listener : ℕ) {c c' : Listened}
    (h : c' ≠ c) : (vc.drop listener c).slot c' = vc.slot c' := by
  cases c <;> cases c' <;> first | rfl | exact absurd rfl h

/-- A tab that is configured has a listener. -/
theorem active_configureSuShares2 (vc : PersonalViewController) {tag : HeaderTag} {c : Listened}
    (h : tag.listened? = some c) : ((vc.configureSuShares2 tag).slot c).active ≠ [] := by
  cases tag <;> cases h <;> exact List.cons_ne_nil _ _

end PersonalViewController

/-! ## Queries -/

inductive PersonalQuery
  | getCreatedSuShares
  /-- The query of a snapshot, for the documents of the profile. -/
  | getDocuments (collection : Listened)
deriving DecidableEq, Repr

/-- Whose profile is shown to whom : `user`, or the signed-in user's own without one. -/
structure Profile where
  order : TextOrder
  now : Timestamp
  user : Option User
  currentUser : AuthUser

namespace Profile

variable (p : Profile)

def userId : String :=
  match p.user with
  | some selectedUser => selectedUser.userId
  | none => p.currentUser.uid

def documents (db : Store) (c : Listened) : List Document :=
  (db.listened c).query (DatabaseService.whereField "userId" p.userId)

/-- The SuShares of the profile in the collection. -/
def suShares (db : Store) (c : Listened) : List SuShare :=
  (p.documents db c).map fun e => SuShare.init p.now e.2

def result (db : Store) : PersonalQuery → List SuShare
  | .getCreatedSuShares => DatabaseService.sortedByTitle p.order p.now (p.documents db .suShare)
  | .getDocuments c => p.suShares db c

/-- What the tab is about. -/
def content (db : Store) : HeaderTag → List SuShare
  | .created => p.suShares db .suShare
  | .favorites => p.suShares db .favorites
  | .backed => []

theorem content_eq_suShares {db : Store} {tag : HeaderTag} {c : Listened}
    (h : tag.listened? = some c) : p.content db tag = p.suShares db c := by
  cases tag <;> cases h <;> rfl

/-- A tab is about one collection at most. -/
theorem content_write_of_ne {db : Store} {documents : Collection String Dictionary}
    {tag : HeaderTag} {c : Listened} (h : tag.listened? ≠ some c) :
    p.content (db.write documents c) tag = p.content db tag := by
  cases tag <;> cases c <;> first | rfl | exact absurd rfl h

end Profile

/-! ## The screen -/

/-- The screen, the store, and what is on its way. -/
structure PersonalScreen where
  db : Store
  vc : PersonalViewController
  suShares : List SuShare
  /-- Snapshots, by collection and listener. -/
  snapshots : List (Listened × ℕ)
  queries : List PersonalQuery
  answers : List (List SuShare)

inductive PersonalAction
  | viewDidLoad
  | viewDidAppear
  | viewDidDisappear
  | selectedHeader (tag : HeaderTag)
  | refreshSuShares
  | snapshot (collection : Listened) (listener : ℕ)
  | snapshotError (collection : Listened) (listener : ℕ)
  | serve (q : PersonalQuery)
  | reject (q : PersonalQuery)
  | deliver (suShares : List SuShare)
  /-- Others leave the collection like this. -/
  | write (collection : Listened) (documents : Collection String Dictionary)

namespace PersonalScreen

/-- A new listener gets a first snapshot. -/
def configureSuShares2 (s : PersonalScreen) (tag : HeaderTag) : PersonalScreen :=
  match tag.listened? with
  | some c =>
    { s with
      vc := s.vc.configureSuShares2 tag
      snapshots := (c, (s.vc.slot c).issued) :: s.snapshots }
  | none => { s with vc := s.vc.configureSuShares2 tag, suShares := [] }

/-- A listener that is removed gets no more snapshots. -/
def viewDidDisappear (s : PersonalScreen) : PersonalScreen :=
  { s with
    vc := s.vc.viewDidDisappear
    snapshots := s.snapshots.filter fun e => e.2 ∈ (s.vc.viewDidDisappear.slot e.1).active }

def snapshotError (s : PersonalScreen) (c : Listened) (listener : ℕ) : PersonalScreen :=
  { s with
    vc := s.vc.drop listener c
    snapshots := s.snapshots.filter fun e => e ≠ (c, listener) }

def write (s : PersonalScreen) (c : Listened) (documents : Collection String Dictionary) :
    PersonalScreen :=
  { s with
    db := s.db.write documents c
    snapshots := (s.vc.slot c).active.map (fun listener => (c, listener)) ++ s.snapshots }

def step (p : Profile) (s : PersonalScreen) : PersonalAction → Option PersonalScreen
  | .viewDidLoad =>
    some { s with
      vc := s.vc.viewDidLoad
      suShares := []
      queries := .getCreatedSuShares :: s.queries }
  | .viewDidAppear => some { s.configureSuShares2 s.vc.headerTag with vc := s.vc.viewDidAppear }
  | .viewDidDisappear => some s.viewDidDisappear
  | .selectedHeader tag =>
    if s.vc.appearance = .visible then
      some { s.configureSuShares2 tag with vc := s.vc.selectedHeader tag }
    else none
  | .refreshSuShares =>
    if s.vc.appearance = .visible then
      some { s.configureSuShares2 s.vc.headerTag with vc := s.vc.refreshSuShares }
    else none
  | .snapshot c listener =>
    if (c, listener) ∈ s.snapshots then
      some { s with
        snapshots := s.snapshots.erase (c, listener)
        queries := .getDocuments c :: s.queries }
    else none
  | .snapshotError c listener =>
    if listener ∈ (s.vc.slot c).active then some (s.snapshotError c listener) else none
  | .serve q =>
    if q ∈ s.queries then
      some { s with queries := s.queries.erase q, answers := p.result s.db q :: s.answers }
    else none
  | .reject q => if q ∈ s.queries then some { s with queries := s.queries.erase q } else none
  | .deliver suShares =>
    if suShares ∈ s.answers then
      some { s with suShares, answers := s.answers.erase suShares }
    else none
  | .write c documents => some (s.write c documents)

/-- No callback is on its way. -/
def Quiet (s : PersonalScreen) : Prop :=
  s.snapshots = [] ∧ s.queries = [] ∧ s.answers = []

instance (s : PersonalScreen) : Decidable s.Quiet :=
  inferInstanceAs (Decidable (_ ∧ _ ∧ _))

/-- Whatever is on its way brings this list, in some order, over this store. -/
def Brings (p : Profile) (s : PersonalScreen) (db : Store) (l : List SuShare) : Prop :=
  (∀ e ∈ s.snapshots, (p.suShares db e.1).Perm l) ∧
    (∀ q ∈ s.queries, (p.result db q).Perm l) ∧ ∀ a ∈ s.answers, a.Perm l

instance (p : Profile) (s : PersonalScreen) (db : Store) (l : List SuShare) :
    Decidable (s.Brings p db l) :=
  inferInstanceAs (Decidable (_ ∧ _ ∧ _))

/-- The list is that of the selected tab. -/
def Shows (p : Profile) (s : PersonalScreen) (db : Store) : Prop :=
  s.suShares.Perm (p.content db s.vc.headerTag)

instance (p : Profile) (s : PersonalScreen) (db : Store) : Decidable (s.Shows p db) :=
  inferInstanceAs (Decidable (List.Perm _ _))

end PersonalScreen

/-- The Personal screen of the profile, over any store. -/
def personalScreen (p : Profile) : TransitionSystem PersonalScreen PersonalAction where
  init s := s.vc = .initial ∧ s.suShares = [] ∧ s.Quiet
  step := PersonalScreen.step p

namespace PersonalScreen

variable {p : Profile} {as : List PersonalAction} {a : PersonalAction} {s s' : PersonalScreen}

/-- A tab is configured when all that is on its way brings what the tab is about, and a
collection changes when this is so over the new documents, for the listeners that fire as well.
While the screen is shown, no failure takes away the last callback on its way, or the last listener
of the selected tab. -/
def OnTab (p : Profile) (s : PersonalScreen) : PersonalAction → Prop
  | .viewDidAppear | .refreshSuShares => s.Brings p s.db (p.content s.db s.vc.headerTag)
  | .selectedHeader tag => s.Brings p s.db (p.content s.db tag)
  | .write c documents => s.vc.appearance = .visible →
    s.Brings p (s.db.write documents c) (p.content (s.db.write documents c) s.vc.headerTag) ∧
    ((s.vc.slot c).active ≠ [] → (p.suShares (s.db.write documents c) c).Perm
      (p.content (s.db.write documents c) s.vc.headerTag))
  | .snapshotError c listener => s.vc.appearance = .visible →
    ((s.snapshotError c listener).Quiet → s.Quiet) ∧
    (s.vc.headerTag.listened? = some c → ((s.vc.drop listener c).slot c).active ≠ [])
  | .reject q => s.vc.appearance = .visible → ¬Quiet { s with queries := s.queries.erase q }
  | _ => True

instance (p : Profile) (s : PersonalScreen) : DecidablePred (OnTab p s) := fun a => by
  unfold OnTab
  split <;> infer_instance

/-- While the screen is shown, the list will be that of the selected tab, and is if nothing is
on its way. The selected tab has its listener. -/
def Settling (p : Profile) (s : PersonalScreen) : Prop :=
  s.vc.appearance = .visible →
    s.Brings p s.db (p.content s.db s.vc.headerTag) ∧ (s.Quiet → s.Shows p s.db) ∧
      ∀ c, s.vc.headerTag.listened? = some c → (s.vc.slot c).active ≠ []

/-- A tab that is configured brings what it is about, or shows it at once. -/
theorem settling_configureSuShares2 {tag : HeaderTag} (h : s.Brings p s.db (p.content s.db tag))
    {vc : PersonalViewController} (htag : vc.headerTag = tag)
    (hslot : ∀ c, vc.slot c = (s.vc.configureSuShares2 tag).slot c) :
    Settling p { s.configureSuShares2 tag with vc } := by
  subst htag
  obtain ⟨hsnapshot, hquery, hanswer⟩ := h
  intro _
  have hactive : ∀ c, vc.headerTag.listened? = some c → (vc.slot c).active ≠ [] := fun c hc => by
    rw [hslot]
    exact s.vc.active_configureSuShares2 hc
  cases hc : vc.headerTag.listened? with
  | some c =>
    simp only [configureSuShares2, hc]
    refine ⟨⟨List.forall_mem_cons.mpr ⟨?_, hsnapshot⟩, hquery, hanswer⟩, fun hquiet => ?_,
      fun c' hc' => hactive c' (hc.trans hc')⟩
    · rw [p.content_eq_suShares hc]
    · exact absurd hquiet.1 (List.cons_ne_nil _ _)
  | none =>
    have hbacked : vc.headerTag = .backed := by
      revert hc
      cases vc.headerTag <;> simp [HeaderTag.listened?]
    simp only [configureSuShares2, hc]
    refine ⟨⟨hsnapshot, hquery, hanswer⟩, fun _ => ?_, nofun⟩
    rw [Shows, hbacked]
    exact .refl _

/-- What others write leads to the new list, if the listeners that fire are on the tab. -/
theorem Settling.write (h : s.Settling p) {c : Listened}
    {documents : Collection String Dictionary} (hG : OnTab p s (.write c documents)) :
    (s.write c documents).Settling p := by
  intro hv
  obtain ⟨-, hshows, hactive⟩ := h hv
  obtain ⟨⟨hsnapshot, hquery, hanswer⟩, hfires⟩ := hG hv
  refine ⟨⟨fun e he => ?_, hquery, hanswer⟩, fun hquiet => ?_, hactive⟩
  · rcases List.mem_append.mp he with he | he
    · obtain ⟨listener, hl, rfl⟩ := List.mem_map.mp he
      exact hfires (List.ne_nil_of_mem hl)
    · exact hsnapshot e he
  · obtain ⟨hsnapshots, hqueries, hanswers⟩ := hquiet
    obtain ⟨hmap, hsnapshots⟩ := List.append_eq_nil_iff.mp hsnapshots
    -- no listener fires, so the selected tab is not about this collection
    have htag : s.vc.headerTag.listened? ≠ some c := fun hc =>
      hactive c hc (List.map_eq_nil_iff.mp hmap)
    change s.suShares.Perm (p.content (s.db.write documents c) s.vc.headerTag)
    rw [p.content_write_of_ne htag]
    exact hshows ⟨hsnapshots, hqueries, hanswers⟩

theorem Settling.snapshotError (h : s.Settling p) {c : Listened} {listener : ℕ}
    (hG : OnTab p s (.snapshotError c listener)) : (s.snapshotError c listener).Settling p := by
  intro hv
  have hv : s.vc.appearance = .visible := by simpa [PersonalScreen.snapshotError] using hv
  obtain ⟨⟨hsnapshot, hquery, hanswer⟩, hshows, hactive⟩ := h hv
  obtain ⟨hlast, hkept⟩ := hG hv
  have htag : (s.snapshotError c listener).vc.headerTag = s.vc.headerTag :=
    s.vc.headerTag_drop listener c
  rw [Shows, htag]
  refine ⟨⟨fun e he => hsnapshot e (List.mem_of_mem_filter he), hquery, hanswer⟩,
    fun hquiet => hshows (hlast hquiet), fun c' hc' => ?_⟩
  change ((s.vc.drop listener c).slot c').active ≠ []
  by_cases hc : c' = c
  · subst hc
    exact hkept hc'
  · rw [s.vc.slot_drop_of_ne listener hc]
    exact hactive c' hc'

theorem Settling.step (h : s.Settling p) (hG : OnTab p s a) (hs : s.step p a = some s') :
    s'.Settling p := by
  cases a with
  | viewDidLoad | viewDidDisappear =>
    obtain rfl := Option.some.inj hs
    intro hv
    cases hv
  | viewDidAppear =>
    obtain rfl := Option.some.inj hs
    exact settling_configureSuShares2 hG
      (PersonalViewController.headerTag_configureSuShares2 ..) fun c => by cases c <;> rfl
  | selectedHeader tag =>
    obtain ⟨-, hs⟩ := Option.ite_none_right_eq_some.mp hs
    obtain rfl := Option.some.inj hs
    exact settling_configureSuShares2 hG rfl fun c => by cases c <;> rfl
  | refreshSuShares =>
    obtain ⟨-, hs⟩ := Option.ite_none_right_eq_some.mp hs
    obtain rfl := Option.some.inj hs
    exact settling_configureSuShares2 hG
      (PersonalViewController.headerTag_configureSuShares2 ..) fun _ => rfl
  | snapshot c listener =>
    obtain ⟨hmem, hs⟩ := Option.ite_none_right_eq_some.mp hs
    obtain rfl := Option.some.inj hs
    intro hv
    obtain ⟨⟨hsnapshot, hquery, hanswer⟩, -, hactive⟩ := h hv
    refine ⟨⟨fun e he => hsnapshot e (List.mem_of_mem_erase he),
      List.forall_mem_cons.mpr ⟨hsnapshot _ hmem, hquery⟩, hanswer⟩, fun hquiet => ?_, hactive⟩
    exact absurd hquiet.2.1 (List.cons_ne_nil _ _)
  | snapshotError c listener =>
    obtain ⟨-, hs⟩ := Option.ite_none_right_eq_some.mp hs
    obtain rfl := Option.some.inj hs
    exact h.snapshotError hG
  | serve q =>
    obtain ⟨hmem, hs⟩ := Option.ite_none_right_eq_some.mp hs
    obtain rfl := Option.some.inj hs
    intro hv
    obtain ⟨⟨hsnapshot, hquery, hanswer⟩, -, hactive⟩ := h hv
    refine ⟨⟨hsnapshot, fun r hr => hquery r (List.mem_of_mem_erase hr),
      List.forall_mem_cons.mpr ⟨hquery q hmem, hanswer⟩⟩, fun hquiet => ?_, hactive⟩
    exact absurd hquiet.2.2 (List.cons_ne_nil _ _)
  | reject q =>
    obtain ⟨-, hs⟩ := Option.ite_none_right_eq_some.mp hs
    obtain rfl := Option.some.inj hs
    intro hv
    obtain ⟨⟨hsnapshot, hquery, hanswer⟩, -, hactive⟩ := h hv
    exact ⟨⟨hsnapshot, fun r hr => hquery r (List.mem_of_mem_erase hr), hanswer⟩,
      fun hquiet => absurd hquiet (hG hv), hactive⟩
  | deliver suShares =>
    obtain ⟨hmem, hs⟩ := Option.ite_none_right_eq_some.mp hs
    obtain rfl := Option.some.inj hs
    intro hv
    obtain ⟨⟨hsnapshot, hquery, hanswer⟩, -, hactive⟩ := h hv
    exact ⟨⟨hsnapshot, hquery, fun r hr => hanswer r (List.mem_of_mem_erase hr)⟩,
      fun _ => hanswer suShares hmem, hactive⟩
  | write c documents =>
    obtain rfl := Option.some.inj hs
    exact h.write hG

/-- If tabs are configured, and collections changed, only when all that is on its way is about
the selected tab, then a screen that is shown with no callback pending shows the selected tab. -/
theorem shows_selected_tab (h : (personalScreen p).RunWhere (OnTab p) as s)
    (hv : s.vc.appearance = .visible) (hquiet : s.Quiet) :
    s.suShares.Perm (p.content s.db s.vc.headerTag) := by
  have hsettling : s.Settling p := by
    refine h.invariant (I := fun _ s => s.Settling p) ?_ ?_
    · rintro s ⟨hvc, -, -⟩ hv
      rw [hvc] at hv
      cases hv
    · exact fun _ _ _ _ _ ih hG hs => ih.step hG hs
  exact (hsettling hv).2.1 hquiet

/-- Ann looks at her own profile. -/
def own : Profile where
  order := ⟨id, fun a b => a < b⟩
  now := ⟨9, 0⟩
  user := none
  currentUser := ⟨"ann", none, none⟩

/-- The suShare collection with a SuShare of Ann's. -/
def posted : Collection String Dictionary :=
  .setData .empty "s1" (.ofList [("userId", .string "ann"), ("susuTitle", .string "Roof")])

/-- The screen that is loaded, over an empty store. -/
def loading : PersonalScreen :=
  ⟨⟨.empty, .empty, .empty, .empty, .empty, fun _ => .empty⟩, .initial, [], [], [], []⟩

/-- The screen is loaded and shown, with nothing to show yet. -/
def showing : List PersonalAction :=
  [.viewDidLoad, .serve .getCreatedSuShares, .deliver [], .viewDidAppear, .snapshot .suShare 0,
    .serve (.getDocuments .suShare), .deliver []]

/-- A SuShare is posted while the Created tab is selected. -/
def postingOnCreated : List PersonalAction :=
  showing ++ [.write .suShare posted, .snapshot .suShare 0, .serve (.getDocuments .suShare),
    .deliver (own.suShares (loading.db.write posted .suShare) .suShare)]

/-- The same SuShare is posted while the Favorites tab is selected. -/
def postingOnFavorites : List PersonalAction :=
  showing ++ [.selectedHeader .favorites, .snapshot .favorites 0,
    .serve (.getDocuments .favorites), .deliver [], .write .suShare posted,
    .snapshot .suShare 0, .serve (.getDocuments .suShare),
    .deliver (own.suShares (loading.db.write posted .suShare) .suShare)]

theorem init_loading : (personalScreen own).init loading :=
  ⟨rfl, rfl, rfl, rfl, rfl⟩

/-- The Created tab shows the new SuShare. -/
theorem shows_selected_tab_postingOnCreated : ∃ s,
    (personalScreen own).RunWhere (OnTab own) postingOnCreated s ∧
      s.suShares.Perm (own.content s.db s.vc.headerTag) := by
  obtain ⟨s, hrun, hv, hquiet⟩ := TransitionSystem.exists_run_of_exec
    (T := (personalScreen own).guarded (OnTab own)) postingOnCreated
    (fun s => s.vc.appearance = .visible ∧ s.Quiet) init_loading (by decide +kernel)
  exact ⟨s, hrun.runWhere, shows_selected_tab hrun.runWhere hv hquiet⟩

/-- The Favorites tab shows it as well. -/
theorem favorites_tab_shows_created : ¬ ∀ (p : Profile) (as : List PersonalAction)
    (s : PersonalScreen), (personalScreen p).Run as s → s.vc.appearance = .visible → s.Quiet →
      s.suShares.Perm (p.content s.db s.vc.headerTag) := by
  intro h
  obtain ⟨s, hrun, hv, hquiet, hnot⟩ := TransitionSystem.exists_run_of_exec
    (T := personalScreen own) postingOnFavorites
    (fun s => s.vc.appearance = .visible ∧ s.Quiet ∧
      ¬s.suShares.Perm (own.content s.db s.vc.headerTag)) init_loading (by decide +kernel)
  exact hnot (h _ _ s hrun hv hquiet)

end PersonalScreen

end SuShareApp
