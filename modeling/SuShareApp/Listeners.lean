import SuShareApp.PersonalScreen

/-!
# The listeners of the screens

Three screens listen to collections, and each keeps the handle of its last registration. What
they have in common is that nothing is removed when a handle is overwritten.

The Explore screen registers when it is loaded and again when it appears, so it has two
listeners as soon as it is shown. The Personal screen registers whenever a tab is configured,
and removes the listeners of both handles when it disappears. The screen of the comments
registers when it appears and removes nothing. For each of them the events tell whether its
listeners stay contained (`listeners_contained`).
-/

namespace SuShareApp

/-- Each collection has at most one active listener, and none when the screen has disappeared. -/
def Contained {κ : Type*} (appearance : Appearance) (slot : κ → ListenerSlot) : Prop :=
  (∀ c, (slot c).active.length ≤ 1) ∧
    (appearance = .disappeared → ∀ c, (slot c).active = [])

/-- On a screen that removes all listeners when it disappears, one event more keeps them
contained exactly if it registers no second listener in a row. -/
theorem contained_iff_isChain {κ : Type*} {appearance : Appearance} {slot : κ → ListenerSlot}
    {ops : κ → List SlotOp} {op : κ → Option SlotOp}
    (hops : ∀ c, (ops c).IsChain ListenerSlot.Alternates)
    (hslot : ∀ c, slot c = .after (ops c ++ (op c).toList))
    (hgone : appearance = .disappeared → ∀ c, op c = some .remove) :
    (∀ c, (ops c ++ (op c).toList).IsChain ListenerSlot.Alternates) ↔
      Contained appearance slot := by
  have hnone : appearance = .disappeared → ∀ c, (slot c).active = [] := by
    intro ha c
    rw [hslot, hgone ha c, Option.toList_some, ListenerSlot.after_concat]
    exact ListenerSlot.active_after_remove (hops c)
  rw [Contained, and_iff_left hnone]
  refine forall_congr' fun c => ?_
  rw [hslot]
  cases op c with
  | none =>
    rw [Option.toList_none, List.append_nil]
    exact iff_of_true (hops c) (ListenerSlot.tidy_after (hops c)).1.length_le_one
  | some o =>
    rw [Option.toList_some, ListenerSlot.after_concat]
    exact ListenerSlot.isChain_concat_iff (hops c)

/-! ## The Explore screen -/

structure ExploreListener where
  appearance : Appearance
  suShareListener : ListenerSlot
deriving DecidableEq, Repr

inductive ExploreListener.Event
  | viewDidLoad
  | viewWillAppear
  | viewWillDisappear
deriving DecidableEq, Repr

namespace ExploreListener

def setSuShareListener (s : ExploreListener) : ExploreListener :=
  { s with suShareListener := s.suShareListener.register }

def step (s : ExploreListener) : Event → ExploreListener
  | .viewDidLoad => { s.setSuShareListener with appearance := .loaded }
  | .viewWillAppear => { s.setSuShareListener with appearance := .visible }
  | .viewWillDisappear =>
    { s with appearance := .disappeared, suShareListener := s.suShareListener.remove }

/-- The listener of the one collection. -/
def slot (s : ExploreListener) (_ : Unit) : ListenerSlot :=
  s.suShareListener

end ExploreListener

/-- The Explore screen, from before it is loaded. -/
def exploreListener : TransitionSystem ExploreListener ExploreListener.Event where
  init s := s = ⟨.loaded, .empty⟩
  step s e := some (s.step e)

def ExploreListener.Event.slotOp : ExploreListener.Event → SlotOp
  | .viewDidLoad | .viewWillAppear => .register
  | .viewWillDisappear => .remove

namespace ExploreListener

variable {es : List Event} {s : ExploreListener}

theorem suShareListener_step (s : ExploreListener) (e : Event) :
    (s.step e).suShareListener = s.suShareListener.apply e.slotOp := by
  cases e <;> rfl

/-- The events are all that the listener depends on. -/
theorem suShareListener_eq (h : exploreListener.Run es s) :
    s.suShareListener = .after (es.map Event.slotOp) := by
  refine h.invariant (I := fun es s => s.suShareListener = .after (es.map Event.slotOp))
    (fun s h0 => ?_) fun es s e s' _ ih hs => ?_
  · rw [show s = _ from h0]
    rfl
  · obtain rfl := Option.some.inj hs
    rw [suShareListener_step, ih, List.map_append, List.map_singleton,
      ListenerSlot.after_concat]

/-- The listeners stay contained if one of two events in a row is a disappearance. -/
theorem contained_iff (h : exploreListener.Run es s) :
    exploreListener.RunIn (fun s => Contained s.appearance s.slot) es s ↔
      (es.map Event.slotOp).IsChain ListenerSlot.Alternates := by
  refine h.runIn_iff (C := fun es => (es.map Event.slotOp).IsChain _) ?_ ?_ ?_
  · rintro s rfl
    exact ⟨⟨fun _ => Nat.zero_le 1, fun _ _ => rfl⟩, .nil⟩
  · intro es e hchain
    rw [List.map_append] at hchain
    exact (List.isChain_append.mp hchain).1
  · intro es s e s' hrun hchain hs
    obtain rfl := Option.some.inj hs
    have hchain : ∀ _ : Unit, (es.map Event.slotOp).IsChain ListenerSlot.Alternates :=
      fun _ => hchain
    have hslot : ∀ c, (s.step e).slot c =
        .after (es.map Event.slotOp ++ (some e.slotOp).toList) := by
      intro c
      rw [slot, suShareListener_step, suShareListener_eq hrun, Option.toList_some,
        ListenerSlot.after_concat]
    have hgone : (s.step e).appearance = .disappeared →
        ∀ _ : Unit, some e.slotOp = some .remove := by
      cases e <;> simp [step, setSuShareListener, Event.slotOp]
    rw [← contained_iff_isChain hchain hslot hgone]
    simp

end ExploreListener

/-! ## The Personal screen -/

inductive PersonalViewController.Event
  | viewDidLoad
  | viewDidAppear
  | viewDidDisappear
  | selectedHeader (tag : HeaderTag)
  | refreshSuShares
deriving DecidableEq, Repr

namespace PersonalViewController

/-- The header and the list take touches while they are shown only. -/
def step (vc : PersonalViewController) : Event → Option PersonalViewController
  | .viewDidLoad => some vc.viewDidLoad
  | .viewDidAppear => some vc.viewDidAppear
  | .viewDidDisappear => some vc.viewDidDisappear
  | .selectedHeader tag =>
    if vc.appearance = .visible then some (vc.selectedHeader tag) else none
  | .refreshSuShares => if vc.appearance = .visible then some vc.refreshSuShares else none

end PersonalViewController

/-- The Personal screen, from before it is loaded. -/
def personalListeners : TransitionSystem PersonalViewController PersonalViewController.Event where
  init vc := vc = .initial
  step := PersonalViewController.step

namespace PersonalViewController

variable {es : List Event} {vc vc' : PersonalViewController} {e : Event}

/-- The tab that is selected after the event. -/
def Event.headerTag (tag : HeaderTag) : Event → HeaderTag
  | .viewDidLoad => .created
  | .selectedHeader selected => selected
  | _ => tag

/-- The tab that the event configures, with `tag` selected. -/
def Event.configures? (tag : HeaderTag) : Event → Option HeaderTag
  | .viewDidAppear | .refreshSuShares => some tag
  | .selectedHeader selected => some selected
  | .viewDidLoad | .viewDidDisappear => none

/-- What the event does to the listeners of the collection. -/
def Event.slotOp (c : Listened) (tag : HeaderTag) (e : Event) : Option SlotOp :=
  if e = .viewDidDisappear then some .remove
  else if (e.configures? tag).bind HeaderTag.listened? = some c then some .register
  else none

/-- What the events do to the listeners of the collection, with `tag` selected at first. -/
def slotOps (c : Listened) : HeaderTag → List Event → List SlotOp
  | _, [] => []
  | tag, e :: es => (e.slotOp c tag).toList ++ slotOps c (e.headerTag tag) es

theorem slotOps_concat (c : Listened) (e : Event) : ∀ (es : List Event) (tag : HeaderTag),
    slotOps c tag (es ++ [e]) =
      slotOps c tag es ++ (e.slotOp c (es.foldl Event.headerTag tag)).toList
  | [], tag => by simp [slotOps]
  | e' :: es, tag => by
    have ih := slotOps_concat c e es (e'.headerTag tag)
    simp [slotOps, ih]

theorem slot_configureSuShares2 (vc : PersonalViewController) (tag : HeaderTag) (c : Listened) :
    (vc.configureSuShares2 tag).slot c =
      if tag.listened? = some c then (vc.slot c).register else vc.slot c := by
  cases tag <;> cases c <;> rfl

theorem slot_viewDidDisappear (vc : PersonalViewController) (c : Listened) :
    vc.viewDidDisappear.slot c = (vc.slot c).remove := by
  cases c <;> rfl

theorem headerTag_step (hs : vc.step e = some vc') : vc'.headerTag = e.headerTag vc.headerTag := by
  cases e with
  | viewDidLoad | viewDidAppear | viewDidDisappear =>
    obtain rfl := Option.some.inj hs
    simp [viewDidLoad, viewDidAppear, viewDidDisappear, Event.headerTag]
  | selectedHeader tag | refreshSuShares =>
    obtain ⟨-, hs⟩ := Option.ite_none_right_eq_some.mp hs
    obtain rfl := Option.some.inj hs
    simp [selectedHeader, refreshSuShares, Event.headerTag]

/-- The listeners of a collection after an event. -/
theorem slot_step (hs : vc.step e = some vc') (c : Listened) : vc'.slot c =
    (e.slotOp c vc.headerTag).toList.foldl ListenerSlot.apply (vc.slot c) := by
  have hconfigured : ∀ tag, (vc.configureSuShares2 tag).slot c =
      (if tag.listened? = some c then some SlotOp.register else none).toList.foldl
        ListenerSlot.apply (vc.slot c) := by
    intro tag
    rw [slot_configureSuShares2]
    split_ifs <;> rfl
  cases e with
  | viewDidLoad =>
    obtain rfl := Option.some.inj hs
    cases c <;> rfl
  | viewDidAppear =>
    obtain rfl := Option.some.inj hs
    refine Eq.trans ?_ (hconfigured vc.headerTag)
    cases c <;> rfl
  | viewDidDisappear =>
    obtain rfl := Option.some.inj hs
    exact slot_viewDidDisappear vc c
  | selectedHeader tag =>
    obtain ⟨-, hs⟩ := Option.ite_none_right_eq_some.mp hs
    obtain rfl := Option.some.inj hs
    refine Eq.trans ?_ (hconfigured tag)
    cases c <;> rfl
  | refreshSuShares =>
    obtain ⟨-, hs⟩ := Option.ite_none_right_eq_some.mp hs
    obtain rfl := Option.some.inj hs
    exact hconfigured vc.headerTag

/-- The events are all that the tab and the listeners depend on. -/
theorem slot_eq (h : personalListeners.Run es vc) :
    vc.headerTag = es.foldl Event.headerTag .created ∧
      ∀ c, vc.slot c = .after (slotOps c .created es) := by
  refine h.invariant (I := fun es vc => vc.headerTag = es.foldl Event.headerTag .created ∧
    ∀ c, vc.slot c = .after (slotOps c .created es)) (fun vc h0 => ?_)
    fun es vc e vc' _ ih hs => ?_
  · rw [show vc = _ from h0]
    exact ⟨rfl, fun c => by cases c <;> rfl⟩
  · obtain ⟨htag, hslot⟩ := ih
    refine ⟨?_, fun c => ?_⟩
    · rw [headerTag_step hs, htag, List.foldl_append]
      rfl
    · rw [slot_step hs c, hslot c, htag, slotOps_concat, ListenerSlot.after,
        ListenerSlot.after, List.foldl_append]

theorem slotOp_of_disappeared (hs : vc.step e = some vc') (h : vc'.appearance = .disappeared)
    (c : Listened) : e.slotOp c vc.headerTag = some .remove := by
  cases e with
  | viewDidDisappear => rfl
  | viewDidLoad | viewDidAppear =>
    obtain rfl := Option.some.inj hs
    cases h
  | selectedHeader tag | refreshSuShares =>
    obtain ⟨hv, hs⟩ := Option.ite_none_right_eq_some.mp hs
    obtain rfl := Option.some.inj hs
    simp [selectedHeader, refreshSuShares, hv] at h

/-- The listeners stay contained if the screen disappears between two registrations on one
collection. -/
theorem contained_iff (h : personalListeners.Run es vc) :
    personalListeners.RunIn (fun vc => Contained vc.appearance vc.slot) es vc ↔
      ∀ c, (slotOps c .created es).IsChain ListenerSlot.Alternates := by
  refine h.runIn_iff (C := fun es => ∀ c, (slotOps c .created es).IsChain _) ?_ ?_ ?_
  · rintro vc rfl
    exact ⟨⟨fun c => by cases c <;> exact Nat.zero_le 1, fun _ c => by cases c <;> rfl⟩,
      fun _ => .nil⟩
  · intro es e hchain c
    have hc := hchain c
    rw [slotOps_concat] at hc
    exact (List.isChain_append.mp hc).1
  · intro es vc e vc' hrun hchain hs
    obtain ⟨htag, hslot⟩ := slot_eq hrun
    have hslot' : ∀ c, vc'.slot c =
        .after (slotOps c .created es ++ (e.slotOp c vc.headerTag).toList) := by
      intro c
      rw [slot_step hs c, hslot c, ListenerSlot.after, ListenerSlot.after, List.foldl_append]
    rw [← contained_iff_isChain hchain hslot' (slotOp_of_disappeared hs)]
    refine forall_congr' fun c => ?_
    rw [slotOps_concat, htag]

end PersonalViewController

/-! ## The screen of the comments -/

structure CommentsListener where
  appearance : Appearance
  listener : ListenerSlot
deriving DecidableEq, Repr

inductive CommentsListener.Event
  | viewDidLoad
  | viewDidAppear
  | viewDidDisappear
deriving DecidableEq, Repr

namespace CommentsListener

/-- The controller has no handler for its disappearance. -/
def step (s : CommentsListener) : Event → CommentsListener
  | .viewDidLoad => { s with appearance := .loaded }
  | .viewDidAppear => { s with appearance := .visible, listener := s.listener.register }
  | .viewDidDisappear => { s with appearance := .disappeared }

def slot (s : CommentsListener) (_ : Unit) : ListenerSlot :=
  s.listener

end CommentsListener

/-- The screen of the comments, from before it is loaded. -/
def commentsListener : TransitionSystem CommentsListener CommentsListener.Event where
  init s := s = ⟨.loaded, .empty⟩
  step s e := some (s.step e)

namespace CommentsListener

variable {es : List Event} {s : CommentsListener}

/-- Every appearance leaves a listener. -/
theorem length_active (h : commentsListener.Run es s) :
    s.listener.active.length = es.count .viewDidAppear := by
  refine h.invariant (I := fun es s => s.listener.active.length = es.count .viewDidAppear)
    (fun s h0 => ?_) fun es s e s' _ ih hs => ?_
  · rw [show s = _ from h0]
    rfl
  · obtain rfl := Option.some.inj hs
    rw [List.count_append, ← ih]
    cases e <;> rfl

/-- Nothing but loading after an appearance makes one appearance at most. -/
theorem count_le_one (h : es.Pairwise fun a b => a = .viewDidAppear → b = .viewDidLoad) :
    es.count .viewDidAppear ≤ 1 := by
  induction es with
  | nil => exact Nat.zero_le 1
  | cons e es ih =>
    obtain ⟨he, hpair⟩ := List.pairwise_cons.mp h
    rw [List.count_cons]
    split_ifs with happear
    · have hzero : es.count .viewDidAppear = 0 := by
        refine List.count_eq_zero.mpr fun hm => ?_
        cases he _ hm (by simpa using happear)
      omega
    · exact ih hpair

/-- The listeners stay contained if nothing happens after the first appearance. -/
theorem contained_iff (h : commentsListener.Run es s) :
    commentsListener.RunIn (fun s => Contained s.appearance s.slot) es s ↔
      es.Pairwise fun a b => a = .viewDidAppear → b = .viewDidLoad := by
  refine h.runIn_iff (C := fun es => es.Pairwise fun a b => a = .viewDidAppear → b = .viewDidLoad)
    ?_ ?_ ?_
  · rintro s rfl
    exact ⟨⟨fun _ => Nat.zero_le 1, fun _ _ => rfl⟩, .nil⟩
  · exact fun es e hpair => (List.pairwise_append.mp hpair).1
  · intro es s e s' hrun hpair hs
    obtain rfl := Option.some.inj hs
    have hlength := length_active hrun
    have hle := count_le_one hpair
    have hlast : (es ++ [e]).Pairwise (fun a b => a = .viewDidAppear → b = .viewDidLoad) ↔
        (0 < s.listener.active.length → e = .viewDidLoad) := by
      rw [hlength, List.count_pos_iff, List.pairwise_append]
      simp only [hpair, List.pairwise_singleton, List.mem_singleton, true_and, forall_eq]
      exact ⟨fun hall hm => hall _ hm rfl, fun hall a ha he => hall (he ▸ ha)⟩
    rw [hlast]
    cases e with
    | viewDidLoad =>
      refine iff_of_true (fun _ => rfl) ⟨fun _ => ?_, fun ha => by cases ha⟩
      exact hlength.le.trans hle
    | viewDidAppear =>
      have hmore : (s.step .viewDidAppear).listener.active.length =
          s.listener.active.length + 1 := rfl
      constructor
      · intro hnone
        refine ⟨fun _ => ?_, fun ha => by cases ha⟩
        have hzero : ¬0 < s.listener.active.length := fun hpos => by cases hnone hpos
        change (s.step .viewDidAppear).listener.active.length ≤ 1
        omega
      · rintro ⟨hone, -⟩ hpos
        have hone : (s.step .viewDidAppear).listener.active.length ≤ 1 := hone ()
        omega
    | viewDidDisappear =>
      constructor
      · intro hnone
        have hnil : s.listener.active = [] := by
          refine List.eq_nil_of_length_eq_zero ?_
          have hzero : ¬0 < s.listener.active.length := fun hpos => by cases hnone hpos
          omega
        refine ⟨fun _ => hlength.le.trans hle, fun _ _ => hnil⟩
      · rintro ⟨-, hgone⟩ hpos
        have hnil : s.listener.active = [] := hgone rfl ()
        rw [hnil] at hpos
        cases hpos

end CommentsListener

/-! ## The three screens -/

/-- Exactly when the listeners of a run are contained in each of its states : on the Explore
screen, if it disappears between two registrations; on the Personal screen, if it does so
between two registrations on one collection; on the screen of the comments, if nothing comes
after its first appearance. -/
theorem listeners_contained
    {es : List ExploreListener.Event} {s : ExploreListener} (he : exploreListener.Run es s)
    {ps : List PersonalViewController.Event} {vc : PersonalViewController}
    (hp : personalListeners.Run ps vc)
    {cs : List CommentsListener.Event} {t : CommentsListener} (hc : commentsListener.Run cs t) :
    (exploreListener.RunIn (fun s => Contained s.appearance s.slot) es s ↔
      (es.map ExploreListener.Event.slotOp).IsChain ListenerSlot.Alternates) ∧
    (personalListeners.RunIn (fun vc => Contained vc.appearance vc.slot) ps vc ↔
      ∀ c, (PersonalViewController.slotOps c .created ps).IsChain ListenerSlot.Alternates) ∧
    (commentsListener.RunIn (fun t => Contained t.appearance t.slot) cs t ↔
      cs.Pairwise fun a b => a = .viewDidAppear → b = .viewDidLoad) :=
  ⟨ExploreListener.contained_iff he, PersonalViewController.contained_iff hp,
    CommentsListener.contained_iff hc⟩

/-- The Personal screen appears, the Favorites tab is selected, and the screen disappears and
appears again. -/
def reappearing : List PersonalViewController.Event :=
  [.viewDidLoad, .viewDidAppear, .selectedHeader .favorites, .viewDidDisappear, .viewDidAppear]

/-- Its listeners are contained, as are those of an Explore screen that was not shown yet and of
a screen of the comments that stays. -/
theorem listeners_contained_reappearing : ∃ s vc t,
    exploreListener.RunIn (fun s => Contained s.appearance s.slot) [.viewDidLoad] s ∧
    personalListeners.RunIn (fun vc => Contained vc.appearance vc.slot) reappearing vc ∧
    commentsListener.RunIn (fun t => Contained t.appearance t.slot)
      [.viewDidLoad, .viewDidAppear] t := by
  obtain ⟨s, he, -⟩ := TransitionSystem.exists_run_of_exec (T := exploreListener)
    [.viewDidLoad] (fun _ => True) rfl (by decide)
  obtain ⟨vc, hp, -⟩ := TransitionSystem.exists_run_of_exec (T := personalListeners)
    reappearing (fun _ => True) rfl (by decide)
  obtain ⟨t, hc, -⟩ := TransitionSystem.exists_run_of_exec (T := commentsListener)
    [.viewDidLoad, .viewDidAppear] (fun _ => True) rfl (by decide)
  obtain ⟨hexplore, hpersonal, hcomments⟩ := listeners_contained he hp hc
  refine ⟨s, vc, t, hexplore.mpr (by decide), hpersonal.mpr fun c => ?_,
    hcomments.mpr (by decide)⟩
  cases c <;> decide

/-- The Explore screen is loaded and appears, the Personal screen is pulled, and the screen of
the comments disappears : each has a listener too many. -/
theorem listeners_leak :
    (¬ ∀ es s, exploreListener.Run es s → Contained s.appearance s.slot) ∧
    (¬ ∀ es vc, personalListeners.Run es vc → Contained vc.appearance vc.slot) ∧
    ¬ ∀ es s, commentsListener.Run es s → Contained s.appearance s.slot := by
  refine ⟨fun h => ?_, fun h => ?_, fun h => ?_⟩
  · obtain ⟨s, hrun, htwo⟩ := TransitionSystem.exists_run_of_exec (T := exploreListener)
      [.viewDidLoad, .viewWillAppear] (fun s => s.suShareListener.active.length = 2) rfl
      (by decide)
    have hone : s.suShareListener.active.length ≤ 1 := (h _ s hrun).1 ()
    omega
  · obtain ⟨vc, hrun, htwo⟩ := TransitionSystem.exists_run_of_exec (T := personalListeners)
      [.viewDidLoad, .viewDidAppear, .refreshSuShares]
      (fun vc => vc.createListner.active.length = 2) rfl (by decide)
    have hone : vc.createListner.active.length ≤ 1 := (h _ vc hrun).1 .suShare
    omega
  · obtain ⟨s, hrun, hgone, hactive⟩ := TransitionSystem.exists_run_of_exec
      (T := commentsListener) [.viewDidLoad, .viewDidAppear, .viewDidDisappear]
      (fun s => s.appearance = .disappeared ∧ s.listener.active = [0]) rfl (by decide)
    have hnil : s.listener.active = [] := (h _ s hrun).2 hgone ()
    rw [hactive] at hnil
    cases hnil

end SuShareApp
