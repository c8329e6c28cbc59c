import SuShareApp.World

/-!
# Joining twice from one screen

`joinSushareButtonPressed` appends the user to a copy of the SuShare that the detail screen
holds, and hands the copy to `joinUserToSuShare` and to the payment screen. The screen's own
SuShare stays as it was, so every press of one screen writes the same list, and neither the
number of presses nor the order of the writes can be told from what is stored, as long as nobody
else writes the list between them (`join_idempotent`).
-/

namespace SuShareApp

/-- The detail screen, as far as Join reads it. -/
structure DetailViewController where
  sushare : Option SuShare

/-- The screen after the press, and the SuShare that is written and paid for. In Swift
`var sushare = sushare` is a copy, and the append leaves the property alone. -/
def DetailViewController.joinSushareButtonPressed (vc : DetailViewController)
    (currentUser : Option AuthUser) : DetailViewController × Option SuShare :=
  match currentUser, vc.sushare with
  | some currentUser, some sushare => (vc, some (sushare.appendingUser currentUser.uid))
  | _, _ => (vc, none)

/-- A press writes what the request of the press in the app writes. -/
theorem DetailViewController.perform_joinUserToSuShare (user : AuthUser) (screen : Copy)
    (db : Store) : (joinSushareButtonPressed ⟨some screen.sushare⟩ (some user)).2.bind
      db.joinUserToSuShare = (Request.joinUserToSuShare user screen).perform db :=
  rfl

/-- A detail screen over the store, with the writes of its presses that are in flight and those
that were applied. -/
structure JoinPresses where
  db : Store
  vc : DetailViewController
  writes : List SuShare
  applied : List SuShare

namespace JoinPresses

inductive Action
  | joinSushareButtonPressed
  | serve (suShare : SuShare)
  | reject (suShare : SuShare)
  /-- Others leave the store like this. -/
  | write (db : Store)

def Action.isPress : Action → Bool
  | .joinSushareButtonPressed => true
  | _ => false

def step (currentUser : AuthUser) (s : JoinPresses) : Action → Option JoinPresses
  | .joinSushareButtonPressed =>
    let (vc, write) := s.vc.joinSushareButtonPressed (some currentUser)
    some { s with vc, writes := write.toList ++ s.writes }
  | .serve suShare =>
    if suShare ∈ s.writes then
      (s.db.joinUserToSuShare suShare).map fun db =>
        { s with db, writes := s.writes.erase suShare, applied := suShare :: s.applied }
    else none
  | .reject suShare =>
    if suShare ∈ s.writes then some { s with writes := s.writes.erase suShare } else none
  | .write db => some { s with db }

end JoinPresses

/-- The screen that was opened with the SuShare. -/
def joinPresses (currentUser : AuthUser) (sushare : SuShare) :
    TransitionSystem JoinPresses JoinPresses.Action where
  init s := s.vc.sushare = some sushare ∧ s.writes = [] ∧ s.applied = []
  step := JoinPresses.step currentUser

namespace JoinPresses

/-- From the first write of the screen on, others leave the list of the SuShare `id` as it is. -/
def ListKept (id : String) (s : JoinPresses) : Action → Prop
  | .write db => s.applied ≠ [] →
    db.field id "usersInTheSuShare" = s.db.field id "usersInTheSuShare"
  | _ => True

instance (id : String) (s : JoinPresses) : DecidablePred (ListKept id s) := fun a => by
  unfold ListKept
  split <;> infer_instance

variable {user : AuthUser} {sushare : SuShare} {as : List Action} {a : Action}
  {s s' : JoinPresses}

/-- The screen keeps its SuShare, and all its writes are the same. -/
structure OneWrite (user : AuthUser) (sushare : SuShare) (s : JoinPresses) : Prop where
  screen : s.vc.sushare = some sushare
  writes : ∀ w ∈ s.writes, w = sushare.appendingUser user.uid
  stored : s.applied ≠ [] → s.db.field sushare.suShareId "usersInTheSuShare" =
    some (.strings (sushare.usersInTheSuShare ++ [user.uid]))

theorem OneWrite.step (h : OneWrite user sushare s) (hG : ListKept sushare.suShareId s a)
    (hs : s.step user a = some s') : OneWrite user sushare s' := by
  cases a with
  | joinSushareButtonPressed =>
    have hpress : s.vc.joinSushareButtonPressed (some user) =
        (s.vc, some (sushare.appendingUser user.uid)) := by
      simp only [DetailViewController.joinSushareButtonPressed, h.screen]
    rw [JoinPresses.step, hpress] at hs
    obtain rfl := Option.some.inj hs
    exact ⟨h.screen, List.forall_mem_cons.mpr ⟨rfl, h.writes⟩, h.stored⟩
  | serve w =>
    obtain ⟨hw, hs⟩ := Option.ite_none_right_eq_some.mp hs
    obtain ⟨db, hdb, rfl⟩ := Option.map_eq_some_iff.mp hs
    obtain rfl := h.writes w hw
    exact ⟨h.screen, fun v hv => h.writes v (List.mem_of_mem_erase hv),
      fun _ => Store.field_updateSuShare hdb⟩
  | reject w =>
    obtain ⟨-, hs⟩ := Option.ite_none_right_eq_some.mp hs
    obtain rfl := Option.some.inj hs
    exact ⟨h.screen, fun v hv => h.writes v (List.mem_of_mem_erase hv), h.stored⟩
  | write db =>
    obtain rfl := Option.some.inj hs
    exact ⟨h.screen, h.writes, fun happlied => (hG happlied).trans (h.stored happlied)⟩

theorem oneWrite (h : (joinPresses user sushare).RunWhere (ListKept sushare.suShareId) as s) :
    OneWrite user sushare s := by
  refine h.invariant (I := fun _ s => OneWrite user sushare s) ?_ fun _ _ _ _ _ ih hG hs =>
    ih.step hG hs
  rintro s ⟨hscreen, hwrites, happlied⟩
  exact ⟨hscreen, by simp [hwrites], fun hne => absurd happlied hne⟩

/-- However often Join was pressed, once the writes are applied the stored list is the one that
the screen was opened with, and the user. -/
theorem join_idempotent
    (h : (joinPresses user sushare).RunWhere (ListKept sushare.suShareId) as s)
    (hpressed : 1 ≤ as.countP Action.isPress)
    (happlied : s.applied.length = as.countP Action.isPress) :
    s.db.field sushare.suShareId "usersInTheSuShare" =
      some (.strings (sushare.usersInTheSuShare ++ [user.uid])) := by
  refine (oneWrite h).stored (List.ne_nil_of_length_pos ?_)
  omega

/-- The screen of Ann's SuShare, before Join was pressed. -/
def opened : JoinPresses :=
  ⟨(World.initial .empty).db.createASusu Sample.ann "s1" Sample.posted, ⟨some Sample.roof⟩, [], []⟩

/-- Bob presses Join, and again after the first write was applied. -/
def joiningTwice : List Action :=
  [.joinSushareButtonPressed, .serve (Sample.roof.appendingUser "bob"),
    .joinSushareButtonPressed, .serve (Sample.roof.appendingUser "bob")]

theorem join_idempotent_joiningTwice : ∃ s,
    (joinPresses Sample.bob Sample.roof).RunWhere (ListKept "s1") joiningTwice s ∧
      s.db.field "s1" "usersInTheSuShare" = some (.strings ["ann", "bob"]) := by
  obtain ⟨s, hrun, happlied⟩ := TransitionSystem.exists_run_of_exec
    (T := (joinPresses Sample.bob Sample.roof).guarded (ListKept "s1")) (s := opened)
    joiningTwice (fun s => s.applied.length = 2) ⟨rfl, rfl, rfl⟩ (by decide +kernel)
  exact ⟨s, hrun.runWhere, join_idempotent hrun.runWhere (by decide) happlied⟩

end JoinPresses

end SuShareApp
