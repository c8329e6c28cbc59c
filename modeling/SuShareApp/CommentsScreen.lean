import SuShareApp.Comments
import SuShareApp.Service
import Mathlib.Data.List.DropRight

/-!
# The comments screen

The comments button fetches the current user and pushes the screen without waiting for the
answer, and the cells of the table force-unwrap the user. The rows come from the listener that
the screen attaches when it appears : a snapshot sets the comments, a block in the main queue
reloads the table, which counts the rows, and the rows are rendered when the table lays out its
subviews, after a reload and at any time later.

So the cells do not crash on a missing user exactly if the fetch has brought the user by the
time of the first layout that has comments to render (`users_unwrapped_iff`). A fetch that
fails, or finds no document, never does.
-/

namespace SuShareApp

/-- What a row shows. -/
structure CommentCell where
  textLabel : String
  detailTextLabel : String
  imageURL : String

/-- Why the rendering of a row traps. -/
inductive CellTrap
  | indexOutOfRange
  /-- `user!` of `nil`. -/
  | missingUser
deriving DecidableEq, Repr

structure CommentsScreen where
  vc : CommentsViewController
  user : Option User
  /-- `getCurrentUser` is not answered yet. -/
  fetching : Bool
  /-- The listener is attached. -/
  listening : Bool
  /-- The blocks in the main queue that reload the table. -/
  reloads : ℕ
  /-- The rows that the table counted when it was last reloaded. -/
  rows : ℕ

namespace CommentsScreen

/-- The screen that `commentsButtonPressed` pushes. -/
def commentsButtonPressed (sushare : SuShare) : CommentsScreen :=
  ⟨⟨sushare, []⟩, none, true, false, 0, 0⟩

/-- The completion closure of `commentsButtonPressed`. An error is printed. -/
def completion (s : CommentsScreen) : Except FirestoreError User → CommentsScreen
  | .error _ => s
  | .ok user => { s with user := some user }

/-- `tableView(_:cellForRowAt:)`, with `dateString()` as a parameter. -/
def cellForRowAt (dateString : ℤ → String) (s : CommentsScreen) (row : ℕ) :
    Except CellTrap CommentCell :=
  match s.vc.comments[row]?, s.user with
  | none, _ => .error .indexOutOfRange
  | some _, none => .error .missingUser
  | some comment, some user => .ok {
      textLabel := comment.comment
      detailTextLabel :=
        "@" ++ comment.commentedBy ++ " " ++ dateString comment.commentDate.dateValue
      imageURL := user.profilePhoto }

inductive Action
  | viewDidAppear
  | getCurrentUser (outcome : Except FirestoreError (Option Dictionary))
  | snapshot (now : Timestamp) (documents : List Dictionary)
  | reloadData
  /-- The table renders its rows. -/
  | layoutSubviews

def step (currentUser : AuthUser) (s : CommentsScreen) : Action → Option CommentsScreen
  | .viewDidAppear => some { s with listening := true }
  | .getCurrentUser outcome =>
    if s.fetching then
      let steps := (DatabaseService.getCurrentUser (some currentUser)).answer outcome
      some ((HandlerStep.completions steps).foldl completion { s with fetching := false })
    else none
  | .snapshot now documents =>
    if s.listening then
      some { s with vc := s.vc.listener now documents, reloads := s.reloads + 1 }
    else none
  | .reloadData =>
    if 0 < s.reloads then
      some { s with reloads := s.reloads - 1, rows := s.vc.comments.length }
    else none
  | .layoutSubviews => some s

end CommentsScreen

/-- The comments screen of a SuShare, from the press of the button on. -/
def commentsScreen (currentUser : AuthUser) (sushare : SuShare) :
    TransitionSystem CommentsScreen CommentsScreen.Action where
  init s := s = .commentsButtonPressed sushare
  step := CommentsScreen.step currentUser

namespace CommentsScreen

/-- No row that is rendered finds the user missing. -/
def UserUnwrapped (dateString : ℤ → String) (s : CommentsScreen) : Action → Prop
  | .layoutSubviews => ∀ row < s.rows, s.cellForRowAt dateString row ≠ .error .missingUser
  | _ => True

/-! ## The past of a screen -/

/-- The number of comments that the action delivers. -/
def Action.delivered? : Action → Option ℕ
  | .snapshot _ documents => some documents.length
  | _ => none

/-- The action does not reload the table. -/
def Action.keepsRows : Action → Bool
  | .reloadData => false
  | _ => true

/-- The number of comments in the last snapshot. -/
def latest (as : List Action) : ℕ :=
  (as.filterMap Action.delivered?).getLastD 0

/-- The number of comments that the last reload found. -/
def counted (as : List Action) : ℕ :=
  latest (as.rdropWhile Action.keepsRows)

/-- The fetch has brought the user. -/
def Fetched (as : List Action) : Prop :=
  ∃ data, .getCurrentUser (.ok (some data)) ∈ as

/-- At each layout, the last reload found no comments, or they are gone again, or the fetch has
brought the user. -/
def UserFirst (as : List Action) : Prop :=
  ∀ pre, pre ++ [.layoutSubviews] <+: as → counted pre = 0 ∨ latest pre = 0 ∨ Fetched pre

theorem latest_concat (as : List Action) (a : Action) :
    latest (as ++ [a]) = a.delivered?.getD (latest as) := by
  unfold latest
  rw [List.filterMap_append]
  cases h : a.delivered? with
  | none => simp [h]
  | some n => simp [h]

theorem latest_concat_of_none {a : Action} (ha : a.delivered? = none) (as : List Action) :
    latest (as ++ [a]) = latest as := by
  rw [latest_concat, ha, Option.getD_none]

theorem counted_concat_of_keepsRows {a : Action} (ha : a.keepsRows = true) (as : List Action) :
    counted (as ++ [a]) = counted as := by
  rw [counted, List.rdropWhile_concat_pos _ _ _ ha, counted]

theorem counted_concat_reloadData (as : List Action) :
    counted (as ++ [.reloadData]) = latest as := by
  rw [counted, List.rdropWhile_concat_neg _ _ _ (by simp [Action.keepsRows]),
    latest_concat_of_none rfl]

theorem fetched_concat (as : List Action) (a : Action) :
    Fetched (as ++ [a]) ↔ Fetched as ∨ ∃ data, a = .getCurrentUser (.ok (some data)) := by
  simp [Fetched, List.mem_append, exists_or, eq_comm]

theorem userFirst_nil : UserFirst [] := by
  intro pre hpre
  simp at hpre

theorem userFirst_of_not_mem {as : List Action} (h : .layoutSubviews ∉ as) : UserFirst as :=
  fun _ hpre => absurd (hpre.subset (by simp)) h

theorem userFirst_concat (as : List Action) (a : Action) :
    UserFirst (as ++ [a]) ↔ UserFirst as ∧
      (a = .layoutSubviews → counted as = 0 ∨ latest as = 0 ∨ Fetched as) := by
  unfold UserFirst
  constructor
  · intro h
    refine ⟨fun pre hpre => h pre (hpre.trans (List.prefix_append _ _)), ?_⟩
    rintro rfl
    exact h as (List.prefix_refl _)
  · rintro ⟨h, ha⟩ pre hpre
    rcases List.prefix_concat_iff.mp hpre with heq | hpre
    · obtain ⟨rfl, hlast⟩ := List.append_inj' heq rfl
      exact ha (List.singleton_inj.mp hlast).symm
    · exact h pre hpre

variable {currentUser : AuthUser} {sushare : SuShare} {as : List Action}
  {s s' : CommentsScreen}

/-- What the screen keeps of the past. -/
structure Tracks (as : List Action) (s : CommentsScreen) : Prop where
  comments : s.vc.comments.length = latest as
  rows : s.rows = counted as
  user : s.user ≠ none ↔ Fetched as

/-- The user that an answer to the fetch leaves. -/
def userAfter (s : CommentsScreen) : Except FirestoreError (Option Dictionary) → Option User
  | .ok (some data) => some (User.init data)
  | _ => s.user

theorem step_getCurrentUser {outcome : Except FirestoreError (Option Dictionary)}
    (h : s.step currentUser (.getCurrentUser outcome) = some s') :
    s' = { s with fetching := false, user := s.userAfter outcome } := by
  obtain ⟨-, h⟩ := Option.ite_none_right_eq_some.mp h
  obtain rfl := Option.some.inj h
  rcases outcome with error | _ | data <;> rfl

theorem Tracks.step (h : Tracks as s) {a : Action} (hs : s.step currentUser a = some s') :
    Tracks (as ++ [a]) s' := by
  cases a with
  | viewDidAppear | layoutSubviews =>
    obtain rfl := Option.some.inj hs
    exact ⟨by rw [latest_concat_of_none rfl, h.comments],
      by rw [counted_concat_of_keepsRows rfl, h.rows], by simp [fetched_concat, h.user]⟩
  | getCurrentUser outcome =>
    obtain rfl := step_getCurrentUser hs
    refine ⟨by rw [latest_concat_of_none rfl, h.comments],
      by rw [counted_concat_of_keepsRows rfl, h.rows], ?_⟩
    rw [fetched_concat, ← h.user]
    rcases outcome with error | _ | data
    · simp [userAfter]
    · simp [userAfter]
    · simp [userAfter]
  | snapshot now documents =>
    obtain ⟨-, hs⟩ := Option.ite_none_right_eq_some.mp hs
    obtain rfl := Option.some.inj hs
    refine ⟨?_, by rw [counted_concat_of_keepsRows rfl, h.rows], by simp [fetched_concat, h.user]⟩
    rw [latest_concat]
    simp [CommentsViewController.listener, Action.delivered?]
  | reloadData =>
    obtain ⟨-, hs⟩ := Option.ite_none_right_eq_some.mp hs
    obtain rfl := Option.some.inj hs
    exact ⟨by rw [latest_concat_of_none rfl, h.comments],
      by rw [counted_concat_reloadData, h.comments], by simp [fetched_concat, h.user]⟩

theorem tracks (h : (commentsScreen currentUser sushare).Run as s) : Tracks as s := by
  refine h.invariant (I := Tracks) (fun s h0 => ?_) fun _ _ _ _ _ ih hs => ih.step hs
  obtain rfl : s = .commentsButtonPressed sushare := h0
  exact ⟨rfl, rfl, by simp [Fetched, commentsButtonPressed]⟩

/-! ## When the cells are safe -/

theorem cellForRowAt_eq_missingUser_iff (dateString : ℤ → String) (row : ℕ) :
    s.cellForRowAt dateString row = .error .missingUser ↔
      row < s.vc.comments.length ∧ s.user = none := by
  unfold cellForRowAt
  rcases lt_or_ge row s.vc.comments.length with hrow | hrow
  · rw [List.getElem?_eq_getElem hrow]
    cases s.user with
    | none => simp [hrow]
    | some user => simp
  · rw [List.getElem?_eq_none hrow]
    simp [hrow.not_gt]

/-- The rows can be rendered if there are none, or no comments for them, or there is a user. -/
theorem userUnwrapped_layoutSubviews_iff (dateString : ℤ → String) :
    s.UserUnwrapped dateString .layoutSubviews ↔
      s.rows = 0 ∨ s.vc.comments.length = 0 ∨ s.user ≠ none := by
  simp only [UserUnwrapped, ne_eq, cellForRowAt_eq_missingUser_iff, not_and]
  constructor
  · intro h
    by_contra hne
    obtain ⟨hrows, hcomments, huser⟩ := not_or.mp hne |>.imp_right not_or.mp
    exact h 0 (Nat.pos_of_ne_zero hrows) (Nat.pos_of_ne_zero hcomments) (not_not.mp huser)
  · rintro (hrows | hcomments | huser) row hrow hlt
    · omega
    · omega
    · exact huser

/-- In a run of the screen no row finds the user missing, exactly if at each layout that has
comments to render the fetch has brought the user. -/
theorem users_unwrapped_iff (dateString : ℤ → String)
    (h : (commentsScreen currentUser sushare).Run as s) :
    (commentsScreen currentUser sushare).RunWhere (UserUnwrapped dateString) as s ↔
      UserFirst as := by
  refine h.runWhere_iff userFirst_nil fun as s a hr => ?_
  have htracks := tracks hr
  rw [userFirst_concat, and_congr_right_iff]
  intro _
  cases a with
  | layoutSubviews =>
    rw [userUnwrapped_layoutSubviews_iff, htracks.rows, htracks.comments, htracks.user]
    simp
  | _ => simp [UserUnwrapped]

/-- Bob's comment on Ann's SuShare. -/
def greeting : Dictionary :=
  Store.commentDocument "Bob" ⟨7, 0⟩ Sample.roof "Hello"

/-- Ann's profile. -/
def profile : Dictionary :=
  .ofList [("username", .string "Ann"), ("userId", .string "ann")]

/-- It arrives before the comment does. -/
def profileFirst : List Action :=
  [.viewDidAppear, .getCurrentUser (.ok (some profile)),
    .snapshot ⟨9, 0⟩ [greeting], .reloadData]

theorem users_unwrapped_iff_profileFirst :
    ∃ s, (commentsScreen Sample.ann Sample.roof).RunWhere (UserUnwrapped fun _ => "")
      (profileFirst ++ [.layoutSubviews]) s := by
  obtain ⟨s, hrun, -⟩ := TransitionSystem.exists_run_of_exec
    (T := commentsScreen Sample.ann Sample.roof) (s := commentsButtonPressed Sample.roof)
    (profileFirst ++ [.layoutSubviews]) (fun s => s.rows = 1) rfl (by decide +kernel)
  have hfetched : Fetched profileFirst := ⟨profile, by simp [profileFirst]⟩
  have hfirst : UserFirst (profileFirst ++ [.layoutSubviews]) :=
    (userFirst_concat _ _).mpr ⟨userFirst_of_not_mem (by simp [profileFirst]),
      fun _ => Or.inr (Or.inr hfetched)⟩
  exact ⟨s, (users_unwrapped_iff _ hrun).mpr hfirst⟩

/-- The comment is rendered before Ann's profile arrives. -/
theorem not_users_unwrapped : ¬ ∀ (dateString : ℤ → String) (currentUser : AuthUser)
    (sushare : SuShare) (as : List Action) (s : CommentsScreen),
    (commentsScreen currentUser sushare).Run as s →
      (commentsScreen currentUser sushare).RunWhere (UserUnwrapped dateString) as s := by
  intro h
  obtain ⟨s, hrun, hrows, hcomments, huser⟩ := TransitionSystem.exists_run_of_exec
    (T := commentsScreen Sample.ann Sample.roof) (s := commentsButtonPressed Sample.roof)
    ([.viewDidAppear, .snapshot ⟨9, 0⟩ [greeting], .reloadData] ++ [.layoutSubviews])
    (fun s => s.rows = 1 ∧ s.vc.comments.length = 1 ∧ s.user.isNone) rfl (by decide +kernel)
  obtain ⟨s₁, -, hunwrapped, hs⟩ := (h (fun _ => "") _ _ _ s hrun).exists_last
  obtain rfl := Option.some.inj hs
  rcases (userUnwrapped_layoutSubviews_iff _).mp hunwrapped with hnone | hnone | hne
  · omega
  · omega
  · exact hne (Option.isNone_iff_eq_none.mp huser)

end CommentsScreen

end SuShareApp
