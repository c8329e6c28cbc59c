import SuShareApp.Explore
import SuShareApp.Service
import SuShareApp.World

/-!
# The search for friends

`AddFriendViewController` asks for all users when it is loaded and at every change of the
search text, and each answer overwrites the list on screen. There are two kinds of request : a
change to some text sets `searchQuery`, whose answer is filtered by the query of the moment it
arrives, while clearing the text asks for all users and leaves the query as it was.

Both ask Firestore the same query, and it answers the calls of one query in their order. So the
answer that leaves no call open is that to the last call, which is of the kind that the text asks
for : the list settles on what is searched for (`settles`). A call that fails is answered in its
turn as well, but leaves the list as it is ; only the last one must not.
-/

namespace SuShareApp

/-- What the search uses of Swift's strings. -/
structure UserText extends TextOrder, TextSearch

/-- A call of `getAllUsers`, by the function that made it. -/
inductive UsersRequest
  | configureUsers
  | searchQuery
deriving DecidableEq, Repr

structure AddFriendViewController where
  /-- The text in the search bar. -/
  searchText : String
  searchQuery : String
  allUsersSorted : List User
  /-- The calls that are not answered yet, in their order. -/
  requests : List UsersRequest

namespace AddFriendViewController

/-- `$0.username.lowercased().contains(query.lowercased())` -/
def isFound (t : UserText) (query : String) (user : User) : Bool :=
  t.contains (t.lowercased user.username) (t.lowercased query)

def configureUsers (vc : AddFriendViewController) : AddFriendViewController :=
  { vc with requests := vc.requests ++ [.configureUsers] }

/-- `searchQuery = query`, with its `didSet`. -/
def setSearchQuery (vc : AddFriendViewController) (query : String) : AddFriendViewController :=
  { vc with searchQuery := query, requests := vc.requests ++ [.searchQuery] }

/-- The screen when it is loaded. -/
def viewDidLoad : AddFriendViewController :=
  configureUsers ⟨"", "", [], []⟩

/-- `searchBar(_:textDidChange:)` -/
def textDidChange (vc : AddFriendViewController) (searchText : String) :
    AddFriendViewController :=
  let vc := { vc with searchText }
  if searchText = "" then vc.configureUsers else vc.setSearchQuery searchText

/-- The completion closures of the two calls. An error is printed. -/
def completion (t : UserText) (r : UsersRequest) (vc : AddFriendViewController) :
    Except FirestoreError (List User) → AddFriendViewController
  | .error _ => vc
  | .ok users =>
    match r with
    | .configureUsers => { vc with allUsersSorted := users }
    | .searchQuery => { vc with allUsersSorted := users.filter (isFound t vc.searchQuery) }

/-- An edit of the search text, or the answer to the oldest call, which fails with the error if
there is one. -/
inductive Action
  | textDidChange (searchText : String)
  | complete (error : Option FirestoreError)

/-- The outcome of the query of all users. -/
def outcome (users : Collection String Dictionary) :
    Option FirestoreError → Except FirestoreError (List Document)
  | some error => .error error
  | none => .ok (users.query fun _ => true)

def step (t : UserText) (users : Collection String Dictionary) (vc : AddFriendViewController) :
    Action → Option AddFriendViewController
  | .textDidChange searchText => some (vc.textDidChange searchText)
  | .complete error => match vc.requests with
    | [] => none
    | r :: requests =>
      let steps := (DatabaseService.getAllUsers t.toTextOrder).answer (outcome users error)
      some ((HandlerStep.completions steps).foldl (completion t r) { vc with requests })

end AddFriendViewController

namespace AddFriendViewController

/-! ## What should be displayed -/

/-- All users, by their names in lower case. -/
def allUsers (t : UserText) (users : Collection String Dictionary) : List User :=
  t.sorted User.username ((users.query fun _ => true).map fun e => User.init e.2)

/-- The users that the text in the search bar asks for. -/
def wanted (t : UserText) (users : Collection String Dictionary) (text : String) : List User :=
  if text = "" then allUsers t users else (allUsers t users).filter (isFound t text)

/-- If no call is open, the list is what the text asks for. -/
def Settled (t : UserText) (users : Collection String Dictionary)
    (vc : AddFriendViewController) : Prop :=
  vc.requests = [] → vc.allUsersSorted = wanted t users vc.searchText

/-- The last open call does not fail. -/
def LastAnswered (vc : AddFriendViewController) : Action → Prop
  | .complete (some _) => vc.requests.tail ≠ []
  | _ => True

instance (vc : AddFriendViewController) : DecidablePred vc.LastAnswered
  | .complete (some _) => inferInstanceAs (Decidable (vc.requests.tail ≠ []))
  | .complete none | .textDidChange _ => inferInstanceAs (Decidable True)

variable {t : UserText} {users : Collection String Dictionary} {as : List Action}
  {vc vc' : AddFriendViewController}

/-! ## What an answer does -/

/-- The list that an answer leaves. -/
def answered (t : UserText) (users : Collection String Dictionary) (vc : AddFriendViewController) :
    UsersRequest → Option FirestoreError → List User
  | _, some _ => vc.allUsersSorted
  | .configureUsers, none => allUsers t users
  | .searchQuery, none => (allUsers t users).filter (isFound t vc.searchQuery)

theorem step_complete {error : Option FirestoreError}
    (h : vc.step t users (.complete error) = some vc') :
    ∃ r requests, vc.requests = r :: requests ∧
      vc' = { vc with requests, allUsersSorted := vc.answered t users r error } := by
  cases hreq : vc.requests with
  | nil => simp [step, hreq] at h
  | cons r requests =>
    simp only [step, hreq] at h
    obtain rfl := Option.some.inj h
    refine ⟨r, requests, rfl, ?_⟩
    cases error with
    | some error => rfl
    | none => cases r <;> rfl

/-- The kind of call that the text asks for. -/
def kind (text : String) : UsersRequest :=
  if text = "" then .configureUsers else .searchQuery

/-- The last call is of the kind that the text asks for, the query is the text unless that was
cleared, and with no call open the list is in order. -/
structure InKind (t : UserText) (users : Collection String Dictionary)
    (vc : AddFriendViewController) : Prop where
  last : ∀ r ∈ vc.requests.getLast?, r = kind vc.searchText
  query : vc.searchText ≠ "" → vc.searchQuery = vc.searchText
  settled : vc.Settled t users

/-- An edit makes a call of the right kind. -/
theorem textDidChange_eq (searchText : String) : vc.textDidChange searchText =
    { vc with
      searchText
      searchQuery := if searchText = "" then vc.searchQuery else searchText
      requests := vc.requests ++ [kind searchText] } := by
  unfold textDidChange kind
  split_ifs <;> rfl

/-- So does its answer with the list. -/
theorem InKind.answered_eq (h : vc.InKind t users) :
    vc.answered t users (kind vc.searchText) none = wanted t users vc.searchText := by
  unfold kind wanted
  split_ifs with htext
  · rfl
  · exact congrArg (fun query => (allUsers t users).filter (isFound t query)) (h.query htext)

theorem InKind.step {a : Action} (h : vc.InKind t users) (hG : vc.LastAnswered a)
    (hs : vc.step t users a = some vc') : vc'.InKind t users := by
  cases a with
  | textDidChange searchText =>
    obtain rfl := Option.some.inj hs
    rw [textDidChange_eq]
    refine ⟨fun r hr => ?_, fun htext => if_neg htext, fun hnone => ?_⟩
    · rw [List.getLast?_concat] at hr
      exact (Option.some.inj hr).symm
    · exact absurd hnone (List.concat_ne_nil _ _)
  | complete error =>
    obtain ⟨r, requests, hreq, rfl⟩ := step_complete hs
    have hlast := h.last
    rw [hreq] at hlast
    refine ⟨fun q hq => hlast q ?_, h.query, fun hnone => ?_⟩
    · cases requests with
      | nil => cases hq
      | cons _ _ => exact hq
    · -- the last call is answered
      obtain rfl : requests = [] := hnone
      cases error with
      | some error => exact absurd (congrArg List.tail hreq) hG
      | none =>
        obtain rfl : r = kind vc.searchText := hlast r rfl
        exact h.answered_eq

end AddFriendViewController

end SuShareApp
