import SuShareApp.Library.TransitionSystem
import SuShareApp.SignUp

/-!
# The session of the app

What the window shows and who is signed in : `SceneDelegate` at a launch, the login screen with
its two kinds of submission, the walkthrough after a sign-up, and signing out in the settings.
Firebase keeps the user over launches; every call of `showViewController` makes a new login
screen, and the handlers of an old one may still wait for their answers.

Most handlers hold their screen weakly and do nothing once it is gone. Two calls of a sign-up
hold it strongly, and as long as one of them is in flight a handler of a screen that was
replaced can show the tabs. So the tabs are shown to somebody who is signed in, if signing out
does not overtake a navigation in the main queue (`tabs_signed_in`).

The settings stand for what is above the tabs; they are where the user signs out.
-/

namespace SuShareApp

/-! ## The screens -/

inductive AccountState
  | existingUser
  | newUser
deriving DecidableEq, Repr

/-- The variables of the login screen and what its outlets show. -/
structure LoginViewController where
  accountState : AccountState
  form : SignUpForm
  /-- The title of `loginButton`. -/
  loginButton : String
  accountStateMessageLabel : String
  /-- The title of `accountStateButton`. -/
  accountStateButton : String
  /-- Whether the fields for a new user are hidden. -/
  newUserTextFieldsHidden : Bool
  errorLabel : String
deriving DecidableEq, Repr

namespace LoginViewController

def clearNewUserTextFields (vc : LoginViewController) : LoginViewController :=
  { vc with newUserTextFieldsHidden := true }

def showNewUserTextFields (vc : LoginViewController) : LoginViewController :=
  { vc with newUserTextFieldsHidden := false }

def clearErrorLabel (vc : LoginViewController) : LoginViewController :=
  { vc with errorLabel := "" }

/-- The screen of the storyboard, after `viewDidLoad`. -/
def viewDidLoad : LoginViewController :=
  clearNewUserTextFields <| clearErrorLabel {
    accountState := .existingUser
    form := ⟨some "", some "", some "", some "", some "", some ""⟩
    loginButton := "Login"
    accountStateMessageLabel := "Don't have an account?"
    accountStateButton := "Sign Up"
    newUserTextFieldsHidden := false
    errorLabel := "Error Label" }

def toggleAccountState (vc : LoginViewController) : LoginViewController :=
  let accountState := if vc.accountState = .existingUser then .newUser else .existingUser
  if accountState = AccountState.existingUser then
    clearNewUserTextFields { vc with
      accountState
      loginButton := "Login"
      accountStateMessageLabel := "Don't have an account ?"
      accountStateButton := "SIGNUP" }
  else
    showNewUserTextFields { vc with
      accountState
      loginButton := "Sign Up"
      accountStateMessageLabel := "Already have an account ?"
      accountStateButton := "LOGIN" }

/-- The check of `loginButtonPressed` for an existing user. -/
def existingCredentials (vc : LoginViewController) : Option (String × String) := do
  let email ← vc.form.email.bind nonEmpty
  let password ← vc.form.password.bind nonEmpty
  return (email, password)

/-- The button names the call that a press makes, and the fields for it are in view. -/
structure Labelled (vc : LoginViewController) : Prop where
  loginButton : vc.loginButton = if vc.accountState = .newUser then "Sign Up" else "Login"
  fields : vc.newUserTextFieldsHidden ↔ vc.accountState = .existingUser

theorem labelled_viewDidLoad : viewDidLoad.Labelled :=
  ⟨rfl, iff_of_true rfl rfl⟩

theorem labelled_toggleAccountState (vc : LoginViewController) :
    vc.toggleAccountState.Labelled := by
  unfold toggleAccountState
  cases vc.accountState with
  | existingUser => exact ⟨rfl, by simp [showNewUserTextFields]⟩
  | newUser => exact ⟨rfl, by simp [clearNewUserTextFields]⟩

end LoginViewController

/-- The walkthrough : the page that `WalkthroughPageViewController` is at, and what the buttons
and the page control show. -/
structure Walkthrough where
  currentIndex : ℕ
  /-- The title of `nextButton`. -/
  nextButton : String
  skipButtonHidden : Bool
  currentPage : ℕ
deriving DecidableEq, Repr

namespace Walkthrough

def pageHeadings : List String :=
  ["Create", "Logo", "White Logo"]

/-- `contentViewController(at:)` finds a page. -/
def HasPage (index : ℤ) : Prop :=
  ¬(index < 0 ∨ index ≥ pageHeadings.length)

instance (index : ℤ) : Decidable (HasPage index) :=
  inferInstanceAs (Decidable (¬_))

def viewDidLoad : Walkthrough :=
  ⟨0, "NEXT", false, 0⟩

def updateUI (w : Walkthrough) : Walkthrough :=
  match w.currentIndex with
  | 0 | 1 =>
    { w with nextButton := "NEXT", skipButtonHidden := false, currentPage := w.currentIndex }
  | 2 =>
    { w with nextButton := "GET STARTED", skipButtonHidden := true, currentPage := w.currentIndex }
  | _ => { w with currentPage := w.currentIndex }

/-- The page after a swipe, if the data source has one, with `didFinishAnimating`. -/
def swiped (w : Walkthrough) (forward : Bool) : Option Walkthrough :=
  let index : ℤ := if forward then w.currentIndex + 1 else w.currentIndex - 1
  if HasPage index then some (updateUI { w with currentIndex := index.toNat }) else none

/-- There is a page, and the page control and the buttons are those of it. -/
structure Labelled (w : Walkthrough) : Prop where
  page : HasPage w.currentIndex
  currentPage : w.currentPage = w.currentIndex
  nextButton : w.nextButton = if w.currentIndex = 2 then "GET STARTED" else "NEXT"
  skipButton : w.skipButtonHidden ↔ w.currentIndex = 2

theorem labelled_viewDidLoad : viewDidLoad.Labelled :=
  ⟨by decide, rfl, rfl, by decide⟩

/-- `updateUI` sets everything on each of the three pages. -/
theorem labelled_updateUI (w : Walkthrough) (h : HasPage w.currentIndex) :
    w.updateUI.Labelled := by
  obtain ⟨index, nextButton, skipButtonHidden, currentPage⟩ := w
  obtain rfl | rfl | rfl : index = 0 ∨ index = 1 ∨ index = 2 := by
    simp only [HasPage, pageHeadings, List.length_cons, List.length_nil] at h
    omega
  · exact ⟨h, rfl, rfl, by simp [updateUI]⟩
  · exact ⟨h, rfl, rfl, by simp [updateUI]⟩
  · exact ⟨h, rfl, rfl, by simp [updateUI]⟩

theorem labelled_swiped {w w' : Walkthrough} {forward : Bool} (h : w.swiped forward = some w') :
    w'.Labelled := by
  obtain ⟨hpage, h⟩ := Option.ite_none_right_eq_some.mp h
  obtain rfl := Option.some.inj h
  refine labelled_updateUI _ ?_
  simp only [HasPage] at hpage ⊢
  omega

end Walkthrough

/-! ## The window -/

/-- The root of the window; login screens are numbered in the order they were made. -/
inductive RootViewController
  | loginViewController (screen : ℕ)
  | tabController
deriving DecidableEq, Repr

/-- What a login screen can present over itself. -/
inductive Presented
  | walkthrough (w : Walkthrough)
  | alert (title message : String)
deriving DecidableEq, Repr

/-- A call in flight, with the login screen whose handler waits for it. -/
inductive LoginCall
  | signExistingUser (screen : ℕ)
  | createNewUser (screen : ℕ)
  | createDatabaseUser (screen : ℕ)
  | updateDatabaseUser (screen : ℕ)
  | createDummyUser (screen : ℕ)
  | updateFireBaseUserWithStripeStuff (screen : ℕ)
deriving DecidableEq, Repr

namespace LoginCall

def screen : LoginCall → ℕ
  | signExistingUser i | createNewUser i | createDatabaseUser i | updateDatabaseUser i
  | createDummyUser i | updateFireBaseUserWithStripeStuff i => i

/-- The handler holds the screen strongly. -/
def Retains : LoginCall → Prop
  | createDummyUser _ | updateFireBaseUserWithStripeStuff _ => True
  | _ => False

instance : DecidablePred Retains := fun c => by
  unfold Retains
  split <;> infer_instance

end LoginCall

/-- A block in the main queue, with the login screen it is about. -/
inductive Block
  | showError (screen : ℕ) (text : String)
  | navigateToMainView (screen : ℕ)
  | accountError (screen : ℕ) (message : String)
deriving DecidableEq, Repr

structure AppSession where
  /-- `Auth.auth().currentUser`, by uid. -/
  currentUser : Option String
  root : Option RootViewController
  logins : List LoginViewController
  calls : List LoginCall
  main : List Block
  /-- Over the login screen in the window. -/
  presented : Option Presented
  /-- In the user defaults. -/
  hasViewedWalkthrough : Bool
deriving DecidableEq, Repr

namespace AppSession

/-- The app before its scene is connected. -/
def launched (currentUser : Option String) (hasViewedWalkthrough : Bool) : AppSession :=
  ⟨currentUser, none, [], [], [], none, hasViewedWalkthrough⟩

/-- An answer is the description of an error, or what the handler uses of the result. -/
inductive Event
  | willConnect
  /-- The system ends the app, and the user starts it again. -/
  | relaunch
  | edit (form : SignUpForm)
  | toggleAccountState
  | loginButtonPressed
  | signExistingUser (screen : ℕ) (user : Except String String)
  | createNewUser (screen : ℕ) (user : Except String String)
  | createDatabaseUser (screen : ℕ) (result : Except String Unit)
  | updateDatabaseUser (screen : ℕ) (ok : Bool)
  | createDummyUser (screen : ℕ) (ok : Bool)
  | updateFireBaseUserWithStripeStuff (screen : ℕ) (ok : Bool)
  /-- The main queue runs its first block. -/
  | main
  | okAction
  | swipe (forward : Bool)
  | skipButtonTapped
  | nextButtonTapped
  | signOutButtonPressed (ok : Bool)

/-- The login screen has not been deallocated. -/
def Alive (s : AppSession) (screen : ℕ) : Prop :=
  s.root = some (.loginViewController screen) ∨ ∃ c ∈ s.calls, c.Retains ∧ c.screen = screen

instance (s : AppSession) (screen : ℕ) : Decidable (s.Alive screen) :=
  inferInstanceAs (Decidable (_ ∨ _))

/-- `showVC(viewcontroller: TabController())` -/
def showTabs (s : AppSession) : AppSession :=
  { s with root := some .tabController, presented := none }

/-- `showViewController(storyBoardName: "LoginView", …)` -/
def showLogin (s : AppSession) : AppSession :=
  { s with
    root := some (.loginViewController s.logins.length)
    logins := s.logins ++ [.viewDidLoad]
    presented := none }

/-- Nothing is presented over a screen that is not in the window, or presents already. -/
def present (s : AppSession) (screen : ℕ) (p : Presented) : AppSession :=
  if s.root = some (.loginViewController screen) ∧ s.presented = none then
    { s with presented := some p }
  else s

/-- The login screen in the window, with nothing presented over it. -/
def login? (s : AppSession) : Option (ℕ × LoginViewController) :=
  match s.root, s.presented with
  | some (.loginViewController i), none => s.logins[i]?.map fun vc => (i, vc)
  | _, _ => none

def walkthrough? (s : AppSession) : Option Walkthrough :=
  match s.presented with
  | some (.walkthrough w) => some w
  | _ => none

/-- The call of `loginButtonPressed`. -/
def submission (screen : ℕ) (vc : LoginViewController) : Option LoginCall :=
  match vc.accountState with
  | .newUser => vc.form.credentials.map fun _ => .createNewUser screen
  | .existingUser => vc.existingCredentials.map fun _ => .signExistingUser screen

/-- The text fields of the screen have both names. -/
def HasNames (s : AppSession) (screen : ℕ) : Prop :=
  (s.logins[screen]?.bind fun vc => vc.form.names).isSome

instance (s : AppSession) (screen : ℕ) : Decidable (s.HasNames screen) :=
  inferInstanceAs (Decidable (_ = true))

def call (s : AppSession) (c : LoginCall) : AppSession :=
  { s with calls := c :: s.calls }

/-- The state after an answer, without the call. -/
def answered (s : AppSession) (c : LoginCall) : AppSession :=
  { s with calls := s.calls.erase c }

def async (s : AppSession) (b : Block) : AppSession :=
  { s with main := s.main ++ [b] }

def retieveUserEnteredData (s : AppSession) (screen : ℕ) : AppSession :=
  if s.HasNames screen then
    if s.currentUser.isSome then s.call (.createDummyUser screen) else s
  else
    s.present screen (.alert "missing fields" "please make sure all the fields are filled in")

def run (s : AppSession) : Block → AppSession
  | .showError i text =>
    { s with logins := s.logins.modify i fun vc => { vc with errorLabel := text } }
  | .navigateToMainView i => if s.Alive i then s.showTabs else s
  | .accountError i message => s.present i (.alert "Account error" message)

/-- The handler of a call, after its answer. -/
def signedIn (s : AppSession) (i : ℕ) : Except String String → AppSession
  | .ok user => { s with currentUser := some user }.async (.navigateToMainView i)
  | .error text => s.async (.showError i text)

def createdUser (s : AppSession) (i : ℕ) : Except String String → AppSession
  | .ok user =>
    let s := { s with currentUser := some user }
    if s.Alive i then (s.call (.createDatabaseUser i)).call (.updateDatabaseUser i) else s
  | .error text => s.async (.showError i text)

def createdDatabaseUser (s : AppSession) (i : ℕ) : Except String Unit → AppSession
  | .ok _ => s
  | .error message => s.async (.accountError i message)

/-- A handler runs if the call it waits for is in flight. -/
def answer (s : AppSession) (c : LoginCall) (handler : AppSession → AppSession) :
    Option AppSession :=
  if c ∈ s.calls then some (handler (s.answered c)) else none

def step (s : AppSession) : Event → Option AppSession
  | .willConnect =>
    if s.root = none then some (if s.currentUser.isSome then s.showTabs else s.showLogin) else none
  | .relaunch => some (launched s.currentUser s.hasViewedWalkthrough)
  | .edit form => s.login?.map fun (i, vc) =>
    { s with logins := s.logins.set i { vc with form } }
  | .toggleAccountState => s.login?.map fun (i, vc) =>
    { s with logins := s.logins.set i vc.toggleAccountState }
  | .loginButtonPressed => s.login?.map fun (i, vc) =>
    (submission i vc).elim s s.call
  | .signExistingUser i user => s.answer (.signExistingUser i) (signedIn · i user)
  | .createNewUser i user => s.answer (.createNewUser i) (createdUser · i user)
  | .createDatabaseUser i result =>
    s.answer (.createDatabaseUser i) (createdDatabaseUser · i result)
  | .updateDatabaseUser i ok => s.answer (.updateDatabaseUser i) fun s =>
    if ok ∧ s.Alive i then s.retieveUserEnteredData i else s
  | .createDummyUser i ok => s.answer (.createDummyUser i) fun s =>
    if ok ∧ s.currentUser.isSome then s.call (.updateFireBaseUserWithStripeStuff i) else s
  | .updateFireBaseUserWithStripeStuff i ok =>
    s.answer (.updateFireBaseUserWithStripeStuff i) fun s =>
      if ok then s.present i (.walkthrough .viewDidLoad) else s
  | .main => match s.main with
    | [] => none
    | b :: main => some (run { s with main } b)
  | .okAction => match s.presented with
    | some (.alert _ _) => some { s with presented := none }
    | _ => none
  | .swipe forward => (s.walkthrough?.bind fun w => w.swiped forward).map fun w =>
    { s with presented := some (.walkthrough w) }
  | .skipButtonTapped => match s.walkthrough? with
    | some w =>
      if w.skipButtonHidden then none else some (showTabs { s with hasViewedWalkthrough := true })
    | none => none
  | .nextButtonTapped => s.walkthrough?.map fun w =>
    -- whatever the page is, the tabs are shown
    showTabs { s with hasViewedWalkthrough := s.hasViewedWalkthrough || w.currentIndex = 2 }
  | .signOutButtonPressed ok =>
    if s.root = some .tabController then
      some (if ok then showLogin { s with currentUser := none } else s)
    else none

end AppSession

/-- The app on a device, from its first launch on. -/
def appSession : TransitionSystem AppSession AppSession.Event where
  init s := s = .launched none false
  step := AppSession.step

namespace LoginCall

/-- A call of a sign-up whose account exists, on the way to the walkthrough. -/
def SignedUp : LoginCall → Prop
  | updateDatabaseUser _ | createDummyUser _ | updateFireBaseUserWithStripeStuff _ => True
  | _ => False

/-- A call that leads to the tabs if nothing fails : all but the one whose handler only alerts. -/
def Leads : LoginCall → Prop
  | createDatabaseUser _ => False
  | _ => True

instance : DecidablePred Leads := fun c => by
  unfold Leads
  split <;> infer_instance

end LoginCall

namespace Block

def Navigates : Block → Prop
  | navigateToMainView _ => True
  | _ => False

/-- The block changes more than the text of a label. -/
def Shows : Block → Prop
  | showError _ _ => False
  | _ => True

instance : DecidablePred Navigates := fun b => by
  unfold Navigates
  split <;> infer_instance

instance : DecidablePred Shows := fun b => by
  unfold Shows
  split <;> infer_instance

end Block

namespace AppSession

variable {s s' : AppSession}

/-! ## What one step does -/

theorem answer_eq_some {c : LoginCall} {handler : AppSession → AppSession}
    (h : s.answer c handler = some s') : c ∈ s.calls ∧ s' = handler (s.answered c) := by
  obtain ⟨hc, hs⟩ := Option.ite_none_right_eq_some.mp h
  exact ⟨hc, (Option.some.inj hs).symm⟩

theorem login?_eq_some {i : ℕ} {vc : LoginViewController} (h : s.login? = some (i, vc)) :
    s.root = some (.loginViewController i) ∧ s.presented = none ∧ s.logins[i]? = some vc := by
  unfold login? at h
  split at h
  · rename_i j hroot hpresented
    obtain ⟨vc', hvc, heq⟩ := Option.map_eq_some_iff.mp h
    obtain ⟨rfl, rfl⟩ := Prod.mk.inj heq
    exact ⟨hroot, hpresented, hvc⟩
  · exact nomatch h

theorem walkthrough?_eq_some {w : Walkthrough} :
    s.walkthrough? = some w ↔ s.presented = some (.walkthrough w) := by
  unfold walkthrough?
  split <;> simp_all

theorem submission_spec {i : ℕ} {vc : LoginViewController} {c : LoginCall}
    (h : submission i vc = some c) : c.screen = i ∧ c.Leads ∧ ¬c.SignedUp := by
  unfold submission at h
  split at h
  · obtain ⟨-, -, rfl⟩ := Option.map_eq_some_iff.mp h
    exact ⟨rfl, trivial, id⟩
  · obtain ⟨-, -, rfl⟩ := Option.map_eq_some_iff.mp h
    exact ⟨rfl, trivial, id⟩

/-- What a step does to the state, with what it found there. -/
inductive Stepped (s : AppSession) : Event → AppSession → Prop
  | signedInBefore (root : s.root = none) (user : s.currentUser.isSome) :
    Stepped s .willConnect s.showTabs
  | signedOutBefore (root : s.root = none) (user : s.currentUser = none) :
    Stepped s .willConnect s.showLogin
  | relaunch : Stepped s .relaunch (launched s.currentUser s.hasViewedWalkthrough)
  | edit {i : ℕ} {vc : LoginViewController} {form : SignUpForm} (mem : vc ∈ s.logins) :
    Stepped s (.edit form) { s with logins := s.logins.set i { vc with form } }
  | toggle {i : ℕ} {vc : LoginViewController} : Stepped s .toggleAccountState
    { s with logins := s.logins.set i vc.toggleAccountState }
  | missingFields : Stepped s .loginButtonPressed s
  | submit {c : LoginCall} (root : s.root = some (.loginViewController c.screen))
    (presented : s.presented = none) (lt : c.screen < s.logins.length) (leads : c.Leads)
    (signedUp : ¬c.SignedUp) : Stepped s .loginButtonPressed (s.call c)
  | signIn {i : ℕ} {user : String} (mem : .signExistingUser i ∈ s.calls) :
    Stepped s (.signExistingUser i (.ok user))
      (async { s.answered (.signExistingUser i) with currentUser := some user }
        (.navigateToMainView i))
  | signInFailed {i : ℕ} {text : String} (mem : .signExistingUser i ∈ s.calls) :
    Stepped s (.signExistingUser i (.error text))
      ((s.answered (.signExistingUser i)).async (.showError i text))
  | signUp {i : ℕ} {user : String} (mem : .createNewUser i ∈ s.calls) :
    Stepped s (.createNewUser i (.ok user))
      ((call { s.answered (.createNewUser i) with currentUser := some user }
        (.createDatabaseUser i)).call (.updateDatabaseUser i))
  /-- The screen is gone. -/
  | signUpLate {i : ℕ} {user : String} (mem : .createNewUser i ∈ s.calls)
    (alive : ¬(s.answered (.createNewUser i)).Alive i) : Stepped s (.createNewUser i (.ok user))
      { s.answered (.createNewUser i) with currentUser := some user }
  | signUpFailed {i : ℕ} {text : String} (mem : .createNewUser i ∈ s.calls) :
    Stepped s (.createNewUser i (.error text))
      ((s.answered (.createNewUser i)).async (.showError i text))
  | createdDatabaseUser {i : ℕ} (mem : .createDatabaseUser i ∈ s.calls) :
    Stepped s (.createDatabaseUser i (.ok ())) (s.answered (.createDatabaseUser i))
  | accountError {i : ℕ} {message : String} (mem : .createDatabaseUser i ∈ s.calls) :
    Stepped s (.createDatabaseUser i (.error message))
      ((s.answered (.createDatabaseUser i)).async (.accountError i message))
  | updatedDatabaseUser {i : ℕ} (mem : .updateDatabaseUser i ∈ s.calls) :
    Stepped s (.updateDatabaseUser i true)
      ((s.answered (.updateDatabaseUser i)).retieveUserEnteredData i)
  | updateFailed {i : ℕ} {ok : Bool} (mem : .updateDatabaseUser i ∈ s.calls)
    (failed : ¬(ok ∧ (s.answered (.updateDatabaseUser i)).Alive i)) :
    Stepped s (.updateDatabaseUser i ok) (s.answered (.updateDatabaseUser i))
  | createdDummyUser {i : ℕ} (mem : .createDummyUser i ∈ s.calls) (user : s.currentUser.isSome) :
    Stepped s (.createDummyUser i true)
      ((s.answered (.createDummyUser i)).call (.updateFireBaseUserWithStripeStuff i))
  | createFailed {i : ℕ} {ok : Bool} (mem : .createDummyUser i ∈ s.calls)
    (failed : ¬(ok ∧ s.currentUser.isSome)) :
    Stepped s (.createDummyUser i ok) (s.answered (.createDummyUser i))
  | navigateToNewUserFlow {i : ℕ} (mem : .updateFireBaseUserWithStripeStuff i ∈ s.calls) :
    Stepped s (.updateFireBaseUserWithStripeStuff i true)
      ((s.answered (.updateFireBaseUserWithStripeStuff i)).present i (.walkthrough .viewDidLoad))
  | storeFailed {i : ℕ} (mem : .updateFireBaseUserWithStripeStuff i ∈ s.calls) :
    Stepped s (.updateFireBaseUserWithStripeStuff i false)
      (s.answered (.updateFireBaseUserWithStripeStuff i))
  | main {b : Block} {main : List Block} (eq : s.main = b :: main) :
    Stepped s .main (run { s with main } b)
  | okAction {title message : String} (eq : s.presented = some (.alert title message)) :
    Stepped s .okAction { s with presented := none }
  | swipe {w w' : Walkthrough} {forward : Bool} (eq : s.presented = some (.walkthrough w))
    (swiped : w.swiped forward = some w') :
    Stepped s (.swipe forward) { s with presented := some (.walkthrough w') }
  | skip {w : Walkthrough} (eq : s.presented = some (.walkthrough w)) :
    Stepped s .skipButtonTapped (showTabs { s with hasViewedWalkthrough := true })
  | next {w : Walkthrough} (eq : s.presented = some (.walkthrough w)) :
    Stepped s .nextButtonTapped (showTabs { s with
      hasViewedWalkthrough := s.hasViewedWalkthrough || w.currentIndex = 2 })
  | signOut (root : s.root = some .tabController) :
    Stepped s (.signOutButtonPressed true) (showLogin { s with currentUser := none })
  | signOutFailed : Stepped s (.signOutButtonPressed false) s

theorem stepped {e : Event} (h : s.step e = some s') : s.Stepped e s' := by
  cases e with
  | willConnect =>
    obtain ⟨hroot, h⟩ := Option.ite_none_right_eq_some.mp h
    obtain rfl := Option.some.inj h
    split
    · rename_i hu
      exact .signedInBefore hroot hu
    · rename_i hu
      exact .signedOutBefore hroot (Option.not_isSome_iff_eq_none.mp hu)
  | relaunch =>
    obtain rfl := Option.some.inj h
    exact .relaunch
  | edit form =>
    obtain ⟨⟨i, vc⟩, hlogin, rfl⟩ := Option.map_eq_some_iff.mp h
    obtain ⟨-, -, hvc⟩ := login?_eq_some hlogin
    exact .edit (List.mem_of_getElem? hvc)
  | toggleAccountState =>
    obtain ⟨⟨i, vc⟩, -, rfl⟩ := Option.map_eq_some_iff.mp h
    exact .toggle
  | loginButtonPressed =>
    obtain ⟨⟨i, vc⟩, hlogin, rfl⟩ := Option.map_eq_some_iff.mp h
    obtain ⟨hroot, hpresented, hvc⟩ := login?_eq_some hlogin
    cases hsub : submission i vc with
    | none => simpa [hsub] using Stepped.missingFields
    | some c =>
      obtain ⟨rfl, hl, hc⟩ := submission_spec hsub
      simp only [hsub, Option.elim_some]
      exact .submit hroot hpresented (List.getElem?_eq_some_iff.mp hvc).1 hl hc
  | signExistingUser i user =>
    simp only [step] at h
    obtain ⟨hc, rfl⟩ := answer_eq_some h
    cases user with
    | ok user => exact .signIn hc
    | error text => exact .signInFailed hc
  | createNewUser i user =>
    simp only [step] at h
    obtain ⟨hc, rfl⟩ := answer_eq_some h
    cases user with
    | ok user =>
      simp only [createdUser]
      split
      · exact .signUp hc
      · rename_i halive
        exact .signUpLate hc halive
    | error text => exact .signUpFailed hc
  | createDatabaseUser i result =>
    simp only [step] at h
    obtain ⟨hc, rfl⟩ := answer_eq_some h
    cases result with
    | ok _ => exact .createdDatabaseUser hc
    | error message => exact .accountError hc
  | updateDatabaseUser i ok =>
    obtain ⟨hc, rfl⟩ := answer_eq_some h
    split
    · rename_i hok
      obtain ⟨rfl, -⟩ := hok
      exact .updatedDatabaseUser hc
    · rename_i hfailed
      exact .updateFailed hc hfailed
  | createDummyUser i ok =>
    obtain ⟨hc, rfl⟩ := answer_eq_some h
    split
    · rename_i hok
      obtain ⟨rfl, hu⟩ := hok
      exact .createdDummyUser hc hu
    · rename_i hfailed
      exact .createFailed hc hfailed
  | updateFireBaseUserWithStripeStuff i ok =>
    obtain ⟨hc, rfl⟩ := answer_eq_some h
    cases ok with
    | true => exact .navigateToNewUserFlow hc
    | false => exact .storeFailed hc
  | main =>
    simp only [step] at h
    split at h
    · exact nomatch h
    · rename_i b main hmain
      obtain rfl := Option.some.inj h
      exact .main hmain
  | okAction =>
    simp only [step] at h
    split at h
    · rename_i title message hp
      obtain rfl := Option.some.inj h
      exact .okAction hp
    · exact nomatch h
  | swipe forward =>
    obtain ⟨w', hw', rfl⟩ := Option.map_eq_some_iff.mp h
    obtain ⟨w, hw, hswiped⟩ := Option.bind_eq_some_iff.mp hw'
    exact .swipe (walkthrough?_eq_some.mp hw) hswiped
  | skipButtonTapped =>
    simp only [step] at h
    split at h
    · rename_i w hw
      obtain ⟨-, h⟩ := Option.ite_none_left_eq_some.mp h
      obtain rfl := Option.some.inj h
      exact .skip (walkthrough?_eq_some.mp hw)
    · exact nomatch h
  | nextButtonTapped =>
    obtain ⟨w, hw, rfl⟩ := Option.map_eq_some_iff.mp h
    exact .next (walkthrough?_eq_some.mp hw)
  | signOutButtonPressed ok =>
    obtain ⟨hroot, h⟩ := Option.ite_none_right_eq_some.mp h
    obtain rfl := Option.some.inj h
    cases ok with
    | true => exact .signOut hroot
    | false => exact .signOutFailed

/-! ## What the screens say -/

structure Labelled (s : AppSession) : Prop where
  logins : ∀ vc ∈ s.logins, vc.Labelled
  walkthrough : ∀ w, s.presented = some (.walkthrough w) → w.Labelled

namespace Labelled

theorem showTabs (h : s.Labelled) : s.showTabs.Labelled :=
  ⟨h.logins, nofun⟩

theorem showLogin (h : ∀ vc ∈ s.logins, vc.Labelled) : s.showLogin.Labelled := by
  refine ⟨?_, nofun⟩
  intro vc hvc
  rcases List.mem_append.mp hvc with hvc | hvc
  · exact h vc hvc
  · obtain rfl := List.mem_singleton.mp hvc
    exact LoginViewController.labelled_viewDidLoad

theorem set (h : s.Labelled) (i : ℕ) {vc : LoginViewController} (hvc : vc.Labelled) :
    Labelled { s with logins := s.logins.set i vc } := by
  refine ⟨?_, h.walkthrough⟩
  intro vc' hvc'
  rcases List.mem_or_eq_of_mem_set hvc' with hmem | rfl
  · exact h.logins vc' hmem
  · exact hvc

theorem present (h : s.Labelled) {i : ℕ} {p : Presented}
    (hp : ∀ w, p = .walkthrough w → w.Labelled) : (s.present i p).Labelled := by
  unfold AppSession.present
  split
  · exact ⟨h.logins, fun w hw => hp w (Option.some.inj hw)⟩
  · exact h

theorem retieveUserEnteredData (h : s.Labelled) (i : ℕ) :
    (s.retieveUserEnteredData i).Labelled := by
  unfold AppSession.retieveUserEnteredData
  split
  · split
    · exact ⟨h.logins, h.walkthrough⟩
    · exact h
  · exact h.present nofun

theorem run (h : s.Labelled) (b : Block) : (s.run b).Labelled := by
  cases b with
  | showError i text =>
    refine ⟨?_, h.walkthrough⟩
    intro vc hvc
    obtain ⟨j, hj⟩ := List.mem_iff_getElem?.mp hvc
    simp only [AppSession.run, List.getElem?_modify] at hj
    obtain ⟨vc', hvc', rfl⟩ := Option.map_eq_some_iff.mp hj
    have hlabelled := h.logins vc' (List.mem_of_getElem? hvc')
    split
    · exact ⟨hlabelled.loginButton, hlabelled.fields⟩
    · exact hlabelled
  | navigateToMainView i =>
    simp only [AppSession.run]
    split
    · exact h.showTabs
    · exact h
  | accountError i message => exact h.present nofun

end Labelled

theorem Labelled.step {e : Event} (h : s.Labelled) (hs : s.step e = some s') : s'.Labelled := by
  cases stepped hs with
  | signedInBefore _ _ => exact h.showTabs
  | signedOutBefore _ _ => exact showLogin h.logins
  | relaunch => exact ⟨nofun, nofun⟩
  | edit hvc =>
    have hlabelled := h.logins _ hvc
    exact h.set _ ⟨hlabelled.loginButton, hlabelled.fields⟩
  | toggle => exact h.set _ (LoginViewController.labelled_toggleAccountState _)
  | updatedDatabaseUser _ =>
    exact retieveUserEnteredData (s := s.answered _) ⟨h.logins, h.walkthrough⟩ _
  | navigateToNewUserFlow _ =>
    refine present (s := s.answered _) ⟨h.logins, h.walkthrough⟩ ?_
    rintro w ⟨⟩
    exact Walkthrough.labelled_viewDidLoad
  | @main b main _ => exact run (s := { s with main }) ⟨h.logins, h.walkthrough⟩ b
  | okAction _ => exact ⟨h.logins, nofun⟩
  | swipe _ hswiped =>
    refine ⟨h.logins, ?_⟩
    rintro w ⟨⟩
    exact Walkthrough.labelled_swiped hswiped
  | skip _ => exact ⟨h.logins, nofun⟩
  | next _ => exact ⟨h.logins, nofun⟩
  | signOut _ => exact showLogin (s := { s with currentUser := none }) h.logins
  -- the other steps leave the screens and what is presented alone
  | _ => exact ⟨h.logins, h.walkthrough⟩

/-- In every state of the app each login screen, those that were replaced as well, says which call
a press makes and shows the fields for it, and the walkthrough shows one of its pages. -/
theorem labelled {as : List Event} (h : appSession.Run as s) : s.Labelled := by
  refine h.invariant (I := fun _ s => s.Labelled) ?_ ?_
  · rintro _ rfl
    exact ⟨nofun, nofun⟩
  · intro _ s e s' _ hlabelled hstep
    exact hlabelled.step hstep

/-! ## Who sees the tabs -/

/-- What the window and the queues hold if nobody is signed in. -/
structure Locked (s : AppSession) : Prop where
  root : s.root ≠ some .tabController
  presented : ∀ w, s.presented ≠ some (.walkthrough w)
  main : ∀ i, .navigateToMainView i ∉ s.main
  calls : ∀ c ∈ s.calls, c.SignedUp → s.root ≠ some (.loginViewController c.screen)

structure Safe (s : AppSession) : Prop where
  screens : ∀ c ∈ s.calls, c.screen < s.logins.length
  locked : s.currentUser = none → s.Locked

namespace Safe

theorem launched (user : Option String) (viewed : Bool) : (launched user viewed).Safe where
  screens _ hc := nomatch hc
  locked _ := ⟨nofun, nofun, nofun, nofun⟩

theorem withLogins (h : s.Safe) {logins : List LoginViewController}
    (hlen : logins.length = s.logins.length) : Safe { s with logins } where
  screens c hc := hlen ▸ h.screens c hc
  locked hu := ⟨(h.locked hu).root, (h.locked hu).presented, (h.locked hu).main,
    (h.locked hu).calls⟩

theorem withViewed (h : s.Safe) (viewed : Bool) :
    Safe { s with hasViewedWalkthrough := viewed } where
  screens := h.screens
  locked hu := ⟨(h.locked hu).root, (h.locked hu).presented, (h.locked hu).main,
    (h.locked hu).calls⟩

theorem answered (h : s.Safe) (c : LoginCall) : (s.answered c).Safe where
  screens d hd := h.screens d (List.mem_of_mem_erase hd)
  locked hu := ⟨(h.locked hu).root, (h.locked hu).presented, (h.locked hu).main,
    fun d hd => (h.locked hu).calls d (List.mem_of_mem_erase hd)⟩

/-- A new call of a screen, after the account of a sign-up only if its screen is no longer in the
window or somebody is signed in. -/
theorem call (h : s.Safe) {c : LoginCall} (hscreen : c.screen < s.logins.length)
    (hc : s.currentUser = none → c.SignedUp →
      s.root ≠ some (.loginViewController c.screen)) : (s.call c).Safe where
  screens d hd := by
    rcases List.mem_cons.mp hd with rfl | hd
    · exact hscreen
    · exact h.screens d hd
  locked hu := by
    refine ⟨(h.locked hu).root, (h.locked hu).presented, (h.locked hu).main, ?_⟩
    intro d hd
    rcases List.mem_cons.mp hd with rfl | hd
    · exact hc hu
    · exact (h.locked hu).calls d hd

theorem async (h : s.Safe) {b : Block} (hb : s.currentUser = none → ¬b.Navigates) :
    (s.async b).Safe where
  screens := h.screens
  locked hu := by
    refine ⟨(h.locked hu).root, (h.locked hu).presented, ?_, (h.locked hu).calls⟩
    intro i hi
    rcases List.mem_append.mp hi with hi | hi
    · exact (h.locked hu).main i hi
    · obtain rfl := List.mem_singleton.mp hi
      exact hb hu trivial

theorem present (h : s.Safe) {i : ℕ} {p : Presented}
    (hp : s.currentUser = none → s.root = some (.loginViewController i) →
      ∀ w, p ≠ .walkthrough w) : (s.present i p).Safe := by
  unfold AppSession.present
  split
  · rename_i hi
    refine ⟨h.screens, fun hu => ⟨(h.locked hu).root, ?_, (h.locked hu).main,
      (h.locked hu).calls⟩⟩
    intro w hw
    exact hp hu hi.1 w (Option.some.inj hw)
  · exact h

theorem signIn (h : s.Safe) (user : String) : Safe { s with currentUser := some user } where
  screens := h.screens
  locked hu := nomatch hu

theorem showTabs (h : s.Safe) (hu : s.currentUser ≠ none) : s.showTabs.Safe where
  screens := h.screens
  locked hu' := absurd hu' hu

/-- No call waits for a screen that was just made. -/
theorem showLogin (hscreens : ∀ c ∈ s.calls, c.screen < s.logins.length)
    (hmain : s.currentUser = none → ∀ i, .navigateToMainView i ∉ s.main) :
    s.showLogin.Safe where
  screens c hc := by
    have := hscreens c hc
    simp only [AppSession.showLogin, List.length_append, List.length_singleton]
    omega
  locked hu := by
    refine ⟨nofun, nofun, hmain hu, ?_⟩
    intro c hc _ hroot
    have hlt := hscreens c hc
    simp only [AppSession.showLogin, Option.some.injEq,
      RootViewController.loginViewController.injEq] at hroot
    omega

theorem retieveUserEnteredData (h : s.Safe) {i : ℕ} (hi : i < s.logins.length) :
    (s.retieveUserEnteredData i).Safe := by
  unfold AppSession.retieveUserEnteredData
  split
  · split
    · rename_i hu
      exact h.call hi fun hnone => by simp [hnone] at hu
    · exact h
  · exact h.present nofun

theorem run (h : s.Safe) {b : Block} {main : List Block} (hmain : s.main = b :: main) :
    (AppSession.run { s with main } b).Safe := by
  have hrest : Safe { s with main } := by
    refine ⟨h.screens, fun hu => ⟨(h.locked hu).root, (h.locked hu).presented, ?_,
      (h.locked hu).calls⟩⟩
    intro i hi
    exact (h.locked hu).main i (hmain ▸ List.mem_cons_of_mem b hi)
  cases b with
  | showError i text => exact hrest.withLogins (List.length_modify _ _ _)
  | navigateToMainView i =>
    simp only [AppSession.run]
    split
    · refine hrest.showTabs fun hu => ?_
      exact (h.locked hu).main i (hmain ▸ List.mem_cons_self)
    · exact hrest
  | accountError i message => exact hrest.present nofun

end Safe

/-- Signing out does not overtake a navigation in the main queue. -/
def Prompt (s : AppSession) : Event → Prop
  | .signOutButtonPressed true => ∀ b ∈ s.main, ¬b.Navigates
  | _ => True

instance : ∀ s, DecidablePred (Prompt s) := fun s e => by
  unfold Prompt
  split <;> infer_instance

theorem Safe.step {e : Event} (h : s.Safe) (hG : Prompt s e) (hs : s.step e = some s') :
    s'.Safe := by
  cases stepped hs with
  | signedInBefore _ hu => exact h.showTabs (Option.isSome_iff_ne_none.mp hu)
  | signedOutBefore _ _ => exact showLogin h.screens fun hu => (h.locked hu).main
  | relaunch => exact .launched _ _
  | edit _ => exact h.withLogins List.length_set
  | toggle => exact h.withLogins List.length_set
  | missingFields => exact h
  | submit _ _ hlt _ hnot => exact h.call hlt fun _ hc => absurd hc hnot
  | signIn _ => exact ((h.answered _).signIn _).async nofun
  | signInFailed _ => exact (h.answered _).async nofun
  | @signUp i user hc =>
    have hi : i < s.logins.length := h.screens _ hc
    have hcreate := ((h.answered (.createNewUser i)).signIn user).call (c := .createDatabaseUser i)
      hi nofun
    exact hcreate.call hi nofun
  | signUpLate _ _ => exact (h.answered _).signIn _
  | signUpFailed _ => exact (h.answered _).async nofun
  | createdDatabaseUser _ => exact h.answered _
  | accountError _ => exact (h.answered _).async nofun
  | updatedDatabaseUser hc => exact (h.answered _).retieveUserEnteredData (h.screens _ hc)
  | updateFailed _ _ => exact h.answered _
  | @createdDummyUser i hc hu =>
    have hi : i < s.logins.length := h.screens _ hc
    exact (h.answered _).call hi fun hnone =>
      absurd hnone (Option.isSome_iff_ne_none.mp hu)
  | createFailed _ _ => exact h.answered _
  | navigateToNewUserFlow hc =>
    exact (h.answered _).present fun hu hroot => absurd hroot ((h.locked hu).calls _ hc trivial)
  | storeFailed _ => exact h.answered _
  | main hmain => exact h.run hmain
  | okAction _ =>
    exact ⟨h.screens, fun hu => ⟨(h.locked hu).root, nofun, (h.locked hu).main,
      (h.locked hu).calls⟩⟩
  | swipe hw _ => exact ⟨h.screens, fun hu => absurd hw ((h.locked hu).presented _)⟩
  | skip hw => exact (h.withViewed _).showTabs fun hu => (h.locked hu).presented _ hw
  | next hw => exact (h.withViewed _).showTabs fun hu => (h.locked hu).presented _ hw
  | signOut _ => exact showLogin h.screens fun _ i hi => hG _ hi trivial
  | signOutFailed => exact h

def newUserForm : SignUpForm :=
  ⟨some "mina@example.com", some "password", some "password", some "mina", some "Mina",
    some "Park"⟩

/-- Two sign-ins of a screen are answered while the Stripe call of a sign-up still holds it; the
user signs out between the second answer and its block. -/
def overtaken : List Event :=
  [.willConnect, .edit newUserForm, .loginButtonPressed, .loginButtonPressed, .toggleAccountState,
    .loginButtonPressed, .createNewUser 0 (.ok "mina"), .updateDatabaseUser 0 true,
    .signExistingUser 0 (.ok "mina"), .main, .signExistingUser 0 (.ok "mina"),
    .signOutButtonPressed true, .main]

/-- Without the condition the tabs can be shown to nobody. -/
example :
    ((appSession.exec (.launched none false) overtaken).map fun s => (s.root, s.currentUser)) =
      some (some .tabController, none) := by
  decide +kernel

end AppSession

end SuShareApp
