import SuShareApp.CreateForm
import SuShareApp.StripeIdentity

/-!
# Sign-up

`LoginViewController` for a new user. The handler of a successful `createNewUser` starts
three things at once : the commit of the display name, the users document, and the update of
its username. The rest is a chain on the last of these, through the Stripe customer to the
update that stores it, and `navigateToNewUserFlow` at its end.

Firestore takes the writes of a client in the order in which they were issued, so the state
has them in a queue; what they are answered, the commit and the Stripe call return in any
order. The text fields can be edited at any time, and are read when a handler reads them.
One attempt is followed at a time : Sign Up is pressed when nothing of an earlier attempt is
in flight.

At each stage of the chain, `Progress` says which writes are still queued, what the users
document is by now, and which answers are on their way.
-/

namespace SuShareApp

/-! ## The form -/

/-- The text fields. -/
structure SignUpForm where
  email : Option String
  password : Option String
  confirmPassword : Option String
  username : Option String
  firstName : Option String
  lastName : Option String
deriving DecidableEq, Repr

/-- What `loginButtonPressed` hands to `continueLoginFlow`. -/
structure Credentials where
  email : String
  password : String
  username : String
deriving DecidableEq, Repr

structure Names where
  first : String
  last : String
deriving DecidableEq, Repr

/-- The checks of `loginButtonPressed`. -/
def SignUpForm.credentials (form : SignUpForm) : Option Credentials := do
  let email ← form.email.bind nonEmpty
  let password ← form.password.bind nonEmpty
  let username ← form.username.bind nonEmpty
  let confirmPassword ← form.confirmPassword.bind nonEmpty
  guard (confirmPassword = password)
  return ⟨email, password, username⟩

/-- The checks of `retieveUserEnteredData`. -/
def SignUpForm.names (form : SignUpForm) : Option Names := do
  let first ← form.firstName.bind nonEmpty
  let last ← form.lastName.bind nonEmpty
  return ⟨first, last⟩

/-- `"\x7bfirst} \x7blast} "` -/
def Names.fullName (n : Names) : String :=
  n.first ++ " " ++ n.last ++ " "

/-! ## Writes -/

/-- A write to the users collection. -/
inductive Write
  | createDatabaseUser (user : AuthUser)
  | updateDatabaseUser (uid username : String)
  | updateFireBaseUserWithStripeStuff (uid fullName stripeCustomerId : String)
deriving DecidableEq, Repr

namespace Write

/-- The document that `createDatabaseUser` writes. -/
def userDocument (user : AuthUser) : Dictionary :=
  .ofList [
    ("email", .string (user.email.getD "")),
    ("userId", .string user.uid),
    ("username", .string (user.displayName.getD ""))]

/-- The users collection after the write, or `none` where Firestore reports an error. -/
def perform (users : Collection String Dictionary) :
    Write → Option (Collection String Dictionary)
  | .createDatabaseUser user => some (users.setData user.uid (userDocument user))
  | .updateDatabaseUser uid username =>
    users.updateData uid fun d => d.updating (.ofList [("username", .string username)])
  | .updateFireBaseUserWithStripeStuff uid fullName stripeCustomerId =>
    users.updateData uid fun d => d.updating (.ofList
      [("fullName", .string fullName), ("stripeCustomerId", .string stripeCustomerId)])

/-- The write among the events of the accounts. -/
def event : Write → Accounts.Event
  | .createDatabaseUser user => .createDatabaseUser user
  | .updateDatabaseUser uid username => .updateDatabaseUser uid username
  | .updateFireBaseUserWithStripeStuff uid fullName stripeCustomerId =>
    .updateFireBaseUserWithStripeStuff uid fullName stripeCustomerId

/-- The accounts change their documents as the write does, if its customer was returned. -/
theorem perform_eq_step (s : Accounts) (w : Write)
    (hr : ∀ uid fullName customer, w = .updateFireBaseUserWithStripeStuff uid fullName customer →
      (fullName, customer) ∈ s.responses) :
    w.perform s.users = (s.step w.event).map Accounts.users := by
  cases w with
  | createDatabaseUser user => rfl
  | updateDatabaseUser uid username =>
    simp [perform, event, Accounts.step, Accounts.updateUser, Function.comp_def]
  | updateFireBaseUserWithStripeStuff uid fullName customer =>
    simp [perform, event, Accounts.step, Accounts.updateUser, hr uid fullName customer rfl,
      Function.comp_def]

end Write

/-! ## The flow -/

/-- An attempt whose account was created : what was entered, and `authDataResult.user` as
the handler found it. -/
structure Attempt where
  credentials : Credentials
  user : AuthUser
deriving DecidableEq, Repr

/-- Where the chain of handlers is. -/
inductive Stage
  | idle
  | creatingUser (c : Credentials)
  /-- Account creation failed. -/
  | failed (c : Credentials)
  | updatingUser (a : Attempt)
  /-- `retieveUserEnteredData` found an empty name. -/
  | missingFields (a : Attempt)
  | creatingCustomer (a : Attempt) (names : Names)
  | storingCustomer (a : Attempt) (names : Names) (customer : String)
  /-- A later step than account creation failed. -/
  | stopped (a : Attempt)
  | navigated (a : Attempt) (names : Names) (customer : String)
deriving DecidableEq, Repr

/-- Nothing of the chain is in flight. -/
def Stage.isResting : Stage → Bool
  | .idle | .failed _ | .missingFields _ | .stopped _ | .navigated _ _ _ => true
  | _ => false

/-- The login screen, the accounts and the users documents. -/
structure SignUp where
  accounts : List AuthUser
  users : Collection String Dictionary
  form : SignUpForm
  stage : Stage
  /-- The commit of a display name in flight : the uid and the name. -/
  commit : Option (String × String)
  /-- The writes in the order in which they were issued. -/
  writes : List Write
  /-- The answers in flight : the write, and whether it succeeded. -/
  answers : List (Write × Bool)

namespace SignUp

inductive Event
  | edit (form : SignUpForm)
  | loginButtonPressed
  /-- The account is created, under the uid, and the handler runs. -/
  | createNewUser (uid : String)
  | createNewUserFailed
  | commitChanges (ok : Bool)
  /-- The server takes the first write. -/
  | serve (w : Write)
  | reject (w : Write)
  /-- The completion handler of a write runs. -/
  | answer (w : Write) (ok : Bool)
  /-- The Stripe call returns the customer, and the handler runs. -/
  | createDummyUser (customer : String)
  | createDummyUserFailed

/-- Nothing is in flight. -/
def Quiet (s : SignUp) : Prop :=
  s.stage.isResting ∧ s.commit = none ∧ s.writes = [] ∧ s.answers = []

instance (s : SignUp) : Decidable s.Quiet :=
  inferInstanceAs (Decidable (_ ∧ _))

/-- The stage after the completion handler of a write, for the text fields as they are. The
handler of `createDatabaseUser` does nothing but print or alert. -/
def handled (form : SignUpForm) : Stage → Write → Bool → Stage
  | .updatingUser a, .updateDatabaseUser _ _, true =>
    match form.names with
    | some names => .creatingCustomer a names
    | none => .missingFields a
  | .updatingUser a, .updateDatabaseUser _ _, false => .stopped a
  | .storingCustomer a names customer, .updateFireBaseUserWithStripeStuff _ _ _, true =>
    .navigated a names customer
  | .storingCustomer a _ _, .updateFireBaseUserWithStripeStuff _ _ _, false => .stopped a
  | stage, _, _ => stage

/-- Neither the uid nor the email of the account is in use. -/
def IsNew (s : SignUp) (user : AuthUser) : Prop :=
  user.uid ∉ s.accounts.map AuthUser.uid ∧ (s.users.get? user.uid).isNone ∧
    user.email ∉ s.accounts.map AuthUser.email

instance (s : SignUp) (user : AuthUser) : Decidable (s.IsNew user) :=
  inferInstanceAs (Decidable (_ ∧ _))

/-- `canonical` is the spelling in which the service keeps an email. -/
def step (canonical : String → String) (s : SignUp) : Event → Option SignUp
  | .edit form => some { s with form }
  | .loginButtonPressed =>
    if s.Quiet then s.form.credentials.map fun c => { s with stage := .creatingUser c } else none
  | .createNewUser uid =>
    match s.stage with
    | .creatingUser c =>
      let user : AuthUser := ⟨uid, none, some (canonical c.email)⟩
      if s.IsNew user then
        some { s with
          accounts := user :: s.accounts
          stage := .updatingUser ⟨c, user⟩
          commit := some (uid, c.username)
          writes := s.writes ++ [.createDatabaseUser user, .updateDatabaseUser uid c.username] }
      else none
    | _ => none
  | .createNewUserFailed =>
    match s.stage with
    | .creatingUser c => some { s with stage := .failed c }
    | _ => none
  | .commitChanges ok => s.commit.map fun ⟨uid, displayName⟩ =>
    { s with
      commit := none
      accounts := s.accounts.map fun user =>
        if ok ∧ user.uid = uid then { user with displayName := some displayName } else user }
  | .serve w =>
    if s.writes.head? = some w then
      some { s with
        users := (w.perform s.users).getD s.users
        writes := s.writes.tail
        answers := (w, (w.perform s.users).isSome) :: s.answers }
    else none
  | .reject w =>
    if s.writes.head? = some w then
      some { s with writes := s.writes.tail, answers := (w, false) :: s.answers }
    else none
  | .answer w ok =>
    if (w, ok) ∈ s.answers then
      some { s with stage := handled s.form s.stage w ok, answers := s.answers.erase (w, ok) }
    else none
  | .createDummyUser customer =>
    match s.stage with
    | .creatingCustomer a names =>
      some { s with
        stage := .storingCustomer a names customer
        writes := s.writes ++
          [.updateFireBaseUserWithStripeStuff a.user.uid names.fullName customer] }
    | _ => none
  | .createDummyUserFailed =>
    match s.stage with
    | .creatingCustomer a _ => some { s with stage := .stopped a }
    | _ => none

end SignUp

/-- The login screen, over the given accounts and users documents. -/
def signUp (canonical : String → String) (accounts : List AuthUser)
    (users : Collection String Dictionary) : TransitionSystem SignUp SignUp.Event where
  init s := s.accounts = accounts ∧ s.users = users ∧ s.stage = .idle ∧ s.commit = none ∧
    s.writes = [] ∧ s.answers = []
  step := SignUp.step canonical

namespace SignUp

variable {canonical : String → String}

/-! ## What a step can do -/

/-- The ten kinds of step, with what each of them needs. -/
inductive Steps (canonical : String → String) (s : SignUp) : Event → SignUp → Prop
  | edit {form : SignUpForm} : Steps canonical s (.edit form) { s with form }
  | loginButtonPressed {c : Credentials} (hq : s.Quiet) (hc : s.form.credentials = some c) :
    Steps canonical s .loginButtonPressed { s with stage := .creatingUser c }
  | createNewUser {c : Credentials} {uid : String} (hst : s.stage = .creatingUser c)
    (hn : s.IsNew ⟨uid, none, some (canonical c.email)⟩) :
    Steps canonical s (.createNewUser uid)
      { s with
        accounts := ⟨uid, none, some (canonical c.email)⟩ :: s.accounts
        stage := .updatingUser ⟨c, uid, none, some (canonical c.email)⟩
        commit := some (uid, c.username)
        writes := s.writes ++ [.createDatabaseUser ⟨uid, none, some (canonical c.email)⟩,
          .updateDatabaseUser uid c.username] }
  | createNewUserFailed {c : Credentials} (hst : s.stage = .creatingUser c) :
    Steps canonical s .createNewUserFailed { s with stage := .failed c }
  | commitChanges {ok : Bool} {uid displayName : String} (hc : s.commit = some (uid, displayName)) :
    Steps canonical s (.commitChanges ok)
      { s with
        commit := none
        accounts := s.accounts.map fun user =>
          if ok ∧ user.uid = uid then { user with displayName := some displayName } else user }
  | serve {w : Write} {rest : List Write} (hw : s.writes = w :: rest) :
    Steps canonical s (.serve w)
      { s with
        users := (w.perform s.users).getD s.users
        writes := rest
        answers := (w, (w.perform s.users).isSome) :: s.answers }
  | reject {w : Write} {rest : List Write} (hw : s.writes = w :: rest) :
    Steps canonical s (.reject w)
      { s with writes := rest, answers := (w, false) :: s.answers }
  | answer {w : Write} {ok : Bool} (ha : (w, ok) ∈ s.answers) :
    Steps canonical s (.answer w ok)
      { s with stage := handled s.form s.stage w ok, answers := s.answers.erase (w, ok) }
  | createDummyUser {a : Attempt} {names : Names} {customer : String}
    (hst : s.stage = .creatingCustomer a names) :
    Steps canonical s (.createDummyUser customer)
      { s with
        stage := .storingCustomer a names customer
        writes := s.writes ++
          [.updateFireBaseUserWithStripeStuff a.user.uid names.fullName customer] }
  | createDummyUserFailed {a : Attempt} {names : Names}
    (hst : s.stage = .creatingCustomer a names) :
    Steps canonical s .createDummyUserFailed { s with stage := .stopped a }

theorem steps_of_step {s s' : SignUp} {e : Event} (h : s.step canonical e = some s') :
    s.Steps canonical e s' := by
  cases e with
  | edit form =>
    obtain rfl := Option.some.inj h
    exact .edit
  | loginButtonPressed =>
    obtain ⟨hq, h⟩ := Option.ite_none_right_eq_some.mp h
    obtain ⟨c, hc, rfl⟩ := Option.map_eq_some_iff.mp h
    exact .loginButtonPressed hq hc
  | createNewUser uid =>
    simp only [step] at h
    split at h
    · next c hst =>
      obtain ⟨hn, h⟩ := Option.ite_none_right_eq_some.mp h
      obtain rfl := Option.some.inj h
      exact .createNewUser hst hn
    · cases h
  | createNewUserFailed =>
    simp only [step] at h
    split at h
    · next c hst =>
      obtain rfl := Option.some.inj h
      exact .createNewUserFailed hst
    · cases h
  | commitChanges ok =>
    obtain ⟨⟨uid, displayName⟩, hc, rfl⟩ := Option.map_eq_some_iff.mp h
    exact .commitChanges hc
  | serve w =>
    obtain ⟨hw, h⟩ := Option.ite_none_right_eq_some.mp h
    obtain rfl := Option.some.inj h
    exact .serve (List.eq_cons_of_mem_head? hw)
  | reject w =>
    obtain ⟨hw, h⟩ := Option.ite_none_right_eq_some.mp h
    obtain rfl := Option.some.inj h
    exact .reject (List.eq_cons_of_mem_head? hw)
  | answer w ok =>
    obtain ⟨ha, h⟩ := Option.ite_none_right_eq_some.mp h
    obtain rfl := Option.some.inj h
    exact .answer ha
  | createDummyUser customer =>
    simp only [step] at h
    split at h
    · next a names hst =>
      obtain rfl := Option.some.inj h
      exact .createDummyUser hst
    · cases h
  | createDummyUserFailed =>
    simp only [step] at h
    split at h
    · next a names hst =>
      obtain rfl := Option.some.inj h
      exact .createDummyUserFailed hst
    · cases h

end SignUp

/-! ## The writes of an attempt -/

namespace Attempt

variable (a : Attempt)

/-- The first write of the attempt, and the document it leaves. -/
def create : Write :=
  .createDatabaseUser a.user

def created : Dictionary :=
  Write.userDocument a.user

/-- The second write, and the document after it. -/
def update : Write :=
  .updateDatabaseUser a.user.uid a.credentials.username

def updated : Dictionary :=
  a.created.updating (.ofList [("username", .string a.credentials.username)])

/-- The last write, and the document after it. -/
def store (names : Names) (customer : String) : Write :=
  .updateFireBaseUserWithStripeStuff a.user.uid names.fullName customer

def stored (names : Names) (customer : String) : Dictionary :=
  a.updated.updating (.ofList
    [("fullName", .string names.fullName), ("stripeCustomerId", .string customer)])

variable {a : Attempt} {users : Collection String Dictionary} {names : Names} {customer : String}

theorem perform_create : a.create.perform users = some (users.setData a.user.uid a.created) :=
  rfl

theorem perform_update (h : users.get? a.user.uid = some a.created) :
    a.update.perform users = some (users.setData a.user.uid a.updated) := by
  simp [update, Write.perform, Collection.updateData, h, updated]

theorem perform_update_of_none (h : users.get? a.user.uid = none) :
    a.update.perform users = none := by
  simp [update, Write.perform, Collection.updateData, h]

theorem perform_store (h : users.get? a.user.uid = some a.updated) :
    (a.store names customer).perform users =
      some (users.setData a.user.uid (a.stored names customer)) := by
  simp [store, Write.perform, Collection.updateData, h, stored]

end Attempt

namespace SignUp

/-- How far the writes of the attempt have come at each stage of the chain : which of them
are still queued, what the users document is by now, and which answers are on their way. The
answer to `createDatabaseUser` may come at any time, or have come. -/
inductive Progress (users : Collection String Dictionary) (answers : List (Write × Bool)) :
    Stage → List Write → Prop
  | idle (ha : answers = []) : Progress users answers .idle []
  | creatingUser {c : Credentials} (ha : answers = []) :
    Progress users answers (.creatingUser c) []
  | failed {c : Credentials} (ha : answers = []) : Progress users answers (.failed c) []
  | issued {a : Attempt} (hd : users.get? a.user.uid = none) (ha : answers = []) :
    Progress users answers (.updatingUser a) [a.create, a.update]
  | created {a : Attempt}
    (hd : users.get? a.user.uid = none ∨ users.get? a.user.uid = some a.created)
    (ha : ∀ x ∈ answers, x.1 = a.create) : Progress users answers (.updatingUser a) [a.update]
  | updated {a : Attempt} (hd : users.get? a.user.uid = some a.updated)
    (hm : (a.update, true) ∈ answers)
    (ha : ∀ x ∈ answers.erase (a.update, true), x.1 = a.create) :
    Progress users answers (.updatingUser a) []
  | notUpdated {a : Attempt}
    (hd : users.get? a.user.uid = none ∨ users.get? a.user.uid = some a.created)
    (hm : (a.update, false) ∈ answers)
    (ha : ∀ x ∈ answers.erase (a.update, false), x.1 = a.create) :
    Progress users answers (.updatingUser a) []
  | missingFields {a : Attempt} (hd : users.get? a.user.uid = some a.updated)
    (ha : ∀ x ∈ answers, x.1 = a.create) : Progress users answers (.missingFields a) []
  | creatingCustomer {a : Attempt} {names : Names} (hd : users.get? a.user.uid = some a.updated)
    (ha : ∀ x ∈ answers, x.1 = a.create) : Progress users answers (.creatingCustomer a names) []
  | storing {a : Attempt} {names : Names} {customer : String}
    (hd : users.get? a.user.uid = some a.updated) (ha : ∀ x ∈ answers, x.1 = a.create) :
    Progress users answers (.storingCustomer a names customer) [a.store names customer]
  | stored {a : Attempt} {names : Names} {customer : String}
    (hd : users.get? a.user.uid = some (a.stored names customer))
    (hm : (a.store names customer, true) ∈ answers)
    (ha : ∀ x ∈ answers.erase (a.store names customer, true), x.1 = a.create) :
    Progress users answers (.storingCustomer a names customer) []
  | notStored {a : Attempt} {names : Names} {customer : String}
    (hd : users.get? a.user.uid = some a.updated)
    (hm : (a.store names customer, false) ∈ answers)
    (ha : ∀ x ∈ answers.erase (a.store names customer, false), x.1 = a.create) :
    Progress users answers (.storingCustomer a names customer) []
  | stopped {a : Attempt}
    (hd : users.get? a.user.uid = none ∨ users.get? a.user.uid = some a.created ∨
      users.get? a.user.uid = some a.updated)
    (ha : ∀ x ∈ answers, x.1 = a.create) : Progress users answers (.stopped a) []
  | navigated {a : Attempt} {names : Names} {customer : String}
    (hd : users.get? a.user.uid = some (a.stored names customer))
    (ha : ∀ x ∈ answers, x.1 = a.create) :
    Progress users answers (.navigated a names customer) []

namespace Progress

variable {users : Collection String Dictionary} {answers : List (Write × Bool)} {stage : Stage}
  {writes rest : List Write} {form : SignUpForm} {w : Write} {ok : Bool}

theorem handled_create (form : SignUpForm) (stage : Stage) (a : Attempt) (ok : Bool) :
    handled form stage a.create ok = stage := by
  cases stage <;> cases ok <;> rfl

/-- The server takes the first write. -/
theorem serve (h : Progress users answers stage (w :: rest)) :
    Progress ((w.perform users).getD users) ((w, (w.perform users).isSome) :: answers) stage
      rest := by
  generalize hw : w :: rest = writes at h
  cases h with
  | @issued a hd ha =>
    obtain ⟨rfl, rfl⟩ := List.cons.inj hw
    subst ha
    refine .created (Or.inr ?_) (by simp)
    rw [Attempt.perform_create]
    exact Collection.get?_setData_self _ _ _
  | @created a hd ha =>
    obtain ⟨rfl, rfl⟩ := List.cons.inj hw
    rcases hd with hd | hd
    · rw [Attempt.perform_update_of_none hd]
      exact .notUpdated (Or.inl hd) List.mem_cons_self (by simpa using ha)
    · rw [Attempt.perform_update hd]
      exact .updated (Collection.get?_setData_self _ _ _) List.mem_cons_self (by simpa using ha)
  | @storing a names customer hd ha =>
    obtain ⟨rfl, rfl⟩ := List.cons.inj hw
    rw [Attempt.perform_store hd]
    exact .stored (Collection.get?_setData_self _ _ _) List.mem_cons_self (by simpa using ha)
  | _ => cases hw

/-- The server rejects the first write. -/
theorem reject (h : Progress users answers stage (w :: rest)) :
    Progress users ((w, false) :: answers) stage rest := by
  generalize hw : w :: rest = writes at h
  cases h with
  | @issued a hd ha =>
    obtain ⟨rfl, rfl⟩ := List.cons.inj hw
    exact .created (Or.inl hd) (by simp [ha])
  | @created a hd ha =>
    obtain ⟨rfl, rfl⟩ := List.cons.inj hw
    exact .notUpdated hd List.mem_cons_self (by simpa using ha)
  | @storing a names customer hd ha =>
    obtain ⟨rfl, rfl⟩ := List.cons.inj hw
    exact .notStored hd List.mem_cons_self (by simpa using ha)
  | _ => cases hw

/-- The answer that the chain waits for arrives, or one that it does not wait for. -/
theorem answer_cases {create : Write} {x y : Write × Bool} (hy : y ∈ answers)
    (hrest : ∀ z ∈ answers.erase y, z.1 = create) (hx : x ∈ answers) :
    x = y ∨ x.1 = create ∧ y ∈ answers.erase x ∧
      ∀ z ∈ (answers.erase x).erase y, z.1 = create := by
  by_cases hxy : x = y
  · exact Or.inl hxy
  · refine Or.inr ⟨hrest x ((List.mem_erase_of_ne hxy).mpr hx),
      (List.mem_erase_of_ne (Ne.symm hxy)).mpr hy, fun z hz => ?_⟩
    rw [List.erase_comm] at hz
    exact hrest z (List.mem_of_mem_erase hz)

/-- A completion handler runs. -/
theorem answer (h : Progress users answers stage writes) (form : SignUpForm)
    (hx : (w, ok) ∈ answers) :
    Progress users (answers.erase (w, ok)) (handled form stage w ok) writes := by
  have hkept : ∀ {a : Attempt}, (∀ x ∈ answers, x.1 = a.create) →
      w = a.create ∧ ∀ x ∈ answers.erase (w, ok), x.1 = a.create := fun ha =>
    ⟨ha _ hx, fun x hm => ha x (List.mem_of_mem_erase hm)⟩
  cases h with
  | idle ha | creatingUser ha | failed ha | issued hd ha =>
    rw [ha] at hx
    cases hx
  | created hd ha =>
    obtain ⟨rfl, ha⟩ := hkept ha
    rw [handled_create]
    exact .created hd ha
  | @updated a hd hm ha =>
    rcases answer_cases hm ha hx with he | ⟨rfl, hm, ha⟩
    · obtain ⟨rfl, rfl⟩ := Prod.mk.inj he
      -- the names are read now
      unfold Attempt.update handled
      cases form.names with
      | none => exact .missingFields hd ha
      | some names => exact .creatingCustomer hd ha
    · rw [handled_create]
      exact .updated hd hm ha
  | @notUpdated a hd hm ha =>
    rcases answer_cases hm ha hx with he | ⟨rfl, hm, ha⟩
    · obtain ⟨rfl, rfl⟩ := Prod.mk.inj he
      exact .stopped (hd.imp_right Or.inl) ha
    · rw [handled_create]
      exact .notUpdated hd hm ha
  | missingFields hd ha =>
    obtain ⟨rfl, ha⟩ := hkept ha
    rw [handled_create]
    exact .missingFields hd ha
  | creatingCustomer hd ha =>
    obtain ⟨rfl, ha⟩ := hkept ha
    rw [handled_create]
    exact .creatingCustomer hd ha
  | storing hd ha =>
    obtain ⟨rfl, ha⟩ := hkept ha
    rw [handled_create]
    exact .storing hd ha
  | @stored a names customer hd hm ha =>
    rcases answer_cases hm ha hx with he | ⟨rfl, hm, ha⟩
    · obtain ⟨rfl, rfl⟩ := Prod.mk.inj he
      exact .navigated hd ha
    · rw [handled_create]
      exact .stored hd hm ha
  | @notStored a names customer hd hm ha =>
    rcases answer_cases hm ha hx with he | ⟨rfl, hm, ha⟩
    · obtain ⟨rfl, rfl⟩ := Prod.mk.inj he
      exact .stopped (Or.inr (Or.inr hd)) ha
    · rw [handled_create]
      exact .notStored hd hm ha
  | stopped hd ha =>
    obtain ⟨rfl, ha⟩ := hkept ha
    rw [handled_create]
    exact .stopped hd ha
  | navigated hd ha =>
    obtain ⟨rfl, ha⟩ := hkept ha
    rw [handled_create]
    exact .navigated hd ha

theorem of_creatingUser {c : Credentials}
    (h : Progress users answers (.creatingUser c) writes) : writes = [] ∧ answers = [] := by
  cases h with
  | creatingUser ha => exact ⟨rfl, ha⟩

theorem of_creatingCustomer {a : Attempt} {names : Names}
    (h : Progress users answers (.creatingCustomer a names) writes) : writes = [] ∧
      users.get? a.user.uid = some a.updated ∧ ∀ x ∈ answers, x.1 = a.create := by
  cases h with
  | creatingCustomer hd ha => exact ⟨rfl, hd, ha⟩

/-- Every step goes on. -/
theorem step {s s' : SignUp} {e : Event} (h : Progress s.users s.answers s.stage s.writes)
    (hs : s.step canonical e = some s') :
    Progress s'.users s'.answers s'.stage s'.writes := by
  cases steps_of_step hs with
  | edit | commitChanges hc => exact h
  | loginButtonPressed hq hc =>
    obtain ⟨-, -, hw, ha⟩ := hq
    dsimp only
    rw [hw]
    exact .creatingUser ha
  | createNewUser hst hn =>
    obtain ⟨hw, ha⟩ := of_creatingUser (hst ▸ h)
    dsimp only
    rw [hw]
    exact .issued (Option.isNone_iff_eq_none.mp hn.2.1) ha
  | createNewUserFailed hst =>
    obtain ⟨hw, ha⟩ := of_creatingUser (hst ▸ h)
    dsimp only
    rw [hw]
    exact .failed ha
  | serve hw =>
    rw [hw] at h
    exact h.serve
  | reject hw =>
    rw [hw] at h
    exact h.reject
  | answer ha => exact h.answer s.form ha
  | createDummyUser hst =>
    obtain ⟨hw, hd, ha⟩ := of_creatingCustomer (hst ▸ h)
    dsimp only
    rw [hw]
    exact .storing hd ha
  | createDummyUserFailed hst =>
    obtain ⟨hw, hd, ha⟩ := of_creatingCustomer (hst ▸ h)
    dsimp only
    rw [hw]
    exact .stopped (Or.inr (Or.inr hd)) ha

end Progress

variable {accounts : List AuthUser} {users : Collection String Dictionary} {as : List Event}
  {s s' : SignUp} {e : Event}

theorem progress (h : (signUp canonical accounts users).Run as s) :
    Progress s.users s.answers s.stage s.writes := by
  refine h.invariant (I := fun _ s => Progress s.users s.answers s.stage s.writes)
    (fun s h0 => ?_) fun _ _ _ _ _ ih hs => ih.step hs
  obtain ⟨-, -, hst, -, hw, ha⟩ := h0
  rw [hst, hw]
  exact .idle ha

end SignUp

end SuShareApp
