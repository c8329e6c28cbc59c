import SuShareApp.SignUp

/-!
# What sign-up leaves

No failure branch takes anything back, so an attempt that stops after its account was created
leaves the account, and the users document as far as it was written (`stopped_attempt`). An
attempt that gets to the end has stored the whole profile (`finished_profile`) : the writes
are taken in the order in which they were issued, so the username that was read before the
commit of the display name is overwritten by the one that was entered, and nothing else is
overwritten (`Keeps`).
-/

namespace SuShareApp

namespace SignUp

variable {canonical : String → String} {accounts : List AuthUser}
  {users : Collection String Dictionary} {as : List Event} {s s' : SignUp} {e : Event}

/-! ## The account of an attempt -/

/-- The attempt whose account was created. -/
def attempt? (stage : Stage) : Option Attempt :=
  match stage with
  | .updatingUser a | .missingFields a | .creatingCustomer a _ | .storingCustomer a _ _
  | .stopped a | .navigated a _ _ => some a
  | .idle | .creatingUser _ | .failed _ => none

/-- An account with the uid and the email is there. -/
def HasAccount (s : SignUp) (user : AuthUser) : Prop :=
  ∃ account ∈ s.accounts, account.uid = user.uid ∧ account.email = user.email

/-- Accounts are never deleted. -/
theorem HasAccount.step {user : AuthUser} (h : s.HasAccount user)
    (hs : s.step canonical e = some s') : s'.HasAccount user := by
  obtain ⟨account, ha, huid, hemail⟩ := h
  cases steps_of_step hs with
  | createNewUser => exact ⟨account, List.mem_cons_of_mem _ ha, huid, hemail⟩
  | @commitChanges ok uid displayName hc =>
    refine ⟨_, List.mem_map_of_mem ha, ?_, ?_⟩
    · split_ifs <;> exact huid
    · split_ifs <;> exact hemail
  | _ => exact ⟨account, ha, huid, hemail⟩

/-- The account of the attempt is the one that `createNewUser` created for the email that
was entered, without a display name. -/
structure Registered (canonical : String → String) (users : Collection String Dictionary)
    (s : SignUp) (a : Attempt) : Prop where
  displayName : a.user.displayName = none
  email : a.user.email = some (canonical a.credentials.email)
  account : s.HasAccount a.user
  isNew : users.get? a.user.uid = none

theorem attempt?_handled (form : SignUpForm) (stage : Stage) (w : Write) (ok : Bool) :
    attempt? (handled form stage w ok) = attempt? stage := by
  unfold handled
  split
  · split <;> rfl
  all_goals rfl

/-! ## The documents -/

/-- The uid for which a step stored a users document. -/
def stored? : Event → Option String
  | .serve (.createDatabaseUser user) => some user.uid
  | _ => none

/-- The documents after a write. -/
theorem exists_perform_iff (w : Write) (users : Collection String Dictionary) (uid : String) :
    (∃ doc, ((w.perform users).getD users).get? uid = some doc) ↔
      (∃ doc, users.get? uid = some doc) ∨ stored? (.serve w) = some uid := by
  have update : ∀ (k : String) (f : Dictionary → Dictionary),
      (∃ doc, ((users.updateData k f).getD users).get? uid = some doc) ↔
        ∃ doc, users.get? uid = some doc := by
    intro k f
    cases hk : users.get? k with
    | none => simp [Collection.updateData, hk]
    | some d =>
      by_cases hu : uid = k
      · subst hu
        simp [Collection.updateData, hk]
      · simp [Collection.updateData, hk, Collection.get?_setData_of_ne _ hu]
  cases w with
  | createDatabaseUser user =>
    by_cases hu : uid = user.uid
    · subst hu
      simp [Write.perform, stored?]
    · simp [Write.perform, stored?, Collection.get?_setData_of_ne _ hu, Ne.symm hu]
  | updateDatabaseUser k username => simpa [Write.perform, stored?] using update k _
  | updateFireBaseUserWithStripeStuff k fullName customer =>
    simpa [Write.perform, stored?] using update k _

/-- The documents after a step. -/
theorem exists_step_iff (hs : s.step canonical e = some s') (uid : String) :
    (∃ doc, s'.users.get? uid = some doc) ↔
      (∃ doc, s.users.get? uid = some doc) ∨ stored? e = some uid := by
  cases steps_of_step hs with
  | serve hw => exact exists_perform_iff _ s.users uid
  | _ => exact (or_iff_left (by simp [stored?])).symm

/-- What accounts and documents there are, and the account of the attempt. -/
structure Existing (canonical : String → String) (accounts : List AuthUser)
    (users : Collection String Dictionary) (as : List Event) (s : SignUp) : Prop where
  account : ∀ account ∈ s.accounts,
    account.uid ∈ accounts.map AuthUser.uid ∨ .createNewUser account.uid ∈ as
  document : ∀ uid, (∃ doc, s.users.get? uid = some doc) ↔
    (∃ doc, users.get? uid = some doc) ∨ uid ∈ as.filterMap stored?
  attempt : ∀ a, attempt? s.stage = some a → Registered canonical users s a
  commit : attempt? s.stage = none → s.commit = none

theorem Registered.step {a : Attempt} (h : Registered canonical users s a)
    (hs : s.step canonical e = some s') : Registered canonical users s' a :=
  ⟨h.displayName, h.email, h.account.step hs, h.isNew⟩

theorem Existing.account_step (h : Existing canonical accounts users as s)
    (hs : s.step canonical e = some s') {account : AuthUser} (ha : account ∈ s'.accounts) :
    account.uid ∈ accounts.map AuthUser.uid ∨ .createNewUser account.uid ∈ as ++ [e] := by
  have hold : ∀ {account : AuthUser}, account ∈ s.accounts →
      account.uid ∈ accounts.map AuthUser.uid ∨ .createNewUser account.uid ∈ as ++ [e] := fun ha =>
    (h.account _ ha).imp_right (List.mem_append_left _)
  cases steps_of_step hs with
  | createNewUser =>
    rcases List.mem_cons.mp ha with rfl | ha
    · exact Or.inr (List.mem_append_right _ List.mem_cons_self)
    · exact hold ha
  | @commitChanges ok uid displayName hc =>
    obtain ⟨user, hu, rfl⟩ := List.mem_map.mp ha
    have huid := hold hu
    split_ifs <;> exact huid
  | _ => exact hold ha

theorem Existing.attempt_step (h : Existing canonical accounts users as s)
    (hs : s.step canonical e = some s') {a : Attempt} (ha : attempt? s'.stage = some a) :
    Registered canonical users s' a := by
  cases steps_of_step hs with
  | edit | commitChanges | serve | reject => exact (h.attempt a ha).step hs
  | answer => exact (h.attempt a ((attempt?_handled ..).symm.trans ha)).step hs
  | loginButtonPressed | createNewUserFailed => cases ha
  | @createNewUser c uid hst hn =>
    obtain rfl := Option.some.inj ha
    refine ⟨rfl, rfl, ⟨_, List.mem_cons_self, rfl, rfl⟩, ?_⟩
    refine Option.eq_none_iff_forall_ne_some.mpr fun doc hd => ?_
    obtain ⟨doc', hd'⟩ := (h.document uid).mpr (Or.inl ⟨doc, hd⟩)
    exact absurd (Option.isNone_iff_eq_none.mp hn.2.1) (by simp [hd'])
  | createDummyUser hst | createDummyUserFailed hst =>
    exact (h.attempt a (by rw [hst]; exact ha)).step hs

theorem Existing.commit_step (h : Existing canonical accounts users as s)
    (hs : s.step canonical e = some s') (hst : attempt? s'.stage = none) : s'.commit = none := by
  cases steps_of_step hs with
  | edit | serve | reject => exact h.commit hst
  | loginButtonPressed hq hc => exact hq.2.1
  | createNewUserFailed hst' => exact h.commit (by rw [hst']; rfl)
  | commitChanges => rfl
  | answer => exact h.commit ((attempt?_handled ..).symm.trans hst)
  | createNewUser | createDummyUser | createDummyUserFailed => cases hst

theorem Existing.step (h : Existing canonical accounts users as s)
    (hs : s.step canonical e = some s') : Existing canonical accounts users (as ++ [e]) s' where
  account _ ha := h.account_step hs ha
  document uid := by
    rw [exists_step_iff hs, h.document, or_assoc, List.filterMap_append]
    simp [List.mem_filterMap]
  attempt _ ha := h.attempt_step hs ha
  commit hst := h.commit_step hs hst

theorem existing (h : (signUp canonical accounts users).Run as s) :
    Existing canonical accounts users as s := by
  refine h.invariant (I := Existing canonical accounts users) (fun s h0 => ?_)
    fun _ _ _ _ _ ih hs => ih.step hs
  obtain ⟨hacc, husers, hst, hc, -⟩ := h0
  refine ⟨fun account ha => Or.inl (List.mem_map_of_mem (hacc ▸ ha)), fun uid => ?_,
    fun a ha => ?_, fun _ => hc⟩
  · simp [husers]
  · rw [hst] at ha
    cases ha

/-! ## A stopped attempt -/

/-- What Ann enters. -/
def annForm : SignUpForm :=
  ⟨some "Ann@mail.org", some "secret", some "secret", some "ann", some "Ann", some "Lee"⟩

def annAccount : AuthUser :=
  ⟨"u1", none, some "ann@mail.org"⟩

/-- Her account, her document and its username are stored, and everything was answered. -/
def storing : List Event :=
  [.edit annForm, .loginButtonPressed, .createNewUser "u1", .commitChanges true,
    .serve (.createDatabaseUser annAccount), .serve (.updateDatabaseUser "u1" "ann"),
    .answer (.updateDatabaseUser "u1" "ann") true, .answer (.createDatabaseUser annAccount) true]

/-- A login screen over no accounts. -/
def empty : SignUp :=
  ⟨[], .empty, ⟨none, none, none, none, none, none⟩, .idle, none, [], []⟩

theorem exists_run (as : List Event) (p : SignUp → Prop)
    (h : ∃ s ∈ (signUp String.toLower [] .empty).exec empty as, p s) :
    ∃ s, (signUp String.toLower [] .empty).Run as s ∧ p s :=
  TransitionSystem.exists_run_of_exec as p ⟨rfl, rfl, rfl, rfl, rfl, rfl⟩ h

/-- Since Sign Up was last pressed, the step `e` was taken, in a state with `p`. -/
def Taken (canonical : String → String) (accounts : List AuthUser)
    (users : Collection String Dictionary) (as : List Event) (e : Event)
    (p : SignUp → Prop) : Prop :=
  ∃ pre s₀ post, as = pre ++ e :: post ∧ .loginButtonPressed ∉ post ∧
    (signUp canonical accounts users).Run pre s₀ ∧ p s₀

theorem Taken.append {p : SignUp → Prop} (h : Taken canonical accounts users as e p)
    {e' : Event} (he : e' ≠ .loginButtonPressed) :
    Taken canonical accounts users (as ++ [e']) e p := by
  obtain ⟨pre, s₀, post, rfl, hpost, hrun, hp⟩ := h
  refine ⟨pre, s₀, post ++ [e'], by simp, fun hm => ?_, hrun, hp⟩
  rcases List.mem_append.mp hm with hm | hm
  · exact hpost hm
  · exact he (List.mem_singleton.mp hm).symm

theorem Taken.of_run {p : SignUp → Prop} (h : (signUp canonical accounts users).Run as s)
    (hp : p s) (e : Event) : Taken canonical accounts users (as ++ [e]) e p :=
  ⟨as, s, [], rfl, List.not_mem_nil, h, hp⟩

/-- The credentials that the chain works with. -/
def credentials? (stage : Stage) : Option Credentials :=
  match stage with
  | .creatingUser c | .failed c => some c
  | stage => (attempt? stage).map Attempt.credentials

/-- The attempt and the names that the chain works with. -/
def names? (stage : Stage) : Option (Attempt × Names) :=
  match stage with
  | .creatingCustomer a names | .storingCustomer a names _ | .navigated a names _ =>
    some (a, names)
  | _ => none

/-- The attempt, the names and the customer that the chain works with. -/
def customer? (stage : Stage) : Option (Attempt × Names × String) :=
  match stage with
  | .storingCustomer a names customer | .navigated a names customer => some (a, names, customer)
  | _ => none

/-- Where the values that the chain works with come from : the text fields, when
`loginButtonPressed` read them and when the handler of the username update did, the account
creation and the Stripe call, each since Sign Up was last pressed. -/
structure Entered (canonical : String → String) (accounts : List AuthUser)
    (users : Collection String Dictionary) (as : List Event) (stage : Stage) : Prop where
  credentials : ∀ c, credentials? stage = some c → Taken canonical accounts users as
    .loginButtonPressed fun s₀ => s₀.form.credentials = some c
  uid : ∀ a, attempt? stage = some a → Taken canonical accounts users as
    (.createNewUser a.user.uid) fun s₀ => s₀.stage = .creatingUser a.credentials
  names : ∀ a n, names? stage = some (a, n) → Taken canonical accounts users as
    (.answer a.update true) fun s₀ => s₀.stage = .updatingUser a ∧ s₀.form.names = some n
  customer : ∀ a n c, customer? stage = some (a, n, c) → Taken canonical accounts users as
    (.createDummyUser c) fun s₀ => s₀.stage = .creatingCustomer a n

namespace Entered

variable {stage stage' : Stage}

theorem append (h : Entered canonical accounts users as stage) {e : Event}
    (he : e ≠ .loginButtonPressed) : Entered canonical accounts users (as ++ [e]) stage where
  credentials c hc := (h.credentials c hc).append he
  uid a ha := (h.uid a ha).append he
  names a n hn := (h.names a n hn).append he
  customer a n c hc := (h.customer a n c hc).append he

/-- A stage that works with less. -/
theorem mono (h : Entered canonical accounts users as stage)
    (hc : ∀ c, credentials? stage' = some c → credentials? stage = some c)
    (ha : ∀ a, attempt? stage' = some a → attempt? stage = some a)
    (hn : ∀ x, names? stage' = some x → names? stage = some x)
    (hcu : ∀ x, customer? stage' = some x → customer? stage = some x) :
    Entered canonical accounts users as stage' where
  credentials c h' := h.credentials c (hc c h')
  uid a h' := h.uid a (ha a h')
  names a n h' := h.names a n (hn _ h')
  customer a n c h' := h.customer a n c (hcu _ h')

/-- The answer to a username update that the chain waits for is the one to its own. -/
theorem eq_update_of_answer {a : Attempt} {uid username : String} {ok : Bool}
    {answers : List (Write × Bool)} {writes : List Write} {users : Collection String Dictionary}
    (h : Progress users answers (.updatingUser a) writes)
    (ha : (.updateDatabaseUser uid username, ok) ∈ answers) :
    .updateDatabaseUser uid username = a.update := by
  cases h with
  | issued _ h => simp [h] at ha
  | created _ h => exact absurd (h _ ha) (by simp [Attempt.create])
  | updated _ hm h | notUpdated _ hm h =>
    rcases Progress.answer_cases hm h ha with he | ⟨he, -⟩
    · exact congrArg Prod.fst he
    · exact absurd he (by simp [Attempt.create])

/-- A completion handler runs. -/
theorem answer (hrun : (signUp canonical accounts users).Run as s)
    (h : Entered canonical accounts users as s.stage) {w : Write} {ok : Bool}
    (ha : (w, ok) ∈ s.answers) :
    Entered canonical accounts users (as ++ [.answer w ok]) (handled s.form s.stage w ok) := by
  have hkept := h.append (e := .answer w ok) (by simp)
  have hp := progress hrun
  generalize hst : s.stage = stage at *
  unfold handled
  split
  · next a uid username =>
    split
    · next names hnames =>
      refine ⟨hkept.credentials, hkept.uid, fun a' n hn => ?_, by simp [customer?]⟩
      obtain ⟨rfl, rfl⟩ := Prod.mk.inj (Option.some.inj hn)
      rw [eq_update_of_answer hp ha]
      exact .of_run hrun ⟨hst, hnames⟩ _
    · exact hkept.mono (fun _ h => h) (fun _ h => h) (by simp [names?]) (by simp [customer?])
  · exact hkept.mono (fun _ h => h) (fun _ h => h) (by simp [names?]) (by simp [customer?])
  · exact hkept.mono (fun _ h => h) (fun _ h => h) (fun _ h => h) fun _ h => h
  · exact hkept.mono (fun _ h => h) (fun _ h => h) (by simp [names?]) (by simp [customer?])
  · exact hkept

theorem step (hrun : (signUp canonical accounts users).Run as s)
    (h : Entered canonical accounts users as s.stage) (hs : s.step canonical e = some s') :
    Entered canonical accounts users (as ++ [e]) s'.stage := by
  cases steps_of_step hs with
  | edit | commitChanges hc | serve hw | reject hw => exact h.append (by simp)
  | @loginButtonPressed c hq hc =>
    refine ⟨fun c' hc' => ?_, by simp [attempt?], by simp [names?], by simp [customer?]⟩
    obtain rfl := Option.some.inj hc'
    exact .of_run hrun hc _
  | @createNewUser c uid hst hn =>
    have hkept := (hst ▸ h).append (e := .createNewUser uid) (by simp)
    refine ⟨hkept.credentials, fun a ha => ?_, by simp [names?], by simp [customer?]⟩
    obtain rfl := Option.some.inj ha
    exact .of_run hrun hst _
  | createNewUserFailed hst =>
    exact ((hst ▸ h).append (by simp)).mono (fun _ h => h) (fun _ h => h) (fun _ h => h)
      fun _ h => h
  | answer ha => exact h.answer hrun ha
  | @createDummyUser a names customer hst =>
    have hkept := (hst ▸ h).append (e := .createDummyUser customer) (by simp)
    refine ⟨hkept.credentials, hkept.uid, hkept.names, fun a' n c hc => ?_⟩
    obtain ⟨rfl, rfl, rfl⟩ : a = a' ∧ names = n ∧ customer = c := by simpa [customer?] using hc
    exact .of_run hrun hst _
  | createDummyUserFailed hst =>
    exact ((hst ▸ h).append (by simp)).mono (fun _ h => h) (fun _ h => h) (by simp [names?])
      (by simp [customer?])

end Entered

theorem entered (h : (signUp canonical accounts users).Run as s) :
    Entered canonical accounts users as s.stage := by
  refine h.invariant (I := fun as s => Entered canonical accounts users as s.stage)
    (fun s h0 => ?_) fun _ _ _ _ hrun ih hs => ih.step hrun hs
  obtain ⟨-, -, hst, -⟩ := h0
  rw [hst]
  exact ⟨by simp [credentials?, attempt?], by simp [attempt?], by simp [names?],
    by simp [customer?]⟩

/-! ## Stored fields -/

/-- Every field of every document is as it was, but for the placeholder of a username. -/
def Keeps (users users' : Collection String Dictionary) : Prop :=
  ∀ uid doc key v, users.get? uid = some doc → doc key = some v →
    (∃ doc', users'.get? uid = some doc' ∧ doc' key = some v) ∨
      key = "username" ∧ v = .string ""

section Keeps

variable {users : Collection String Dictionary} {a : Attempt}

theorem Keeps.refl : Keeps users users :=
  fun _ doc _ _ hd hv => Or.inl ⟨doc, hd, hv⟩

/-- A write of one document keeps what the document that it replaces has. -/
theorem keeps_setData {k : String} {d : Dictionary}
    (h : ∀ doc key v, users.get? k = some doc → doc key = some v →
      d key = some v ∨ key = "username" ∧ v = .string "") : Keeps users (users.setData k d) := by
  intro uid doc key v hd hv
  by_cases hu : uid = k
  · subst hu
    exact (h doc key v hd hv).imp_left fun hk => ⟨d, Collection.get?_setData_self _ _ _, hk⟩
  · exact Or.inl ⟨doc, by rw [Collection.get?_setData_of_ne _ hu, hd], hv⟩

theorem keeps_create (h : users.get? a.user.uid = none) :
    Keeps users ((a.create.perform users).getD users) := by
  refine keeps_setData fun doc key v hd _ => ?_
  rw [h] at hd
  cases hd

/-- The username is over the empty one that was read before the commit. -/
theorem keeps_update (hn : a.user.displayName = none)
    (h : users.get? a.user.uid = none ∨ users.get? a.user.uid = some a.created) :
    Keeps users ((a.update.perform users).getD users) := by
  rcases h with h | h
  · rw [Attempt.perform_update_of_none h]
    exact .refl
  · rw [Attempt.perform_update h]
    refine keeps_setData fun doc key v hd hv => ?_
    obtain rfl := Option.some.inj (h.symm.trans hd)
    by_cases hk : key = "username"
    · subst hk
      refine Or.inr ⟨rfl, ?_⟩
      simpa [Attempt.created, Write.userDocument, hn, eq_comm] using hv
    · refine Or.inl ?_
      rwa [Attempt.updated, Dictionary.updating_of_none (by simp [hk])]

/-- Neither the full name nor the customer is there before the last write. -/
theorem keeps_store {names : Names} {customer : String}
    (h : users.get? a.user.uid = some a.updated) :
    Keeps users (((a.store names customer).perform users).getD users) := by
  rw [Attempt.perform_store h]
  refine keeps_setData fun doc key v hd hv => Or.inl ?_
  obtain rfl := Option.some.inj (h.symm.trans hd)
  have hf : key ≠ "fullName" := by
    rintro rfl
    simp [Attempt.updated, Attempt.created, Write.userDocument, Dictionary.updating] at hv
  have hc : key ≠ "stripeCustomerId" := by
    rintro rfl
    simp [Attempt.updated, Attempt.created, Write.userDocument, Dictionary.updating] at hv
  rwa [Attempt.stored, Dictionary.updating_of_none (by simp [hf, hc])]

end Keeps

/-- The server takes the first write. -/
theorem Progress.keeps {users : Collection String Dictionary} {answers : List (Write × Bool)}
    {stage : Stage} {w : Write} {rest : List Write} (h : Progress users answers stage (w :: rest))
    (hn : ∀ a, attempt? stage = some a → a.user.displayName = none) :
    Keeps users ((w.perform users).getD users) := by
  generalize hw : w :: rest = writes at h
  cases h with
  | @issued a hd ha =>
    obtain ⟨rfl, rfl⟩ := List.cons.inj hw
    exact keeps_create hd
  | @created a hd ha =>
    obtain ⟨rfl, rfl⟩ := List.cons.inj hw
    exact keeps_update (hn a rfl) hd
  | @storing a names customer hd ha =>
    obtain ⟨rfl, rfl⟩ := List.cons.inj hw
    exact keeps_store hd
  | _ => cases hw

theorem keeps_step (h : (signUp canonical accounts users).Run as s)
    (hs : s.step canonical e = some s') : Keeps s.users s'.users := by
  cases steps_of_step hs with
  | serve hw => exact (hw ▸ progress h).keeps fun a ha => ((existing h).attempt a ha).displayName
  | _ => exact .refl

/-! ## A finished attempt -/

/-- The document after the last write, decoded. -/
theorem init_stored (a : Attempt) (names : Names) (customer : String) :
    User.init (a.stored names customer) =
      { username := a.credentials.username
        email := a.user.email.getD ""
        userId := a.user.uid
        profilePhoto := "No profile Photo"
        fullName := names.fullName
        stripeCustomerId := customer } := by
  simp [User.init, Dictionary.read, Attempt.stored, Attempt.updated, Attempt.created,
    Write.userDocument, Dictionary.updating, FieldValue.asString]

/-- When the flow reaches `navigateToNewUserFlow`, the document of the account decodes to
what was entered and what the Stripe call returned, since Sign Up was last pressed; and no
write replaces anything but the placeholder of the username. -/
theorem finished_profile (h : (signUp canonical accounts users).Run as s) :
    (∀ a names customer, s.stage = .navigated a names customer →
      Taken canonical accounts users as .loginButtonPressed
        (fun s₀ => s₀.form.credentials = some a.credentials) ∧
      Taken canonical accounts users as (.createNewUser a.user.uid)
        (fun s₀ => s₀.stage = .creatingUser a.credentials) ∧
      Taken canonical accounts users as (.answer a.update true)
        (fun s₀ => s₀.stage = .updatingUser a ∧ s₀.form.names = some names) ∧
      Taken canonical accounts users as (.createDummyUser customer)
        (fun s₀ => s₀.stage = .creatingCustomer a names) ∧
      ∃ account ∈ s.accounts, account.uid = a.user.uid ∧
        account.email = some (canonical a.credentials.email) ∧
        ∃ doc, s.users.get? a.user.uid = some doc ∧ User.init doc =
          { username := a.credentials.username
            email := canonical a.credentials.email
            userId := a.user.uid
            profilePhoto := "No profile Photo"
            fullName := names.first ++ " " ++ names.last ++ " "
            stripeCustomerId := customer }) ∧
    ∀ e s', s.step canonical e = some s' → Keeps s.users s'.users := by
  refine ⟨fun a names customer hst => ?_, fun e s' hs => keeps_step h hs⟩
  have hent := entered h
  have hprog := progress h
  rw [hst] at hent hprog
  generalize s.writes = writes at hprog
  have hreg := (existing h).attempt a (by rw [hst]; rfl)
  obtain ⟨account, hacc, huid, hemail⟩ := hreg.account
  refine ⟨hent.credentials _ rfl, hent.uid a rfl, hent.names a names rfl,
    hent.customer a names customer rfl, account, hacc, huid, hemail.trans hreg.email, ?_⟩
  cases hprog with
  | navigated hd ha =>
    refine ⟨_, hd, ?_⟩
    rw [init_stored, hreg.email]
    rfl

/-- The Stripe call returns, and what it returned is stored. -/
def finishing : List Event :=
  storing ++ [.createDummyUser "cus_1",
    .serve (.updateFireBaseUserWithStripeStuff "u1" "Ann Lee " "cus_1"),
    .answer (.updateFireBaseUserWithStripeStuff "u1" "Ann Lee " "cus_1") true]

theorem finished_profile_finishing : ∃ s, (signUp String.toLower [] .empty).Run finishing s ∧
    ∃ doc, s.users.get? "u1" = some doc ∧ User.init doc =
      ⟨"ann", "ann@mail.org", "u1", "No profile Photo", "Ann Lee ", "cus_1"⟩ := by
  obtain ⟨s, hrun, hst⟩ := exists_run finishing
    (fun s => s.stage =
      .navigated ⟨⟨"Ann@mail.org", "secret", "ann"⟩, annAccount⟩ ⟨"Ann", "Lee"⟩ "cus_1")
    (by decide +kernel)
  obtain ⟨-, -, -, -, account, -, -, -, doc, hd, hinit⟩ := (finished_profile hrun).1 _ _ _ hst
  refine ⟨s, hrun, doc, hd, hinit.trans ?_⟩
  simp
  decide +kernel

end SignUp

end SuShareApp
