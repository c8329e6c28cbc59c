import SuShareApp.AppSession

/-!
# The session of the app at rest

Signing up creates the account first, and the tabs come at the end of a chain of calls and the
walkthrough : a sign-up that stops on its way leaves a signed-in user on the login screen until
the next launch. With one submission at a time and no such sign-up, at most one thing is on the
way to the tabs, a call, a block or the walkthrough, and it belongs to the screen in the window.
`Phase` has a constructor for each; `InPhase.step` takes every step from one to the next, and
`root_agrees` reads off what the window shows when nothing is on the way.
-/

namespace SuShareApp

namespace AppSession

variable {s s' : AppSession}

/-- The calls that lead to the tabs. -/
def chain (s : AppSession) : List LoginCall :=
  s.calls.filter (·.Leads)

/-- The blocks that change what the window shows. -/
def blocks (s : AppSession) : List Block :=
  s.main.filter (·.Shows)

/-- Nothing leads away from the login screen or the tabs any more. -/
structure Settled (s : AppSession) : Prop where
  root : s.root ≠ none
  chain : s.chain = []
  blocks : s.blocks = []
  presented : s.presented = none

theorem chain_call {c : LoginCall} (hc : c.Leads) : (s.call c).chain = c :: s.chain := by
  simp [chain, call, hc]

theorem chain_answered (c : LoginCall) : (s.answered c).chain = s.chain.erase c :=
  List.erase_filter.symm

theorem chain_answered_of_not_leads {c : LoginCall} (hc : ¬c.Leads) :
    (s.answered c).chain = s.chain := by
  rw [chain_answered]
  exact List.erase_of_not_mem fun hmem => hc (of_decide_eq_true (List.mem_filter.mp hmem).2)

theorem blocks_async (b : Block) :
    (s.async b).blocks = s.blocks ++ if b.Shows then [b] else [] := by
  by_cases hb : b.Shows <;> simp [blocks, async, hb]

/-- Where the app is between two answers, by the root of the window, the user, the chain, the
blocks, and what is presented. A new account is signed in, so the call of a sign-up says whether
somebody is. -/
inductive Phase : Option RootViewController → Option String → List LoginCall → List Block →
    Option Presented → Prop
  | notConnected {user : Option String} : Phase none user [] [] none
  | atLogin {i : ℕ} : Phase (some (.loginViewController i)) none [] [] none
  | waiting {c : LoginCall} {user : Option String} (hu : user.isSome ↔ c.SignedUp) :
    Phase (some (.loginViewController c.screen)) user [c] [] none
  | navigating {i : ℕ} {user : String} :
    Phase (some (.loginViewController i)) (some user) [] [.navigateToMainView i] none
  | viewing {i : ℕ} {user : String} {w : Walkthrough} :
    Phase (some (.loginViewController i)) (some user) [] [] (some (.walkthrough w))
  | atTabs {user : String} : Phase (some .tabController) (some user) [] [] none

def InPhase (s : AppSession) : Prop :=
  Phase s.root s.currentUser s.chain s.blocks s.presented

namespace Phase

variable {root : Option RootViewController} {user : Option String} {cs : List LoginCall}
  {bs : List Block} {p : Option Presented}

/-- The call in flight is the only thing on the way, and its screen is in the window. -/
theorem of_mem (h : Phase root user cs bs p) {c : LoginCall} (hc : c ∈ cs) :
    root = some (.loginViewController c.screen) ∧ (user.isSome ↔ c.SignedUp) ∧ cs = [c] ∧
      bs = [] ∧ p = none := by
  cases h with
  | waiting hu =>
    obtain rfl := List.mem_singleton.mp hc
    exact ⟨rfl, hu, rfl, rfl, rfl⟩
  | _ => simp at hc

theorem of_cons {b : Block} (h : Phase root user cs (b :: bs) p) :
    ∃ i, b = .navigateToMainView i ∧ root = some (.loginViewController i) ∧ user.isSome ∧
      cs = [] ∧ bs = [] ∧ p = none := by
  cases h
  exact ⟨_, rfl, rfl, rfl, rfl, rfl, rfl⟩

theorem settled (h : Phase root user [] [] none) (hroot : root ≠ none) :
    root = some .tabController ↔ user.isSome := by
  cases h with
  | notConnected => exact absurd rfl hroot
  | atLogin => simp
  | atTabs => simp

theorem of_walkthrough {w : Walkthrough} (h : Phase root user cs bs (some (.walkthrough w))) :
    (∃ i, root = some (.loginViewController i)) ∧ user.isSome ∧ cs = [] ∧ bs = [] := by
  cases h
  exact ⟨⟨_, rfl⟩, rfl, rfl, rfl⟩

theorem of_tabs (h : Phase (some .tabController) user cs bs p) : cs = [] ∧ bs = [] := by
  cases h
  exact ⟨rfl, rfl⟩

theorem of_none (h : Phase none user cs bs p) : cs = [] ∧ bs = [] := by
  cases h
  exact ⟨rfl, rfl⟩

theorem ne_alert (h : Phase root user cs bs p) (title message : String) :
    p ≠ some (.alert title message) := by
  cases h <;> simp

theorem tabs (hu : user.isSome) : Phase (some .tabController) user [] [] none := by
  obtain ⟨u, rfl⟩ := Option.isSome_iff_exists.mp hu
  exact .atTabs

end Phase

/-- Log In or Sign Up is pressed when no call of an earlier press leads on, and no step of a
sign-up fails once its account exists. -/
def Orderly (s : AppSession) : Event → Prop
  | .loginButtonPressed => s.chain = [] ∧ s.blocks = []
  | .createDatabaseUser _ (.error _) => False
  | .updateDatabaseUser i ok => ok ∧ s.HasNames i
  | .createDummyUser _ ok => ok
  | .updateFireBaseUserWithStripeStuff _ ok => ok
  | _ => True

instance : ∀ s, DecidablePred (Orderly s) := fun s e => by
  unfold Orderly
  split <;> infer_instance

theorem mem_chain {c : LoginCall} (hc : c ∈ s.calls) (hl : c.Leads) : c ∈ s.chain :=
  List.mem_filter.mpr ⟨hc, decide_eq_true hl⟩

/-- The state is in the phase that its parts are in. -/
theorem Phase.inPhase {root : Option RootViewController} {user : Option String}
    {cs : List LoginCall} {bs : List Block} {p : Option Presented} (h : Phase root user cs bs p)
    (hroot : s.root = root) (huser : s.currentUser = user) (hchain : s.chain = cs)
    (hblocks : s.blocks = bs) (hpresented : s.presented = p) : s.InPhase := by
  subst hroot huser hchain hblocks hpresented
  exact h

namespace InPhase

/-- What is known of the state in which the answer of a call arrives. -/
theorem of_answer (h : s.InPhase) {c : LoginCall} (hc : c ∈ s.calls) (hl : c.Leads) :
    s.root = some (.loginViewController c.screen) ∧ (s.currentUser.isSome ↔ c.SignedUp) ∧
      (s.answered c).chain = [] ∧ s.blocks = [] ∧ s.presented = none := by
  obtain ⟨hroot, hu, hchain, hblocks, hpresented⟩ := Phase.of_mem h (mem_chain hc hl)
  exact ⟨hroot, hu, by simp [chain_answered, hchain], hblocks, hpresented⟩

/-- Naming an error changes nothing else. -/
theorem showError (h : s.InPhase) (i : ℕ) (text : String) :
    (s.async (.showError i text)).InPhase :=
  Phase.inPhase h rfl rfl rfl (by simp [blocks_async, Block.Shows]) rfl

/-- A submission, when nothing leads away from the login screen. -/
theorem press (h : s.InPhase) {c : LoginCall}
    (hroot : s.root = some (.loginViewController c.screen)) (hl : c.Leads) (hc : ¬c.SignedUp)
    (hchain : s.chain = []) (hblocks : s.blocks = []) (hpresented : s.presented = none) :
    (s.call c).InPhase := by
  have hphase : Phase s.root s.currentUser [] [] none := by
    rwa [InPhase, hchain, hblocks, hpresented] at h
  have hnone : s.currentUser = none := by
    have hnot := (hphase.settled (by simp [hroot])).not
    simpa [hroot] using hnot
  have hcall : (s.call c).chain = [c] := by rw [chain_call hl, hchain]
  have hiff : s.currentUser.isSome ↔ c.SignedUp := iff_of_false (by simp [hnone]) hc
  exact (Phase.waiting hiff).inPhase hroot rfl hcall hblocks hpresented

/-- The call that follows the answer of a call in the chain of a sign-up. -/
theorem next {c : LoginCall} (hroot : s.root = some (.loginViewController c.screen))
    (hu : s.currentUser.isSome) (hc : c.SignedUp) (hl : c.Leads) (hchain : s.chain = [])
    (hblocks : s.blocks = []) (hpresented : s.presented = none) : (s.call c).InPhase :=
  (Phase.waiting (iff_of_true hu hc)).inPhase hroot rfl (by rw [chain_call hl, hchain]) hblocks
    hpresented

/-- The walkthrough of the screen in the window. -/
theorem view {i : ℕ} {user : String} (hroot : s.root = some (.loginViewController i))
    (huser : s.currentUser = some user) (hchain : s.chain = []) (hblocks : s.blocks = [])
    (hpresented : s.presented = none) (w : Walkthrough) :
    (s.present i (.walkthrough w)).InPhase := by
  rw [present, if_pos ⟨hroot, hpresented⟩]
  exact Phase.viewing.inPhase hroot huser hchain hblocks rfl

theorem of_root_eq_none (h : s.InPhase) (hroot : s.root = none) :
    s.chain = [] ∧ s.blocks = [] := by
  rw [InPhase, hroot] at h
  exact Phase.of_none h

theorem of_tabs (h : s.InPhase) (hroot : s.root = some .tabController) :
    s.chain = [] ∧ s.blocks = [] := by
  rw [InPhase, hroot] at h
  exact Phase.of_tabs h

/-- A submission that failed leaves nobody signed in and nothing on the way. -/
theorem failed (h : s.InPhase) {c : LoginCall} (hc : c ∈ s.calls) (hl : c.Leads)
    (hnot : ¬c.SignedUp) : (s.answered c).InPhase := by
  obtain ⟨hroot, hu, hchain, hblocks, hpresented⟩ := h.of_answer hc hl
  have hnone : s.currentUser = none := by simpa [hnot] using hu
  exact Phase.atLogin.inPhase hroot hnone hchain hblocks hpresented

theorem of_walkthrough (h : s.InPhase) {w : Walkthrough}
    (hw : s.presented = some (.walkthrough w)) :
    (∃ i, s.root = some (.loginViewController i)) ∧ s.currentUser.isSome ∧ s.chain = [] ∧
      s.blocks = [] := by
  rw [InPhase, hw] at h
  exact Phase.of_walkthrough h

/-- The only block that changes what the window shows is the navigation of the screen in it. -/
theorem run (h : s.InPhase) {b : Block} {main : List Block} (hmain : s.main = b :: main) :
    (AppSession.run { s with main } b).InPhase := by
  cases b with
  | showError i text =>
    have hblocks : s.blocks = main.filter (·.Shows) := by
      rw [blocks, hmain]
      rfl
    exact Phase.inPhase h rfl rfl rfl hblocks.symm rfl
  | navigateToMainView i =>
    have hblocks : s.blocks = .navigateToMainView i :: main.filter (·.Shows) := by
      rw [blocks, hmain]
      rfl
    rw [InPhase, hblocks] at h
    obtain ⟨j, hj, hroot, hu, hchain, hrest, -⟩ := h.of_cons
    obtain rfl := Block.navigateToMainView.inj hj
    have halive : Alive { s with main } i := .inl hroot
    rw [AppSession.run, if_pos halive]
    exact (Phase.tabs hu).inPhase rfl rfl hchain hrest rfl
  | accountError i message =>
    have hblocks : s.blocks = .accountError i message :: main.filter (·.Shows) := by
      rw [blocks, hmain]
      rfl
    rw [InPhase, hblocks] at h
    obtain ⟨j, hj, -⟩ := h.of_cons
    exact absurd hj (by simp)

end InPhase

theorem InPhase.step {e : Event} (h : s.InPhase) (hG : Orderly s e) (hs : s.step e = some s') :
    s'.InPhase := by
  cases stepped hs with
  | signedInBefore hroot hu =>
    obtain ⟨hchain, hblocks⟩ := h.of_root_eq_none hroot
    exact (Phase.tabs hu).inPhase rfl rfl hchain hblocks rfl
  | signedOutBefore hroot hu =>
    obtain ⟨hchain, hblocks⟩ := h.of_root_eq_none hroot
    exact Phase.atLogin.inPhase rfl hu hchain hblocks rfl
  | relaunch => exact .notConnected
  | edit _ => exact h
  | toggle => exact h
  | missingFields => exact h
  | submit hroot hpresented _ hl hc => exact h.press hroot hl hc hG.1 hG.2 hpresented
  | @signIn i user hc =>
    obtain ⟨hroot, -, hchain, hblocks, hpresented⟩ := h.of_answer hc trivial
    have hnavigate := congrArg (· ++ [Block.navigateToMainView i]) hblocks
    exact Phase.navigating.inPhase hroot rfl hchain ((blocks_async _).trans hnavigate) hpresented
  | @signInFailed i text hc => exact (h.failed hc trivial id).showError i text
  | signUp hc =>
    obtain ⟨hroot, -, hchain, hblocks, hpresented⟩ := h.of_answer hc trivial
    exact next hroot rfl trivial trivial hchain hblocks hpresented
  | signUpLate hc hgone => exact absurd (.inl (h.of_answer hc trivial).1) hgone
  | @signUpFailed i text hc => exact (h.failed hc trivial id).showError i text
  | createdDatabaseUser _ =>
    exact Phase.inPhase h rfl rfl (chain_answered_of_not_leads id) rfl rfl
  | accountError _ => exact hG.elim
  | @updatedDatabaseUser i hc =>
    obtain ⟨hroot, hu, hchain, hblocks, hpresented⟩ := h.of_answer hc trivial
    have hsome : (s.answered (.updateDatabaseUser i)).currentUser.isSome := hu.mpr trivial
    have hnames : (s.answered (.updateDatabaseUser i)).HasNames i := hG.2
    rw [retieveUserEnteredData, if_pos hnames, if_pos hsome]
    exact next hroot hsome trivial trivial hchain hblocks hpresented
  | updateFailed hc hfailed =>
    exact absurd ⟨hG.1, .inl (h.of_answer hc trivial).1⟩ hfailed
  | createdDummyUser hc hu =>
    obtain ⟨hroot, -, hchain, hblocks, hpresented⟩ := h.of_answer hc trivial
    exact next hroot hu trivial trivial hchain hblocks hpresented
  | createFailed hc hfailed =>
    exact absurd ⟨hG, (h.of_answer hc trivial).2.1.mpr trivial⟩ hfailed
  | @navigateToNewUserFlow i hc =>
    obtain ⟨hroot, hu, hchain, hblocks, hpresented⟩ := h.of_answer hc trivial
    obtain ⟨user, huser⟩ := Option.isSome_iff_exists.mp (hu.mpr trivial)
    exact view (s := s.answered (.updateFireBaseUserWithStripeStuff i)) hroot huser hchain hblocks
      hpresented .viewDidLoad
  | storeFailed _ => exact nomatch (show false = true from hG)
  | main hmain => exact h.run hmain
  | okAction hp => exact absurd hp (Phase.ne_alert h _ _)
  | swipe hw _ =>
    obtain ⟨⟨i, hroot⟩, hu, hchain, hblocks⟩ := h.of_walkthrough hw
    obtain ⟨user, huser⟩ := Option.isSome_iff_exists.mp hu
    exact Phase.viewing.inPhase hroot huser hchain hblocks rfl
  | skip hw =>
    obtain ⟨-, hu, hchain, hblocks⟩ := h.of_walkthrough hw
    exact (Phase.tabs hu).inPhase rfl rfl hchain hblocks rfl
  | next hw =>
    obtain ⟨-, hu, hchain, hblocks⟩ := h.of_walkthrough hw
    exact (Phase.tabs hu).inPhase rfl rfl hchain hblocks rfl
  | signOut hroot =>
    obtain ⟨hchain, hblocks⟩ := h.of_tabs hroot
    exact Phase.atLogin.inPhase rfl rfl hchain hblocks rfl
  | signOutFailed => exact h

/-- A sign-up that ends because a name is missing : the new user is signed in and sees the login
screen. -/
def namesMissing : List Event :=
  [.willConnect, .toggleAccountState, .edit { newUserForm with lastName := some "" },
    .loginButtonPressed, .createNewUser 0 (.ok "mina"), .createDatabaseUser 0 (.ok ()),
    .updateDatabaseUser 0 true, .okAction]

example : ((appSession.exec (.launched none false) namesMissing).map fun s =>
    (s.root, s.currentUser, s.calls, s.presented)) =
    some (some (.loginViewController 0), some "mina", [], none) := by
  decide +kernel

end AppSession

end SuShareApp
