import SuShareApp.Membership

/-!
# Joining and paying

A press of Join starts three chains that do not wait for one another : the membership
write with its completion handlers, the update for the owner at the end of those, and the
payment screen, which is pushed at once. `joinFlow` runs the app together with the payment
screens that its presses pushed.

No step of a payment screen touches the store, so the flow projects onto the app
(`projection`), and what is stored after a run does not depend on what happened on the
payment screens (`joined_without_payment`).
-/

namespace SuShareApp

/-- A payment screen, with the user and the detail screen that Join was pressed on. -/
structure PaymentScreen where
  user : AuthUser
  screen : Copy
  checkout : Checkout
  left : Bool

/-- The app, and the payment screens in the order they were pushed. -/
structure JoinFlow where
  world : World
  payments : List PaymentScreen

/-- A press on the payment screen, which needs the screen to be there. -/
def Checkout.Event.isPress : Checkout.Event → Bool
  | .pushPaymentOptionsViewController | .subscribeButtonPressed => true
  | _ => false

inductive FlowAction
  | app (a : Action)
  | payment (i : ℕ) (e : Checkout.Event)
  /-- The user leaves the payment screen; what it has in flight goes on. -/
  | leave (i : ℕ)

namespace JoinFlow

/-- The payment screen that a step pushes : Join pushes one for the copy with the presser
appended, unless `viewDidLoad` traps. -/
def pushed (rnd : ℚ → Double) : Action → List PaymentScreen
  | .press (.joinSushareButtonPressed screen) client =>
    client.currentUser.toList.flatMap fun user =>
      (Checkout.viewDidLoad rnd (screen.sushare.appendingUser user.uid)).toList.map fun checkout =>
        ⟨user, screen, checkout, false⟩
  | _ => []

def step (rnd : ℚ → Double) (s : JoinFlow) : FlowAction → Option JoinFlow
  | .app a => (s.world.step a).map fun world => ⟨world, s.payments ++ pushed rnd a⟩
  | .payment i e => do
    let p ← s.payments[i]?
    guard (p.left → e.isPress = false)
    let checkout ← p.checkout.step e
    return { s with payments := s.payments.set i { p with checkout } }
  | .leave i => do
    let p ← s.payments[i]?
    return { s with payments := s.payments.set i { p with left := true } }

/-- Nothing is in flight. -/
def Quiet (s : JoinFlow) : Prop :=
  s.world.requests = [] ∧ s.world.answers = [] ∧ ∀ p ∈ s.payments,
    p.checkout.calls = [] ∧ p.checkout.responses = [] ∧ p.checkout.confirmations = []

instance (s : JoinFlow) : Decidable s.Quiet :=
  inferInstanceAs (Decidable (_ ∧ _ ∧ _))

/-- The user has paid for the SuShare `id`. -/
def PaidFor (s : JoinFlow) (id uid : String) : Prop :=
  ∃ p ∈ s.payments, p.user.uid = uid ∧ p.screen.sushare.suShareId = id ∧ p.checkout.charges ≠ []

instance (s : JoinFlow) (id uid : String) : Decidable (s.PaidFor id uid) :=
  inferInstanceAs (Decidable (∃ p ∈ s.payments, _))

end JoinFlow

/-- The app with its payment screens, over the given user profiles. -/
def joinFlow (rnd : ℚ → Double) (users : Collection String Dictionary) :
    TransitionSystem JoinFlow FlowAction where
  init s := s = ⟨World.initial users, []⟩
  step := JoinFlow.step rnd

namespace JoinFlow

variable {rnd : ℚ → Double} {users : Collection String Dictionary}

/-- The step of the app, if the action is one. -/
def appAction : FlowAction → Option Action
  | .app a => some a
  | _ => none

theorem app_mem_iff {as : List FlowAction} {a : Action} :
    a ∈ as.filterMap appAction ↔ .app a ∈ as := by
  constructor
  · intro h
    obtain ⟨b, hb, hba⟩ := List.mem_filterMap.mp h
    cases b with
    | app b =>
      obtain rfl := Option.some.inj hba
      exact hb
    | payment | leave => cases hba
  · intro h
    exact List.mem_filterMap.mpr ⟨_, h, rfl⟩

/-- What happens on a payment screen leaves the app as it is. -/
theorem world_step {s s' : JoinFlow} {a : FlowAction} (hs : s.step rnd a = some s')
    (ha : appAction a = none) : s'.world = s.world := by
  cases a with
  | app a => cases ha
  | payment i e =>
    simp only [step, bind, Option.bind_eq_some_iff] at hs
    obtain ⟨p, -, -, -, checkout, -, hs⟩ := hs
    cases hs
    rfl
  | leave i =>
    simp only [step, bind, Option.bind_eq_some_iff] at hs
    obtain ⟨p, -, hs⟩ := hs
    cases hs
    rfl

/-- The join flow runs the app. -/
def projection (rnd : ℚ → Double) (users : Collection String Dictionary) :
    (joinFlow rnd users).Projection (app users) where
  state := world
  action := appAction
  init s h := by rw [show s = _ from h]; rfl
  step s a s' b hs ha := by
    cases a with
    | app a =>
      obtain rfl := Option.some.inj ha
      obtain ⟨w, hw, rfl⟩ := Option.map_eq_some_iff.mp hs
      exact hw
    | payment | leave => cases ha
  stutter _ _ _ hs ha := world_step hs ha

/-- The steps of the app determine its part of the state. -/
theorem world_eq {as as' : List FlowAction} {s s' : JoinFlow}
    (h : (joinFlow rnd users).Run as s) (h' : (joinFlow rnd users).Run as' s')
    (he : as'.filterMap appAction = as.filterMap appAction) : s'.world = s.world := by
  have hrun : (app users).Run (as.filterMap appAction) s.world := (projection rnd users).run h
  have hrun' : (app users).Run (as'.filterMap appAction) s'.world :=
    (projection rnd users).run h'
  have hinit : ∀ w w', (app users).init w → (app users).init w' → w = w' :=
    fun w w' (h0 : w = _) (h1 : w' = _) => h0.trans h1.symm
  rw [he] at hrun'
  exact hrun'.unique hinit hrun

/-- A member other than the creator has pressed Join and the write was served, and the
store is that of any other run with the same steps of the app, whatever the two did on
their payment screens. -/
theorem joined_without_payment {as : List FlowAction} {s : JoinFlow}
    (h : (joinFlow rnd users).Run as s) :
    (∀ id uid, uid ∈ s.world.db.members id → CreatedBy (as.filterMap appAction) id uid ∨
      ∃ user screen client presser, user.uid = uid ∧ screen.sushare.suShareId = id ∧
        .app (.press (.joinSushareButtonPressed screen) client) ∈ as ∧
        client.currentUser = some presser ∧ presser.uid = uid ∧
        .app (.serve (.joinUserToSuShare user screen)) ∈ as) ∧
    ∀ (as' : List FlowAction) (s' : JoinFlow), (joinFlow rnd users).Run as' s' →
      as'.filterMap appAction = as.filterMap appAction → s'.world.db = s.world.db := by
  have hrun := (projection rnd users).run h
  refine ⟨fun id uid hu => ?_, fun as' s' h' he => congrArg World.db (world_eq h h' he)⟩
  rcases createdBy_or_joined hrun hu with hc | ⟨user, screen, hs, hx, hid⟩
  · exact Or.inl hc
  · obtain ⟨-, client, presser, hp, hc, hpu⟩ := (members hrun).served user screen hs
    exact Or.inr ⟨user, screen, client, presser, hx, hid, app_mem_iff.mp hp, hc, hpu.trans hx,
      app_mem_iff.mp hs⟩

/-- Bob's profile as `getCurrentUser` decodes it. -/
def bobUser : User where
  username := "Bob"
  email := "No Email"
  userId := "bob"
  profilePhoto := "No profile Photo"
  fullName := "No full name avaiable"
  stripeCustomerId := "no Stripe Id has been made"

/-- Ann's SuShare is posted, without a photo, and shown. -/
def posting : List Action :=
  Sample.opening ++ [.deliver (.success (.createASusu Sample.ann "s1" Sample.posted))
    (Sample.client Sample.ann "d1"), .reject (.uploadPhoto "s1"),
    .deliver (.failure (.uploadPhoto "s1")) (Sample.client Sample.ann "d2")]

/-- Bob presses Join and leaves the payment screen, after its only call has failed. -/
def abandoning : List FlowAction :=
  [.app (.press (.joinSushareButtonPressed Sample.roofCopy) (Sample.client Sample.bob "d3")),
    .payment 0 .paymentContextDidChange, .payment 0 (.callFailed 2500),
    .payment 0 (.response none), .leave 0]

/-- Meanwhile the join and the update for its owner are served. -/
def serving : List Action :=
  [.serve (.joinUserToSuShare Sample.bob Sample.roofCopy),
    .deliver (.success (.joinUserToSuShare Sample.bob Sample.roofCopy))
      (Sample.client Sample.bob "d4"),
    .serve (.getCurrentUser Sample.bob Sample.bob Sample.roofCopy),
    .deliver (.currentUser bobUser Sample.bob Sample.roofCopy) (Sample.client Sample.bob "u1"),
    .serve (.addUpdate bobUser "u1" ⟨0, 0⟩ Sample.bob Sample.roofCopy),
    .deliver (.success (.addUpdate bobUser "u1" ⟨0, 0⟩ Sample.bob Sample.roofCopy))
      (Sample.client Sample.bob "d5")]

/-- The run of the three together. -/
def abandoned : List FlowAction :=
  posting.map .app ++ abandoning ++ serving.map .app

theorem joined_without_payment_abandoned : ∃ s,
    (joinFlow Double.finite Sample.profiles).Run abandoned s ∧
      ∀ s', (joinFlow Double.finite Sample.profiles).Run
        (posting.map .app ++ abandoning.take 1 ++ serving.map .app) s' →
        s'.world.db = s.world.db := by
  obtain ⟨s, hrun, -⟩ := TransitionSystem.exists_run_of_exec
    (T := joinFlow Double.finite Sample.profiles) abandoned (fun _ => True) rfl (by decide +kernel)
  exact ⟨s, hrun, fun s' h' => (joined_without_payment hrun).2 _ s' h' rfl⟩

/-- Bob is a member, with an update for Ann, and has paid nothing. -/
theorem not_paid_of_mem_members : ¬ ∀ (rnd : ℚ → Double) (users : Collection String Dictionary)
    (as : List FlowAction) (s : JoinFlow) (id uid : String), (joinFlow rnd users).Run as s →
    s.Quiet → uid ∈ s.world.db.members id → ¬CreatedBy (as.filterMap appAction) id uid →
    s.PaidFor id uid := by
  intro h
  obtain ⟨s, hrun, hquiet, hbob, hpaid, -, hann⟩ := TransitionSystem.exists_run_of_exec
    (T := joinFlow Double.finite Sample.profiles) abandoned
    (fun s => s.Quiet ∧ "bob" ∈ s.world.db.members "s1" ∧ ¬s.PaidFor "s1" "bob" ∧
      (s.world.db.updates.get? "u1").isSome ∧
      (s.world.db.suShare.get? "s1").map (fun doc => doc "userId") = some (some (.string "ann")))
    rfl (by decide +kernel)
  refine hpaid (h _ _ _ s "s1" "bob" hrun hquiet hbob fun hcr => ?_)
  have ho := owners ((projection Double.finite Sample.profiles).run hrun)
  obtain ⟨doc, hd, hu⟩ := ho.created "s1" "bob" hcr
  have hd' : s.world.db.suShare.get? "s1" = some doc := hd
  simp [hd', hu] at hann

end JoinFlow

end SuShareApp
