import SuShareApp.Library.TransitionSystem
import SuShareApp.Library.Collection
import SuShareApp.Models

/-!
# The payment screen

`PaymentViewController` with what it talks to : the payment context of the Stripe SDK,
the cloud function `createChargeFunction`, and Stripe's table of payment intents.

`viewDidLoad` computes the amount once. Every change of the context sends a call of
`createChargeFunction` with that amount; an answer overwrites `clientSecret`, so calls may
overlap and answers arrive in any order. Subscribe asks the context for a payment, which
hands `didCreatePaymentResult` a result, and that confirms the intent of whatever secret
is held by then.

Of the context the model keeps the state that decides which calls it takes : a request
is ignored unless it is idle, and it is idle again when the request finishes. The app
sets no Apple merchant, so a request creates at most one payment result. A confirmation
may reach Stripe after the app has given up on it.
-/

namespace SuShareApp

/-- The amount of `viewDidLoad`, a share of the pot in cents, or `none` where it traps. -/
def paymentInt (rnd : ℚ → Double) (suShare : SuShare) : Option ℤ :=
  let paymentAmount := suShare.potAmount.div rnd (.ofInt rnd suShare.numOfParticipants)
  (paymentAmount.mul rnd (.finite 100)).toInt?

/-- The state of the payment context. `confirming` is the part of a request after
`didCreatePaymentResult`, whose completion handler has not been called yet. -/
inductive ContextState
  | idle
  | showingRequestedViewController
  | requestingPayment
  | confirming (clientSecret : String)
deriving DecidableEq, Repr

/-- A payment intent, as `createChargeFunction` creates it. `fromScreen` marks those of
this screen's calls. -/
structure PaymentIntent where
  amount : ℤ
  fromScreen : Bool
deriving DecidableEq, Repr

/-- One payment screen and what it has in flight. -/
structure Checkout where
  paymentAmount : ℤ
  clientSecret : String
  context : ContextState
  /-- Calls of `createChargeFunction`, by amount. -/
  calls : List ℤ
  /-- Answers to the calls : a client secret, or an error. -/
  responses : List (Option String)
  /-- Confirmations on their way to Stripe, by client secret. -/
  confirmations : List String
  /-- Stripe's intents, by client secret. -/
  intents : Collection String PaymentIntent
  /-- The intents that were confirmed successfully. -/
  charges : List String

/-- What `confirmPayment` reports. -/
inductive PaymentStatus
  | succeeded
  | failed
  | canceled
deriving DecidableEq, Repr

namespace Checkout

/-- What can happen on a payment screen, and to its messages. -/
inductive Event
  | paymentContextDidChange
  | pushPaymentOptionsViewController
  | paymentOptionsDismissed
  | subscribeButtonPressed
  /-- The options screen that a request without a payment option showed was cancelled. -/
  | requestCancelled
  | didCreatePaymentResult
  | createChargeFunction (amount : ℤ) (clientSecret : String)
  | callFailed (amount : ℤ)
  | response (result : Option String)
  /-- Another screen's call of `createChargeFunction`. -/
  | otherIntent (amount : ℤ) (clientSecret : String)
  /-- Stripe charges a confirmed intent. -/
  | charge (clientSecret : String)
  /-- Stripe turns a confirmation down, or it is lost. -/
  | decline (clientSecret : String)
  | didFinish (status : PaymentStatus)
deriving DecidableEq, Repr

/-- The screen when it is pushed : `viewDidLoad` has set the amount. -/
def viewDidLoad (rnd : ℚ → Double) (suShare : SuShare) : Option Checkout :=
  (paymentInt rnd suShare).map fun paymentInt =>
    { paymentAmount := paymentInt
      clientSecret := ""
      context := .idle
      calls := []
      responses := []
      confirmations := []
      intents := .empty
      charges := [] }

/-- A secret that Stripe may give to a new intent. -/
def Fresh (st : Checkout) (clientSecret : String) : Prop :=
  clientSecret ≠ "" ∧ st.intents.get? clientSecret = none

instance (st : Checkout) (clientSecret : String) : Decidable (st.Fresh clientSecret) :=
  inferInstanceAs (Decidable (_ ∧ _))

def step (st : Checkout) : Event → Option Checkout
  | .paymentContextDidChange => some { st with calls := st.paymentAmount :: st.calls }
  | .pushPaymentOptionsViewController =>
    some (if st.context = .idle then { st with context := .showingRequestedViewController }
      else st)
  | .paymentOptionsDismissed =>
    if st.context = .showingRequestedViewController then some { st with context := .idle }
    else none
  | .subscribeButtonPressed =>
    some (if st.context = .idle then { st with context := .requestingPayment } else st)
  | .requestCancelled =>
    if st.context = .requestingPayment then some { st with context := .idle } else none
  | .didCreatePaymentResult =>
    if st.context = .requestingPayment then
      -- `confirmPayment` sends nothing for the secret that no answer has set yet
      some { st with
        context := .confirming st.clientSecret
        confirmations :=
          if st.clientSecret = "" then st.confirmations
          else st.clientSecret :: st.confirmations }
    else none
  | .createChargeFunction amount clientSecret =>
    if amount ∈ st.calls ∧ st.Fresh clientSecret then
      some { st with
        calls := st.calls.erase amount
        responses := some clientSecret :: st.responses
        intents := st.intents.setData clientSecret ⟨amount, true⟩ }
    else none
  | .callFailed amount =>
    if amount ∈ st.calls then
      some { st with calls := st.calls.erase amount, responses := none :: st.responses }
    else none
  | .response result =>
    if result ∈ st.responses then
      some { st with
        responses := st.responses.erase result
        clientSecret := result.getD st.clientSecret }
    else none
  | .otherIntent amount clientSecret =>
    if st.Fresh clientSecret then
      some { st with intents := st.intents.setData clientSecret ⟨amount, false⟩ }
    else none
  | .charge clientSecret =>
    if clientSecret ∈ st.confirmations ∧ clientSecret ∉ st.charges ∧
        (st.intents.get? clientSecret).isSome then
      some { st with
        confirmations := st.confirmations.erase clientSecret
        charges := clientSecret :: st.charges }
    else none
  | .decline clientSecret =>
    if clientSecret ∈ st.confirmations then
      some { st with confirmations := st.confirmations.erase clientSecret }
    else none
  | .didFinish status =>
    match st.context with
    | .confirming clientSecret =>
      if status = .succeeded → clientSecret ∈ st.charges then some { st with context := .idle }
      else none
    | _ => none

end Checkout

/-- The payment screen of a SuShare. -/
def checkout (rnd : ℚ → Double) (suShare : SuShare) : TransitionSystem Checkout Checkout.Event where
  init st := Checkout.viewDidLoad rnd suShare = some st
  step := Checkout.step

namespace Checkout

/-! ## What an event can do -/

/-- The kinds of step, with what each of them needs. -/
inductive Steps (st : Checkout) : Event → Checkout → Prop
  | paymentContextDidChange :
    Steps st .paymentContextDidChange { st with calls := st.paymentAmount :: st.calls }
  | pushPaymentOptionsViewController (hc : st.context = .idle) :
    Steps st .pushPaymentOptionsViewController
      { st with context := .showingRequestedViewController }
  | subscribeButtonPressed (hc : st.context = .idle) :
    Steps st .subscribeButtonPressed { st with context := .requestingPayment }
  /-- The context ignores a request while another is in progress. -/
  | ignored {e : Event} (hc : st.context ≠ .idle)
    (he : e = .pushPaymentOptionsViewController ∨ e = .subscribeButtonPressed) : Steps st e st
  | paymentOptionsDismissed (hc : st.context = .showingRequestedViewController) :
    Steps st .paymentOptionsDismissed { st with context := .idle }
  | requestCancelled (hc : st.context = .requestingPayment) :
    Steps st .requestCancelled { st with context := .idle }
  | didCreatePaymentResult (hc : st.context = .requestingPayment) :
    Steps st .didCreatePaymentResult
      { st with
        context := .confirming st.clientSecret
        confirmations :=
          if st.clientSecret = "" then st.confirmations
          else st.clientSecret :: st.confirmations }
  | createChargeFunction {amount : ℤ} {clientSecret : String} (ha : amount ∈ st.calls)
    (hf : st.Fresh clientSecret) :
    Steps st (.createChargeFunction amount clientSecret)
      { st with
        calls := st.calls.erase amount
        responses := some clientSecret :: st.responses
        intents := st.intents.setData clientSecret ⟨amount, true⟩ }
  | callFailed {amount : ℤ} (ha : amount ∈ st.calls) :
    Steps st (.callFailed amount)
      { st with calls := st.calls.erase amount, responses := none :: st.responses }
  | response {result : Option String} (hr : result ∈ st.responses) :
    Steps st (.response result)
      { st with
        responses := st.responses.erase result
        clientSecret := result.getD st.clientSecret }
  | otherIntent {amount : ℤ} {clientSecret : String} (hf : st.Fresh clientSecret) :
    Steps st (.otherIntent amount clientSecret)
      { st with intents := st.intents.setData clientSecret ⟨amount, false⟩ }
  | charge {clientSecret : String} (hc : clientSecret ∈ st.confirmations)
    (hn : clientSecret ∉ st.charges) (hi : (st.intents.get? clientSecret).isSome) :
    Steps st (.charge clientSecret)
      { st with
        confirmations := st.confirmations.erase clientSecret
        charges := clientSecret :: st.charges }
  | decline {clientSecret : String} (hc : clientSecret ∈ st.confirmations) :
    Steps st (.decline clientSecret)
      { st with confirmations := st.confirmations.erase clientSecret }
  | didFinish {status : PaymentStatus} {clientSecret : String}
    (hc : st.context = .confirming clientSecret)
    (hs : status = .succeeded → clientSecret ∈ st.charges) :
    Steps st (.didFinish status) { st with context := .idle }

theorem steps_of_step {st st' : Checkout} {e : Event} (h : st.step e = some st') :
    st.Steps e st' := by
  cases e with
  | paymentContextDidChange =>
    obtain rfl := Option.some.inj h
    exact .paymentContextDidChange
  | pushPaymentOptionsViewController =>
    obtain rfl := Option.some.inj h
    split_ifs with hc
    · exact .pushPaymentOptionsViewController hc
    · exact .ignored hc (Or.inl rfl)
  | subscribeButtonPressed =>
    obtain rfl := Option.some.inj h
    split_ifs with hc
    · exact .subscribeButtonPressed hc
    · exact .ignored hc (Or.inr rfl)
  | paymentOptionsDismissed =>
    obtain ⟨hc, h⟩ := Option.ite_none_right_eq_some.mp h
    obtain rfl := Option.some.inj h
    exact .paymentOptionsDismissed hc
  | requestCancelled =>
    obtain ⟨hc, h⟩ := Option.ite_none_right_eq_some.mp h
    obtain rfl := Option.some.inj h
    exact .requestCancelled hc
  | didCreatePaymentResult =>
    obtain ⟨hc, h⟩ := Option.ite_none_right_eq_some.mp h
    obtain rfl := Option.some.inj h
    exact .didCreatePaymentResult hc
  | createChargeFunction amount clientSecret =>
    obtain ⟨⟨ha, hf⟩, h⟩ := Option.ite_none_right_eq_some.mp h
    obtain rfl := Option.some.inj h
    exact .createChargeFunction ha hf
  | callFailed amount =>
    obtain ⟨ha, h⟩ := Option.ite_none_right_eq_some.mp h
    obtain rfl := Option.some.inj h
    exact .callFailed ha
  | response result =>
    obtain ⟨hr, h⟩ := Option.ite_none_right_eq_some.mp h
    obtain rfl := Option.some.inj h
    exact .response hr
  | otherIntent amount clientSecret =>
    obtain ⟨hf, h⟩ := Option.ite_none_right_eq_some.mp h
    obtain rfl := Option.some.inj h
    exact .otherIntent hf
  | charge clientSecret =>
    obtain ⟨⟨hc, hn, hi⟩, h⟩ := Option.ite_none_right_eq_some.mp h
    obtain rfl := Option.some.inj h
    exact .charge hc hn hi
  | decline clientSecret =>
    obtain ⟨hc, h⟩ := Option.ite_none_right_eq_some.mp h
    obtain rfl := Option.some.inj h
    exact .decline hc
  | didFinish status =>
    simp only [step] at h
    split at h
    case h_1 clientSecret hc =>
      obtain ⟨hs, h⟩ := Option.ite_none_right_eq_some.mp h
      obtain rfl := Option.some.inj h
      exact .didFinish hc hs
    case h_2 => cases h

/-! ## The amount confirmed -/

/-- The secret is that of an intent which one of the screen's calls created, over `p`. -/
def Created (p : ℤ) (st : Checkout) (clientSecret : String) : Prop :=
  st.intents.get? clientSecret = some ⟨p, true⟩

/-- A new intent leaves the others as they are. -/
theorem Created.of_setData {p : ℤ} {st st' : Checkout} {clientSecret secret : String}
    {intent : PaymentIntent} (hf : st.Fresh clientSecret)
    (hst : st'.intents = st.intents.setData clientSecret intent) (h : st.Created p secret) :
    st'.Created p secret := by
  have hne : secret ≠ clientSecret := by
    rintro rfl
    simp [Created, hf.2] at h
  rw [Created, hst, Collection.get?_setData_of_ne _ hne]
  exact h

/-- Every amount on its way is `p`, and every secret that the screen or a message holds is
that of an intent created over `p`. -/
structure Amounts (p : ℤ) (st : Checkout) : Prop where
  paymentAmount : st.paymentAmount = p
  calls : ∀ amount ∈ st.calls, amount = p
  responses : ∀ secret, some secret ∈ st.responses → st.Created p secret
  clientSecret : st.clientSecret = "" ∨ st.Created p st.clientSecret
  confirming : ∀ secret, st.context = .confirming secret → secret = "" ∨ st.Created p secret
  confirmations : ∀ secret ∈ st.confirmations, st.Created p secret
  charges : ∀ secret ∈ st.charges, st.Created p secret

/-- The table of intents may grow. -/
theorem Amounts.of_setData {p : ℤ} {st : Checkout} (h : st.Amounts p) {clientSecret : String}
    (hf : st.Fresh clientSecret) (intent : PaymentIntent) :
    Amounts p { st with intents := st.intents.setData clientSecret intent } where
  paymentAmount := h.paymentAmount
  calls := h.calls
  responses secret hs := (h.responses secret hs).of_setData hf rfl
  clientSecret := h.clientSecret.imp_right fun hs => hs.of_setData hf rfl
  confirming secret hs := (h.confirming secret hs).imp_right fun hs => hs.of_setData hf rfl
  confirmations secret hs := (h.confirmations secret hs).of_setData hf rfl
  charges secret hs := (h.charges secret hs).of_setData hf rfl

/-- A change of the context that confirms nothing. -/
theorem Amounts.of_context {p : ℤ} {st : Checkout} {context : ContextState}
    (hc : ∀ secret, context ≠ .confirming secret) (h : st.Amounts p) :
    Amounts p { st with context } :=
  { h with confirming := fun secret hs => absurd hs (hc secret) }

theorem Amounts.step {p : ℤ} {st st' : Checkout} {e : Event} (h : st.Amounts p)
    (hs : st.step e = some st') : st'.Amounts p := by
  cases steps_of_step hs with
  | paymentContextDidChange =>
    refine { h with calls := fun amount ha => ?_ }
    rcases List.mem_cons.mp ha with rfl | ha
    · exact h.paymentAmount
    · exact h.calls amount ha
  | ignored => exact h
  | pushPaymentOptionsViewController | subscribeButtonPressed | paymentOptionsDismissed
  | requestCancelled | didFinish => exact h.of_context (by simp)
  | didCreatePaymentResult hc =>
    refine { h with confirming := fun secret hc => ?_, confirmations := fun secret hc => ?_ }
    · obtain rfl := ContextState.confirming.inj hc
      exact h.clientSecret
    · dsimp only at hc
      split_ifs at hc with he
      · exact h.confirmations secret hc
      · rcases List.mem_cons.mp hc with rfl | hc
        · exact h.clientSecret.resolve_left he
        · exact h.confirmations secret hc
  | @createChargeFunction amount clientSecret ha hf =>
    obtain rfl := h.calls amount ha
    refine { h.of_setData hf ⟨amount, true⟩ with
      calls := fun a ha => h.calls a (List.mem_of_mem_erase ha)
      responses := fun secret hr => ?_ }
    rcases List.mem_cons.mp hr with hr | hr
    · obtain rfl := Option.some.inj hr
      exact Collection.get?_setData_self _ _ _
    · exact (h.responses secret hr).of_setData hf rfl
  | callFailed ha =>
    exact { h with
      calls := fun a ha => h.calls a (List.mem_of_mem_erase ha)
      responses := fun secret hr => h.responses secret (by simpa using hr) }
  | @response result hr =>
    refine { h with
      responses := fun secret hr => h.responses secret (List.mem_of_mem_erase hr)
      clientSecret := ?_ }
    cases result with
    | none => exact h.clientSecret
    | some secret => exact Or.inr (h.responses secret hr)
  | otherIntent hf => exact h.of_setData hf _
  | charge hc =>
    refine { h with
      confirmations := fun secret hs => h.confirmations secret (List.mem_of_mem_erase hs)
      charges := fun secret hs => ?_ }
    rcases List.mem_cons.mp hs with rfl | hs
    · exact h.confirmations secret hc
    · exact h.charges secret hs
  | decline hc =>
    exact { h with
      confirmations := fun secret hs => h.confirmations secret (List.mem_of_mem_erase hs) }

theorem Amounts.of_viewDidLoad {rnd : ℚ → Double} {suShare : SuShare} {p : ℤ} {st : Checkout}
    (hp : paymentInt rnd suShare = some p) (h : viewDidLoad rnd suShare = some st) :
    st.Amounts p := by
  rw [viewDidLoad, hp, Option.map_some] at h
  obtain rfl := Option.some.inj h
  constructor <;> simp

/-- Whatever the order of the messages, the secret that the screen holds or confirms is
empty or that of an intent of this screen, over the amount of `viewDidLoad`. -/
theorem amount_confirmed {rnd : ℚ → Double} {suShare : SuShare} {p : ℤ}
    (hp : paymentInt rnd suShare = some p) {es : List Event} {st : Checkout}
    (h : (checkout rnd suShare).Run es st) :
    (st.clientSecret = "" ∨
      ∃ intent, st.intents.get? st.clientSecret = some intent ∧ intent.fromScreen = true) ∧
    ∀ secret, secret ≠ "" → st.context = .confirming secret ∨ secret ∈ st.confirmations →
      ∃ intent, st.intents.get? secret = some intent ∧ intent.amount = p := by
  have hinv : st.Amounts p := h.invariant (I := fun _ st => st.Amounts p)
    (fun _ h0 => .of_viewDidLoad hp h0) fun _ _ _ _ _ ih hs => ih.step hs
  refine ⟨hinv.clientSecret.imp_right fun hc => ⟨_, hc, rfl⟩, fun secret hne hc => ?_⟩
  rcases hc with hc | hc
  · exact ⟨_, (hinv.confirming secret hc).resolve_left hne, rfl⟩
  · exact ⟨_, hinv.confirmations secret hc, rfl⟩

/-- A pot of 100 among four. -/
def sample : SuShare :=
  SuShare.init ⟨0, 0⟩ <| .ofList [
    ("potAmount", .double (.finite 100)), ("numOfParticipants", .int 4)]

theorem paymentInt_sample : paymentInt Double.finite sample = some 2500 := by
  decide +kernel

/-- The payment screen of `sample` when it is pushed. -/
def opened : Checkout :=
  ⟨2500, "", .idle, [], [], [], .empty, []⟩

theorem init_opened : (checkout Double.finite sample).init opened := by
  simp [checkout, viewDidLoad, paymentInt_sample, opened]

/-- Two calls overlap and the answer to the first arrives last. -/
def overlapping : List Event :=
  [.paymentContextDidChange, .paymentContextDidChange, .createChargeFunction 2500 "pi_1",
    .otherIntent 70 "pi_2", .createChargeFunction 2500 "pi_3", .response (some "pi_3"),
    .response (some "pi_1"), .subscribeButtonPressed, .didCreatePaymentResult]

theorem amount_confirmed_overlapping :
    ∃ st, (checkout Double.finite sample).Run overlapping st ∧
      ∃ intent, st.intents.get? "pi_1" = some intent ∧ intent.amount = 2500 := by
  obtain ⟨st, hrun, hst⟩ := TransitionSystem.exists_run_of_exec overlapping
    (fun st => st.context = .confirming "pi_1") init_opened (by decide +kernel)
  exact ⟨st, hrun, (amount_confirmed paymentInt_sample hrun).2 "pi_1" (by decide)
    (Or.inl hst)⟩

/-! ## The number of charges -/

/-- A request that has not reached `didCreatePaymentResult` yet. -/
def pending (st : Checkout) : ℕ :=
  if st.context = .requestingPayment then 1 else 0

/-- The secret of an answer that the screen received. -/
def received : Event → Option String
  | .response result => result
  | _ => none

/-- No intent is charged twice, every charge, confirmation and request was asked for by a
press of its own, and every secret held was received. -/
structure Counted (es : List Event) (st : Checkout) : Prop where
  nodup : st.charges.Nodup
  pressed : st.charges.length + st.confirmations.length + st.pending ≤
    es.count .subscribeButtonPressed
  clientSecret : st.clientSecret = "" ∨ st.clientSecret ∈ es.filterMap received
  confirmations : ∀ secret ∈ st.confirmations, secret ∈ es.filterMap received
  charges : ∀ secret ∈ st.charges, secret ∈ es.filterMap received

/-- What an event other than a press of Subscribe must keep. -/
theorem Counted.of_le {es : List Event} {st st' : Checkout} {e : Event} (h : st.Counted es)
    (hn : st'.charges.Nodup)
    (hle : st'.charges.length + st'.confirmations.length + st'.pending ≤
      st.charges.length + st.confirmations.length + st.pending)
    (hs : st'.clientSecret = st.clientSecret ∨ received e = some st'.clientSecret)
    (hc : ∀ secret ∈ st'.confirmations, secret ∈ st.confirmations ∨
      secret ≠ "" ∧ secret = st.clientSecret)
    (hch : ∀ secret ∈ st'.charges, secret ∈ st.charges ∨ secret ∈ st.confirmations) :
    st'.Counted (es ++ [e]) := by
  have mem_append : ∀ {secret}, secret ∈ es.filterMap received →
      secret ∈ (es ++ [e]).filterMap received := fun hm => by
    rw [List.filterMap_append]
    exact List.mem_append_left _ hm
  refine ⟨hn, ?_, ?_, fun secret hm => ?_, fun secret hm => ?_⟩
  · rw [List.count_append]
    have := h.pressed
    omega
  · rcases hs with hs | hs
    · rw [hs]
      exact h.clientSecret.imp_right mem_append
    · right
      simp [List.filterMap_append, hs]
  · rcases hc secret hm with hm | ⟨hne, rfl⟩
    · exact mem_append (h.confirmations secret hm)
    · exact mem_append (h.clientSecret.resolve_left hne)
  · rcases hch secret hm with hm | hm
    · exact mem_append (h.charges secret hm)
    · exact mem_append (h.confirmations secret hm)

/-- An event that touches neither the charges nor the confirmations nor the secret, and
begins no request. -/
theorem Counted.of_eq {es : List Event} {st st' : Checkout} {e : Event} (h : st.Counted es)
    (hch : st'.charges = st.charges) (hc : st'.confirmations = st.confirmations)
    (hs : st'.clientSecret = st.clientSecret) (hp : st'.pending ≤ st.pending) :
    st'.Counted (es ++ [e]) := by
  refine h.of_le (hch ▸ h.nodup) ?_ (Or.inl hs) (fun secret hm => Or.inl (hc ▸ hm))
    fun secret hm => Or.inl (hch ▸ hm)
  rw [hch, hc]
  omega

/-- A press of Subscribe makes room for one request. -/
theorem Counted.of_press {es : List Event} {st : Checkout} {context : ContextState}
    (h : st.Counted es) :
    Counted (es ++ [.subscribeButtonPressed]) { st with context } := by
  have hr : (es ++ [Event.subscribeButtonPressed]).filterMap received =
      es.filterMap received := by
    simp [received]
  have hp : pending { st with context } ≤ st.pending + 1 := by
    unfold pending
    split_ifs <;> omega
  refine ⟨h.nodup, ?_, hr ▸ h.clientSecret, hr ▸ h.confirmations, hr ▸ h.charges⟩
  have hpr := h.pressed
  rw [List.count_append, List.count_singleton_self]
  dsimp only at hp ⊢
  omega

theorem Counted.step {es : List Event} {st st' : Checkout} {e : Event} (h : st.Counted es)
    (hs : st.step e = some st') : st'.Counted (es ++ [e]) := by
  cases steps_of_step hs with
  | paymentContextDidChange | createChargeFunction | callFailed | otherIntent =>
    exact h.of_eq rfl rfl rfl le_rfl
  | pushPaymentOptionsViewController | paymentOptionsDismissed | requestCancelled | didFinish =>
    exact h.of_eq rfl rfl rfl (by simp [pending])
  | subscribeButtonPressed => exact h.of_press
  | ignored hc he =>
    rcases he with rfl | rfl
    · exact h.of_eq rfl rfl rfl le_rfl
    · exact h.of_press
  | didCreatePaymentResult hc =>
    refine h.of_le h.nodup ?_ (Or.inl rfl) (fun secret hm => ?_) fun _ => Or.inl
    · have hne : ContextState.confirming st.clientSecret ≠ .requestingPayment := by simp
      dsimp only [pending]
      rw [if_pos hc, if_neg hne]
      split_ifs
      · omega
      · rw [List.length_cons]
        omega
    · dsimp only at hm
      split_ifs at hm with he
      · exact Or.inl hm
      · rcases List.mem_cons.mp hm with rfl | hm
        · exact Or.inr ⟨he, rfl⟩
        · exact Or.inl hm
  | @response result =>
    refine h.of_le h.nodup le_rfl ?_ (fun _ => Or.inl) fun _ => Or.inl
    cases result with
    | none => exact Or.inl rfl
    | some secret => exact Or.inr rfl
  | charge hc hn =>
    refine h.of_le (List.nodup_cons.mpr ⟨hn, h.nodup⟩) ?_ (Or.inl rfl)
      (fun _ hm => Or.inl (List.mem_of_mem_erase hm)) fun secret hm => ?_
    · have hpos := List.length_pos_of_mem hc
      have hlen := List.length_erase_of_mem hc
      simp only [List.length_cons, pending, hlen]
      omega
    · rcases List.mem_cons.mp hm with rfl | hm
      · exact Or.inr hc
      · exact Or.inl hm
  | decline hc =>
    refine h.of_le h.nodup ?_ (Or.inl rfl) (fun _ hm => Or.inl (List.mem_of_mem_erase hm))
      fun _ => Or.inl
    have hlen := List.length_erase_of_mem hc
    simp only [pending, hlen]
    omega

theorem Counted.of_viewDidLoad {rnd : ℚ → Double} {suShare : SuShare} {st : Checkout}
    (h : viewDidLoad rnd suShare = some st) : st.Counted [] := by
  obtain ⟨p, -, rfl⟩ := Option.map_eq_some_iff.mp h
  constructor <;> simp [pending]

/-- No intent is charged twice, and each charge takes a press of Subscribe and an answer
of `createChargeFunction` of its own. -/
theorem charges_le {rnd : ℚ → Double} {suShare : SuShare} {es : List Event} {st : Checkout}
    (h : (checkout rnd suShare).Run es st) :
    st.charges.Nodup ∧ st.charges.length ≤ es.count .subscribeButtonPressed ∧
      st.charges.length ≤ (es.filterMap received).length := by
  have hinv : st.Counted es := h.invariant (I := fun es st => st.Counted es)
    (fun _ h0 => .of_viewDidLoad h0) fun _ _ _ _ _ ih hs => ih.step hs
  refine ⟨hinv.nodup, ?_, (List.subperm_of_subset hinv.nodup hinv.charges).length_le⟩
  have := hinv.pressed
  omega

/-- After a payment the screen is still there : the next change of the context replaces the
secret, and a second press pays again. -/
def paidTwice : List Event :=
  [.paymentContextDidChange, .createChargeFunction 2500 "pi_1", .response (some "pi_1"),
    .subscribeButtonPressed, .didCreatePaymentResult, .charge "pi_1", .didFinish .succeeded,
    .paymentContextDidChange, .createChargeFunction 2500 "pi_2", .response (some "pi_2"),
    .subscribeButtonPressed, .didCreatePaymentResult, .charge "pi_2", .didFinish .succeeded]

/-- Two intents of one screen can be charged. -/
theorem not_charges_le_one : ¬ ∀ (rnd : ℚ → Double) (suShare : SuShare) (es : List Event)
    (st : Checkout), (checkout rnd suShare).Run es st → st.charges.length ≤ 1 := by
  intro h
  obtain ⟨st, hrun, hst⟩ := TransitionSystem.exists_run_of_exec paidTwice
    (fun st => st.charges.length = 2) init_opened (by decide +kernel)
  have h1 := h _ _ _ _ hrun
  omega

theorem charges_le_paidTwice :
    ∃ st, (checkout Double.finite sample).Run paidTwice st ∧ st.charges.Nodup ∧
      st.charges.length ≤ 2 ∧ st.charges.length ≤ 2 := by
  obtain ⟨st, hrun, -⟩ := TransitionSystem.exists_run_of_exec paidTwice (fun _ => True)
    init_opened (by decide +kernel)
  exact ⟨st, hrun, charges_le hrun⟩

end Checkout

end SuShareApp
