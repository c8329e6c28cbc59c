import SuShareApp.Library.TransitionSystem
import SuShareApp.PaymentSource
import Mathlib.Data.Set.Subsingleton
import Mathlib.Logic.Function.Basic
import Mathlib.Logic.Relation

/-!
# The trigger of `addPaymentSource`

Every write that changes a token is an event, and runs `addPaymentSource`, whose own follow-up
write goes to the node that holds the token. Stripe's answer replaces the node, and so removes the
token : that is an event again, but with nothing to add. An error is put beside the token, and is no
event.

So an invocation calls Stripe once and writes once (`callsAtMost_addPaymentSource`), the event of
its write has no token (`Sound`), and a user's write sets off one further invocation at most, which
makes no call (`does_not_feed_itself`). This rests on Stripe's answer : it has no child `token`.
-/

namespace SuShareApp

open Promise

/-! ## The calls of an invocation -/

/-- An object that Stripe returns has no child named "token". -/
def TokenFree : CloudOperation → Except JsError Json → Prop
  | .createSource _ _, .ok response => response.get ["token"] = .null
  | _, _ => True

instance : ∀ op outcome, Decidable (TokenFree op outcome)
  | .createSource _ _, .ok response =>
    inferInstanceAs (Decidable (response.get ["token"] = .null))
  | .createSource _ _, .error _ => .isTrue trivial
  | .once _, _ => .isTrue trivial
  | .set _ _, _ => .isTrue trivial
  | .write _ _, _ => .isTrue trivial

namespace CloudOperation

def isCreateSource : CloudOperation → Bool
  | .createSource _ _ => true
  | _ => false

def isSet : CloudOperation → Bool
  | .set _ _ => true
  | _ => false

/-- A write that is neither of an object without a token to the node of the source, nor beside the
token. -/
def feeds (change : TokenWrite) : CloudOperation → Bool
  | .set path value =>
    !decide ((path = change.parent ∧ value.get ["token"] = .null) ∨
      path = change.parent ++ ["error"])
  | _ => false

end CloudOperation

section CallsAtMost

variable {q : CloudOperation → Bool} {m n : ℕ}

/-- Up to `createSource`, only that call counts. -/
theorem callsAtMost_createSource (change : TokenWrite) (honce : ∀ path, q (.once path) = false)
    (hcreate : ∀ customer source, (if q (.createSource customer source) then 1 else 0) ≤ n) :
    (createSource change).CallsAtMost TokenFree q
      (fun r => ∀ response, r = .ok response → response.get ["token"] = .null) n := by
  have hlookup : (Promise.call (.once change.customerId) : CloudPromise).CallsAtMost TokenFree q
      (fun _ => True) 0 :=
    (callsAtMost_call fun _ _ => trivial).mono (by simp [honce])
  have hsnapshot : ((Promise.call (.once change.customerId) : CloudPromise).chain fun snapshot =>
      resolve snapshot).CallsAtMost TokenFree q (fun _ => True) (0 + 0) :=
    hlookup.chain (fun _ _ => trivial) fun _ => trivial
  have hcall : ∀ customer, (call (.createSource customer change.after) : CloudPromise).CallsAtMost
      TokenFree q (fun r => ∀ response, r = .ok response → response.get ["token"] = .null) n :=
    fun customer => (callsAtMost_call fun _ hfree _ hr => by
      subst hr
      exact hfree).mono (hcreate customer change.after)
  have h := hsnapshot.chain (fun customer _ => hcall customer) fun _ _ he => nomatch he
  rwa [Nat.zero_add] at h

/-- The bounds of `createSource` and of the follow-up write add up. -/
theorem callsAtMost_addPaymentSource (functionName : String) (change : TokenWrite)
    (honce : ∀ path, q (.once path) = false)
    (hcreate : ∀ customer source, (if q (.createSource customer source) then 1 else 0) ≤ n)
    (hset : ∀ response : Json, response.get ["token"] = .null →
      (if q (.set change.parent response) then 1 else 0) ≤ m)
    (herror : ∀ message, (if q (.set (change.parent ++ ["error"]) message) then 1 else 0) ≤ m) :
    (addPaymentSource functionName change).CallsAtMost TokenFree q (fun _ => True) (n + m) := by
  unfold addPaymentSource
  split_ifs
  · trivial
  · have hwrite := (callsAtMost_createSource change honce hcreate).andThen
      (fun response hfree => (callsAtMost_call (R := fun _ => True) fun _ _ => trivial).mono
        (hset response (hfree response rfl)))
      fun error _ => (callsAtMost_call fun _ _ => trivial).mono
        (herror (.leaf (.string (userFacingMessage error))))
    rw [← Nat.add_zero (n + m)]
    exact hwrite.chain (fun _ _ => trivial) fun _ => trivial

/-- An invocation writes once. -/
theorem callsAtMost_isSet (functionName : String) (change : TokenWrite) :
    (addPaymentSource functionName change).CallsAtMost TokenFree CloudOperation.isSet
      (fun _ => True) 1 :=
  callsAtMost_addPaymentSource (q := CloudOperation.isSet) (n := 0) (m := 1) functionName change
    (fun _ => rfl) (fun _ _ => le_rfl) (fun _ _ => le_rfl) fun _ => le_rfl

/-- An invocation calls Stripe once. -/
theorem callsAtMost_isCreateSource (functionName : String) (change : TokenWrite) :
    (addPaymentSource functionName change).CallsAtMost TokenFree CloudOperation.isCreateSource
      (fun _ => True) 1 :=
  callsAtMost_addPaymentSource (q := CloudOperation.isCreateSource) (n := 1) (m := 0) functionName
    change (fun _ => rfl) (fun _ _ => le_rfl) (fun _ _ => le_rfl) fun _ => le_rfl

/-- No write of an invocation feeds the trigger. -/
theorem callsAtMost_feeds (functionName : String) (change : TokenWrite) :
    (addPaymentSource functionName change).CallsAtMost TokenFree (CloudOperation.feeds change)
      (fun _ => True) 0 := by
  refine callsAtMost_addPaymentSource (q := CloudOperation.feeds change) (n := 0) (m := 0)
    functionName change (fun _ => rfl) (fun _ _ => le_rfl) (fun response hfree => ?_)
    fun message => ?_
  · simp [CloudOperation.feeds, hfree]
  · simp [CloudOperation.feeds]

/-- Without a token there is nothing to call. -/
theorem callsAtMost_of_null (functionName : String) {change : TokenWrite}
    (h : change.after = .null) :
    (addPaymentSource functionName change).CallsAtMost TokenFree (fun _ => true)
      (fun _ => True) 0 := by
  rw [addPaymentSource, if_pos h]
  trivial

end CallsAtMost

/-! ## The events and their invocations -/

/-- A write event, and the event whose invocation wrote, unless a user did. -/
structure TokenEvent where
  change : TokenWrite
  origin : Option ℕ
deriving DecidableEq, Repr

/-- A run of `addPaymentSource`. -/
structure TokenInvocation where
  change : TokenWrite
  /-- The calls that have settled. -/
  settled : List CloudOperation
  rest : CloudPromise

/-- The Realtime Database, the events in the order of their writes, and the invocation of each
event that was delivered. -/
structure PaymentSources where
  data : Json
  events : List TokenEvent
  invocations : ℕ → Option TokenInvocation

namespace PaymentSources

/-- `value` is written at `path`. If that changes the token of `change`, it is an event. -/
def put (s : PaymentSources) (change : TokenWrite) (origin : Option ℕ) (path : List String)
    (value : Json) : PaymentSources where
  data := s.data.set path value
  events :=
    if (s.data.set path value).get change.ref = s.data.get change.ref then s.events
    else s.events ++ [⟨{ change with after := (s.data.set path value).get change.ref }, origin⟩]
  invocations := s.invocations

/-- What the call does to the database, if it succeeds. -/
def perform (s : PaymentSources) (i : ℕ) (change : TokenWrite) (op : CloudOperation)
    (outcome : Except JsError Json) : PaymentSources :=
  match op, outcome with
  | .set path value, .ok _ => s.put change (some i) path value
  | _, _ => s

/-- The event runs the function. -/
def deliver (functionName : String) (s : PaymentSources) (i : ℕ) : Option PaymentSources :=
  match s.events[i]?, s.invocations i with
  | some event, none =>
    some { s with
      invocations := Function.update s.invocations i
        (some ⟨event.change, [], addPaymentSource functionName event.change⟩) }
  | _, _ => none

/-- The call in flight settles. -/
def settle (s : PaymentSources) (i : ℕ) (outcome : Except JsError Json) : Option PaymentSources :=
  match s.invocations i with
  | some ⟨change, ops, .await op k⟩ =>
    some { s.perform i change op outcome with
      invocations := Function.update s.invocations i (some ⟨change, ops ++ [op], k outcome⟩) }
  | _ => none

inductive Action
  /-- A user writes a token. -/
  | write (change : TokenWrite)
  | deliver (event : ℕ)
  | settle (event : ℕ) (outcome : Except JsError Json)

def system (functionName : String) : TransitionSystem PaymentSources Action where
  init s := s.events = [] ∧ ∀ i, s.invocations i = none
  step
    | s, .write change => some (s.put change none change.ref change.after)
    | s, .deliver i => s.deliver functionName i
    | s, .settle i outcome => s.settle i outcome

/-- What Stripe answers is one of its objects. -/
def AnswersTokenFree (s : PaymentSources) : Action → Prop
  | .settle i outcome =>
    ∀ inv ∈ s.invocations i, ∀ op ∈ inv.rest.pending, TokenFree op outcome
  | _ => True

instance (s : PaymentSources) : DecidablePred s.AnswersTokenFree
  | .settle i outcome => inferInstanceAs (Decidable
    (∀ inv ∈ s.invocations i, ∀ op ∈ inv.rest.pending, TokenFree op outcome))
  | .write _ => .isTrue trivial
  | .deliver _ => .isTrue trivial

/-! ### What an event causes -/

/-- Event `j` is of a write of the invocation of event `i`. -/
def Triggers (s : PaymentSources) (i j : ℕ) : Prop :=
  ∃ event, s.events[j]? = some event ∧ event.origin = some i

/-- The event, the events of the writes of its invocation, and so on. -/
def causedBy (s : PaymentSources) (i : ℕ) : Set ℕ :=
  {j | Relation.ReflTransGen s.Triggers i j}

/-- The calls of an invocation, the one in flight included. -/
def issued (s : PaymentSources) (i : ℕ) : List CloudOperation :=
  (s.invocations i).elim [] fun inv => inv.settled ++ inv.rest.pending.toList

/-- The calls of `stripe.customers.createSource` that the event causes : the event of the
invocation that makes it, and its place among the calls of this invocation. -/
def createSourceCalls (s : PaymentSources) (i : ℕ) : Set (ℕ × ℕ) :=
  {c | c.1 ∈ s.causedBy i ∧ ∃ op ∈ (s.issued c.1)[c.2]?, op.isCreateSource = true}

/-! ### The writes -/

/-- The event of a user's write has the token that the user wrote. -/
theorem events_write (s : PaymentSources) (change : TokenWrite) :
    ∃ new : Option TokenEvent,
      (s.put change none change.ref change.after).events = s.events ++ new.toList ∧
        ∀ event ∈ new, event = ⟨change, none⟩ := by
  unfold put
  rw [DataTree.get_set_self]
  split_ifs
  · exact ⟨none, (List.append_nil _).symm, fun event he => nomatch he⟩
  · exact ⟨some _, rfl, fun event he => (Option.some.inj he).symm⟩

/-- A write at or below the node of one source leaves the tokens of the others alone, so it is an
event of this source or none. -/
theorem get_ref_set_of_ne {change other : TokenWrite} (h : change.parent ≠ other.parent)
    (data value : Json) (below : List String) :
    (data.set (change.parent ++ below) value).get other.ref = data.get other.ref := by
  have href : other.parent <+: other.ref := List.prefix_append _ ["token"]
  have hpath : change.parent <+: change.parent ++ below := List.prefix_append _ _
  have heq : ∀ {path : List String}, change.parent <+: path → other.parent <+: path → False :=
    fun hc ho => h ((List.prefix_of_prefix_length_le hc ho le_rfl).eq_of_length rfl)
  exact data.get_set_of_disjoint (fun hle => heq (hpath.trans hle) href)
    (fun hle => heq hpath (href.trans hle)) value

/-- A write that does not feed the trigger is an event of a removed token, or none. -/
theorem events_put (s : PaymentSources) {change : TokenWrite} (origin : Option ℕ)
    {path : List String} {value : Json}
    (h : CloudOperation.feeds change (.set path value) = false) :
    ∃ new : Option TokenEvent, (s.put change origin path value).events = s.events ++ new.toList ∧
      ∀ event ∈ new, event = ⟨{ change with after := .null }, origin⟩ := by
  have href : change.ref = change.parent ++ ["token"] := rfl
  have hpath : (path = change.parent ∧ value.get ["token"] = .null) ∨
      path = change.parent ++ ["error"] := of_decide_eq_true ((Bool.not_eq_false' _).mp h)
  rcases hpath with ⟨rfl, hvalue⟩ | rfl
  · have hafter : (s.data.set change.parent value).get change.ref = .null := by
      rw [href, DataTree.get_set_append, hvalue]
    unfold put
    rw [hafter]
    split_ifs
    · exact ⟨none, (List.append_nil _).symm, fun event he => nomatch he⟩
    · exact ⟨some _, rfl, fun event he => (Option.some.inj he).symm⟩
  · have hsame : (s.data.set (change.parent ++ ["error"]) value).get change.ref =
        s.data.get change.ref := by
      rw [href]
      refine s.data.get_set_of_disjoint ?_ ?_ value <;>
        rw [List.prefix_append_right_inj] <;> decide
    unfold put
    rw [if_pos hsame]
    exact ⟨none, (List.append_nil _).symm, fun event he => nomatch he⟩

theorem events_perform (s : PaymentSources) (i : ℕ) {change : TokenWrite} {op : CloudOperation}
    (outcome : Except JsError Json) (h : op.feeds change = false) :
    ∃ new : Option TokenEvent,
      (s.perform i change op outcome).events = s.events ++ new.toList ∧
        ∀ event ∈ new, event.origin = some i ∧ event.change.after = .null ∧ op.isSet = true := by
  unfold perform
  split
  · obtain ⟨new, heq, hnew⟩ := s.events_put (some i) h
    refine ⟨new, heq, fun event he => ?_⟩
    obtain rfl := hnew event he
    exact ⟨rfl, rfl, rfl⟩
  · exact ⟨none, (List.append_nil _).symm, fun event he => nomatch he⟩

/-! ### The invariant -/

/-- Each invocation runs the function for its event, the event of an invocation's write has no
token, and an invocation has one such event. -/
structure Sound (functionName : String) (s : PaymentSources) : Prop where
  invoked : ∀ i inv, s.invocations i = some inv →
    (∃ event, s.events[i]? = some event ∧ event.change = inv.change) ∧
      (addPaymentSource functionName inv.change).Reaches TokenFree inv.settled inv.rest
  caused : ∀ (i j : ℕ) (event : TokenEvent), s.events[j]? = some event → event.origin = some i →
    event.change.after = .null ∧
      ∃ inv, s.invocations i = some inv ∧ ∃ op ∈ inv.settled, op.isSet = true
  unique : ∀ i j j', s.Triggers i j → s.Triggers i j' → j = j'

theorem getElem?_append_toList_eq_some {α : Type*} {l : List α} {o : Option α} {b : α} {i : ℕ} :
    (l ++ o.toList)[i]? = some b ↔ l[i]? = some b ∨ i = l.length ∧ o = some b := by
  cases o with
  | none => simp
  | some a =>
    rcases Nat.lt_trichotomy i l.length with hi | rfl | hi
    · rw [List.getElem?_append_left hi]
      exact (or_iff_left fun h => hi.ne h.1).symm
    · simp
    · have hl : l[i]? = none := List.getElem?_eq_none hi.le
      have hla : (l ++ [a])[i]? = none := List.getElem?_eq_none (by simp; omega)
      simp [hl, hla, hi.ne']

theorem update_eq_some {α : Type*} {f : ℕ → Option α} {i j : ℕ} {a b : α} :
    Function.update f i (some a) j = some b ↔ j = i ∧ a = b ∨ j ≠ i ∧ f j = some b := by
  by_cases hj : j = i
  · subst hj
    simp
  · simp [hj]

section Sound

variable {functionName : String} {s s' : PaymentSources}

theorem sound_init (h : (system functionName).init s) : s.Sound functionName := by
  obtain ⟨hevents, hinvocations⟩ := h
  refine ⟨fun i inv hinv => ?_, fun i j event hj => ?_, fun i j j' hj => ?_⟩
  · simp [hinvocations i] at hinv
  · simp [hevents] at hj
  · obtain ⟨event, hj, -⟩ := hj
    simp [hevents] at hj

theorem triggers_append_iff {new : Option TokenEvent} {i j : ℕ}
    (h : s'.events = s.events ++ new.toList) : s'.Triggers i j ↔ s.Triggers i j ∨
      j = s.events.length ∧ ∃ event ∈ new, event.origin = some i := by
  simp only [Triggers, h, getElem?_append_toList_eq_some, or_and_right, exists_or, and_assoc,
    exists_and_left, Option.mem_def]

/-- A step keeps the invariant if invocations keep their calls, and a new event of an invocation's
write has no token and is the first of this invocation. -/
theorem Sound.of_step (h : s.Sound functionName)
    (hinvoked : ∀ i inv, s'.invocations i = some inv →
      (∃ event, s.events[i]? = some event ∧ event.change = inv.change) ∧
        (addPaymentSource functionName inv.change).Reaches TokenFree inv.settled inv.rest)
    (hkept : ∀ i inv, s.invocations i = some inv →
      ∃ inv', s'.invocations i = some inv' ∧ inv.settled ⊆ inv'.settled)
    {new : Option TokenEvent} (hevents : s'.events = s.events ++ new.toList)
    (hnew : ∀ event ∈ new, ∀ i, event.origin = some i → event.change.after = .null ∧
      (∃ inv, s'.invocations i = some inv ∧ ∃ op ∈ inv.settled, op.isSet = true) ∧
        ∀ j, ¬ s.Triggers i j) :
    s'.Sound functionName := by
  refine ⟨fun i inv hinv => ?_, fun i j event hj hi => ?_, fun i j j' hj hj' => ?_⟩
  · obtain ⟨⟨event, hevent, hchange⟩, hreaches⟩ := hinvoked i inv hinv
    refine ⟨⟨event, ?_, hchange⟩, hreaches⟩
    rw [hevents]
    exact getElem?_append_toList_eq_some.mpr (.inl hevent)
  · rw [hevents] at hj
    rcases getElem?_append_toList_eq_some.mp hj with hj | ⟨-, hj⟩
    · obtain ⟨hnull, inv, hinv, op, hop, hset⟩ := h.caused i j event hj hi
      obtain ⟨inv', hinv', hsub⟩ := hkept i inv hinv
      exact ⟨hnull, inv', hinv', op, hsub hop, hset⟩
    · obtain ⟨hnull, hwrote, -⟩ := hnew event hj i hi
      exact ⟨hnull, hwrote⟩
  · rcases (triggers_append_iff hevents).mp hj with hj | ⟨rfl, event, he, hi⟩
    · rcases (triggers_append_iff hevents).mp hj' with hj' | ⟨rfl, event, he, hi⟩
      · exact h.unique i j j' hj hj'
      · exact absurd hj ((hnew event he i hi).2.2 j)
    · rcases (triggers_append_iff hevents).mp hj' with hj' | ⟨rfl, -⟩
      · exact absurd hj' ((hnew event he i hi).2.2 j')
      · rfl

/-- A user's write is nobody's follow-up. -/
theorem Sound.write (h : s.Sound functionName) (change : TokenWrite) :
    (s.put change none change.ref change.after).Sound functionName := by
  obtain ⟨new, heq, hnew⟩ := s.events_write change
  refine h.of_step h.invoked (fun i inv hinv => ⟨inv, hinv, List.Subset.refl _⟩) heq ?_
  intro event he i hi
  obtain rfl := hnew event he
  nomatch hi

theorem deliver_eq_some {i : ℕ} : s.deliver functionName i = some s' ↔
    ∃ event, s.events[i]? = some event ∧ s.invocations i = none ∧
      s' = { s with
        invocations := Function.update s.invocations i
          (some ⟨event.change, [], addPaymentSource functionName event.change⟩) } := by
  unfold deliver
  cases s.events[i]? with
  | none => simp
  | some event =>
    cases s.invocations i with
    | none => simp [eq_comm]
    | some inv => simp

theorem Sound.deliver (h : s.Sound functionName) {i : ℕ}
    (hs : s.deliver functionName i = some s') : s'.Sound functionName := by
  obtain ⟨event, hevent, hnone, rfl⟩ := deliver_eq_some.mp hs
  have heq : s.events = s.events ++ (none : Option TokenEvent).toList := (List.append_nil _).symm
  refine h.of_step (fun j inv hinv => ?_) (fun j inv hinv => ⟨inv, ?_, List.Subset.refl _⟩) heq
    fun event he => nomatch he
  · rcases update_eq_some.mp hinv with ⟨rfl, rfl⟩ | ⟨-, hinv⟩
    · exact ⟨⟨event, hevent, rfl⟩, .start⟩
    · exact h.invoked j inv hinv
  · have hj : j ≠ i := by
      rintro rfl
      simp [hnone] at hinv
    exact update_eq_some.mpr (.inr ⟨hj, hinv⟩)

theorem settle_eq_some {i : ℕ} {outcome : Except JsError Json} :
    s.settle i outcome = some s' ↔ ∃ change ops op k,
      s.invocations i = some ⟨change, ops, .await op k⟩ ∧
        s' = { s.perform i change op outcome with
          invocations := Function.update s.invocations i
            (some ⟨change, ops ++ [op], k outcome⟩) } := by
  unfold settle
  cases s.invocations i with
  | none => simp
  | some inv =>
    obtain ⟨change, ops, rest⟩ := inv
    cases rest with
    | settled r => simp
    | await op k => simp [eq_comm]

section Pending

variable {i : ℕ} {change : TokenWrite} {ops : List CloudOperation} {op : CloudOperation}
  {k : Except JsError Json → CloudPromise}

/-- The call in flight does not feed the trigger. -/
theorem Sound.not_feeds (h : s.Sound functionName)
    (hinv : s.invocations i = some ⟨change, ops, .await op k⟩) : op.feeds change = false := by
  have hle := (h.invoked i _ hinv).2.countP_issued_le (callsAtMost_feeds functionName change)
  have hnone := List.countP_eq_zero.mp (Nat.le_zero.mp hle) op (by simp [pending])
  simpa using hnone

/-- A write in flight is the first of its invocation. -/
theorem Sound.not_triggers_of_isSet (h : s.Sound functionName)
    (hinv : s.invocations i = some ⟨change, ops, .await op k⟩) (hset : op.isSet = true) (j : ℕ) :
    ¬ s.Triggers i j := by
  rintro ⟨event, hj, hi⟩
  obtain ⟨-, inv', hinv', op', hop', hset'⟩ := h.caused i j event hj hi
  obtain rfl := Option.some.inj (hinv.symm.trans hinv')
  have hle := (h.invoked i _ hinv).2.countP_issued_le (callsAtMost_isSet functionName change)
  have hpos : 0 < ops.countP CloudOperation.isSet := List.countP_pos_iff.mpr ⟨op', hop', hset'⟩
  simp only [pending, Option.toList_some, List.countP_append, List.countP_singleton, hset,
    if_true] at hle
  omega

end Pending

theorem Sound.settle (h : s.Sound functionName) {i : ℕ} {outcome : Except JsError Json}
    (hanswers : AnswersTokenFree s (.settle i outcome)) (hs : s.settle i outcome = some s') :
    s'.Sound functionName := by
  obtain ⟨change, ops, op, k, hinv, rfl⟩ := settle_eq_some.mp hs
  obtain ⟨hevent, hreaches⟩ := h.invoked i _ hinv
  have hfree : TokenFree op outcome := hanswers _ hinv op rfl
  have hself : Function.update s.invocations i (some ⟨change, ops ++ [op], k outcome⟩) i =
      some ⟨change, ops ++ [op], k outcome⟩ := Function.update_self i _ _
  obtain ⟨new, heq, hnew⟩ := s.events_perform i outcome (h.not_feeds hinv)
  refine h.of_step (fun j inv hj => ?_) (fun j inv hj => ?_) heq fun event he j hj => ?_
  · rcases update_eq_some.mp hj with ⟨rfl, rfl⟩ | ⟨-, hj⟩
    · exact ⟨hevent, hreaches.settle hfree⟩
    · exact h.invoked j inv hj
  · by_cases hji : j = i
    · subst hji
      obtain rfl := Option.some.inj (hinv.symm.trans hj)
      exact ⟨_, hself, List.subset_append_left _ _⟩
    · exact ⟨inv, update_eq_some.mpr (.inr ⟨hji, hj⟩), List.Subset.refl _⟩
  · obtain ⟨horigin, hnull, hset⟩ := hnew event he
    obtain rfl := Option.some.inj (horigin.symm.trans hj)
    exact ⟨hnull, ⟨_, hself, op, by simp, hset⟩, h.not_triggers_of_isSet hinv hset⟩

theorem sound {as : List Action} (h : (system functionName).RunWhere AnswersTokenFree as s) :
    s.Sound functionName := by
  refine h.invariant (I := fun _ s => s.Sound functionName) (fun _ h0 => sound_init h0) ?_
  intro as s a s' _ hsound hanswers hs
  cases a with
  | write change =>
    obtain rfl : s.put change none change.ref change.after = s' := Option.some.inj hs
    exact hsound.write change
  | deliver i => exact hsound.deliver hs
  | settle i outcome => exact hsound.settle hanswers hs

/-! ### What an event sets off -/

/-- An event without a token makes no call. -/
theorem Sound.issued_eq_nil (h : s.Sound functionName) {i : ℕ} {event : TokenEvent}
    (hi : s.events[i]? = some event) (hnull : event.change.after = .null) : s.issued i = [] := by
  unfold issued
  cases hinv : s.invocations i with
  | none => rfl
  | some inv =>
    obtain ⟨⟨event', hi', hchange⟩, hreaches⟩ := h.invoked i inv hinv
    obtain rfl := Option.some.inj (hi.symm.trans hi')
    rw [hchange] at hnull
    have hle := hreaches.countP_issued_le (callsAtMost_of_null functionName hnull)
    rw [List.countP_true] at hle
    exact List.eq_nil_of_length_eq_zero (Nat.le_zero.mp hle)

/-- So it triggers nothing. -/
theorem Sound.not_triggers_of_null (h : s.Sound functionName) {i : ℕ} {event : TokenEvent}
    (hi : s.events[i]? = some event) (hnull : event.change.after = .null) (j : ℕ) :
    ¬ s.Triggers i j := by
  rintro ⟨event', hj, horigin⟩
  obtain ⟨-, inv, hinv, op, hop, -⟩ := h.caused i j event' hj horigin
  have hissued : s.issued i = inv.settled ++ inv.rest.pending.toList := by
    unfold issued
    rw [hinv]
    rfl
  have hmem : op ∈ s.issued i := hissued ▸ List.mem_append_left _ hop
  rw [h.issued_eq_nil hi hnull] at hmem
  exact List.not_mem_nil hmem

/-- A chain has two events : an event that another one triggers has no token. -/
theorem Sound.eq_or_triggers (h : s.Sound functionName) {i j : ℕ} (hj : j ∈ s.causedBy i) :
    j = i ∨ s.Triggers i j := by
  induction hj with
  | refl => exact .inl rfl
  | tail _ hlast ih =>
    rcases ih with rfl | ⟨event, hevent, horigin⟩
    · exact .inr hlast
    · have hnull := (h.caused _ _ event hevent horigin).1
      exact absurd hlast (h.not_triggers_of_null hevent hnull _)

theorem Sound.exists_causedBy_subset (h : s.Sound functionName) (i : ℕ) :
    ∃ k, s.causedBy i ⊆ {i, k} := by
  by_cases hi : ∃ k, s.Triggers i k
  · obtain ⟨k, hk⟩ := hi
    refine ⟨k, fun j hj => ?_⟩
    rcases h.eq_or_triggers hj with rfl | hj
    · exact .inl rfl
    · exact .inr (h.unique i j k hj hk)
  · refine ⟨i, fun j hj => ?_⟩
    rcases h.eq_or_triggers hj with rfl | hj
    · exact .inl rfl
    · exact absurd ⟨j, hj⟩ hi

/-- The invocation of the event itself makes the calls. -/
theorem Sound.eq_of_issued (h : s.Sound functionName) {i j : ℕ} (hj : j ∈ s.causedBy i)
    (hne : s.issued j ≠ []) : j = i := by
  refine (h.eq_or_triggers hj).resolve_right ?_
  rintro ⟨event, hevent, horigin⟩
  exact hne (h.issued_eq_nil hevent (h.caused i j event hevent horigin).1)

theorem Sound.countP_issued_le (h : s.Sound functionName) (i : ℕ) :
    (s.issued i).countP CloudOperation.isCreateSource ≤ 1 := by
  unfold issued
  cases hinv : s.invocations i with
  | none => exact Nat.zero_le _
  | some inv =>
    exact (h.invoked i inv hinv).2.countP_issued_le
      (callsAtMost_isCreateSource functionName inv.change)

end Sound

theorem eq_of_countP_le_one {α : Type*} {q : α → Bool} {a b : α} :
    ∀ {l : List α} {m n : ℕ}, l.countP q ≤ 1 → l[m]? = some a → q a = true → l[n]? = some b →
      q b = true → m = n
  | [], _, _, _, hm, _, _, _ => by simp at hm
  | c :: l, 0, 0, _, _, _, _, _ => rfl
  | c :: l, 0, n + 1, h, hm, ha, hn, hb => by
    obtain rfl : c = a := Option.some.inj hm
    have hpos : 0 < l.countP q := List.countP_pos_iff.mpr ⟨b, List.mem_of_getElem? hn, hb⟩
    rw [List.countP_cons_of_pos ha] at h
    omega
  | c :: l, m + 1, 0, h, hm, ha, hn, hb => by
    obtain rfl : c = b := Option.some.inj hn
    have hpos : 0 < l.countP q := List.countP_pos_iff.mpr ⟨a, List.mem_of_getElem? hm, ha⟩
    rw [List.countP_cons_of_pos hb] at h
    omega
  | c :: l, m + 1, n + 1, h, hm, ha, hn, hb => by
    have hle : l.countP q ≤ 1 := ((List.sublist_cons_self c l).countP_le).trans h
    rw [eq_of_countP_le_one hle hm ha hn hb]

theorem Sound.subsingleton_createSourceCalls {functionName : String} {s : PaymentSources}
    (h : s.Sound functionName) (i : ℕ) : (s.createSourceCalls i).Subsingleton := by
  rintro ⟨j, m⟩ ⟨hj, op, hm, hop⟩ ⟨j', n⟩ ⟨hj', op', hn, hop'⟩
  have hself : ∀ {j m : ℕ} {op}, j ∈ s.causedBy i → op ∈ (s.issued j)[m]? → j = i := by
    intro j m op hj hm
    refine h.eq_of_issued hj fun hnil => ?_
    simp [hnil] at hm
  obtain rfl : j = i := hself hj hm
  obtain rfl : j' = j := hself hj' hn
  have hmn : m = n := eq_of_countP_le_one (h.countP_issued_le _) hm hop hn hop'
  rw [hmn]

/-- The trigger does not feed itself : an event, such as the write of a token by a user, sets off
at most one further invocation, and all that it causes calls `createSource` at most once. -/
theorem does_not_feed_itself {functionName : String} {as : List Action} {s : PaymentSources}
    (h : (system functionName).RunWhere AnswersTokenFree as s) (i : ℕ) :
    (∃ k, s.causedBy i ⊆ {i, k}) ∧ (s.createSourceCalls i).Subsingleton :=
  ⟨(sound h).exists_causedBy_subset i, (sound h).subsingleton_createSourceCalls i⟩

/-- Ann's card is added. -/
def addingVisa : List Action :=
  [.write visa, .deliver 0, .settle 0 (.ok (.leaf (.string "cus_ann"))),
    .settle 0 (.ok ⟨[(["id"], .string "card_visa")]⟩), .settle 0 (.ok .null), .deliver 1]

theorem does_not_feed_itself_addingVisa :
    ∃ s, (system "addPaymentSource").RunWhere AnswersTokenFree addingVisa s ∧
      s.events.length = 2 ∧
        (∃ k, s.causedBy 0 ⊆ {0, k}) ∧ (s.createSourceCalls 0).Subsingleton := by
  have h0 : (system "addPaymentSource").init ⟨.null, [], fun _ => none⟩ := ⟨rfl, fun _ => rfl⟩
  obtain ⟨s, hrun, hlength⟩ := TransitionSystem.exists_run_of_exec
    (T := (system "addPaymentSource").guarded AnswersTokenFree) addingVisa
    (fun s => s.events.length = 2) h0 (by decide +kernel)
  exact ⟨s, hrun.runWhere, hlength, does_not_feed_itself hrun.runWhere 0⟩

end PaymentSources

end SuShareApp
