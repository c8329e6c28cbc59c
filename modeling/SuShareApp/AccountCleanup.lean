import SuShareApp.PaymentSourcesAtRest
import Mathlib.Data.List.Dedup

/-!
# Cleaning up after a user

When a user deletes the account, `cleanupUser` reads the user's record, has Stripe delete the
customer that the record has, and removes the record. Meanwhile the invocations of
`addPaymentSource` go on.

The id of a customer is removed only after Stripe deleted this customer
(`customer_removed_after_del`) : nothing else writes the id, so the one that was read is still
there. But nothing writes one in the first place. Without an id the cleanup rejects, so in a
database without customers a deleted user's tokens and cards stay (`cleanup_does_nothing`).
-/

namespace SuShareApp

open Promise

/-! ## The function -/

/-- The calls of `cleanupUser`. -/
inductive CleanupOperation
  /-- `admin.database().ref(path).once('value')` -/
  | once (path : List String)
  /-- `stripe.customers.del(customer)` -/
  | del (customer : Json)
  /-- `admin.database().ref(path).remove()` -/
  | remove (path : List String)
deriving DecidableEq, Repr

abbrev CleanupPromise := Promise CleanupOperation Json JsError Json

/-- What reading a property of `null` throws. -/
def typeError (property : String) : JsError where
  type := none
  message := "Cannot read property '" ++ property ++ "' of null"
  stack := "TypeError: Cannot read property '" ++ property ++ "' of null"

/-- `/stripe_customers/${user.uid}` -/
def recordPath (uid : String) : List String := ["stripe_customers", uid]

def cleanupUser (uid : String) : CleanupPromise :=
  (((Promise.call (.once (recordPath uid))).chain fun snapshot =>
    .resolve snapshot).chain fun customer =>
      if customer = .null then .reject (typeError "customer_id")
      -- a property that is not there is `undefined`
      else .call (.del (customer.get ["customer_id"]))).chain fun _ =>
        .call (.remove (recordPath uid))

/-- The calls that settled, and the one that follows. -/
inductive CleanupAwaits (uid : String) :
    List (Except JsError Json) → List CleanupOperation → CleanupOperation → Prop
  | once : CleanupAwaits uid [] [] (.once (recordPath uid))
  | del (record : Json) : CleanupAwaits uid [.ok record] [.once (recordPath uid)]
    (.del (record.get ["customer_id"]))
  | remove (record deleted : Json) : CleanupAwaits uid [.ok record, .ok deleted]
    [.once (recordPath uid), .del (record.get ["customer_id"])] (.remove (recordPath uid))

theorem cleanupUser_eq (uid : String) : cleanupUser uid =
    .await (.once (recordPath uid)) fun record => record.handle
      (fun record => if record = .null then .reject (typeError "customer_id")
        else .await (.del (record.get ["customer_id"])) fun deleted => deleted.handle
          (fun _ => .call (.remove (recordPath uid))) .reject)
      .reject := by
  refine congrArg (Promise.await _) (funext fun record => ?_)
  cases record with
  | error error => rfl
  | ok record =>
    by_cases hnull : record = .null
    · simp [hnull, Promise.andThen, Promise.resolve, Promise.reject]
    · simp only [Promise.andThen, Promise.resolve, Except.handle_ok, if_neg hnull, Promise.call]

section Resume

variable {uid : String} {rs : List (Except JsError Json)} {ops : List CleanupOperation}

/-- The outcomes determine how far the cleanup is. -/
theorem cleanupAwaits_of_resume {op : CleanupOperation} {k : Except JsError Json → CleanupPromise}
    (h : (cleanupUser uid).resume rs = some (ops, .await op k)) : CleanupAwaits uid rs ops op := by
  rw [cleanupUser_eq] at h
  match rs with
  | [] =>
    obtain ⟨rfl, heq⟩ := Prod.mk.inj (Option.some.inj h)
    cases heq
    exact .once
  | .error error :: rs =>
    obtain ⟨ops', -, hreject⟩ := resume_cons h
    nomatch (eq_of_resume_settled hreject).2.2
  | .ok record :: rs =>
    obtain ⟨ops', rfl, hrecord⟩ := resume_cons h
    simp only [Except.handle_ok] at hrecord
    split_ifs at hrecord with hnull
    · nomatch (eq_of_resume_settled hrecord).2.2
    match rs with
    | [] =>
      obtain ⟨rfl, heq⟩ := Prod.mk.inj (Option.some.inj hrecord)
      cases heq
      exact .del record
    | .error error :: rs =>
      obtain ⟨ops', -, hreject⟩ := resume_cons hrecord
      nomatch (eq_of_resume_settled hreject).2.2
    | [.ok deleted] =>
      obtain ⟨ops', rfl, hdeleted⟩ := resume_cons hrecord
      obtain ⟨rfl, heq⟩ := Prod.mk.inj (Option.some.inj hdeleted)
      cases heq
      exact .remove record deleted
    | .ok deleted :: r :: rs =>
      obtain ⟨ops', -, hdeleted⟩ := resume_cons hrecord
      obtain ⟨ops'', -, hsettled⟩ := resume_cons hdeleted
      nomatch (eq_of_resume_settled hsettled).2.2

/-- A cleanup that did not fail has had Stripe delete the customer. -/
theorem eq_error_or_of_resume {r : Except JsError Json}
    (h : (cleanupUser uid).resume rs = some (ops, .settled r)) :
    (∃ error, r = .error error) ∨
      ∃ record deleted rest, rs = .ok record :: .ok deleted :: rest := by
  rw [cleanupUser_eq] at h
  match rs with
  | [] => nomatch h
  | .error error :: rs =>
    obtain ⟨ops', -, hreject⟩ := resume_cons h
    obtain ⟨-, -, heq⟩ := eq_of_resume_settled hreject
    cases heq
    exact .inl ⟨error, rfl⟩
  | .ok record :: rs =>
    obtain ⟨ops', -, hrecord⟩ := resume_cons h
    simp only [Except.handle_ok] at hrecord
    split_ifs at hrecord with hnull
    · obtain ⟨-, -, heq⟩ := eq_of_resume_settled hrecord
      cases heq
      exact .inl ⟨_, rfl⟩
    match rs with
    | [] => nomatch hrecord
    | .error error :: rs =>
      obtain ⟨ops', -, hreject⟩ := resume_cons hrecord
      obtain ⟨-, -, heq⟩ := eq_of_resume_settled hreject
      cases heq
      exact .inl ⟨error, rfl⟩
    | .ok deleted :: rs => exact .inr ⟨record, deleted, rs, rfl⟩

end Resume

/-! ## The payment sources and the cleanups together -/

/-- The payment sources, and the cleanup of each user who was deleted. -/
structure Cloud where
  sources : PaymentSources
  cleanups : String → Option CleanupPromise

namespace Cloud

inductive Action
  | source (a : PaymentSources.Action)
  /-- The user deletes the account. -/
  | deleteUser (uid : String)
  | settleCleanup (uid : String) (outcome : Except JsError Json)

/-- The user's sources that have a token. -/
def pushIds (data : Json) (uid : String) : List String :=
  ((data.get (recordPath uid ++ ["sources"])).leaves.filterMap fun (path, _) =>
    match path with
    | pushId :: "token" :: _ => some pushId
    | _ => none).dedup

/-- The record is removed, and with it its tokens, which are events. -/
def removeRecord (s : PaymentSources) (uid : String) : PaymentSources where
  data := s.data.set (recordPath uid) .null
  events := s.events ++ (pushIds s.data uid).map fun pushId => ⟨⟨uid, pushId, .null⟩, none⟩
  invocations := s.invocations

/-- What the call does to the database, if it succeeds. -/
def perform (s : PaymentSources) (uid : String) (op : CleanupOperation)
    (outcome : Except JsError Json) : PaymentSources :=
  match op, outcome with
  | .remove _, .ok _ => removeRecord s uid
  | _, _ => s

/-- The call in flight of the user's cleanup settles. -/
def settleCleanup (s : Cloud) (uid : String) (outcome : Except JsError Json) : Option Cloud :=
  match s.cleanups uid with
  | some (.await op k) =>
    some ⟨perform s.sources uid op outcome, Function.update s.cleanups uid (some (k outcome))⟩
  | _ => none

def step (functionName : String) (s : Cloud) : Action → Option Cloud
  | .source a =>
    ((PaymentSources.system functionName).step s.sources a).map fun sources => { s with sources }
  | .deleteUser uid =>
    if s.cleanups uid = none then
      some { s with cleanups := Function.update s.cleanups uid (some (cleanupUser uid)) }
    else none
  | .settleCleanup uid outcome => s.settleCleanup uid outcome

/-- The id of the user's Stripe customer. -/
def customer (s : Cloud) (uid : String) : Json :=
  s.sources.data.get (recordPath uid ++ ["customer_id"])

def Action.source? : Action → Option PaymentSources.Action
  | .source a => some a
  | _ => none

/-- The outcome of a call of the user's cleanup. -/
def Action.cleanupOutcome? (uid : String) : Action → Option (Except JsError Json)
  | .settleCleanup u outcome => if u = uid then some outcome else none
  | _ => none

def cleanupOutcomes (as : List Action) (uid : String) : List (Except JsError Json) :=
  as.filterMap (Action.cleanupOutcome? uid)

/-- A lookup that succeeds reads the record that is stored. -/
def Reads (data : Json) : CleanupOperation → Except JsError Json → Prop
  | .once path, .ok value => value = data.get path
  | _, _ => True

/-- Stripe deletes no customer without an id. -/
def HasId : CleanupOperation → Except JsError Json → Prop
  | .del customer, .ok _ => customer ≠ .null
  | _, _ => True

instance (data : Json) : ∀ op outcome, Decidable (Reads data op outcome)
  | .once path, .ok value => inferInstanceAs (Decidable (value = data.get path))
  | .once _, .error _ => .isTrue trivial
  | .del _, _ => .isTrue trivial
  | .remove _, _ => .isTrue trivial

instance : ∀ op outcome, Decidable (HasId op outcome)
  | .del customer, .ok _ => inferInstanceAs (Decidable (customer ≠ .null))
  | .del _, .error _ => .isTrue trivial
  | .once _, _ => .isTrue trivial
  | .remove _, _ => .isTrue trivial

/-- The database answers the cleanups as it does. -/
def ReadsRecord (s : Cloud) : Action → Prop
  | .settleCleanup uid outcome => ∀ p ∈ s.cleanups uid, ∀ op ∈ p.pending,
      Reads s.sources.data op outcome
  | .source _ | .deleteUser _ => True

/-- And so does Stripe. -/
def Serves (s : Cloud) : Action → Prop
  | .settleCleanup uid outcome => ∀ p ∈ s.cleanups uid, ∀ op ∈ p.pending,
      Reads s.sources.data op outcome ∧ HasId op outcome
  | .source _ | .deleteUser _ => True

instance (s : Cloud) : DecidablePred s.ReadsRecord
  | .settleCleanup uid outcome => inferInstanceAs (Decidable
      (∀ p ∈ s.cleanups uid, ∀ op ∈ p.pending, Reads s.sources.data op outcome))
  | .source _ => .isTrue trivial
  | .deleteUser _ => .isTrue trivial

instance (s : Cloud) : DecidablePred s.Serves
  | .settleCleanup uid outcome => inferInstanceAs (Decidable (∀ p ∈ s.cleanups uid,
      ∀ op ∈ p.pending, Reads s.sources.data op outcome ∧ HasId op outcome))
  | .source _ => .isTrue trivial
  | .deleteUser _ => .isTrue trivial

theorem Serves.readsRecord {s : Cloud} : ∀ {a : Action}, s.Serves a → s.ReadsRecord a
  | .settleCleanup _ _, h => fun p hp op hop => (h p hp op hop).1
  | .source _, _ => trivial
  | .deleteUser _, _ => trivial

end Cloud

/-- The cloud functions, before any of them ran. -/
def cloud (functionName : String) : TransitionSystem Cloud Cloud.Action where
  init s := (PaymentSources.system functionName).init s.sources ∧ ∀ uid, s.cleanups uid = none
  step := Cloud.step functionName

/-- The same where no customer is stored. -/
def cloudWithoutCustomers (functionName : String) : TransitionSystem Cloud Cloud.Action where
  init s := (cloud functionName).init s ∧ ∀ uid, s.customer uid = .null
  step := Cloud.step functionName

namespace Cloud

/-! ## The invariant -/

theorem cleanupOutcomes_concat (as : List Action) (a : Action) (uid : String) :
    cleanupOutcomes (as ++ [a]) uid =
      cleanupOutcomes as uid ++ (a.cleanupOutcome? uid).toList := by
  rw [cleanupOutcomes, List.filterMap_append]
  cases h : a.cleanupOutcome? uid <;> simp [cleanupOutcomes, h]

@[simp] theorem cleanupOutcome?_self (uid : String) (outcome : Except JsError Json) :
    (Action.settleCleanup uid outcome).cleanupOutcome? uid = some outcome :=
  if_pos rfl

theorem cleanupOutcome?_of_ne {uid u : String} (h : u ≠ uid) (outcome : Except JsError Json) :
    (Action.settleCleanup u outcome).cleanupOutcome? uid = none :=
  if_neg h

/-- The payment sources and the cleanups have gone as far as the outcomes of their calls take them,
and the customer that a cleanup read is still stored. -/
structure Tracked (functionName : String) (as : List Action) (s : Cloud) : Prop where
  resumes : PaymentSources.Resumes functionName (as.filterMap Action.source?) s.sources
  idle : ∀ uid, s.cleanups uid = none → cleanupOutcomes as uid = []
  cleanup : ∀ uid p, s.cleanups uid = some p →
    ∃ ops, (cleanupUser uid).resume (cleanupOutcomes as uid) = some (ops, p)
  looked : ∀ uid op k record rest, s.cleanups uid = some (.await op k) →
    cleanupOutcomes as uid = .ok record :: rest → record.get ["customer_id"] = s.customer uid

section Step

variable {functionName : String} {as : List Action} {s s' : Cloud} {uid : String}

theorem settleCleanup_eq_some {outcome : Except JsError Json} :
    s.settleCleanup uid outcome = some s' ↔ ∃ op k, s.cleanups uid = some (.await op k) ∧
      s' = ⟨perform s.sources uid op outcome,
        Function.update s.cleanups uid (some (k outcome))⟩ := by
  unfold settleCleanup
  cases s.cleanups uid with
  | none => simp
  | some p =>
    cases p with
    | settled r => simp
    | await op k => simp [eq_comm]

/-- The payment sources never write a customer. -/
theorem customer_source (h : Tracked functionName as s) {a : PaymentSources.Action}
    {sources : PaymentSources}
    (hs : (PaymentSources.system functionName).step s.sources a = some sources) (uid : String) :
    customer { s with sources } uid = s.customer uid :=
  h.resumes.get_customerId_step hs ⟨uid, "", .null⟩

theorem customer_removeRecord_self (s : PaymentSources) (uid : String)
    (cleanups : String → Option CleanupPromise) :
    customer ⟨removeRecord s uid, cleanups⟩ uid = .null := by
  show (s.data.set (recordPath uid) .null).get (recordPath uid ++ ["customer_id"]) = .null
  rw [DataTree.get_set_append]
  rfl

theorem customer_removeRecord_of_ne (s : PaymentSources) {u : String} (h : uid ≠ u)
    (cleanups : String → Option CleanupPromise) :
    customer ⟨removeRecord s uid, cleanups⟩ u =
      s.data.get (recordPath u ++ ["customer_id"]) := by
  have hne : recordPath uid ≠ recordPath u := by simp [recordPath, h]
  have hkept := s.data.get_set_append_of_ne (by rfl) hne [] ["customer_id"] .null
  rwa [List.append_nil] at hkept

theorem filterMap_source?_concat {a : Action} (h : a.source? = none) :
    (as ++ [a]).filterMap Action.source? = as.filterMap Action.source? := by
  rw [List.filterMap_append, List.filterMap_cons_none h, List.filterMap_nil, List.append_nil]

theorem tracked_init (h : (cloud functionName).init s) : Tracked functionName [] s := by
  refine ⟨PaymentSources.resumes_init h.1, fun _ _ => rfl, fun uid p hp => ?_,
    fun uid op k record rest hp => ?_⟩ <;>
    · rw [h.2 uid] at hp
      nomatch hp

theorem Tracked.source (h : Tracked functionName as s) {a : PaymentSources.Action}
    (hs : (cloud functionName).step s (.source a) = some s') :
    Tracked functionName (as ++ [.source a]) s' := by
  obtain ⟨sources, hsources, rfl⟩ := Option.map_eq_some_iff.mp hs
  have hsame : ∀ uid, cleanupOutcomes (as ++ [.source a]) uid = cleanupOutcomes as uid :=
    fun uid => by simp [cleanupOutcomes_concat, Action.cleanupOutcome?]
  refine ⟨?_, fun uid hnone => ?_, fun uid p hp => ?_, fun uid op k record rest hp hrecord => ?_⟩
  · rw [List.filterMap_append]
    exact h.resumes.step hsources
  · exact (hsame uid).trans (h.idle uid hnone)
  · rw [hsame]
    exact h.cleanup uid p hp
  · rw [hsame] at hrecord
    rw [customer_source h hsources]
    exact h.looked uid op k record rest hp hrecord

theorem Tracked.deleteUser (h : Tracked functionName as s)
    (hs : (cloud functionName).step s (.deleteUser uid) = some s') :
    Tracked functionName (as ++ [.deleteUser uid]) s' := by
  obtain ⟨hnone, hs⟩ := Option.ite_none_right_eq_some.mp hs
  obtain rfl := Option.some.inj hs
  have hsame : ∀ u, cleanupOutcomes (as ++ [.deleteUser uid]) u = cleanupOutcomes as u :=
    fun u => by simp [cleanupOutcomes_concat, Action.cleanupOutcome?]
  refine ⟨?_, fun u hu => ?_, fun u p hp => ?_, fun u op k record rest hp hrecord => ?_⟩
  · rw [filterMap_source?_concat rfl]
    exact h.resumes
  · rw [hsame]
    by_cases hne : u = uid
    · exact hne ▸ h.idle uid hnone
    · exact h.idle u (by simpa [hne] using hu)
  · rw [hsame]
    by_cases hne : u = uid
    · subst hne
      obtain rfl : cleanupUser u = p := by simpa using hp
      rw [h.idle u hnone]
      exact ⟨[], resume_nil _⟩
    · exact h.cleanup u p (by simpa [hne] using hp)
  · rw [hsame] at hrecord
    by_cases hne : u = uid
    · rw [hne, h.idle uid hnone] at hrecord
      nomatch hrecord
    · exact h.looked u op k record rest (by simpa [hne] using hp) hrecord

/-- The call in flight of a cleanup. -/
theorem Tracked.awaits (h : Tracked functionName as s) {op : CleanupOperation}
    {k : Except JsError Json → CleanupPromise} (hp : s.cleanups uid = some (.await op k)) :
    ∃ ops, (cleanupUser uid).resume (cleanupOutcomes as uid) = some (ops, .await op k) ∧
      CleanupAwaits uid (cleanupOutcomes as uid) ops op := by
  obtain ⟨ops, hops⟩ := h.cleanup uid _ hp
  exact ⟨ops, hops, cleanupAwaits_of_resume hops⟩

/-- A customer changes when a record is removed, and not before. -/
theorem customer_perform_of_ne {op : CleanupOperation} {outcome : Except JsError Json} {u : String}
    (h : uid ≠ u ∨ ∀ path, op ≠ .remove path) (cleanups : String → Option CleanupPromise) :
    customer ⟨perform s.sources uid op outcome, cleanups⟩ u = s.customer u := by
  unfold perform
  split
  · next path _ =>
    exact customer_removeRecord_of_ne _ (h.resolve_right fun hop => hop path rfl) cleanups
  · rfl

theorem invocations_perform (s : PaymentSources) (uid : String) (op : CleanupOperation)
    (outcome : Except JsError Json) : (perform s uid op outcome).invocations = s.invocations := by
  unfold perform
  split <;> rfl

/-- What a cleanup read stays true as long as it has not removed the record. -/
theorem Tracked.settleCleanup (h : Tracked functionName as s) {outcome : Except JsError Json}
    (hreads : s.ReadsRecord (.settleCleanup uid outcome))
    (hs : s.settleCleanup uid outcome = some s') :
    Tracked functionName (as ++ [.settleCleanup uid outcome]) s' := by
  obtain ⟨op, k, hp, rfl⟩ := settleCleanup_eq_some.mp hs
  obtain ⟨ops, hops, hawaits⟩ := h.awaits hp
  have hanswers := hreads _ hp op rfl
  have hnext := resume_concat outcome hops
  have hinvocations := invocations_perform s.sources uid op outcome
  have hother : ∀ u, u ≠ uid → cleanupOutcomes (as ++ [.settleCleanup uid outcome]) u =
      cleanupOutcomes as u := fun u hu => by
    simp [cleanupOutcomes_concat, cleanupOutcome?_of_ne hu.symm]
  have hself : cleanupOutcomes (as ++ [.settleCleanup uid outcome]) uid =
      cleanupOutcomes as uid ++ [outcome] := by
    simp [cleanupOutcomes_concat]
  refine ⟨?_, fun u hu => ?_, fun u p hu => ?_, fun u op' k' record rest hu hrecord => ?_⟩
  · rw [filterMap_source?_concat rfl]
    exact ⟨fun i hi => h.resumes.idle i (hinvocations ▸ hi),
      fun i inv hi => h.resumes.resume i inv (hinvocations ▸ hi)⟩
  · have hne : u ≠ uid := by
      rintro rfl
      simp at hu
    rw [hother u hne]
    exact h.idle u (by simpa [hne] using hu)
  · by_cases hne : u = uid
    · subst hne
      obtain rfl : k outcome = p := by simpa using hu
      rw [hself]
      exact ⟨_, hnext⟩
    · rw [hother u hne]
      exact h.cleanup u p (by simpa [hne] using hu)
  · by_cases hne : u = uid
    · subst hne
      have hk : k outcome = .await op' k' := by simpa using hu
      rw [hself] at hrecord
      rw [hk] at hnext
      have hawaits' := cleanupAwaits_of_resume hnext
      generalize hrs : cleanupOutcomes as u = rs at hawaits hawaits' hrecord
      cases hawaits with
      | once =>
        obtain ⟨rfl, -⟩ := List.cons.inj hrecord
        rw [customer_perform_of_ne (.inr fun _ => by simp)]
        have hread : record = s.sources.data.get (recordPath u) := hanswers
        rw [hread, DataTree.get_get]
        rfl
      | del record' =>
        obtain ⟨hrecord', -⟩ := List.cons.inj hrecord
        rw [customer_perform_of_ne (.inr fun _ => by simp)]
        exact h.looked u _ _ record [] hp (by rw [hrs, hrecord'])
      | remove record' deleted => cases hawaits'
    · rw [hother u hne] at hrecord
      rw [customer_perform_of_ne (.inl (Ne.symm hne))]
      exact h.looked u op' k' record rest (by simpa [hne] using hu) hrecord

theorem Tracked.step (h : Tracked functionName as s) {a : Action} (hreads : s.ReadsRecord a)
    (hs : (cloud functionName).step s a = some s') : Tracked functionName (as ++ [a]) s' := by
  cases a with
  | source a => exact h.source hs
  | deleteUser uid => exact h.deleteUser hs
  | settleCleanup uid outcome => exact h.settleCleanup hreads hs

theorem tracked (h : (cloud functionName).RunWhere ReadsRecord as s) : Tracked functionName as s :=
  h.invariant (I := Tracked functionName) (fun _ => tracked_init)
    fun _ _ _ _ _ ih hreads hs => ih.step hreads hs

end Step

/-! ## What is removed -/

/-- The id of a customer is only ever removed by the cleanup of its user, after Stripe deleted this
customer. -/
theorem customer_removed_after_del {functionName : String} {as : List Action} {s s' : Cloud}
    {a : Action} (h : (cloud functionName).RunWhere ReadsRecord as s)
    (hs : (cloud functionName).step s a = some s') {uid : String}
    (hne : s'.customer uid ≠ s.customer uid) :
    s'.customer uid = .null ∧ ∃ removed ops k, a = .settleCleanup uid (.ok removed) ∧
      (cleanupUser uid).resume (cleanupOutcomes as uid) =
        some (ops, .await (.remove (recordPath uid)) k) ∧
      .del (s.customer uid) ∈ ops ∧ ∀ r ∈ cleanupOutcomes as uid, ∃ answer, r = .ok answer := by
  have htracked := tracked h
  cases a with
  | source a =>
    obtain ⟨sources, hsources, rfl⟩ := Option.map_eq_some_iff.mp hs
    exact absurd (customer_source htracked hsources uid) hne
  | deleteUser u =>
    obtain ⟨-, hs⟩ := Option.ite_none_right_eq_some.mp hs
    obtain rfl := Option.some.inj hs
    exact absurd rfl hne
  | settleCleanup u outcome =>
    obtain ⟨op, k, hp, rfl⟩ := settleCleanup_eq_some.mp hs
    obtain ⟨ops, hops, hawaits⟩ := htracked.awaits hp
    obtain rfl : u = uid := by
      by_contra hu
      exact hne (customer_perform_of_ne (.inl hu) _)
    have hlooked := htracked.looked u op k
    generalize hrs : cleanupOutcomes as u = rs at hawaits
    cases hawaits with
    | once => exact absurd (customer_perform_of_ne (.inr fun _ => by simp) _) hne
    | del record => exact absurd (customer_perform_of_ne (.inr fun _ => by simp) _) hne
    | remove record deleted =>
      cases outcome with
      | error error => exact absurd rfl hne
      | ok removed =>
        refine ⟨customer_removeRecord_self _ _ _, removed, _, k, rfl, hrs ▸ hops, ?_, ?_⟩
        · rw [← hlooked record _ hp hrs]
          simp
        · simp

/-- Ann has a customer, and deletes her account. -/
def deletingAnn : List Action :=
  [.deleteUser "ann",
    .settleCleanup "ann" (.ok ⟨[(["customer_id"], .string "cus_ann")]⟩),
    .settleCleanup "ann" (.ok ⟨[(["deleted"], .boolean true)]⟩)]

theorem customer_removed_after_del_deletingAnn : ∃ s s',
    (cloud "addPaymentSource").RunWhere ReadsRecord deletingAnn s ∧
      (cloud "addPaymentSource").step s (.settleCleanup "ann" (.ok .null)) = some s' ∧
      s'.customer "ann" ≠ s.customer "ann" ∧ s'.customer "ann" = .null := by
  have h0 : (cloud "addPaymentSource").init
      ⟨⟨⟨[(recordPath "ann" ++ ["customer_id"], .string "cus_ann")]⟩, [], fun _ => none⟩,
        fun _ => none⟩ := ⟨⟨rfl, fun _ => rfl⟩, fun _ => rfl⟩
  obtain ⟨s, hrun, s', hs, hne⟩ := TransitionSystem.exists_run_of_exec
    (T := (cloud "addPaymentSource").guarded ReadsRecord) deletingAnn
    (fun s => ∃ s' ∈ (cloud "addPaymentSource").step s (.settleCleanup "ann" (.ok .null)),
      s'.customer "ann" ≠ s.customer "ann") h0 (by decide +kernel)
  exact ⟨s, s', hrun.runWhere, hs, hne, (customer_removed_after_del hrun.runWhere hs hne).1⟩

/-! ## Without customers -/

section WithoutCustomers

variable {functionName : String} {as : List Action} {s s' : Cloud}

/-- No customer is stored, no cleanup has had one deleted, and the payment sources have run by
themselves. -/
structure Alone (functionName : String) (as : List Action) (s : Cloud) : Prop where
  tracked : Tracked functionName as s
  customer : ∀ uid, s.customer uid = .null
  outcomes : ∀ uid record deleted rest, cleanupOutcomes as uid ≠ .ok record :: .ok deleted :: rest
  run : (PaymentSources.system functionName).Run (as.filterMap Action.source?) s.sources

theorem Alone.step (h : Alone functionName as s) {a : Action} (hserves : s.Serves a)
    (hs : (cloud functionName).step s a = some s') : Alone functionName (as ++ [a]) s' := by
  have htracked := h.tracked.step hserves.readsRecord hs
  cases a with
  | source a =>
    obtain ⟨sources, hsources, rfl⟩ := Option.map_eq_some_iff.mp hs
    refine ⟨htracked, fun uid => ?_, fun uid record deleted rest => ?_, ?_⟩
    · exact (customer_source h.tracked hsources uid).trans (h.customer uid)
    · simpa [cleanupOutcomes_concat, Action.cleanupOutcome?] using
        h.outcomes uid record deleted rest
    · rw [List.filterMap_append]
      exact h.run.snoc hsources
  | deleteUser uid =>
    obtain ⟨-, hs⟩ := Option.ite_none_right_eq_some.mp hs
    obtain rfl := Option.some.inj hs
    refine ⟨htracked, h.customer, fun uid record deleted rest => ?_, ?_⟩
    · simpa [cleanupOutcomes_concat, Action.cleanupOutcome?] using
        h.outcomes uid record deleted rest
    · rw [filterMap_source?_concat rfl]
      exact h.run
  | settleCleanup uid outcome =>
    obtain ⟨op, k, hp, rfl⟩ := settleCleanup_eq_some.mp hs
    obtain ⟨ops, -, hawaits⟩ := h.tracked.awaits hp
    obtain ⟨-, hid⟩ := hserves _ hp op rfl
    have hremove : ∀ path, op ≠ .remove path := by
      rintro path rfl
      generalize hrs : cleanupOutcomes as uid = rs at hawaits
      cases hawaits with
      | remove record deleted => exact h.outcomes uid record deleted [] hrs
    have hperform : perform s.sources uid op outcome = s.sources := by
      unfold perform
      split
      · exact absurd rfl (hremove _)
      · rfl
    refine ⟨htracked, fun u => ?_, fun u record deleted rest => ?_, ?_⟩
    · exact (customer_perform_of_ne (.inr hremove) _).trans (h.customer u)
    · by_cases hu : u = uid
      · subst hu
        rw [cleanupOutcomes_concat, cleanupOutcome?_self, Option.toList_some]
        have hlooked := h.tracked.looked u op k
        have houtcomes := h.outcomes u
        generalize hrs : cleanupOutcomes as u = rs at hawaits hlooked houtcomes
        cases hawaits with
        | once => simp
        | del record' =>
          -- Stripe needs an id, and the record has none
          cases outcome with
          | error error => simp
          | ok value =>
            have hnull := hlooked record' [] hp rfl
            rw [h.customer u] at hnull
            exact absurd hnull hid
        | remove record' deleted' => exact absurd rfl (houtcomes record' deleted' [])
      · rw [cleanupOutcomes_concat, cleanupOutcome?_of_ne (Ne.symm hu), Option.toList_none,
          List.append_nil]
        exact h.outcomes u record deleted rest
    · rw [filterMap_source?_concat rfl]
      exact hperform.symm ▸ h.run

/-- In a database without customers, no cleanup resolves, and the database, its events and their
invocations are as if there were no cleanups : everything that a deleted user had stays. -/
theorem cleanup_does_nothing (h : (cloudWithoutCustomers functionName).RunWhere Serves as s) :
    (PaymentSources.system functionName).Run (as.filterMap Action.source?) s.sources ∧
      ∀ uid r, s.cleanups uid = some (.settled r) → ∃ error, r = .error error := by
  have halone : Alone functionName as s :=
    TransitionSystem.RunWhere.invariant (T := cloudWithoutCustomers functionName)
      (I := Alone functionName)
      (fun s h0 => ⟨tracked_init h0.1, h0.2, fun _ _ _ _ => by simp [cleanupOutcomes],
        .start h0.1.1⟩)
      (fun _ _ _ _ _ ih hserves hs => ih.step hserves hs) h
  refine ⟨halone.run, fun uid r hr => ?_⟩
  obtain ⟨ops, hops⟩ := halone.tracked.cleanup uid _ hr
  refine (eq_error_or_of_resume hops).resolve_right ?_
  rintro ⟨record, deleted, rest, hrest⟩
  exact halone.outcomes uid record deleted rest hrest

end WithoutCustomers

/-- Ann's card is declined, and she deletes her account : her record has a token, but no
customer. -/
def deletingWithoutCustomer : List Action :=
  [.source (.write visa), .deleteUser "ann",
    .settleCleanup "ann" (.ok ⟨[(["sources", "-MCard", "token"], .string "tok_visa")]⟩),
    .settleCleanup "ann" (.error PaymentSources.declined)]

theorem cleanup_does_nothing_deletingWithoutCustomer : ∃ s,
    (cloudWithoutCustomers "addPaymentSource").RunWhere Serves deletingWithoutCustomer s ∧
      (PaymentSources.system "addPaymentSource").Run [.write visa] s.sources := by
  have h0 : (cloudWithoutCustomers "addPaymentSource").init
      ⟨⟨.null, [], fun _ => none⟩, fun _ => none⟩ :=
    ⟨⟨⟨rfl, fun _ => rfl⟩, fun _ => rfl⟩, fun _ => rfl⟩
  obtain ⟨s, hrun, -⟩ := TransitionSystem.exists_run_of_exec
    (T := (cloudWithoutCustomers "addPaymentSource").guarded Serves) deletingWithoutCustomer
    (fun s => s.sources.events.length = 1) h0 (by decide +kernel)
  exact ⟨s, hrun.runWhere, (cleanup_does_nothing hrun.runWhere).1⟩

end Cloud

end SuShareApp
