import SuShareApp.PaymentSourceTrigger
import Mathlib.Data.Nat.Find

/-!
# Payment sources at rest

An invocation of `addPaymentSource` looks up the customer, has Stripe create the source and writes
one answer. What it has done is determined by the outcomes of its calls so far
(`Awaits.of_resume`), whatever the other invocations do in between.

So a token that was written is given to Stripe once, for the customer stored for its user, as soon
as the lookup succeeded (`createSource_once`). And when every event was delivered and every
invocation has settled, a source has no token, or the last one written to it, an invocation of which
failed : the message of an error is beside it, unless it could not be written (`token_at_rest`).
-/

namespace SuShareApp

open Promise

/-! ## What an invocation awaits -/

/-- The call that follows the outcomes. -/
inductive Awaits (change : TokenWrite) : List (Except JsError Json) → CloudOperation → Prop
  | once : Awaits change [] (.once change.customerId)
  | createSource (customer : Json) :
    Awaits change [.ok customer] (.createSource customer change.after)
  | response (customer response : Json) :
    Awaits change [.ok customer, .ok response] (.set change.parent response)
  | lookupError (error : JsError) : Awaits change [.error error]
    (.set (change.parent ++ ["error"]) (.leaf (.string (userFacingMessage error))))
  | sourceError (customer : Json) (error : JsError) : Awaits change [.ok customer, .error error]
    (.set (change.parent ++ ["error"]) (.leaf (.string (userFacingMessage error))))

/-- The lookup is the first call. -/
theorem Awaits.eq_once {change : TokenWrite} {op : CloudOperation} (h : Awaits change [] op) :
    op = .once change.customerId := by
  cases h
  rfl

/-- The outcomes of all calls. -/
inductive Settles : List (Except JsError Json) → Prop
  | lookupError (error : JsError) (written : Except JsError Json) :
    Settles [.error error, written]
  | created (customer : Json) (source written : Except JsError Json) :
    Settles [.ok customer, source, written]

/-- The follow-up write, and the end of the invocation. -/
def writing (change : TokenWrite) (source : Except JsError Json) : CloudPromise :=
  .await
    (source.handle (fun response => .set change.parent response) fun error =>
      .set (change.parent ++ ["error"]) (.leaf (.string (userFacingMessage error))))
    fun written => .settled (written.handle (fun _ => .error (referenceError "error")) .error)

section Resume

variable {functionName : String} {change : TokenWrite} {rs : List (Except JsError Json)}
  {ops : List CloudOperation} {rest : CloudPromise}

/-- The calls of an invocation with a token. -/
theorem addPaymentSource_eq (h : change.after ≠ .null) : addPaymentSource functionName change =
    .await (.once change.customerId) fun customer => customer.handle
      (fun customer => .await (.createSource customer change.after) (writing change))
      fun error => writing change (.error error) := by
  rw [addPaymentSource, if_neg h]
  refine congrArg (Promise.await _) (funext fun customer => ?_)
  cases customer with
  | error e =>
    refine congrArg (Promise.await _) (funext fun written => ?_)
    cases written <;> rfl
  | ok customer =>
    refine congrArg (Promise.await _) (funext fun source => ?_)
    cases source <;>
      exact congrArg (Promise.await _) (funext fun written => by cases written <;> rfl)

/-- What is left of the follow-up write. -/
theorem resume_writing {source : Except JsError Json}
    (h : (writing change source).resume rs = some (ops, rest)) :
    rs = [] ∧ ops = [] ∧ rest = writing change source ∨
      ∃ written r, rs = [written] ∧ ops = (writing change source).pending.toList ∧
        rest = .settled r := by
  match rs with
  | [] =>
    obtain ⟨rfl, rfl⟩ := Prod.mk.inj (Option.some.inj h)
    exact .inl ⟨rfl, rfl, rfl⟩
  | [written] =>
    obtain ⟨rfl, rfl⟩ := Prod.mk.inj (Option.some.inj h)
    exact .inr ⟨written, _, rfl, rfl, rfl⟩
  | _ :: _ :: _ => simp [writing, resume] at h

/-- The customer that the lookup found. -/
def foundCustomer : List (Except JsError Json) → Option Json
  | .ok customer :: _ => some customer
  | _ => none

theorem foundCustomer_concat {rs : List (Except JsError Json)} (h : rs ≠ [])
    (rs' : List (Except JsError Json)) : foundCustomer (rs ++ rs') = foundCustomer rs := by
  cases rs with
  | nil => exact absurd rfl h
  | cons r rs => cases r <;> rfl

/-- What the outcomes say of an invocation with a token : the calls of Stripe, and the call in
flight, if there is one. -/
structure Determined (change : TokenWrite) (rs : List (Except JsError Json))
    (ops : List CloudOperation) (rest : CloudPromise) : Prop where
  awaits : ∀ op ∈ rest.pending, Awaits change rs op
  settles : rest.pending = none → Settles rs
  createSource : (ops ++ rest.pending.toList).filter CloudOperation.isCreateSource =
    (foundCustomer rs).toList.map fun customer => .createSource customer change.after

theorem determined_of_lookupError {error : JsError}
    (h : (writing change (.error error)).resume rs = some (ops, rest)) :
    Determined change (.error error :: rs) (.once change.customerId :: ops) rest := by
  obtain ⟨rfl, rfl, rfl⟩ | ⟨written, r, rfl, rfl, rfl⟩ := resume_writing h
  · refine ⟨fun op hop => ?_, fun hnone => (nomatch hnone), rfl⟩
    obtain rfl := Option.some.inj hop
    exact .lookupError error
  · exact ⟨fun op hop => (nomatch hop), fun _ => .lookupError error written, rfl⟩

theorem determined_of_source {customer : Json} {source : Except JsError Json}
    (h : (writing change source).resume rs = some (ops, rest)) :
    Determined change (.ok customer :: source :: rs)
      (.once change.customerId :: .createSource customer change.after :: ops) rest := by
  obtain ⟨rfl, rfl, rfl⟩ | ⟨written, r, rfl, rfl, rfl⟩ := resume_writing h
  · refine ⟨fun op hop => ?_, fun hnone => (nomatch hnone), by cases source <;> rfl⟩
    obtain rfl := Option.some.inj hop
    cases source with
    | error error => exact .sourceError customer error
    | ok response => exact .response customer response
  · exact ⟨fun op hop => (nomatch hop), fun _ => .created customer source written,
      by cases source <;> rfl⟩

/-- The outcomes determine an invocation. -/
theorem determined_of_resume (htoken : change.after ≠ .null)
    (h : (addPaymentSource functionName change).resume rs = some (ops, rest)) :
    Determined change rs ops rest := by
  rw [addPaymentSource_eq htoken] at h
  match rs with
  | [] =>
    obtain ⟨rfl, rfl⟩ := Prod.mk.inj (Option.some.inj h)
    refine ⟨fun op hop => ?_, fun hnone => (nomatch hnone), rfl⟩
    obtain rfl := Option.some.inj hop
    exact .once
  | .error error :: rs =>
    obtain ⟨ops', rfl, hrest⟩ := resume_cons h
    exact determined_of_lookupError hrest
  | [.ok customer] =>
    obtain ⟨rfl, rfl⟩ := Prod.mk.inj (Option.some.inj h)
    refine ⟨fun op hop => ?_, fun hnone => (nomatch hnone), rfl⟩
    obtain rfl := Option.some.inj hop
    exact .createSource customer
  | .ok customer :: source :: rs =>
    obtain ⟨ops', rfl, hsource⟩ := resume_cons h
    obtain ⟨ops'', rfl, hrest⟩ := resume_cons hsource
    exact determined_of_source hrest

end Resume

namespace PaymentSources

/-! ## The outcomes of an invocation -/

/-- The outcome of a call of the event's invocation. -/
def Action.outcome? (i : ℕ) : Action → Option (Except JsError Json)
  | .settle j outcome => if j = i then some outcome else none
  | _ => none

def outcomes (as : List Action) (i : ℕ) : List (Except JsError Json) :=
  as.filterMap (Action.outcome? i)

theorem outcomes_concat (as : List Action) (a : Action) (i : ℕ) :
    outcomes (as ++ [a]) i = outcomes as i ++ (a.outcome? i).toList := by
  rw [outcomes, List.filterMap_append]
  cases h : a.outcome? i <;> simp [outcomes, h]

@[simp] theorem outcome?_settle_self (i : ℕ) (outcome : Except JsError Json) :
    (Action.settle i outcome).outcome? i = some outcome :=
  if_pos rfl

theorem outcome?_settle_of_ne {i j : ℕ} (h : j ≠ i) (outcome : Except JsError Json) :
    (Action.settle j outcome).outcome? i = none :=
  if_neg h

/-- Each invocation has gone as far as the outcomes of its calls take it. -/
structure Resumes (functionName : String) (as : List Action) (s : PaymentSources) : Prop where
  idle : ∀ i, s.invocations i = none → outcomes as i = []
  resume : ∀ i inv, s.invocations i = some inv →
    (addPaymentSource functionName inv.change).resume (outcomes as i) = some (inv.settled, inv.rest)

section Run

variable {functionName : String} {as : List Action} {s s' : PaymentSources} {a : Action}

theorem Resumes.of_outcome?_eq_none (h : Resumes functionName as s) {a : Action}
    (ha : ∀ i, a.outcome? i = none) (hs : s'.invocations = s.invocations) :
    Resumes functionName (as ++ [a]) s' := by
  have hsame : ∀ i, outcomes (as ++ [a]) i = outcomes as i := fun i => by
    simp [outcomes_concat, ha i]
  refine ⟨fun i hi => ?_, fun i inv hi => ?_⟩
  · rw [hsame]
    exact h.idle i (hs ▸ hi)
  · rw [hsame]
    exact h.resume i inv (hs ▸ hi)

theorem Resumes.deliver (h : Resumes functionName as s) {i : ℕ}
    (hs : s.deliver functionName i = some s') :
    Resumes functionName (as ++ [.deliver i]) s' := by
  obtain ⟨event, hevent, hnone, rfl⟩ := deliver_eq_some.mp hs
  have hsame : ∀ j, outcomes (as ++ [.deliver i]) j = outcomes as j := fun j => by
    simp [outcomes_concat, Action.outcome?]
  refine ⟨fun j hj => ?_, fun j inv hj => ?_⟩
  · rw [hsame]
    by_cases hji : j = i
    · rw [hji]
      exact h.idle i hnone
    · exact h.idle j (by simpa [hji] using hj)
  · rw [hsame]
    rcases update_eq_some.mp hj with ⟨rfl, rfl⟩ | ⟨-, hj⟩
    · rw [h.idle j hnone, resume_nil]
    · exact h.resume j inv hj

theorem Resumes.settle (h : Resumes functionName as s) {i : ℕ} {outcome : Except JsError Json}
    (hs : s.settle i outcome = some s') :
    Resumes functionName (as ++ [.settle i outcome]) s' := by
  obtain ⟨change, ops, op, k, hinv, rfl⟩ := settle_eq_some.mp hs
  refine ⟨fun j hj => ?_, fun j inv hj => ?_⟩
  · have hji : j ≠ i := by
      rintro rfl
      simp at hj
    rw [outcomes_concat, outcome?_settle_of_ne hji.symm]
    simpa [hji] using h.idle j (by simpa [hji] using hj)
  · rw [outcomes_concat]
    rcases update_eq_some.mp hj with ⟨rfl, rfl⟩ | ⟨hji, hj⟩
    · rw [outcome?_settle_self]
      exact resume_concat outcome (h.resume j _ hinv)
    · rw [outcome?_settle_of_ne hji.symm]
      simpa using h.resume j inv hj

theorem Resumes.step (h : Resumes functionName as s)
    (hs : (system functionName).step s a = some s') : Resumes functionName (as ++ [a]) s' := by
  cases a with
  | write change =>
    obtain rfl : s.put change none change.ref change.after = s' := Option.some.inj hs
    exact h.of_outcome?_eq_none (fun _ => rfl) rfl
  | deliver i => exact h.deliver hs
  | settle i outcome => exact h.settle hs

theorem resumes_init (h : (system functionName).init s) : Resumes functionName [] s := by
  refine ⟨fun _ _ => rfl, fun i inv hi => ?_⟩
  rw [h.2 i] at hi
  nomatch hi

theorem resumes (h : (system functionName).Run as s) : Resumes functionName as s :=
  h.invariant (I := Resumes functionName) (fun _ => resumes_init) fun _ _ _ _ _ ih hs => ih.step hs

end Run

/-! ## The calls of Stripe -/

/-- A lookup that succeeds reads the database. -/
def Reads (data : Json) : CloudOperation → Except JsError Json → Prop
  | .once path, .ok value => value = data.get path
  | _, _ => True

instance (data : Json) : ∀ op outcome, Decidable (Reads data op outcome)
  | .once path, .ok value => inferInstanceAs (Decidable (value = data.get path))
  | .once _, .error _ => .isTrue trivial
  | .createSource _ _, _ => .isTrue trivial
  | .set _ _, _ => .isTrue trivial
  | .write _ _, _ => .isTrue trivial

/-- The services answer as Stripe and the Realtime Database do. -/
def Serves (s : PaymentSources) : Action → Prop
  | .settle i outcome => ∀ inv ∈ s.invocations i, ∀ op ∈ inv.rest.pending,
      TokenFree op outcome ∧ Reads s.data op outcome
  | _ => True

instance (s : PaymentSources) : DecidablePred s.Serves
  | .settle i outcome => inferInstanceAs (Decidable (∀ inv ∈ s.invocations i,
      ∀ op ∈ inv.rest.pending, TokenFree op outcome ∧ Reads s.data op outcome))
  | .write _ => .isTrue trivial
  | .deliver _ => .isTrue trivial

theorem Serves.answersTokenFree {s : PaymentSources} : ∀ {a : Action}, s.Serves a →
    s.AnswersTokenFree a
  | .settle _ _, h => fun inv hinv op hop => (h inv hinv op hop).1
  | .write _, _ => trivial
  | .deliver _, _ => trivial

/-- The customers of the lookups that succeeded are those still stored. -/
def Looked (as : List Action) (s : PaymentSources) : Prop :=
  ∀ i inv, s.invocations i = some inv →
    ∀ customer ∈ foundCustomer (outcomes as i), customer = s.data.get inv.change.customerId

section Run

variable {functionName : String} {as : List Action} {s s' : PaymentSources} {i : ℕ}
  {event : TokenEvent}

/-- A write at or below the node of a source does not change a stored customer. -/
theorem get_customerId_set (data value : Json) (change other : TokenWrite) (below : List String) :
    (data.set (change.parent ++ below) value).get other.customerId =
      data.get other.customerId := by
  have hne : ["stripe_customers", change.userId, "sources"] ≠ other.customerId := by
    simp [TokenWrite.customerId]
  have hkept := data.get_set_append_of_ne (by rfl) hne (change.pushId :: below) [] value
  rwa [List.append_nil] at hkept

/-- Every write is at or below the node of a source. -/
theorem exists_data_perform (s : PaymentSources) (i : ℕ) {change : TokenWrite}
    {rs : List (Except JsError Json)} {op : CloudOperation} (h : Awaits change rs op)
    (outcome : Except JsError Json) : (s.perform i change op outcome).data = s.data ∨
      ∃ below value, (s.perform i change op outcome).data =
        s.data.set (change.parent ++ below) value := by
  cases outcome with
  | error error =>
    refine .inl ?_
    cases op <;> rfl
  | ok answer =>
    cases h with
    | once => exact .inl rfl
    | createSource customer => exact .inl rfl
    | response customer response => exact .inr ⟨[], response, by rw [List.append_nil]; rfl⟩
    | lookupError error => exact .inr ⟨["error"], _, rfl⟩
    | sourceError customer error => exact .inr ⟨["error"], _, rfl⟩

/-- An invocation with a call in flight is of a token. -/
theorem Resumes.awaits (h : Resumes functionName as s) {change : TokenWrite}
    {ops : List CloudOperation} {op : CloudOperation} {k : Except JsError Json → CloudPromise}
    (hinv : s.invocations i = some ⟨change, ops, .await op k⟩) :
    change.after ≠ .null ∧ Awaits change (outcomes as i) op := by
  have hresume := h.resume i _ hinv
  have htoken : change.after ≠ .null := fun hnull => by
    rw [addPaymentSource, if_pos hnull] at hresume
    cases hrs : outcomes as i with
    | nil => simp [hrs, Promise.resolve] at hresume
    | cons r rs => simp [hrs, Promise.resolve, Promise.resume] at hresume
  exact ⟨htoken, (determined_of_resume htoken hresume).awaits op rfl⟩

theorem Resumes.awaits_of_pending (h : Resumes functionName as s) {inv : TokenInvocation}
    (hinv : s.invocations i = some inv) : ∀ op ∈ inv.rest.pending,
      Awaits inv.change (outcomes as i) op := by
  intro op hop
  obtain ⟨change, ops, rest⟩ := inv
  cases rest with
  | settled r => nomatch hop
  | await op' k =>
    obtain rfl := Option.some.inj hop
    exact (h.awaits hinv).2

theorem Resumes.get_customerId_step (h : Resumes functionName as s) {a : Action}
    (hs : (system functionName).step s a = some s') (other : TokenWrite) :
    s'.data.get other.customerId = s.data.get other.customerId := by
  cases a with
  | write change =>
    obtain rfl : s.put change none change.ref change.after = s' := Option.some.inj hs
    exact get_customerId_set s.data change.after change other ["token"]
  | deliver i =>
    obtain ⟨event, -, -, rfl⟩ := deliver_eq_some.mp hs
    rfl
  | settle i outcome =>
    obtain ⟨change, ops, op, k, hinv, rfl⟩ := settle_eq_some.mp hs
    obtain ⟨-, hawaits⟩ := h.awaits hinv
    rcases s.exists_data_perform i hawaits outcome with hdata | ⟨below, value, hdata⟩
    · exact congrArg (fun data : Json => data.get other.customerId) hdata
    · rw [← get_customerId_set s.data value change other below, ← hdata]

theorem Looked.settle (h : Looked as s) (hresumes : Resumes functionName as s)
    {outcome : Except JsError Json} (hserves : s.Serves (.settle i outcome))
    (hs : s.settle i outcome = some s') : Looked (as ++ [.settle i outcome]) s' := by
  have hkept := hresumes.get_customerId_step (a := .settle i outcome) hs
  obtain ⟨change, ops, op, k, hinv, rfl⟩ := settle_eq_some.mp hs
  intro j inv hj customer hcustomer
  rw [hkept]
  rw [outcomes_concat] at hcustomer
  rcases update_eq_some.mp hj with ⟨rfl, rfl⟩ | ⟨hji, hj⟩
  · rw [outcome?_settle_self] at hcustomer
    by_cases hfirst : outcomes as j = []
    · have hawaits := (hresumes.awaits hinv).2
      rw [hfirst] at hawaits hcustomer
      obtain rfl := hawaits.eq_once
      have hread := (hserves _ hinv _ rfl).2
      cases outcome with
      | error error => nomatch hcustomer
      | ok value =>
        obtain rfl := Option.some.inj hcustomer
        exact hread
    · rw [foundCustomer_concat hfirst] at hcustomer
      exact h j _ hinv customer hcustomer
  · rw [outcome?_settle_of_ne hji.symm, Option.toList_none, List.append_nil] at hcustomer
    exact h j inv hj customer hcustomer

theorem looked {as : List Action} (h : (system functionName).RunWhere Serves as s) :
    Looked as s := by
  refine h.invariant (I := Looked) (fun s h0 i inv hi => ?_) fun as s a s' hrun ih hserves hs => ?_
  · rw [h0.2 i] at hi
    nomatch hi
  have hresumes := resumes hrun.run
  cases a with
  | write change =>
    have hkept := hresumes.get_customerId_step (a := .write change) hs
    obtain rfl : s.put change none change.ref change.after = s' := Option.some.inj hs
    intro i inv hi customer hcustomer
    rw [outcomes_concat] at hcustomer
    rw [hkept]
    exact ih i inv hi customer (by simpa [Action.outcome?] using hcustomer)
  | deliver j =>
    obtain ⟨event, hevent, hnone, rfl⟩ := deliver_eq_some.mp hs
    intro i inv hi customer hcustomer
    rw [outcomes_concat] at hcustomer
    rcases update_eq_some.mp hi with ⟨rfl, rfl⟩ | ⟨-, hi⟩
    · simp [hresumes.idle i hnone, Action.outcome?, foundCustomer] at hcustomer
    · exact ih i inv hi customer (by simpa [Action.outcome?] using hcustomer)
  | settle i outcome => exact ih.settle hresumes hserves hs

/-! ### One call for each token -/

/-- The calls of Stripe of an invocation are those that its outcomes determine. -/
theorem Resumes.filter_issued (h : Resumes functionName as s) (hsound : s.Sound functionName)
    (hi : s.events[i]? = some event) (htoken : event.change.after ≠ .null) :
    (s.issued i).filter CloudOperation.isCreateSource =
      (foundCustomer (outcomes as i)).toList.map
        fun customer => .createSource customer event.change.after := by
  unfold issued
  cases hinv : s.invocations i with
  | none =>
    rw [h.idle i hinv]
    rfl
  | some inv =>
    obtain ⟨⟨event', hi', hchange⟩, -⟩ := hsound.invoked i inv hinv
    obtain rfl := Option.some.inj (hi.symm.trans hi')
    rw [hchange] at htoken ⊢
    exact (determined_of_resume htoken (h.resume i inv hinv)).createSource

/-- A token that was written is given to Stripe once, as soon as its user's customer was found, and
to this customer : the one that is stored. Before that, and after a failed lookup, nothing that the
event causes calls `createSource`. -/
theorem createSource_once (h : (system functionName).RunWhere Serves as s)
    (hi : s.events[i]? = some event) (htoken : event.change.after ≠ .null) :
    (∀ customer ∈ foundCustomer (outcomes as i),
      customer = s.data.get event.change.customerId ∧ ∃ m, s.createSourceCalls i = {(i, m)} ∧
        (s.issued i)[m]? = some (.createSource customer event.change.after)) ∧
    (foundCustomer (outcomes as i) = none → s.createSourceCalls i = ∅) := by
  have hsound := sound (h.mono fun _ _ hserves => hserves.answersTokenFree)
  have hresumes := resumes h.run
  have hlooked := looked h
  have hfilter := hresumes.filter_issued hsound hi htoken
  constructor
  · intro customer hcustomer
    obtain ⟨inv, hinv⟩ : ∃ inv, s.invocations i = some inv := by
      by_contra hnone
      rw [hresumes.idle i (Option.eq_none_iff_forall_ne_some.mpr fun inv hinv =>
        hnone ⟨inv, hinv⟩)] at hcustomer
      nomatch hcustomer
    obtain ⟨⟨event', hi', hchange⟩, -⟩ := hsound.invoked i inv hinv
    obtain rfl := Option.some.inj (hi.symm.trans hi')
    refine ⟨hchange ▸ hlooked i inv hinv customer hcustomer, ?_⟩
    rw [Option.mem_def.mp hcustomer] at hfilter
    have hmem : .createSource customer event.change.after ∈ s.issued i :=
      List.mem_of_mem_filter (p := CloudOperation.isCreateSource) (by rw [hfilter]; simp)
    obtain ⟨m, hm⟩ := List.mem_iff_getElem?.mp hmem
    refine ⟨m, ?_, hm⟩
    refine (hsound.subsingleton_createSourceCalls i).eq_singleton_of_mem
      ⟨Relation.ReflTransGen.refl, _, hm, rfl⟩
  · intro hnone
    rw [hnone] at hfilter
    refine Set.eq_empty_of_forall_notMem ?_
    rintro ⟨j, m⟩ ⟨hj, op, hm, hop⟩
    have hmem : op ∈ s.issued j := List.mem_of_getElem? hm
    obtain rfl : j = i := hsound.eq_of_issued hj (List.ne_nil_of_mem hmem)
    have hfiltered : op ∈ (s.issued j).filter CloudOperation.isCreateSource :=
      List.mem_filter.mpr ⟨hmem, hop⟩
    rw [hfilter] at hfiltered
    nomatch hfiltered

end Run

/-- Ann's card is added to her customer. -/
def chargingAnn : List Action :=
  [.write visa, .deliver 0, .settle 0 (.ok (.leaf (.string "cus_ann"))),
    .settle 0 (.ok ⟨[(["id"], .string "card_visa")]⟩), .settle 0 (.ok .null), .deliver 1]

theorem createSource_once_chargingAnn :
    ∃ s, (system "addPaymentSource").RunWhere Serves chargingAnn s ∧
      s.events[0]? = some ⟨visa, none⟩ ∧ visa.after ≠ .null ∧
        (∀ customer ∈ foundCustomer (outcomes chargingAnn 0),
          customer = s.data.get visa.customerId ∧ ∃ m, s.createSourceCalls 0 = {(0, m)} ∧
            (s.issued 0)[m]? = some (.createSource customer visa.after)) := by
  have h0 : (system "addPaymentSource").init
      ⟨⟨[(["stripe_customers", "ann", "customer_id"], .string "cus_ann")]⟩, [], fun _ => none⟩ :=
    ⟨rfl, fun _ => rfl⟩
  obtain ⟨s, hrun, hi⟩ := TransitionSystem.exists_run_of_exec
    (T := (system "addPaymentSource").guarded Serves) chargingAnn
    (fun s => s.events[0]? = some ⟨visa, none⟩) h0 (by decide +kernel)
  exact ⟨s, hrun.runWhere, hi, by decide, (createSource_once hrun.runWhere hi (by decide)).1⟩

/-! ## The last event of a source -/

/-- The event is the last one of its source. -/
def IsLast (s : PaymentSources) (i : ℕ) (event : TokenEvent) : Prop :=
  s.events[i]? = some event ∧ ∀ j event', i < j → s.events[j]? = some event' →
    event'.change.parent ≠ event.change.parent

/-- The message of an error is stored beside the token, of one that an invocation for this source
got. -/
def ShowsError (as : List Action) (s : PaymentSources) (parent : List String) : Prop :=
  ∃ j event error, s.events[j]? = some event ∧ event.change.parent = parent ∧
    .error error ∈ outcomes as j ∧
      s.data.get (parent ++ ["error"]) = .leaf (.string (userFacingMessage error))

/-- An error was to be shown, and its message was written. -/
def Refused (rs : List (Except JsError Json)) : Prop :=
  (∃ error, .error error ∈ rs) ∧ ∃ answer, rs.getLast? = some (.ok answer)

/-- The last event of a source tells its token. As long as there is one, the node was not replaced
by Stripe's answer, and a refusal shows. -/
structure Stored (as : List Action) (s : PaymentSources) : Prop where
  token : ∀ i event, s.IsLast i event → s.data.get event.change.ref = event.change.after
  waiting : ∀ i event, s.IsLast i event → event.change.after ≠ .null →
    ∀ customer response answer, outcomes as i ≠ [.ok customer, .ok response, .ok answer]
  refused : ∀ i event, s.IsLast i event → event.change.after ≠ .null → Refused (outcomes as i) →
    ShowsError as s event.change.parent

section Run

variable {functionName : String} {as : List Action} {s s' : PaymentSources} {i : ℕ}
  {event : TokenEvent}

/-- After a write, the last event of a source is that of the write, or the one it was before, and
the write left the token alone. -/
theorem IsLast.of_put {change : TokenWrite} {origin : Option ℕ} {below : List String}
    {value : Json} (h : (s.put change origin (change.parent ++ below) value).IsLast i event) :
    (i = s.events.length ∧ event.change.ref = change.ref ∧ event.change.after =
      (s.data.set (change.parent ++ below) value).get change.ref) ∨
      s.IsLast i event ∧ (s.data.set (change.parent ++ below) value).get event.change.ref =
        s.data.get event.change.ref := by
  obtain ⟨hi, hlast⟩ := h
  unfold put at hi hlast
  split_ifs at hi hlast with hsame
  · refine .inr ⟨⟨hi, hlast⟩, ?_⟩
    by_cases hparent : change.parent = event.change.parent
    · have href : event.change.ref = change.ref :=
        congrArg (fun path => path ++ ["token"]) hparent.symm
      rw [href, hsame]
    · exact get_ref_set_of_ne hparent s.data value below
  · rcases getElem?_append_toList_eq_some (o := some _).mp hi with hi | ⟨rfl, hnew⟩
    · have hold : s.IsLast i event := ⟨hi, fun j event' hij hj =>
        hlast j event' hij (getElem?_append_toList_eq_some (o := some _).mpr (.inl hj))⟩
      refine .inr ⟨hold, get_ref_set_of_ne (fun hparent => ?_) s.data value below⟩
      have hlength : i < s.events.length := (List.getElem?_eq_some_iff.mp hi).1
      exact hlast _ _ hlength (getElem?_append_toList_eq_some (o := some _).mpr
        (.inr ⟨rfl, rfl⟩)) hparent
    · obtain rfl := Option.some.inj hnew
      exact .inl ⟨rfl, rfl, rfl⟩

/-- An event that is not there yet has no invocation. -/
theorem Sound.invocations_length (h : s.Sound functionName) :
    s.invocations s.events.length = none := by
  refine Option.eq_none_iff_forall_ne_some.mpr fun inv hinv => ?_
  obtain ⟨⟨event, hevent, -⟩, -⟩ := h.invoked _ inv hinv
  simp at hevent

theorem outcomes_length (hsound : s.Sound functionName) (hresumes : Resumes functionName as s) :
    outcomes as s.events.length = [] :=
  hresumes.idle _ hsound.invocations_length

theorem not_refused_nil : ¬ Refused [] := fun ⟨⟨_, h⟩, _⟩ => nomatch h

/-- A write keeps the invariant, if an event that stays the last one of a source that has a token
has not had the answer written, and shows what was refused. -/
theorem Stored.of_put (h : Stored as s) {a : Action} {change : TokenWrite} {origin : Option ℕ}
    {below : List String} {value : Json}
    (hlength : outcomes (as ++ [a]) s.events.length = [])
    (hkept : ∀ i event, s.IsLast i event → event.change.after ≠ .null →
      (s.data.set (change.parent ++ below) value).get event.change.ref = event.change.after →
        (∀ customer response answer,
          outcomes (as ++ [a]) i ≠ [.ok customer, .ok response, .ok answer]) ∧
        (Refused (outcomes (as ++ [a]) i) → ShowsError (as ++ [a])
          (s.put change origin (change.parent ++ below) value) event.change.parent)) :
    Stored (as ++ [a]) (s.put change origin (change.parent ++ below) value) := by
  refine ⟨fun i event hlast => ?_, fun i event hlast htoken => ?_, fun i event hlast htoken => ?_⟩
  · rcases hlast.of_put with ⟨-, href, hafter⟩ | ⟨hold, hsame⟩
    · rw [href, hafter]
      rfl
    · exact hsame.trans (h.token i event hold)
  · rcases hlast.of_put with ⟨rfl, -, -⟩ | ⟨hold, hsame⟩
    · simp [hlength]
    · exact (hkept i event hold htoken (hsame.trans (h.token i event hold))).1
  · rcases hlast.of_put with ⟨rfl, -, -⟩ | ⟨hold, hsame⟩
    · rw [hlength]
      exact fun hrefused => absurd hrefused not_refused_nil
    · exact (hkept i event hold htoken (hsame.trans (h.token i event hold))).2

/-- What is shown beside a token stays, if a write is elsewhere. -/
theorem ShowsError.of_put {a : Action} {change : TokenWrite} {origin : Option ℕ}
    {below parent : List String} {value : Json} (h : ShowsError as s parent)
    (hdata : (s.data.set (change.parent ++ below) value).get (parent ++ ["error"]) =
      s.data.get (parent ++ ["error"])) :
    ShowsError (as ++ [a]) (s.put change origin (change.parent ++ below) value) parent := by
  obtain ⟨j, event, error, hj, hparent, herror, hshown⟩ := h
  refine ⟨j, event, error, ?_, hparent, ?_, hdata.trans hshown⟩
  · have hlength : j < s.events.length := (List.getElem?_eq_some_iff.mp hj).1
    unfold put
    split_ifs
    · exact hj
    · exact (List.getElem?_append_left hlength).trans hj
  · rw [outcomes_concat]
    exact List.mem_append_left _ herror

/-- A user's write is beside the message of an error. -/
theorem Stored.write (h : Stored as s) (hsound : s.Sound functionName)
    (hresumes : Resumes functionName as s) (change : TokenWrite) :
    Stored (as ++ [.write change]) (s.put change none change.ref change.after) := by
  have hsame : ∀ i, outcomes (as ++ [.write change]) i = outcomes as i := fun i => by
    simp [outcomes_concat, Action.outcome?]
  have hlength := (hsame _).trans (outcomes_length hsound hresumes)
  show Stored _ (s.put change none (change.parent ++ ["token"]) change.after)
  refine h.of_put hlength fun i event hlast htoken _ => ?_
  rw [hsame]
  refine ⟨h.waiting i event hlast htoken, fun hrefused => ?_⟩
  refine (h.refused i event hlast htoken hrefused).of_put ?_
  by_cases hparent : change.parent = event.change.parent
  · rw [hparent]
    refine s.data.get_set_of_disjoint ?_ ?_ change.after <;>
      rw [List.prefix_append_right_inj] <;> decide
  · exact s.data.get_set_append_of_ne (by rfl) hparent ["token"] ["error"] change.after

theorem Stored.deliver (h : Stored as s) {i : ℕ} (hs : s.deliver functionName i = some s') :
    Stored (as ++ [.deliver i]) s' := by
  obtain ⟨event, -, -, rfl⟩ := deliver_eq_some.mp hs
  have hsame : ∀ j, outcomes (as ++ [.deliver i]) j = outcomes as j := fun j => by
    simp [outcomes_concat, Action.outcome?]
  refine ⟨h.token, fun j event' hlast htoken => ?_, fun j event' hlast htoken hrefused => ?_⟩
  · rw [hsame]
    exact h.waiting j event' hlast htoken
  · rw [hsame] at hrefused
    obtain ⟨j', event, error, hj, hparent, herror, hshown⟩ :=
      h.refused j event' hlast htoken hrefused
    exact ⟨j', event, error, hj, hparent, (hsame j').symm ▸ herror, hshown⟩

/-- A call that writes nothing settles. -/
theorem Stored.of_unwritten (h : Stored as s) {outcome : Except JsError Json}
    (hdata : s'.data = s.data) (hevents : s'.events = s.events)
    (hwaiting : ∀ customer response answer,
      outcomes as i ++ [outcome] ≠ [.ok customer, .ok response, .ok answer])
    (hrefused : ¬ Refused (outcomes as i ++ [outcome])) :
    Stored (as ++ [.settle i outcome]) s' := by
  have hlast : ∀ {j event}, s'.IsLast j event → s.IsLast j event := fun h => by
    unfold IsLast at h ⊢
    rwa [hevents] at h
  refine ⟨fun j event hj => ?_, fun j event hj htoken => ?_, fun j event hj htoken => ?_⟩
  · rw [hdata]
    exact h.token j event (hlast hj)
  · rw [outcomes_concat]
    by_cases hji : i = j
    · subst hji
      rw [outcome?_settle_self]
      exact hwaiting
    · rw [outcome?_settle_of_ne hji, Option.toList_none, List.append_nil]
      exact h.waiting j event (hlast hj) htoken
  · intro hr
    by_cases hji : i = j
    · subst hji
      rw [outcomes_concat, outcome?_settle_self] at hr
      exact absurd hr hrefused
    · rw [outcomes_concat, outcome?_settle_of_ne hji, Option.toList_none, List.append_nil] at hr
      obtain ⟨j', event', error, hj', hparent, herror, hshown⟩ :=
        h.refused j event (hlast hj) htoken hr
      refine ⟨j', event', error, hevents ▸ hj', hparent, ?_, hdata ▸ hshown⟩
      rw [outcomes_concat]
      exact List.mem_append_left _ herror

section Pending

variable {change : TokenWrite} {ops : List CloudOperation} {op : CloudOperation}
  {k : Except JsError Json → CloudPromise} {answer : Json}

theorem outcomes_settle_length (hsound : s.Sound functionName)
    (hresumes : Resumes functionName as s)
    (hinv : s.invocations i = some ⟨change, ops, .await op k⟩) (outcome : Except JsError Json) :
    outcomes (as ++ [.settle i outcome]) s.events.length = [] := by
  obtain ⟨⟨event, hevent, -⟩, -⟩ := hsound.invoked i _ hinv
  have hlength : i < s.events.length := (List.getElem?_eq_some_iff.mp hevent).1
  rw [outcomes_concat, outcome?_settle_of_ne hlength.ne, Option.toList_none, List.append_nil]
  exact outcomes_length hsound hresumes

/-- Stripe's answer takes the token away, so this concerns the other sources only. -/
theorem Stored.response (h : Stored as s) (hsound : s.Sound functionName)
    (hresumes : Resumes functionName as s) {response : Json}
    (hinv : s.invocations i = some ⟨change, ops, .await (.set change.parent response) k⟩)
    (outcome : Except JsError Json) :
    Stored (as ++ [.settle i outcome]) (s.put change (some i) (change.parent ++ []) response) := by
  obtain ⟨⟨event, hevent, hchange⟩, -⟩ := hsound.invoked i _ hinv
  have hfree : response.get ["token"] = .null := by
    simpa [CloudOperation.feeds] using hsound.not_feeds hinv
  refine h.of_put (outcomes_settle_length hsound hresumes hinv outcome) ?_
  intro j event' hlast htoken hafter
  have hne : change.parent ≠ event'.change.parent := fun hparent => by
    have href : event'.change.ref = change.parent ++ ["token"] :=
      congrArg (fun path => path ++ ["token"]) hparent.symm
    rw [href, List.append_nil, DataTree.get_set_append, hfree] at hafter
    exact htoken hafter.symm
  have hji : i ≠ j := by
    rintro rfl
    obtain rfl := Option.some.inj (hevent.symm.trans hlast.1)
    exact hne (congrArg TokenWrite.parent hchange.symm)
  rw [outcomes_concat, outcome?_settle_of_ne hji, Option.toList_none, List.append_nil]
  exact ⟨h.waiting j event' hlast htoken, fun hrefused =>
    (h.refused j event' hlast htoken hrefused).of_put
      (s.data.get_set_append_of_ne (by rfl) hne [] ["error"] response)⟩

/-- The message of an error is written beside the token. -/
theorem Stored.refuse (h : Stored as s) (hsound : s.Sound functionName)
    (hresumes : Resumes functionName as s) {error : JsError}
    (hinv : s.invocations i = some ⟨change, ops, .await op k⟩)
    (herror : .error error ∈ outcomes as i) (outcome : Except JsError Json) :
    Stored (as ++ [.settle i outcome]) (s.put change (some i) (change.parent ++ ["error"])
      (.leaf (.string (userFacingMessage error)))) := by
  obtain ⟨⟨event, hevent, hchange⟩, -⟩ := hsound.invoked i _ hinv
  have herror' : .error error ∈ outcomes (as ++ [.settle i outcome]) i := by
    rw [outcomes_concat]
    exact List.mem_append_left _ herror
  refine h.of_put (outcomes_settle_length hsound hresumes hinv outcome) ?_
  intro j event' hlast htoken _
  refine ⟨fun customer response answer => ?_, fun hrefused => ?_⟩
  · by_cases hji : i = j
    · subst hji
      intro hall
      rw [hall] at herror'
      simp at herror'
    · rw [outcomes_concat, outcome?_settle_of_ne hji, Option.toList_none, List.append_nil]
      exact h.waiting j event' hlast htoken customer response answer
  · by_cases hparent : change.parent = event'.change.parent
    · refine ⟨i, event, error, ?_, ?_, herror', ?_⟩
      · have hlength : i < s.events.length := (List.getElem?_eq_some_iff.mp hevent).1
        unfold put
        split_ifs
        · exact hevent
        · exact (List.getElem?_append_left hlength).trans hevent
      · rw [hchange, hparent]
      · rw [← hparent]
        exact s.data.get_set_self _ _
    · have hji : i ≠ j := by
        rintro rfl
        obtain rfl := Option.some.inj (hevent.symm.trans hlast.1)
        exact hparent (congrArg TokenWrite.parent hchange.symm)
      rw [outcomes_concat, outcome?_settle_of_ne hji, Option.toList_none, List.append_nil]
        at hrefused
      exact (h.refused j event' hlast htoken hrefused).of_put
        (s.data.get_set_append_of_ne (by rfl) hparent ["error"] ["error"] _)

end Pending

theorem Stored.settle (h : Stored as s) (hsound : s.Sound functionName)
    (hresumes : Resumes functionName as s) {outcome : Except JsError Json}
    (hs : s.settle i outcome = some s') : Stored (as ++ [.settle i outcome]) s' := by
  obtain ⟨change, ops, op, k, hinv, rfl⟩ := settle_eq_some.mp hs
  obtain ⟨-, hawaits⟩ := hresumes.awaits hinv
  cases outcome with
  | error error =>
    have hperform : s.perform i change op (.error error) = s := by
      cases op <;> rfl
    rw [hperform]
    refine h.of_unwritten rfl rfl (fun customer response answer heq => ?_) ?_
    · have hlast := congrArg List.getLast? heq
      simp at hlast
    · rintro ⟨-, answer, hlast⟩
      simp at hlast
  | ok answer =>
    generalize hrs : outcomes as i = rs at hawaits
    cases hawaits with
    | once =>
      refine h.of_unwritten rfl rfl ?_ ?_ <;> simp [hrs, Refused]
    | createSource customer =>
      refine h.of_unwritten rfl rfl ?_ ?_ <;> simp [hrs, Refused]
    | response customer response =>
      have hstored := h.response hsound hresumes hinv (.ok answer)
      rw [List.append_nil] at hstored
      exact ⟨hstored.token, hstored.waiting, hstored.refused⟩
    | lookupError error | sourceError customer error =>
      have herror : .error error ∈ outcomes as i := by simp [hrs]
      have hstored := h.refuse hsound hresumes hinv herror (.ok answer)
      exact ⟨hstored.token, hstored.waiting, hstored.refused⟩

theorem stored (h : (system functionName).RunWhere AnswersTokenFree as s) : Stored as s := by
  refine h.invariant (I := Stored) (fun s h0 => ?_) fun as s a s' hrun ih hanswers hs => ?_
  · have hnone : ∀ i event, ¬ s.IsLast i event := fun i event hlast => by
      simpa [h0.1] using hlast.1
    exact ⟨fun i event hlast => absurd hlast (hnone i event),
      fun i event hlast => absurd hlast (hnone i event),
      fun i event hlast => absurd hlast (hnone i event)⟩
  · have hsound := sound hrun
    have hresumes := resumes hrun.run
    cases a with
    | write change =>
      obtain rfl : s.put change none change.ref change.after = s' := Option.some.inj hs
      exact ih.write hsound hresumes change
    | deliver i => exact ih.deliver hs
    | settle i outcome => exact ih.settle hsound hresumes hs

end Run

/-! ## At rest -/

/-- Every event was delivered, and its invocation has settled. -/
def AtRest (s : PaymentSources) : Prop :=
  ∀ i < s.events.length, ∃ inv ∈ s.invocations i, inv.rest.pending = none

instance (s : PaymentSources) : Decidable s.AtRest :=
  inferInstanceAs (Decidable
    (∀ i < s.events.length, ∃ inv ∈ s.invocations i, inv.rest.pending = none))

section Run

variable {functionName : String} {as : List Action} {s : PaymentSources} {i : ℕ}
  {event : TokenEvent}

/-- A source with an event has a last one. -/
theorem exists_isLast (h : event ∈ s.events) :
    ∃ i last, s.IsLast i last ∧ last.change.parent = event.change.parent := by
  classical
  obtain ⟨m, hm⟩ := List.mem_iff_getElem?.mp h
  have hlength : ∀ {n : ℕ} {e : TokenEvent}, s.events[n]? = some e → n ≤ s.events.length :=
    fun hn => ((List.getElem?_eq_some_iff.mp hn).1).le
  obtain ⟨last, hlast, hparent⟩ := Nat.findGreatest_spec
    (P := fun n => ∃ e, s.events[n]? = some e ∧ e.change.parent = event.change.parent)
    (hlength hm) ⟨event, hm, rfl⟩
  refine ⟨_, last, ⟨hlast, fun j event' hj hevent' hsame => ?_⟩, hparent⟩
  exact Nat.findGreatest_is_greatest hj (hlength hevent') ⟨event', hevent', hsame.trans hparent⟩

/-- At rest, a token that is still there is the last one that a user wrote to its source. One of
the calls of its invocation failed, and the message of an error is beside it, unless the last call,
the write of the message or of Stripe's answer, was the one that failed. -/
theorem token_at_rest (h : (system functionName).RunWhere AnswersTokenFree as s) (hrest : s.AtRest)
    (hevent : event ∈ s.events) (htoken : s.data.get event.change.ref ≠ .null) :
    ∃ i last, s.IsLast i last ∧ last.change.parent = event.change.parent ∧ last.origin = none ∧
      last.change.after = s.data.get event.change.ref ∧
        (∃ error, .error error ∈ outcomes as i) ∧
          ((∃ error, (outcomes as i).getLast? = some (.error error)) ∨
            ShowsError as s event.change.parent) := by
  have hsound := sound h
  have hstored := stored h
  obtain ⟨i, last, hlast, hparent⟩ := exists_isLast hevent
  have href : last.change.ref = event.change.ref :=
    congrArg (fun path => path ++ ["token"]) hparent
  have hafter : last.change.after = s.data.get event.change.ref :=
    href ▸ (hstored.token i last hlast).symm
  have hnull : last.change.after ≠ .null := hafter ▸ htoken
  have horigin : last.origin = none := by
    cases horigin : last.origin with
    | none => rfl
    | some j => exact absurd (hsound.caused j i last hlast.1 horigin).1 hnull
  refine ⟨i, last, hlast, hparent, horigin, hafter, ?_⟩
  obtain ⟨inv, hinv, hsettled⟩ := hrest i (List.getElem?_eq_some_iff.mp hlast.1).1
  obtain ⟨⟨last', hlast', hchange⟩, -⟩ := hsound.invoked i inv hinv
  obtain rfl := Option.some.inj (hlast.1.symm.trans hlast')
  have hresume := (resumes h.run).resume i inv hinv
  rw [← hchange] at hresume
  have hwaiting := hstored.waiting i last hlast hnull
  have hrefused := hstored.refused i last hlast hnull
  rw [hparent] at hrefused
  have hall := (determined_of_resume hnull hresume).settles hsettled
  generalize outcomes as i = rs at hall hwaiting hrefused
  cases hall with
  | lookupError error written =>
    refine ⟨⟨error, List.mem_cons_self⟩, ?_⟩
    cases written with
    | error error' => exact .inl ⟨error', rfl⟩
    | ok answer => exact .inr (hrefused ⟨⟨error, List.mem_cons_self⟩, answer, rfl⟩)
  | created customer source written =>
    cases written with
    | error error => exact ⟨⟨error, by simp⟩, .inl ⟨error, rfl⟩⟩
    | ok answer =>
      cases source with
      | error error =>
        exact ⟨⟨error, by simp⟩, .inr (hrefused ⟨⟨error, by simp⟩, answer, rfl⟩)⟩
      | ok response => exact absurd rfl (hwaiting customer response answer)

end Run

/-- Ann's card is declined. -/
def declined : JsError where
  type := some "StripeCardError"
  message := "Your card was declined."
  stack := "Error: Your card was declined."

/-- The token stays, and the message is written. -/
def declining : List Action :=
  [.write visa, .deliver 0, .settle 0 (.ok (.leaf (.string "cus_ann"))),
    .settle 0 (.error declined), .settle 0 (.ok .null)]

theorem token_at_rest_declining :
    ∃ s, (system "addPaymentSource").RunWhere AnswersTokenFree declining s ∧ s.AtRest ∧
      (⟨visa, none⟩ : TokenEvent) ∈ s.events ∧ s.data.get visa.ref ≠ .null ∧
        ∃ i last, s.IsLast i last ∧ last.change.parent = visa.parent ∧ last.origin = none ∧
          last.change.after = s.data.get visa.ref ∧
            (∃ error, .error error ∈ outcomes declining i) ∧
              ((∃ error, (outcomes declining i).getLast? = some (.error error)) ∨
                ShowsError declining s visa.parent) := by
  have h0 : (system "addPaymentSource").init ⟨.null, [], fun _ => none⟩ := ⟨rfl, fun _ => rfl⟩
  obtain ⟨s, hrun, hrest, hevent, htoken⟩ := TransitionSystem.exists_run_of_exec
    (T := (system "addPaymentSource").guarded AnswersTokenFree) declining
    (fun s => s.AtRest ∧ (⟨visa, none⟩ : TokenEvent) ∈ s.events ∧ s.data.get visa.ref ≠ .null) h0
    (by decide +kernel)
  exact ⟨s, hrun.runWhere, hrest, hevent, htoken,
    token_at_rest hrun.runWhere hrest hevent htoken⟩

end PaymentSources

end SuShareApp
