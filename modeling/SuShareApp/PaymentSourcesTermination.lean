import SuShareApp.PaymentSourcesAtRest
import Mathlib.Algebra.BigOperators.Group.Finset.Basic
import Mathlib.Algebra.Order.BigOperators.Group.Finset

/-!
# The trigger comes to rest

A write of a token sets off at most five steps : the delivery of its event, three calls, and the
delivery of the event of the follow-up write. Each step but a user's write uses one of them up
(`remaining_settle_lt`), so a run is at most six times as long as the number of its writes. And as
long as the system is not at rest, it can take such a step (`comes_to_rest`).
-/

namespace SuShareApp

open Promise

/-- The steps that an invocation can still set off, if this call is in flight : the remaining calls,
and the event of the follow-up write. -/
def CloudOperation.remaining : CloudOperation → ℕ
  | .once _ => 4
  | .createSource _ _ => 3
  | .set _ _ => 2
  | .write _ _ => 0

/-- A call that settles uses a step up, and a follow-up write another one for its event. -/
theorem Awaits.remaining_lt {change : TokenWrite} {rs : List (Except JsError Json)}
    {r : Except JsError Json} {op : CloudOperation} (h : Awaits change rs op)
    {next : Option CloudOperation} (hnext : ∀ op' ∈ next, Awaits change (rs ++ [r]) op') :
    next.elim 0 CloudOperation.remaining + (if op.isSet then 1 else 0) < op.remaining := by
  cases next with
  | none => cases h <;> simp [CloudOperation.remaining, CloudOperation.isSet]
  | some op' =>
    have h' := hnext op' rfl
    cases h with
    | once => cases h' <;> simp [CloudOperation.remaining, CloudOperation.isSet]
    | createSource customer => cases h' <;> simp [CloudOperation.remaining, CloudOperation.isSet]
    | response customer response => cases h'
    | lookupError error => cases h'
    | sourceError customer error => cases h'

namespace PaymentSources

def Action.isWrite : Action → Bool
  | .write _ => true
  | _ => false

/-- The steps that the event can still set off. -/
def remaining (s : PaymentSources) (i : ℕ) : ℕ :=
  s.events[i]?.elim 0 fun event =>
    (s.invocations i).elim (if event.change.after = .null then 1 else 5) fun inv =>
      inv.rest.pending.elim 0 CloudOperation.remaining

def work (s : PaymentSources) : ℕ := ∑ i ∈ Finset.range s.events.length, s.remaining i

section Work

variable {functionName : String} {as : List Action} {s s' : PaymentSources} {i : ℕ}

/-- A step of one event changes one summand. -/
theorem sum_remaining_add (s s' : PaymentSources) {i : ℕ} (hi : i < s.events.length)
    (hsame : ∀ j < s.events.length, j ≠ i → s'.remaining j = s.remaining j) :
    ∑ j ∈ Finset.range s.events.length, s'.remaining j + s.remaining i =
      s.work + s'.remaining i := by
  have hmem : i ∈ Finset.range s.events.length := Finset.mem_range.mpr hi
  have hrest : ∑ j ∈ (Finset.range s.events.length).erase i, s'.remaining j =
      ∑ j ∈ (Finset.range s.events.length).erase i, s.remaining j :=
    Finset.sum_congr rfl fun j hj => hsame j
      (Finset.mem_range.mp (Finset.mem_of_mem_erase hj)) (Finset.ne_of_mem_erase hj)
  unfold work
  rw [← Finset.add_sum_erase _ _ hmem, ← Finset.add_sum_erase _ s.remaining hmem, hrest]
  omega

/-- What a new event adds. -/
theorem work_append {new : Option TokenEvent} (hevents : s'.events = s.events ++ new.toList) :
    s'.work = ∑ j ∈ Finset.range s.events.length, s'.remaining j +
      if new.isSome then s'.remaining s.events.length else 0 := by
  unfold work
  cases new with
  | none => simp [hevents]
  | some event => simp [hevents, Finset.sum_range_succ]

/-- The events that were there have what they had, if their invocations are as before. -/
theorem remaining_append {new : Option TokenEvent} (hevents : s'.events = s.events ++ new.toList)
    (hi : i < s.events.length) (hinvocations : s'.invocations i = s.invocations i) :
    s'.remaining i = s.remaining i := by
  unfold remaining
  rw [hevents, List.getElem?_append_left hi, hinvocations]

/-- A write adds an event that sets off five steps at most. -/
theorem work_write_le (hsound : s.Sound functionName) (change : TokenWrite) :
    (s.put change none change.ref change.after).work ≤ s.work + 5 := by
  obtain ⟨new, hevents, hnew⟩ := s.events_write change
  have hsum : ∑ j ∈ Finset.range s.events.length,
      (s.put change none change.ref change.after).remaining j = s.work :=
    Finset.sum_congr rfl fun j hj => remaining_append hevents (Finset.mem_range.mp hj) rfl
  rw [work_append hevents, hsum]
  refine Nat.add_le_add_left ?_ _
  split_ifs with hsome
  · obtain ⟨event, rfl⟩ := Option.isSome_iff_exists.mp hsome
    have hnone : s.invocations s.events.length = none := hsound.invocations_length
    unfold remaining
    rw [hevents, List.getElem?_append_right le_rfl]
    simp only [Nat.sub_self, Option.toList_some, List.getElem?_cons_zero, Option.elim_some]
    show (s.invocations s.events.length).elim _ _ ≤ 5
    rw [hnone]
    split_ifs <;> simp
  · exact Nat.zero_le _

/-- A delivery uses a step up : without a token nothing is called, and otherwise the lookup is. -/
theorem remaining_deliver (hs : s.deliver functionName i = some s') :
    s'.events = s.events ∧ i < s.events.length ∧ s'.remaining i + 1 = s.remaining i ∧
      ∀ j, j ≠ i → s'.remaining j = s.remaining j := by
  obtain ⟨event, hevent, hnone, rfl⟩ := deliver_eq_some.mp hs
  refine ⟨rfl, (List.getElem?_eq_some_iff.mp hevent).1, ?_, fun j hj => ?_⟩
  · unfold remaining
    simp only [hevent, hnone, Function.update_self, Option.elim_some, Option.elim_none]
    split_ifs with hnull
    · rw [addPaymentSource, if_pos hnull]
      rfl
    · rw [addPaymentSource_eq hnull]
      rfl
  · unfold remaining
    simp only [Function.update_of_ne hj]

/-- A call that settles uses a step up. -/
theorem work_settle_lt (hsound : s.Sound functionName) (hresumes : Resumes functionName as s)
    {outcome : Except JsError Json} (hs : s.settle i outcome = some s') : s'.work < s.work := by
  have hresumes' := hresumes.settle hs
  obtain ⟨change, ops, op, k, hinv, rfl⟩ := settle_eq_some.mp hs
  obtain ⟨⟨event, hevent, -⟩, -⟩ := hsound.invoked i _ hinv
  have hi : i < s.events.length := (List.getElem?_eq_some_iff.mp hevent).1
  obtain ⟨new, hevents, hnew⟩ := s.events_perform i outcome (hsound.not_feeds hinv)
  set s' : PaymentSources := { s.perform i change op outcome with
    invocations := Function.update s.invocations i (some ⟨change, ops ++ [op], k outcome⟩) }
  have hevents' : s'.events = s.events ++ new.toList := hevents
  have hself : s'.invocations i = some ⟨change, ops ++ [op], k outcome⟩ :=
    Function.update_self i _ _
  have hother : ∀ j, j ≠ i → s'.invocations j = s.invocations j := fun j hj =>
    Function.update_of_ne hj _ _
  have hbefore : s.remaining i = op.remaining := by
    unfold remaining
    simp [hevent, hinv, pending]
  have hafter : s'.remaining i = (k outcome).pending.elim 0 CloudOperation.remaining := by
    unfold remaining
    have hevent' : s'.events[i]? = some event := by
      rw [hevents', List.getElem?_append_left hi, hevent]
    simp [hevent', hself]
  have hlt : s'.remaining i + (if op.isSet then 1 else 0) < s.remaining i := by
    rw [hbefore, hafter]
    refine (hresumes.awaits hinv).2.remaining_lt (r := outcome) fun op' hop' => ?_
    have hawaits := hresumes'.awaits_of_pending hself op' hop'
    rwa [outcomes_concat, outcome?_settle_self] at hawaits
  have hsum := sum_remaining_add s s' hi fun j hj hji =>
    remaining_append hevents' hj (hother j hji)
  have hwork := work_append hevents'
  have hnewle : (if new.isSome then s'.remaining s.events.length else 0) ≤
      if op.isSet then 1 else 0 := by
    cases new with
    | none => exact Nat.zero_le _
    | some event' =>
      obtain ⟨-, hnull, hset⟩ := hnew event' rfl
      have hnone : s'.invocations s.events.length = none :=
        (hother _ hi.ne').trans hsound.invocations_length
      have hevent' : s'.events[s.events.length]? = some event' := by
        rw [hevents']
        simp
      simp [remaining, hevent', hnone, hnull, hset]
  omega

/-- Each step but a user's write uses one up. -/
theorem work_lt (hsound : s.Sound functionName) (hresumes : Resumes functionName as s) {a : Action}
    (ha : a.isWrite = false) (hs : (system functionName).step s a = some s') :
    s'.work < s.work := by
  cases a with
  | write change => nomatch ha
  | deliver i =>
    obtain ⟨hevents, hi, hremaining, hsame⟩ := remaining_deliver hs
    have hsum := sum_remaining_add s s' hi fun j _ => hsame j
    have hwork : s'.work = ∑ j ∈ Finset.range s.events.length, s'.remaining j := by
      unfold work
      rw [hevents]
    omega
  | settle i outcome => exact work_settle_lt hsound hresumes hs

theorem length_add_work_le (h : (system functionName).RunWhere AnswersTokenFree as s) :
    as.length + s.work ≤ 6 * as.countP Action.isWrite := by
  refine h.invariant (I := fun as s => as.length + s.work ≤ 6 * as.countP Action.isWrite)
    (fun s h0 => by simp [work, h0.1]) fun as s a s' hrun ih _ hs => ?_
  have hsound := sound hrun
  rw [List.length_append, List.countP_append, List.countP_singleton, List.length_singleton]
  cases ha : a.isWrite with
  | true =>
    cases a with
    | write change =>
      obtain rfl : s.put change none change.ref change.after = s' := Option.some.inj hs
      have hle := work_write_le hsound change
      simp only [if_true]
      omega
    | deliver i => nomatch ha
    | settle i outcome => nomatch ha
  | false =>
    have hlt := work_lt hsound (resumes hrun.run) ha hs
    simp only [Bool.false_eq_true, if_false]
    omega

/-- Away from rest there is an event to deliver or a call to settle. -/
theorem exists_step_of_not_atRest (h : ¬ s.AtRest) : ∃ a s', a.isWrite = false ∧
    s.AnswersTokenFree a ∧ (system functionName).step s a = some s' := by
  unfold AtRest at h
  push Not at h
  obtain ⟨i, hi, hpending⟩ := h
  cases hinv : s.invocations i with
  | none =>
    exact ⟨.deliver i, _, rfl, trivial,
      deliver_eq_some.mpr ⟨_, List.getElem?_eq_getElem hi, hinv, rfl⟩⟩
  | some inv =>
    obtain ⟨change, ops, rest⟩ := inv
    cases rest with
    | settled r => exact absurd rfl (hpending _ hinv)
    | await op k =>
      refine ⟨.settle i (.error declined), _, rfl, fun inv' hinv' op' _ => ?_,
        settle_eq_some.mpr ⟨change, ops, op, k, hinv, rfl⟩⟩
      cases op' <;> trivial

end Work

/-- As long as no answer of Stripe has a token, a run is at most six times as long as the number of
the users' writes in it, and can go on by itself unless it is at rest : after the last write the
system comes to rest, whatever else Stripe and the database answer. -/
theorem comes_to_rest {functionName : String} {as : List Action} {s : PaymentSources}
    (h : (system functionName).RunWhere AnswersTokenFree as s) :
    as.length ≤ 6 * as.countP Action.isWrite ∧
      (¬ s.AtRest → ∃ a s', a.isWrite = false ∧
        (system functionName).RunWhere AnswersTokenFree (as ++ [a]) s') := by
  refine ⟨(Nat.le_add_right _ _).trans (length_add_work_le h), fun hrest => ?_⟩
  obtain ⟨a, s', ha, hanswers, hs⟩ := exists_step_of_not_atRest hrest
  exact ⟨a, s', ha, h.snoc hanswers hs⟩

/-- The message of the error is still to be written. -/
theorem comes_to_rest_declining :
    ∃ s, (system "addPaymentSource").RunWhere AnswersTokenFree declining.dropLast s ∧
      ¬ s.AtRest ∧ declining.dropLast.length ≤ 6 * declining.dropLast.countP Action.isWrite ∧
        (¬ s.AtRest → ∃ a s', a.isWrite = false ∧ (system "addPaymentSource").RunWhere
          AnswersTokenFree (declining.dropLast ++ [a]) s') := by
  have h0 : (system "addPaymentSource").init ⟨.null, [], fun _ => none⟩ := ⟨rfl, fun _ => rfl⟩
  obtain ⟨s, hrun, hrest⟩ := TransitionSystem.exists_run_of_exec
    (T := (system "addPaymentSource").guarded AnswersTokenFree) declining.dropLast
    (fun s => ¬ s.AtRest) h0 (by decide +kernel)
  exact ⟨s, hrun.runWhere, hrest, comes_to_rest hrun.runWhere⟩

end PaymentSources

end SuShareApp
