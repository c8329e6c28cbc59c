import Mathlib.Data.List.Basic

/-!
# Promises

A chain of promises makes calls to services one after the other, and what it does next depends on
how the last call settled. So it is a tree : a settled promise, or a call together with the promise
that each outcome of it leads to (`Promise`). `p.andThen f g` is `p.then(f, g)`, whose first handler
takes the value of `p` and whose second takes its error, and `p.chain f` is `p.then(f)`, which
passes an error on.

For fixed outcomes a promise makes a list of calls (`calls`) and settles (`settlement`). For
outcomes that come one at a time, `Reaches` keeps the calls made so far and the promise that is
left, and `resume` finds both from the list of the outcomes. `CallsAtMost` bounds the calls of a
kind on every path, with what it settles with as a postcondition : the bounds of a chain add up
(`CallsAtMost.andThen`), and they hold of the calls made and in flight
(`Reaches.countP_issued_le`).
-/

/-- A promise that makes calls `Op`, each of which settles with a `Res` or an error `ε`, and then
settles with an `α` or an error. -/
inductive Promise (Op Res ε α : Type*)
  | settled (r : Except ε α)
  | await (op : Op) (k : Except ε Res → Promise Op Res ε α)

/-- The handler for `r`. -/
def Except.handle {ε α γ : Type*} (r : Except ε α) (f : α → γ) (g : ε → γ) : γ :=
  match r with
  | .ok a => f a
  | .error e => g e

section

variable {ε α γ : Type*} (f : α → γ) (g : ε → γ)

@[simp] theorem Except.handle_ok (a : α) : (Except.ok a : Except ε α).handle f g = f a := rfl

@[simp] theorem Except.handle_error (e : ε) : (Except.error e : Except ε α).handle f g = g e := rfl

end

namespace Promise

variable {Op Res ε α β : Type*}

def resolve (a : α) : Promise Op Res ε α := .settled (.ok a)

def reject (e : ε) : Promise Op Res ε α := .settled (.error e)

def call (op : Op) : Promise Op Res ε Res := .await op .settled

/-- `p.then(f, g)` -/
def andThen : Promise Op Res ε α → (α → Promise Op Res ε β) → (ε → Promise Op Res ε β) →
    Promise Op Res ε β
  | settled r, f, g => r.handle f g
  | await op k, f, g => .await op fun r => (k r).andThen f g

/-- `p.then(f)` -/
def chain (p : Promise Op Res ε α) (f : α → Promise Op Res ε β) : Promise Op Res ε β :=
  p.andThen f reject

/-- Handlers that make one call make the call of the handler's operation. -/
theorem handle_call (r : Except ε α) (f : α → Op) (g : ε → Op) :
    (r.handle (fun a => call (f a)) fun e => call (g e) : Promise Op Res ε Res) =
      call (r.handle f g) := by
  cases r <;> rfl

/-! ## Runs with fixed outcomes -/

/-- The calls that the promise makes, in order. -/
def calls (outcomes : Op → Except ε Res) : Promise Op Res ε α → List Op
  | settled _ => []
  | await op k => op :: (k (outcomes op)).calls outcomes

/-- How the promise settles. -/
def settlement (outcomes : Op → Except ε Res) : Promise Op Res ε α → Except ε α
  | settled r => r
  | await op k => (k (outcomes op)).settlement outcomes

section Outcomes

variable {outcomes : Op → Except ε Res}

@[simp] theorem calls_call (op : Op) : (call op).calls outcomes = [op] := rfl

@[simp] theorem settlement_call (op : Op) : (call op).settlement outcomes = outcomes op := rfl

theorem calls_andThen (f : α → Promise Op Res ε β) (g : ε → Promise Op Res ε β) :
    ∀ p : Promise Op Res ε α, (p.andThen f g).calls outcomes =
      p.calls outcomes ++ ((p.settlement outcomes).handle f g).calls outcomes
  | settled _ => rfl
  | await op k => congrArg (op :: ·) (calls_andThen f g (k (outcomes op)))

theorem settlement_andThen (f : α → Promise Op Res ε β) (g : ε → Promise Op Res ε β) :
    ∀ p : Promise Op Res ε α, (p.andThen f g).settlement outcomes =
      ((p.settlement outcomes).handle f g).settlement outcomes
  | settled _ => rfl
  | await op k => settlement_andThen f g (k (outcomes op))

theorem calls_chain (p : Promise Op Res ε α) (f : α → Promise Op Res ε β) :
    (p.chain f).calls outcomes =
      p.calls outcomes ++ ((p.settlement outcomes).handle f reject).calls outcomes :=
  calls_andThen f reject p

theorem settlement_chain (p : Promise Op Res ε α) (f : α → Promise Op Res ε β) :
    (p.chain f).settlement outcomes =
      ((p.settlement outcomes).handle f reject).settlement outcomes :=
  settlement_andThen f reject p

end Outcomes

/-! ## Runs with outcomes that come one at a time -/

/-- The call in flight. -/
def pending : Promise Op Res ε α → Option Op
  | settled _ => none
  | await op _ => some op

/-- From `p`, the calls `ops` settled in a way that `A` allows, and `p'` is left. -/
inductive Reaches (A : Op → Except ε Res → Prop) (p : Promise Op Res ε α) :
    List Op → Promise Op Res ε α → Prop
  | start : Reaches A p [] p
  | settle {ops : List Op} {op : Op} {k : Except ε Res → Promise Op Res ε α} {r : Except ε Res}
      (h : Reaches A p ops (.await op k)) (hr : A op r) : Reaches A p (ops ++ [op]) (k r)

/-- On every path that `A` allows, `p` makes at most `n` calls that meet `q`, and settles in a way
that meets `R`. -/
def CallsAtMost (A : Op → Except ε Res → Prop) (q : Op → Bool) (R : Except ε α → Prop) :
    Promise Op Res ε α → ℕ → Prop
  | settled r, _ => R r
  | await op k, n => ∃ m, (if q op then 1 else 0) + m ≤ n ∧
      ∀ r, A op r → (k r).CallsAtMost A q R m

section CallsAtMost

variable {A : Op → Except ε Res → Prop} {q : Op → Bool} {R : Except ε α → Prop}
  {S : Except ε β → Prop} {p p' : Promise Op Res ε α} {ops : List Op} {m n : ℕ}

theorem CallsAtMost.mono (h : p.CallsAtMost A q R m) (hmn : m ≤ n) : p.CallsAtMost A q R n := by
  cases p with
  | settled r => exact h
  | await op k =>
    obtain ⟨l, hl, hk⟩ := h
    exact ⟨l, Nat.le_trans hl hmn, hk⟩

/-- A call, whose outcomes meet the postcondition. -/
theorem callsAtMost_call {op : Op} {R : Except ε Res → Prop} (h : ∀ r, A op r → R r) :
    (call op).CallsAtMost A q R (if q op then 1 else 0) :=
  ⟨0, Nat.le_refl _, h⟩

/-- The bounds of a promise and of its handlers add up. -/
theorem CallsAtMost.andThen {f : α → Promise Op Res ε β} {g : ε → Promise Op Res ε β}
    (h : p.CallsAtMost A q R m) (hf : ∀ a, R (.ok a) → (f a).CallsAtMost A q S n)
    (hg : ∀ e, R (.error e) → (g e).CallsAtMost A q S n) :
    (p.andThen f g).CallsAtMost A q S (m + n) := by
  induction p generalizing m with
  | settled r =>
    refine CallsAtMost.mono ?_ (Nat.le_add_left n m)
    cases r with
    | ok a => exact hf a h
    | error e => exact hg e h
  | await op k ih =>
    obtain ⟨l, hl, hk⟩ := h
    exact ⟨l + n, by omega, fun r hr => ih r (hk r hr)⟩

/-- The same for a handler that passes errors on. -/
theorem CallsAtMost.chain {f : α → Promise Op Res ε β} (h : p.CallsAtMost A q R m)
    (hf : ∀ a, R (.ok a) → (f a).CallsAtMost A q S n) (hS : ∀ e, S (.error e)) :
    (p.chain f).CallsAtMost A q S (m + n) :=
  h.andThen hf fun e _ => hS e

/-- What is left can still make the calls that were not made. -/
theorem Reaches.exists_callsAtMost (hp : p.CallsAtMost A q R n) (h : p.Reaches A ops p') :
    ∃ m, ops.countP q + m ≤ n ∧ p'.CallsAtMost A q R m := by
  induction h with
  | start => exact ⟨n, by simp, hp⟩
  | @settle ops op k r _ hr ih =>
    obtain ⟨m, hm, l, hl, hk⟩ := ih
    refine ⟨l, ?_, hk r hr⟩
    rw [List.countP_append, List.countP_singleton]
    omega

/-- The bound holds of the calls made and the one in flight. -/
theorem Reaches.countP_issued_le (hp : p.CallsAtMost A q R n) (h : p.Reaches A ops p') :
    (ops ++ p'.pending.toList).countP q ≤ n := by
  obtain ⟨m, hm, hp'⟩ := h.exists_callsAtMost hp
  rw [List.countP_append]
  cases p' with
  | settled r => exact Nat.le_trans (Nat.le_add_right _ m) hm
  | await op k =>
    obtain ⟨l, hl, -⟩ := hp'
    have hop : (await op k).pending.toList.countP q = if q op then 1 else 0 :=
      List.countP_singleton
    omega

end CallsAtMost

/-- The calls that settled with `rs`, and what is left, if `rs` are not more than the calls. -/
def resume : Promise Op Res ε α → List (Except ε Res) → Option (List Op × Promise Op Res ε α)
  | p, [] => some ([], p)
  | settled _, _ :: _ => none
  | await op k, r :: rs => ((k r).resume rs).map fun (ops, p) => (op :: ops, p)

@[simp] theorem resume_nil (p : Promise Op Res ε α) : p.resume [] = some ([], p) := by
  cases p <;> rfl

/-- A settled promise has no calls. -/
theorem eq_of_resume_settled {r : Except ε α} {p : Promise Op Res ε α} {ops : List Op} :
    ∀ {rs : List (Except ε Res)}, (settled r).resume rs = some (ops, p) →
      rs = [] ∧ ops = [] ∧ p = settled r
  | [], h => by
    obtain ⟨rfl, rfl⟩ := Prod.mk.inj (Option.some.inj h)
    exact ⟨rfl, rfl, rfl⟩
  | _ :: _, h => nomatch h

/-- The first outcome is that of the first call. -/
theorem resume_cons {op : Op} {k : Except ε Res → Promise Op Res ε α} {p : Promise Op Res ε α}
    {r : Except ε Res} {rs : List (Except ε Res)} {ops : List Op}
    (h : (await op k).resume (r :: rs) = some (ops, p)) :
    ∃ ops', ops = op :: ops' ∧ (k r).resume rs = some (ops', p) := by
  obtain ⟨⟨ops', p'⟩, h', heq⟩ := Option.map_eq_some_iff.mp h
  obtain ⟨rfl, rfl⟩ := Prod.mk.inj heq
  exact ⟨ops', rfl, h'⟩

/-- The next outcome settles the call in flight. -/
theorem resume_concat {op : Op} {k : Except ε Res → Promise Op Res ε α} (r : Except ε Res) :
    ∀ {p : Promise Op Res ε α} {rs : List (Except ε Res)} {ops : List Op},
      p.resume rs = some (ops, .await op k) → p.resume (rs ++ [r]) = some (ops ++ [op], k r)
  | p, [], ops, h => by
    rw [resume_nil] at h
    obtain ⟨rfl, rfl⟩ := Prod.mk.inj (Option.some.inj h)
    simp [resume]
  | settled _, _ :: _, ops, h => nomatch h
  | await op' k', r' :: rs, ops, h => by
    obtain ⟨ops', rfl, h'⟩ := resume_cons h
    have hnext := resume_concat r h'
    simp [resume, hnext]

end Promise
