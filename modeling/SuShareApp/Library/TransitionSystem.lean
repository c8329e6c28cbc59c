import Mathlib.Data.List.Basic

/-!
# Runs of a transition system

A transition system is a set of initial states and a partial step function, so a
run is determined by its first state and its actions. `Run as s` keeps the actions
taken so far, which lets an invariant speak about the past of the run without ghost
fields in the state. `RunWhere G as s` is a run whose every action met `G` in the
state before it, and `RunIn P as s` one whose every state satisfies `P`.

The rules are the invariant rules (`Run.invariant`, `RunWhere.invariant`), the
passage between runs and the executable `exec` (`run_of_exec`), what later states keep
(`Run.stable`), the guarded system whose runs meet `G` (`Run.runWhere`), conditions that are met
by the same runs (`runWhere_congr`), projections of one system onto another
(`Projection.run`), and refinements, whose steps may take several (`Refinement.exists_run`).
-/

/-- A transition system : `step s a` is `none` when the action `a` is not enabled in
the state `s`. -/
structure TransitionSystem (σ α : Type*) where
  /-- The initial states. -/
  init : σ → Prop
  /-- The state after an action. -/
  step : σ → α → Option σ

namespace TransitionSystem

variable {σ α τ β : Type*} (T : TransitionSystem σ α)

/-- The actions `as`, in order, lead from an initial state to `s`. -/
inductive Run : List α → σ → Prop
  | start {s : σ} (h : T.init s) : Run [] s
  | snoc {as : List α} {s s' : σ} {a : α} (h : Run as s) (hs : T.step s a = some s') :
    Run (as ++ [a]) s'

/-- A run whose every action meets `G` in the state it is taken in. -/
inductive RunWhere (G : σ → α → Prop) : List α → σ → Prop
  | start {s : σ} (h : T.init s) : RunWhere G [] s
  | snoc {as : List α} {s s' : σ} {a : α} (h : RunWhere G as s) (hG : G s a)
    (hs : T.step s a = some s') : RunWhere G (as ++ [a]) s'

/-- A run whose states all satisfy `P`. -/
inductive RunIn (P : σ → Prop) : List α → σ → Prop
  | start {s : σ} (h : T.init s) (hP : P s) : RunIn P [] s
  | snoc {as : List α} {s s' : σ} {a : α} (h : RunIn P as s) (hs : T.step s a = some s')
    (hP : P s') : RunIn P (as ++ [a]) s'

variable {T}

theorem RunIn.run {P : σ → Prop} {as : List α} {s : σ} (h : T.RunIn P as s) : T.Run as s := by
  induction h with
  | start h _ => exact .start h
  | snoc _ hs _ ih => exact .snoc ih hs

theorem RunWhere.run {G : σ → α → Prop} {as : List α} {s : σ} (h : T.RunWhere G as s) :
    T.Run as s := by
  induction h with
  | start h => exact .start h
  | snoc _ _ hs ih => exact .snoc ih hs

theorem RunWhere.mono {G H : σ → α → Prop} (hGH : ∀ s a, G s a → H s a) {as : List α} {s : σ}
    (h : T.RunWhere G as s) : T.RunWhere H as s := by
  induction h with
  | start h => exact .start h
  | snoc _ hG hs ih => exact .snoc ih (hGH _ _ hG) hs

/-- The last action of a run that meets `G` meets it. -/
theorem RunWhere.exists_last {G : σ → α → Prop} {as : List α} {a : α} {s' : σ}
    (h : T.RunWhere G (as ++ [a]) s') : ∃ s, T.RunWhere G as s ∧ G s a ∧ T.step s a = some s' := by
  generalize hbs : as ++ [a] = bs at h
  cases h with
  | start _ => simp at hbs
  | snoc h hG hs =>
    obtain ⟨rfl, hlast⟩ := List.append_inj' hbs rfl
    obtain rfl := List.singleton_inj.mp hlast
    exact ⟨_, h, hG, hs⟩

/-! ## Invariants -/

/-- A relation between the past and the state that holds at the start and is kept by
every step holds after every run. -/
theorem Run.invariant {I : List α → σ → Prop} (h0 : ∀ s, T.init s → I [] s)
    (hstep : ∀ as s a s', T.Run as s → I as s → T.step s a = some s' → I (as ++ [a]) s')
    {as : List α} {s : σ} (h : T.Run as s) : I as s := by
  induction h with
  | start h => exact h0 _ h
  | snoc h hs ih => exact hstep _ _ _ _ h ih hs

/-- The same for the runs that meet `G`, where a step may use `G`. -/
theorem RunWhere.invariant {G : σ → α → Prop} {I : List α → σ → Prop}
    (h0 : ∀ s, T.init s → I [] s)
    (hstep : ∀ as s a s', T.RunWhere G as s → I as s → G s a → T.step s a = some s' →
      I (as ++ [a]) s')
    {as : List α} {s : σ} (h : T.RunWhere G as s) : I as s := by
  induction h with
  | start h => exact h0 _ h
  | snoc h hG hs ih => exact hstep _ _ _ _ h ih hG hs

/-- Whether all states of a run satisfy `P` can be read off its actions, if each action decides it
for one further state. -/
theorem Run.runIn_iff {P : σ → Prop} {C : List α → Prop} (h0 : ∀ s, T.init s → P s ∧ C [])
    (hshorter : ∀ as a, C (as ++ [a]) → C as)
    (hstep : ∀ as s a s', T.Run as s → C as → T.step s a = some s' → (C (as ++ [a]) ↔ P s'))
    {as : List α} {s : σ} (h : T.Run as s) : T.RunIn P as s ↔ C as := by
  constructor
  · intro hin
    induction hin with
    | start hi _ => exact (h0 _ hi).2
    | snoc hin hs hP ih => exact (hstep _ _ _ _ hin.run (ih hin.run) hs).mpr hP
  · intro hC
    induction h with
    | start hi => exact .start hi (h0 _ hi).1
    | snoc h hs ih =>
      have hC' := hshorter _ _ hC
      exact .snoc (ih hC') hs ((hstep _ _ _ _ h hC' hs).mp hC)

/-- The states of a run satisfy `P` exactly if its actions meet `G`, where `G` says of an action
whether it leads to such a state. -/
theorem Run.runIn_iff_runWhere {P : σ → Prop} {G : σ → α → Prop} (h0 : ∀ s, T.init s → P s)
    (hstep : ∀ as s a s', T.Run as s → T.step s a = some s' → (P s' ↔ G s a))
    {as : List α} {s : σ} (h : T.Run as s) : T.RunIn P as s ↔ T.RunWhere G as s := by
  constructor
  · intro hin
    induction hin with
    | start hi _ => exact .start hi
    | snoc hin hs hP ih => exact .snoc (ih hin.run) ((hstep _ _ _ _ hin.run hs).mp hP) hs
  · intro hwhere
    induction hwhere with
    | start hi => exact .start hi (h0 _ hi)
    | snoc hwhere hG hs ih =>
      exact .snoc (ih hwhere.run) hs ((hstep _ _ _ _ hwhere.run hs).mpr hG)

/-- Two conditions on the actions that come to the same in the runs that meet one of them are met
by the same runs. -/
theorem runWhere_congr {G H : σ → α → Prop}
    (hstep : ∀ as s a s', T.RunWhere H as s → T.step s a = some s' → (G s a ↔ H s a))
    {as : List α} {s : σ} : T.RunWhere G as s ↔ T.RunWhere H as s := by
  constructor
  · intro h
    induction h with
    | start hi => exact .start hi
    | snoc _ hG hs ih => exact .snoc ih ((hstep _ _ _ _ ih hs).mp hG) hs
  · intro h
    induction h with
    | start hi => exact .start hi
    | snoc h hH hs ih => exact .snoc ih ((hstep _ _ _ _ h hs).mpr hH) hs

/-- Whether the actions of a run meet `G` can be read off them, if each decides it for itself. -/
theorem Run.runWhere_iff {G : σ → α → Prop} {C : List α → Prop} (h0 : C [])
    (hstep : ∀ as s a, T.Run as s → (C (as ++ [a]) ↔ C as ∧ G s a)) {as : List α} {s : σ}
    (h : T.Run as s) : T.RunWhere G as s ↔ C as := by
  constructor
  · intro hwhere
    induction hwhere with
    | start _ => exact h0
    | snoc hwhere hG _ ih => exact (hstep _ _ _ hwhere.run).mpr ⟨ih hwhere.run, hG⟩
  · intro hC
    induction h with
    | start hi => exact .start hi
    | snoc h hs ih =>
      obtain ⟨hC, hG⟩ := (hstep _ _ _ h).mp hC
      exact .snoc (ih hC) hG hs

/-! ## Execution -/

variable (T) in
/-- The state after the actions, if each is enabled in its turn. -/
def exec (s : σ) : List α → Option σ
  | [] => some s
  | a :: as => (T.step s a).bind fun s' => exec s' as

theorem exec_append (s : σ) : ∀ as bs : List α,
    T.exec s (as ++ bs) = (T.exec s as).bind fun s' => T.exec s' bs
  | [], _ => rfl
  | a :: as, bs => by
    cases hs : T.step s a with
    | none => simp [exec, hs]
    | some s' => simpa [exec, hs] using exec_append s' as bs

theorem Run.append_of_exec {as : List α} {s : σ} (h : T.Run as s) :
    ∀ {bs : List α} {s' : σ}, T.exec s bs = some s' → T.Run (as ++ bs) s'
  | [], s', hs => by
    obtain rfl : s = s' := by simpa [exec] using hs
    simpa using h
  | b :: bs, s', hs => by
    obtain ⟨s₁, hb, hs⟩ := Option.bind_eq_some_iff.mp hs
    simpa using (h.snoc hb).append_of_exec hs

theorem run_of_exec {s s' : σ} {as : List α} (h : T.init s) (hs : T.exec s as = some s') :
    T.Run as s' := by
  simpa using (Run.start h).append_of_exec hs

/-- What no step from a reachable state loses is kept in all later states. -/
theorem Run.stable {P : σ → Prop}
    (hstep : ∀ as s a s', T.Run as s → P s → T.step s a = some s' → P s') {as : List α} {s : σ}
    (h : T.Run as s) (hP : P s) : ∀ {bs : List α} {s' : σ}, T.exec s bs = some s' → P s'
  | [], s', hs => by
    obtain rfl : s = s' := by simpa [exec] using hs
    exact hP
  | b :: bs, s', hs => by
    obtain ⟨s₁, hb, hs⟩ := Option.bind_eq_some_iff.mp hs
    exact (h.snoc hb).stable hstep (hstep _ _ _ _ h hP hb) hs

/-- A run whose last state passes a test, found by executing its actions. -/
theorem exists_run_of_exec {s : σ} (as : List α) (p : σ → Prop) (h : T.init s)
    (hs : ∃ s' ∈ T.exec s as, p s') : ∃ s', T.Run as s' ∧ p s' := by
  obtain ⟨s', hs', hp⟩ := hs
  exact ⟨s', run_of_exec h hs', hp⟩

theorem Run.exec_eq {as : List α} {s : σ} (h : T.Run as s) :
    ∃ s₀, T.init s₀ ∧ T.exec s₀ as = some s := by
  induction h with
  | start h => exact ⟨_, h, rfl⟩
  | snoc _ hs ih =>
    obtain ⟨s₀, h0, he⟩ := ih
    exact ⟨s₀, h0, by simp [exec_append, he, exec, hs]⟩

/-- A run has a state at each of its steps. -/
theorem Run.exists_step {bs cs : List α} {a : α} {s : σ} (h : T.Run (bs ++ a :: cs) s) :
    ∃ s₁ s₂, T.Run bs s₁ ∧ T.step s₁ a = some s₂ := by
  obtain ⟨s₀, h0, he⟩ := h.exec_eq
  rw [exec_append] at he
  obtain ⟨s₁, hbs, he⟩ := Option.bind_eq_some_iff.mp he
  obtain ⟨s₂, ha, -⟩ := Option.bind_eq_some_iff.mp he
  exact ⟨s₁, s₂, run_of_exec h0 hbs, ha⟩

/-- With one initial state, the actions determine the state reached. -/
theorem Run.unique (hinit : ∀ s s', T.init s → T.init s' → s = s') {as : List α} {s s' : σ}
    (h : T.Run as s) (h' : T.Run as s') : s = s' := by
  obtain ⟨s₀, h0, he⟩ := h.exec_eq
  obtain ⟨s₁, h1, he'⟩ := h'.exec_eq
  obtain rfl := hinit _ _ h0 h1
  exact Option.some.inj (he.symm.trans he')

/-! ## Guards -/

variable (T) in
/-- The system with only the steps that the guard allows. -/
def guarded (G : σ → α → Prop) [∀ s, DecidablePred (G s)] : TransitionSystem σ α where
  init := T.init
  step s a := if G s a then T.step s a else none

/-- A run of the guarded system is a run that meets the guard. -/
theorem Run.runWhere {G : σ → α → Prop} [∀ s, DecidablePred (G s)] {as : List α} {s : σ}
    (h : (T.guarded G).Run as s) : T.RunWhere G as s := by
  induction h with
  | start h => exact .start h
  | snoc _ hs ih =>
    obtain ⟨hG, hs⟩ := Option.ite_none_right_eq_some.mp hs
    exact .snoc ih hG hs

/-! ## Projections -/

/-- `T` projects onto `U` : a step of `T` is a step of `U` on the projected states, or,
where the action has no image, leaves the projected state as it is. -/
structure Projection (T : TransitionSystem σ α) (U : TransitionSystem τ β) where
  state : σ → τ
  action : α → Option β
  init : ∀ s, T.init s → U.init (state s)
  step : ∀ s a s' b, T.step s a = some s' → action a = some b →
    U.step (state s) b = some (state s')
  stutter : ∀ s a s', T.step s a = some s' → action a = none → state s' = state s

/-- A run projects onto the run of the actions that have an image. -/
theorem Projection.run {U : TransitionSystem τ β} (P : Projection T U) {as : List α} {s : σ}
    (h : T.Run as s) : U.Run (as.filterMap P.action) (P.state s) := by
  induction h with
  | start h => exact .start (P.init _ h)
  | @snoc as s s' a _ hs ih =>
    rw [List.filterMap_append]
    cases ha : P.action a with
    | none => simpa [ha, P.stutter s a s' hs ha] using ih
    | some b => simpa [ha] using ih.snoc (P.step s a s' b hs ha)

/-- `T` refines `U` : what a step of `T` does to the projected state, some actions of `U` do. -/
structure Refinement (T : TransitionSystem σ α) (U : TransitionSystem τ β) where
  state : σ → τ
  init : ∀ s, T.init s → U.init (state s)
  step : ∀ s a s', T.step s a = some s' → ∃ bs, U.exec (state s) bs = some (state s')

/-- Every state that `T` reaches projects onto one that `U` reaches. -/
theorem Refinement.exists_run {U : TransitionSystem τ β} (R : Refinement T U) {as : List α}
    {s : σ} (h : T.Run as s) : ∃ bs, U.Run bs (R.state s) := by
  induction h with
  | start h => exact ⟨[], .start (R.init _ h)⟩
  | snoc _ hs ih =>
    obtain ⟨bs, hrun⟩ := ih
    obtain ⟨cs, hexec⟩ := R.step _ _ _ hs
    exact ⟨bs ++ cs, hrun.append_of_exec hexec⟩

end TransitionSystem
