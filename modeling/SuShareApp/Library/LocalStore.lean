import Mathlib.Data.List.Basic

/-!
# A local store with writes on their way

A device keeps the state that it last received from a server, and its own writes in order. The
server takes them one at a time, the oldest first, and acknowledges them in that order. What the
device reads is its view : the received state with its own writes over it, those included that the
server has taken but the received state may lack.

So a write shows at once, and neither the server taking it nor the acknowledgement changes the view
(`view_serve`, `view_acknowledge`). With no other device writing, the view is the state of the
server with the pending writes over it, however old the received state is (`Tracks.view`). For
that a write has to overwrite what it touches (`Overwrites`), since a state that the device
receives can have writes already that it puts over it again.
-/

/-- The state that a device received from the server, and its own writes, the oldest first. -/
structure LocalStore (σ ω : Type*) where
  remote : σ
  /-- Acknowledged, but `remote` may lack them. -/
  committed : List ω
  /-- Taken by the server, and not acknowledged yet. -/
  served : List ω
  /-- Not taken yet. -/
  pending : List ω

namespace LocalStore

variable {σ ω : Type*}

/-- A device that has received the state and written nothing. -/
def initial (s : σ) : LocalStore σ ω := ⟨s, [], [], []⟩

/-- The device writes, one after another. -/
def write (l : LocalStore σ ω) (ws : List ω) : LocalStore σ ω :=
  { l with pending := l.pending ++ ws }

/-- The server takes the oldest write. -/
def serve (l : LocalStore σ ω) : Option (ω × LocalStore σ ω) :=
  match l.pending with
  | [] => none
  | w :: pending => some (w, { l with served := l.served ++ [w], pending })

/-- The device hears that the oldest write which was taken is done. -/
def acknowledge (l : LocalStore σ ω) : Option (ω × LocalStore σ ω) :=
  match l.served with
  | [] => none
  | w :: served => some (w, { l with committed := l.committed ++ [w], served })

/-- The device hears that the server refuses the oldest write. It has heard of those before. -/
def reject (l : LocalStore σ ω) : Option (ω × LocalStore σ ω) :=
  match l.served, l.pending with
  | [], w :: pending => some (w, { l with pending })
  | _, _ => none

/-- The device receives the state of the server, which has all the writes that were taken. -/
def receive (l : LocalStore σ ω) (s : σ) : LocalStore σ ω :=
  { l with remote := s, committed := [] }

/-- The writes that the device still waits for. -/
def unacknowledged (l : LocalStore σ ω) : List ω :=
  l.served ++ l.pending

/-- All the writes that it puts over what it received. -/
def writes (l : LocalStore σ ω) : List ω :=
  l.committed ++ l.unacknowledged

/-- What the device reads. -/
def view (perform : σ → ω → σ) (l : LocalStore σ ω) : σ :=
  l.writes.foldl perform l.remote

variable {l l' : LocalStore σ ω} {w : ω} {ws : List ω}

/-! ## What an operation does -/

theorem serve_eq_some : l.serve = some (w, l') ↔ ∃ pending, l.pending = w :: pending ∧
    l' = { l with served := l.served ++ [w], pending } := by
  unfold serve
  split <;> simp_all [eq_comm]

theorem acknowledge_eq_some : l.acknowledge = some (w, l') ↔ ∃ served, l.served = w :: served ∧
    l' = { l with committed := l.committed ++ [w], served } := by
  unfold acknowledge
  split <;> simp_all [eq_comm]

theorem reject_eq_some : l.reject = some (w, l') ↔ l.served = [] ∧
    ∃ pending, l.pending = w :: pending ∧ l' = { l with pending } := by
  unfold reject
  split <;> simp_all [eq_comm]

theorem remote_serve (h : l.serve = some (w, l')) : l'.remote = l.remote := by
  obtain ⟨pending, -, rfl⟩ := serve_eq_some.mp h
  rfl

theorem remote_acknowledge (h : l.acknowledge = some (w, l')) : l'.remote = l.remote := by
  obtain ⟨served, -, rfl⟩ := acknowledge_eq_some.mp h
  rfl

theorem remote_reject (h : l.reject = some (w, l')) : l'.remote = l.remote := by
  obtain ⟨-, pending, -, rfl⟩ := reject_eq_some.mp h
  rfl

theorem unacknowledged_write : (l.write ws).unacknowledged = l.unacknowledged ++ ws :=
  (List.append_assoc ..).symm

/-- The device waits for what the server has taken just as for the rest. -/
theorem unacknowledged_serve (h : l.serve = some (w, l')) :
    l'.unacknowledged = l.unacknowledged := by
  obtain ⟨pending, hp, rfl⟩ := serve_eq_some.mp h
  simp [unacknowledged, hp]

theorem unacknowledged_acknowledge (h : l.acknowledge = some (w, l')) :
    l.unacknowledged = w :: l'.unacknowledged := by
  obtain ⟨served, hs, rfl⟩ := acknowledge_eq_some.mp h
  simp [unacknowledged, hs]

theorem unacknowledged_reject (h : l.reject = some (w, l')) :
    l.unacknowledged = w :: l'.unacknowledged := by
  obtain ⟨hs, pending, hp, rfl⟩ := reject_eq_some.mp h
  simp [unacknowledged, hs, hp]

theorem writes_write : (l.write ws).writes = l.writes ++ ws := by
  rw [writes, unacknowledged_write, ← List.append_assoc]
  rfl

theorem writes_serve (h : l.serve = some (w, l')) : l'.writes = l.writes := by
  have hunack := unacknowledged_serve h
  obtain ⟨pending, -, rfl⟩ := serve_eq_some.mp h
  exact congrArg (l.committed ++ ·) hunack

theorem writes_acknowledge (h : l.acknowledge = some (w, l')) : l'.writes = l.writes := by
  obtain ⟨served, hs, rfl⟩ := acknowledge_eq_some.mp h
  simp [writes, unacknowledged, hs]

theorem writes_reject (h : l.reject = some (w, l')) : l'.writes ⊆ l.writes := by
  rw [writes, writes, unacknowledged_reject h]
  obtain ⟨-, pending, -, rfl⟩ := reject_eq_some.mp h
  exact List.append_subset.mpr ⟨List.subset_append_left _ _,
    List.Subset.trans (List.subset_cons_self _ _) (List.subset_append_right _ _)⟩

/-! ## The view -/

variable {perform : σ → ω → σ}

/-- A write shows at once, over all that was there. -/
theorem view_write : (l.write ws).view perform = ws.foldl perform (l.view perform) := by
  rw [view, writes_write, List.foldl_append]
  rfl

theorem view_serve (h : l.serve = some (w, l')) : l'.view perform = l.view perform := by
  rw [view, view, writes_serve h, remote_serve h]

theorem view_acknowledge (h : l.acknowledge = some (w, l')) :
    l'.view perform = l.view perform := by
  rw [view, view, writes_acknowledge h, remote_acknowledge h]

/-- What holds of the received state and no write of the device loses holds of the view. -/
theorem view_induction {P : σ → Prop} (hremote : P l.remote)
    (hwrite : ∀ w ∈ l.writes, ∀ s, P s → P (perform s w)) :
    P (l.view perform) :=
  List.foldlRecOn _ _ hremote fun s hs w hw => hwrite w hw s hs

/-! ## The only writer -/

/-- A write that is done again makes no difference when it is done for the first time, at once or
after another one. -/
structure Overwrites (perform : σ → ω → σ) : Prop where
  again : ∀ s w, perform (perform s w) w = perform s w
  after : ∀ s v w, perform (perform (perform s w) v) w = perform (perform s v) w

/-- The same for all writes of a list. -/
theorem Overwrites.foldl_foldl (h : Overwrites perform) : ∀ (ws vs : List ω) (s : σ),
    ws.foldl perform (vs.foldl perform (ws.foldl perform s)) =
      ws.foldl perform (vs.foldl perform s) := by
  -- a single write first, on both sides of a list
  have single : ∀ (w : ω) (vs : List ω) (s : σ),
      perform (vs.foldl perform (perform s w)) w = perform (vs.foldl perform s) w := by
    intro w vs
    induction vs with
    | nil => exact fun s => h.again s w
    | cons v vs ih =>
      intro s
      calc perform (vs.foldl perform (perform (perform s w) v)) w
          = perform (vs.foldl perform (perform (perform (perform s w) v) w)) w := (ih _).symm
        _ = perform (vs.foldl perform (perform (perform s v) w)) w := by rw [h.after]
        _ = perform (vs.foldl perform (perform s v)) w := ih _
  intro ws
  induction ws with
  | nil => exact fun _ _ => rfl
  | cons w ws ih =>
    intro vs s
    have hcons := ih (vs ++ [w]) (perform s w)
    simp only [List.foldl_append, List.foldl_cons, List.foldl_nil] at hcons ⊢
    rw [hcons, single]

/-- What was received, with the writes over it that were taken since, is the state of the
server. -/
def Tracks (perform : σ → ω → σ) (l : LocalStore σ ω) (server : σ) : Prop :=
  (l.committed ++ l.served).foldl perform l.remote = server

namespace Tracks

variable {server : σ}

theorem initial : Tracks perform (LocalStore.initial server) server :=
  rfl

theorem write (h : Tracks perform l server) : Tracks perform (l.write ws) server :=
  h

theorem serve (h : Tracks perform l server) (hs : l.serve = some (w, l')) :
    Tracks perform l' (perform server w) := by
  obtain ⟨pending, -, rfl⟩ := serve_eq_some.mp hs
  rw [← show (l.committed ++ l.served).foldl perform l.remote = server from h]
  simp [Tracks, List.foldl_append]

theorem acknowledge (h : Tracks perform l server) (hs : l.acknowledge = some (w, l')) :
    Tracks perform l' server := by
  obtain ⟨served, hsv, rfl⟩ := acknowledge_eq_some.mp hs
  rw [← show (l.committed ++ l.served).foldl perform l.remote = server from h]
  simp [Tracks, hsv]

/-- The state that comes has the writes that were taken, acknowledged or not. -/
theorem receive (h : Tracks perform l server) (hover : Overwrites perform) :
    Tracks perform (l.receive server) server := by
  have hserver : l.served.foldl perform (l.committed.foldl perform l.remote) = server := by
    rw [← List.foldl_append]
    exact h
  change l.served.foldl perform server = server
  rw [← hserver]
  exact hover.foldl_foldl l.served [] _

/-- The view is what the server will have. -/
theorem view (h : Tracks perform l server) : l.view perform = l.pending.foldl perform server := by
  rw [← show (l.committed ++ l.served).foldl perform l.remote = server from h]
  simp [LocalStore.view, writes, unacknowledged, List.foldl_append]

end Tracks

end LocalStore
