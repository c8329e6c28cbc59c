import SuShareApp.Library.TransitionSystem
import SuShareApp.DatabaseService
import Mathlib.Data.List.Nodup

/-!
# The feed of updates

Updates are added for the owner of a SuShare, listed for the user they are addressed to, and
removed through the id that their document carries in its body. A call is finished before
the next starts, and an update is removed by somebody who got it from a listing, as often as
he likes.

`document()` draws a new id each time, and `addUpdate` writes it into the document that it
creates, so the id that is decoded is the one the document is stored under. Of the time, the whole
microseconds are stored. The collection is then determined by the calls (`Holds`) : the documents
of the adds whose id no removed update carries.
-/

namespace SuShareApp

/-- The update that an add is about. -/
def Update.added (user : User) (suShare : SuShare) (docRef : String) (createdAt : Timestamp) :
    Update where
  userId := suShare.userId
  createdAt
  userJoined := user.username
  susuTitle := suShare.susuTitle
  userJoinedPhoto := user.profilePhoto
  updateId := docRef

inductive UpdateCall
  | addUpdate (user : User) (suShare : SuShare) (docRef : String) (now : Timestamp)
  | getUserUpdates (currentUser : AuthUser) (now : Timestamp)
  | removeUpdate (update : Update)
deriving DecidableEq, Repr

/-- The store, the ids drawn, and the updates that somebody got from a listing. -/
structure UpdatesFeed where
  db : Store
  drawn : List String
  held : List Update

namespace UpdatesFeed

def step (s : UpdatesFeed) : UpdateCall → Option UpdatesFeed
  | .addUpdate user suShare docRef now =>
    if docRef ∈ s.drawn then none
    else some { s with db := s.db.addUpdate user suShare docRef now, drawn := docRef :: s.drawn }
  | .getUserUpdates currentUser now =>
    some { s with held := s.db.getUserUpdates now currentUser ++ s.held }
  | .removeUpdate update =>
    if update ∈ s.held then some { s with db := s.db.removeUpdate update } else none

end UpdatesFeed

/-- Calls one after another, from a store without updates. -/
def updateCalls : TransitionSystem UpdatesFeed UpdateCall where
  init s := s.db.updates = .empty ∧ s.drawn = [] ∧ s.held = []
  step := UpdatesFeed.step

namespace UpdatesFeed

variable {calls : List UpdateCall} {call : UpdateCall} {s s' : UpdatesFeed} {up : Update}

/-- A document that an add wrote is decoded as it was written, but for the precision of the
time. -/
theorem init_updateDocument (user : User) (suShare : SuShare) (docRef : String)
    (now now' : Timestamp) : Update.init now' (Store.updateDocument user suShare docRef now) =
      Update.added user suShare docRef now.truncate := by
  simp [Update.init, Store.updateDocument, Update.added, Dictionary.read, FieldValue.asString,
    FieldValue.asTimestamp]

/-- The update is that of an add among the calls, with the time in whole microseconds. -/
def IsAdded (calls : List UpdateCall) (up : Update) : Prop :=
  ∃ user suShare docRef now, .addUpdate user suShare docRef now ∈ calls ∧
    up = Update.added user suShare docRef now.truncate

/-- The updates that the calls removed. -/
def IsRemoved (calls : List UpdateCall) (id : String) : Prop :=
  ∃ up, .removeUpdate up ∈ calls ∧ up.updateId = id

/-- The collection after the calls : the documents that were added and not removed. -/
structure Holds (calls : List UpdateCall) (s : UpdatesFeed) : Prop where
  stored : ∀ id doc, s.db.updates.get? id = some doc ↔ (∃ user suShare now,
    .addUpdate user suShare id now ∈ calls ∧ doc = Store.updateDocument user suShare id now) ∧
      ¬IsRemoved calls id
  drawn : ∀ up, IsAdded calls up → up.updateId ∈ s.drawn
  unique : ∀ up up', IsAdded calls up → IsAdded calls up' → up.updateId = up'.updateId → up = up'
  held : ∀ up ∈ s.held, IsAdded calls up
  removed : ∀ up, .removeUpdate up ∈ calls → IsAdded calls up

/-- What the listing of a user is made of. -/
theorem mem_getUserUpdates {db : Store} {now : Timestamp} {user : AuthUser} :
    up ∈ db.getUserUpdates now user ↔ ∃ id doc, db.updates.get? id = some doc ∧
      doc "userId" = some (.string user.uid) ∧ Update.init now doc = up := by
  unfold Store.getUserUpdates
  rw [List.mem_map]
  constructor
  · rintro ⟨⟨id, doc⟩, hd, rfl⟩
    obtain ⟨hd, hu⟩ := Collection.mem_query.mp hd
    exact ⟨id, doc, hd, by simpa using hu, rfl⟩
  · rintro ⟨id, doc, hd, hu, rfl⟩
    exact ⟨(id, doc), Collection.mem_query.mpr ⟨hd, by simpa using hu⟩, rfl⟩

theorem IsAdded.append (h : IsAdded calls up) : IsAdded (calls ++ [call]) up := by
  obtain ⟨user, suShare, docRef, now, hc, rfl⟩ := h
  exact ⟨user, suShare, docRef, now, List.mem_append_left _ hc, rfl⟩

/-- An update is added by the last call, or was before. -/
theorem IsAdded.of_append (h : IsAdded (calls ++ [call]) up) : IsAdded calls up ∨
    ∃ user suShare docRef now, call = .addUpdate user suShare docRef now ∧
      up = Update.added user suShare docRef now.truncate := by
  obtain ⟨user, suShare, docRef, now, hc, rfl⟩ := h
  rcases List.mem_append.mp hc with hc | hc
  · exact Or.inl ⟨user, suShare, docRef, now, hc, rfl⟩
  · exact Or.inr ⟨user, suShare, docRef, now, (List.mem_singleton.mp hc).symm, rfl⟩

namespace Holds

theorem initial (h : updateCalls.init s) : Holds [] s := by
  obtain ⟨hdb, hdrawn, hheld⟩ := h
  refine ⟨fun id doc => ?_, ?_, ?_, ?_, ?_⟩ <;> simp [hdb, hheld, IsAdded]

variable (h : Holds calls s)
include h

/-- An id that is drawn now was neither added nor removed under. -/
theorem new_of_notMem {docRef : String} (hnew : docRef ∉ s.drawn) :
    (∀ up, IsAdded calls up → up.updateId ≠ docRef) ∧ ¬IsRemoved calls docRef := by
  have hadded : ∀ up, IsAdded calls up → up.updateId ≠ docRef := by
    rintro up hup rfl
    exact hnew (h.drawn up hup)
  refine ⟨hadded, ?_⟩
  rintro ⟨up, hup, he⟩
  exact hadded up (h.removed up hup) he

theorem addUpdate {user : User} {suShare : SuShare} {docRef : String} {now : Timestamp}
    (hnew : docRef ∉ s.drawn) : Holds (calls ++ [.addUpdate user suShare docRef now])
      { s with db := s.db.addUpdate user suShare docRef now, drawn := docRef :: s.drawn } := by
  obtain ⟨hadded, hremoved⟩ := h.new_of_notMem hnew
  have hcases : ∀ {up}, IsAdded (calls ++ [.addUpdate user suShare docRef now]) up →
      IsAdded calls up ∨ up = Update.added user suShare docRef now.truncate := by
    intro up hup
    rcases hup.of_append with hup | ⟨_, _, _, _, he, rfl⟩
    · exact Or.inl hup
    · cases he
      exact Or.inr rfl
  refine ⟨fun id doc => ?_, fun up hup => ?_, fun up up' hup hup' he => ?_,
    fun up hup => (h.held up hup).append, fun up hup => ?_⟩
  · have hrem : IsRemoved (calls ++ [.addUpdate user suShare docRef now]) id ↔
        IsRemoved calls id := by
      simp [IsRemoved]
    change (s.db.updates.setData docRef _).get? id = some doc ↔ _
    rw [hrem, Collection.get?_setData]
    split_ifs with hid
    · subst hid
      constructor
      · intro he
        obtain rfl := Option.some.inj he
        exact ⟨⟨user, suShare, now, by simp, rfl⟩, hremoved⟩
      · rintro ⟨⟨user', suShare', now', hc, rfl⟩, -⟩
        rcases List.mem_append.mp hc with hc | hc
        · exact (hadded _ ⟨user', suShare', id, now', hc, rfl⟩ rfl).elim
        · obtain he := List.mem_singleton.mp hc
          cases he
          rfl
    · rw [h.stored id doc]
      refine and_congr_left fun _ => exists_congr fun user' => exists_congr fun suShare' =>
        exists_congr fun now' => and_congr_left fun _ => ?_
      simp [hid]
  · rcases hcases hup with hup | rfl
    · exact List.mem_cons_of_mem _ (h.drawn up hup)
    · exact List.mem_cons_self
  · rcases hcases hup with hup | rfl <;> rcases hcases hup' with hup' | rfl
    · exact h.unique up up' hup hup' he
    · exact (hadded up hup he).elim
    · exact (hadded up' hup' he.symm).elim
    · rfl
  · refine (h.removed up ?_).append
    simpa using hup

/-- What somebody gets from a listing was added. -/
theorem getUserUpdates {currentUser : AuthUser} {now : Timestamp} :
    Holds (calls ++ [.getUserUpdates currentUser now])
      { s with held := s.db.getUserUpdates now currentUser ++ s.held } := by
  have hold : ∀ {up}, IsAdded (calls ++ [.getUserUpdates currentUser now]) up →
      IsAdded calls up := by
    intro up hup
    rcases hup.of_append with hup | ⟨_, _, _, _, he, -⟩
    · exact hup
    · cases he
  refine ⟨fun id doc => ?_, fun up hup => h.drawn up (hold hup),
    fun up up' hup hup' => h.unique up up' (hold hup) (hold hup'), fun up hup => ?_,
    fun up hup => ?_⟩
  · simpa [IsRemoved] using h.stored id doc
  · rcases List.mem_append.mp hup with hup | hup
    · obtain ⟨id, doc, hd, -, rfl⟩ := mem_getUserUpdates.mp hup
      obtain ⟨⟨user, suShare, now', hc, rfl⟩, -⟩ := (h.stored id doc).mp hd
      rw [init_updateDocument]
      exact IsAdded.append ⟨user, suShare, id, now', hc, rfl⟩
    · exact (h.held up hup).append
  · refine (h.removed up ?_).append
    simpa using hup

theorem removeUpdate (hup : up ∈ s.held) :
    Holds (calls ++ [.removeUpdate up]) { s with db := s.db.removeUpdate up } := by
  have hold : ∀ {up'}, IsAdded (calls ++ [.removeUpdate up]) up' → IsAdded calls up' := by
    intro up' hup'
    rcases hup'.of_append with hup' | ⟨_, _, _, _, he, -⟩
    · exact hup'
    · cases he
  refine ⟨fun id doc => ?_, fun up' hup' => h.drawn up' (hold hup'),
    fun up₁ up₂ h₁ h₂ => h.unique up₁ up₂ (hold h₁) (hold h₂),
    fun up' hup' => (h.held up' hup').append,
    fun up' hup' => ?_⟩
  · have hrem : IsRemoved (calls ++ [.removeUpdate up]) id ↔
        IsRemoved calls id ∨ up.updateId = id := by
      simp [IsRemoved, or_and_right, exists_or]
    change (s.db.updates.delete up.updateId).get? id = some doc ↔ _
    rw [hrem, Collection.get?_delete]
    split_ifs with hid
    · simp [hid]
    · simpa [Ne.symm hid] using h.stored id doc
  · rcases List.mem_append.mp hup' with hup' | hup'
    · exact (h.removed up' hup').append
    · obtain he := List.mem_singleton.mp hup'
      cases he
      exact (h.held up hup).append

omit h in
theorem step (h : Holds calls s) (hs : s.step call = some s') : Holds (calls ++ [call]) s' := by
  cases call with
  | addUpdate user suShare docRef now =>
    obtain ⟨hnew, hs⟩ := Option.ite_none_left_eq_some.mp hs
    obtain rfl := Option.some.inj hs
    exact h.addUpdate hnew
  | getUserUpdates currentUser now =>
    obtain rfl := Option.some.inj hs
    exact h.getUserUpdates
  | removeUpdate update =>
    obtain ⟨hup, hs⟩ := Option.ite_none_right_eq_some.mp hs
    obtain rfl := Option.some.inj hs
    exact h.removeUpdate hup

end Holds

theorem holds (h : updateCalls.Run calls s) : Holds calls s :=
  h.invariant (fun _ h0 => .initial h0) fun _ _ _ _ _ ih hs => ih.step hs

namespace Holds

variable (h : Holds calls s)
include h

/-- The id that a stored document is decoded with is its own. -/
theorem updateId_init {id : String} {doc : Dictionary} (hd : s.db.updates.get? id = some doc)
    (now : Timestamp) :
    IsAdded calls (Update.init now doc) ∧ (Update.init now doc).updateId = id := by
  obtain ⟨⟨user, suShare, now', hc, rfl⟩, -⟩ := (h.stored id doc).mp hd
  rw [init_updateDocument]
  exact ⟨⟨user, suShare, id, now', hc, rfl⟩, rfl⟩

theorem mem_iff (now : Timestamp) (user : AuthUser) (up : Update) :
    up ∈ s.db.getUserUpdates now user ↔
      up.userId = user.uid ∧ IsAdded calls up ∧ .removeUpdate up ∉ calls := by
  rw [mem_getUserUpdates]
  constructor
  · rintro ⟨id, doc, hd, hu, rfl⟩
    obtain ⟨⟨adder, suShare, now', hc, rfl⟩, hremoved⟩ := (h.stored id doc).mp hd
    rw [init_updateDocument]
    refine ⟨?_, ⟨adder, suShare, id, now', hc, rfl⟩, fun hr => hremoved ⟨_, hr, rfl⟩⟩
    simpa [Store.updateDocument, Update.added] using hu
  · rintro ⟨hu, ⟨adder, suShare, docRef, now', hc, rfl⟩, hr⟩
    refine ⟨docRef, _, (h.stored docRef _).mpr ⟨⟨adder, suShare, now', hc, rfl⟩, ?_⟩, ?_,
      init_updateDocument adder suShare docRef now' now⟩
    · rintro ⟨up', hr', he⟩
      -- a removed update with the id is this one
      have heq := h.unique up' _ (h.removed up' hr') ⟨adder, suShare, docRef, now', hc, rfl⟩ he
      exact hr (heq ▸ hr')
    · simpa [Store.updateDocument, Update.added] using hu

theorem nodup (now : Timestamp) (user : AuthUser) : (s.db.getUserUpdates now user).Nodup := by
  refine List.Nodup.of_map Update.updateId ?_
  have hids : (s.db.getUserUpdates now user).map Update.updateId =
      (s.db.updates.query fun d => d "userId" = some (.string user.uid)).map Prod.fst := by
    unfold Store.getUserUpdates
    rw [List.map_map]
    refine List.map_congr_left fun e he => ?_
    exact (h.updateId_init (Collection.mem_query.mp he).1 now).2
  rw [hids]
  exact s.db.updates.nodup_ids.sublist (List.filter_sublist.map _)

/-- A removal takes its update out of every listing, and nothing else. -/
theorem getUserUpdates_removeUpdate (hup : up ∈ s.held) (now : Timestamp) (user : AuthUser) :
    (s.db.removeUpdate up).getUserUpdates now user =
      (s.db.getUserUpdates now user).filter fun other => other ≠ up := by
  unfold Store.getUserUpdates
  rw [List.filter_map]
  refine congrArg _ ?_
  change (s.db.updates.docs.filter _).filter _ = _
  rw [List.filter_comm]
  refine List.filter_congr fun e he => ?_
  have hd : s.db.updates.get? e.1 = some e.2 :=
    Collection.mem_docs_iff.mp (List.mem_of_mem_filter he)
  obtain ⟨hadded, hid⟩ := h.updateId_init hd now
  refine decide_eq_decide.mpr (not_congr ⟨fun he => ?_, fun he => ?_⟩)
  · exact h.unique _ up hadded (h.held up hup) (hid.trans he)
  · exact hid.symm.trans (congrArg Update.updateId he)

end Holds

/-- The listing of a user is made of the updates that were added for him and not removed, each
once and as it was added, with the time in whole microseconds, and a removal concerns no other
update of anybody. -/
theorem feed_exact (h : updateCalls.Run calls s) :
    (∀ (now : Timestamp) (user : AuthUser) (up : Update), up ∈ s.db.getUserUpdates now user ↔
      up.userId = user.uid ∧ IsAdded calls up ∧ .removeUpdate up ∉ calls) ∧
    (∀ (now : Timestamp) (user : AuthUser), (s.db.getUserUpdates now user).Nodup) ∧
    ∀ up ∈ s.held, ∀ (now : Timestamp) (user : AuthUser),
      (s.db.removeUpdate up).getUserUpdates now user =
        (s.db.getUserUpdates now user).filter fun other => other ≠ up :=
  ⟨(holds h).mem_iff, (holds h).nodup, fun _ hup => (holds h).getUserUpdates_removeUpdate hup⟩

/-- The user of Bob's and Cat's joins. -/
def joiner (username : String) : User :=
  ⟨username, "", "", "no photo", "", ""⟩

/-- Ann's SuShare, as an update names it. -/
def joined : SuShare :=
  .init ⟨0, 0⟩ (.ofList [("userId", .string "ann"), ("susuTitle", .string "Roof")])

/-- Bob and Cat join, and Ann lists the two updates and removes Bob's twice. -/
def removingTwice : List UpdateCall :=
  [.addUpdate (joiner "Bob") joined "u1" ⟨1, 1500⟩,
    .addUpdate (joiner "Cat") joined "u2" ⟨2, 2700⟩, .getUserUpdates ⟨"ann", none, none⟩ ⟨3, 0⟩,
    .removeUpdate (.added (joiner "Bob") joined "u1" ⟨1, 1000⟩),
    .removeUpdate (.added (joiner "Bob") joined "u1" ⟨1, 1000⟩)]

/-- A store with nothing in it. -/
def noUpdates : UpdatesFeed :=
  ⟨⟨.empty, .empty, .empty, .empty, .empty, fun _ => .empty⟩, [], []⟩

/-- Cat's update is left, under its time in whole microseconds. -/
theorem feed_exact_removingTwice : ∃ s, updateCalls.Run removingTwice s ∧
    Update.added (joiner "Cat") joined "u2" ⟨2, 2000⟩ ∈
      s.db.getUserUpdates ⟨4, 0⟩ ⟨"ann", none, none⟩ ∧
    Update.added (joiner "Bob") joined "u1" ⟨1, 1000⟩ ∉
      s.db.getUserUpdates ⟨4, 0⟩ ⟨"ann", none, none⟩ := by
  have h0 : updateCalls.init noUpdates := ⟨rfl, rfl, rfl⟩
  obtain ⟨s, hrun, -⟩ : ∃ s, updateCalls.Run removingTwice s ∧ True :=
    TransitionSystem.exists_run_of_exec _ _ h0 (by decide +kernel)
  have hfeed := (feed_exact hrun).1 ⟨4, 0⟩ ⟨"ann", none, none⟩
  refine ⟨s, hrun, (hfeed _).mpr ⟨rfl, ⟨joiner "Cat", joined, "u2", ⟨2, 2700⟩, ?_, rfl⟩, ?_⟩,
    fun hup => ?_⟩
  · simp [removingTwice]
  · decide +kernel
  · exact ((hfeed _).mp hup).2.2 (by simp [removingTwice])

/-- The time that an update is listed with is not the one it was added at. -/
theorem not_feed_exact : ¬ ∀ (calls : List UpdateCall) (s : UpdatesFeed), updateCalls.Run calls s →
    ∀ (now : Timestamp) (user : AuthUser), ∀ up ∈ s.db.getUserUpdates now user,
      ∃ adder suShare docRef date, .addUpdate adder suShare docRef date ∈ calls ∧
        up = Update.added adder suShare docRef date := by
  intro h
  have h0 : updateCalls.init noUpdates := ⟨rfl, rfl, rfl⟩
  obtain ⟨s, hrun, hup⟩ := TransitionSystem.exists_run_of_exec
    [.addUpdate (joiner "Bob") joined "u1" ⟨1, 1500⟩]
    (fun s => Update.added (joiner "Bob") joined "u1" ⟨1, 1000⟩ ∈
      s.db.getUserUpdates ⟨4, 0⟩ ⟨"ann", none, none⟩) h0 (by decide +kernel)
  obtain ⟨adder, suShare, docRef, date, hadd, he⟩ := h _ s hrun _ _ _ hup
  obtain ⟨-, -, -, rfl⟩ := UpdateCall.addUpdate.inj (List.mem_singleton.mp hadd)
  have hdate : (⟨1, 1000⟩ : Timestamp) = ⟨1, 1500⟩ := congrArg Update.createdAt he
  exact absurd hdate (by decide)

end UpdatesFeed

end SuShareApp
