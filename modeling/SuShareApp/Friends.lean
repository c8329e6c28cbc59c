import SuShareApp.Library.TransitionSystem
import SuShareApp.Service

/-!
# Friends

The four operations that share the friends collection. `databaseAddFriend` writes the id of
the added user under `userId`, and nothing about who added him ; `checkForFriendship` asks
for a field `friend`, `updateUserFriend` for `currentUser` and `friendUsername`. These are the
fields of `createDatabaseFriend`, which no screen calls. `databaseRemoveFriend` asks for two
values of `userId` at once.

So a check never reports anybody, and every list of friends is empty, whatever was added
(`FriendsWritten`). They are right only as long as there is nothing to report
(`agrees_iff`).
-/

namespace SuShareApp

/-- A call by a signed-in user, with the id that `document()` draws for an add. -/
inductive FriendCall
  | databaseAddFriend (auth : AuthUser) (docRef : String) (user : User)
  | databaseRemoveFriend (auth : AuthUser) (user : User)
  | checkForFriendship (auth : AuthUser) (user : User)
  | updateUserFriend (auth : AuthUser)
deriving DecidableEq, Repr

/-- The collections of the service. -/
abbrev Collections := CollectionPath → Collection String Dictionary

namespace FriendCall

/-- The collections when the call is finished. No document has the id that an add draws. -/
def perform (cs : Collections) : FriendCall → Option Collections
  | .databaseAddFriend _ docRef user =>
    if ((cs .friendsCollection).get? docRef).isNone then
      ((DatabaseService.databaseAddFriend docRef user).run cs).map Prod.snd
    else none
  | .databaseRemoveFriend auth user =>
    ((DatabaseService.databaseRemoveFriend (some auth) user).run cs).map Prod.snd
  | .checkForFriendship _ user => ((DatabaseService.checkForFriendship user).run cs).map Prod.snd
  | .updateUserFriend auth => ((DatabaseService.updateUserFriend (some auth)).run cs).map Prod.snd

/-- Whose friendship with whom the call changes. -/
def changes : FriendCall → Option (String × String)
  | .databaseAddFriend auth _ user | .databaseRemoveFriend auth user =>
    some (auth.uid, user.userId)
  | _ => none

def addedUser : FriendCall → Option User
  | .databaseAddFriend _ _ user => some user
  | _ => none

end FriendCall

/-- Calls one after another, from an empty friends collection. -/
def friendCalls : TransitionSystem Collections FriendCall where
  init cs := cs .friendsCollection = .empty
  step := FriendCall.perform

namespace Friends

open DatabaseService

variable {cs cs' : Collections} {calls : List FriendCall} {call : FriendCall}

/-- The user that the last add or remove of `b` by `a` added. -/
def added (calls : List FriendCall) (a b : String) : Option User :=
  (calls.reverse.find? fun call => call.changes = some (a, b)).bind FriendCall.addedUser

/-- A check by the signed-in user reports a friendship. -/
def Reports (cs : Collections) (_ : AuthUser) (user : User) : Prop :=
  ∃ results cs', (checkForFriendship user).run cs = some (results, cs') ∧ .ok true ∈ results

/-- The checks and the lists of friends are those that the calls so far make. -/
structure Agrees (calls : List FriendCall) (cs : Collections) : Prop where
  check : ∀ (a : AuthUser) (b : User), Reports cs a b ↔ (added calls a.uid b.userId).isSome
  list : ∀ a : AuthUser, ∃ names cs', (updateUserFriend (some a)).run cs =
    some ([.ok names], cs') ∧ ∀ name, name ∈ names ↔
      ∃ b user, added calls a.uid b = some user ∧ user.username = name

/-- What `databaseAddFriend` writes has none of the fields that the other operations ask for. -/
def FriendsWritten (cs : Collections) : Prop :=
  ∀ id doc, (cs .friendsCollection).get? id = some doc →
    doc "friend" = none ∧ doc "currentUser" = none

/-! ## The calls -/

theorem run_checkForFriendship (user : User) : (checkForFriendship user).run cs =
    some (if ((cs .friendsCollection).query (whereField "friend" user.userId)).length > 0 then
      [.ok true] else [], cs) := by
  refine DocumentOperation.run_of_answer rfl ?_
  simp only [DocumentOperation.answer]
  split <;> rfl

theorem run_updateUserFriend {auth : AuthUser} {names : List String}
    (h : friendUsernames ((cs .friendsCollection).query (whereField "currentUser" auth.uid)) =
      some names) : (updateUserFriend (some auth)).run cs = some ([.ok names], cs) := by
  refine DocumentOperation.run_of_answer rfl ?_
  simp only [DocumentOperation.answer, h]
  rfl

theorem run_databaseRemoveFriend (cs : Collections) (auth : AuthUser) (user : User) :
    ∃ results, ∃ ids : List String, (databaseRemoveFriend (some auth) user).run cs =
      some (results, Function.update cs .friendsCollection
        (ids.foldl Collection.delete (cs .friendsCollection))) :=
  ⟨_, _, DocumentOperation.run_of_deletingEach rfl rfl⟩

namespace FriendsWritten

variable (h : FriendsWritten cs)
include h

/-- A query for a field that no document has finds nothing. -/
theorem query_eq_nil {field value : String} (hf : field = "friend" ∨ field = "currentUser") :
    (cs .friendsCollection).query (whereField field value) = [] := by
  refine List.eq_nil_iff_forall_not_mem.mpr fun e he => ?_
  obtain ⟨hd, hv⟩ := Collection.mem_query.mp he
  obtain ⟨hfriend, hcurrent⟩ := h e.1 e.2 hd
  rcases hf with rfl | rfl
  · simp [whereField, hfriend] at hv
  · simp [whereField, hcurrent] at hv

/-- A check is not answered. -/
theorem check (user : User) : (checkForFriendship user).run cs = some ([], cs) := by
  rw [run_checkForFriendship, h.query_eq_nil (Or.inl rfl)]
  rfl

/-- A list of friends is empty. -/
theorem list (auth : AuthUser) : (updateUserFriend (some auth)).run cs = some ([.ok []], cs) := by
  refine run_updateUserFriend ?_
  rw [h.query_eq_nil (Or.inr rfl)]
  rfl

theorem perform (hs : call.perform cs = some cs') : FriendsWritten cs' := by
  cases call with
  | databaseAddFriend auth docRef user =>
    obtain ⟨-, hs⟩ := Option.ite_none_right_eq_some.mp hs
    obtain rfl : Function.update cs .friendsCollection _ = cs' := Option.some.inj hs
    intro id doc hd
    rw [Function.update_self, Collection.get?_setData] at hd
    split_ifs at hd
    · obtain rfl := Option.some.inj hd
      exact ⟨rfl, rfl⟩
    · exact h id doc hd
  | databaseRemoveFriend auth user =>
    obtain ⟨results, ids, hrun⟩ := run_databaseRemoveFriend cs auth user
    rw [FriendCall.perform, hrun] at hs
    obtain rfl : Function.update cs .friendsCollection _ = cs' := Option.some.inj hs
    intro id doc hd
    rw [Function.update_self, Collection.get?_foldl_delete] at hd
    exact h id doc (Option.ite_none_left_eq_some.mp hd).2
  | checkForFriendship auth user =>
    rw [FriendCall.perform, h.check] at hs
    obtain rfl := Option.some.inj hs
    exact h
  | updateUserFriend auth =>
    rw [FriendCall.perform, h.list] at hs
    obtain rfl := Option.some.inj hs
    exact h

end FriendsWritten

theorem friendsWritten (h : friendCalls.Run calls cs) : FriendsWritten cs := by
  refine h.invariant (I := fun _ cs => FriendsWritten cs) (fun cs h0 => ?_)
    fun _ _ _ _ _ hw hs => hw.perform hs
  have h0 : cs .friendsCollection = .empty := h0
  intro id doc hd
  simp [h0] at hd

/-! ## What they agree on -/

/-- The checks and the lists agree with the calls exactly if nobody is left whom somebody
added last. -/
theorem agrees_iff (h : friendCalls.Run calls cs) :
    Agrees calls cs ↔ ∀ a b, added calls a b = none := by
  have hw := friendsWritten h
  constructor
  · intro hagrees a b
    refine Option.eq_none_iff_forall_ne_some.mpr fun user hadded => ?_
    have hcheck := (hagrees.check ⟨a, none, none⟩ ⟨"", "", b, "", "", ""⟩).mpr (by simp [hadded])
    obtain ⟨results, cs', hrun, hmem⟩ := hcheck
    rw [hw.check] at hrun
    obtain ⟨rfl, -⟩ := Prod.ext_iff.mp (Option.some.inj hrun)
    cases hmem
  · intro hnone
    refine ⟨fun a b => ?_, fun a => ⟨[], cs, hw.list a, fun name => ?_⟩⟩
    · refine iff_of_false ?_ (by simp [hnone])
      rintro ⟨results, cs', hrun, hmem⟩
      rw [hw.check] at hrun
      obtain ⟨rfl, -⟩ := Prod.ext_iff.mp (Option.some.inj hrun)
      cases hmem
    · simp [hnone]

/-- Ann adds Bob. -/
def addingBob : List FriendCall :=
  [.databaseAddFriend ⟨"ann", some "Ann", none⟩ "f1" ⟨"Bob", "", "bob", "", "", ""⟩]

/-- She removes him again, and looks at her friends. -/
def removingBob : List FriendCall :=
  addingBob ++ [.databaseRemoveFriend ⟨"ann", some "Ann", none⟩ ⟨"Bob", "", "bob", "", "", ""⟩,
    .updateUserFriend ⟨"ann", some "Ann", none⟩]

/-- Nobody is left to report. -/
theorem agrees_iff_removingBob : ∃ cs, friendCalls.Run removingBob cs ∧ Agrees removingBob cs := by
  have h0 : friendCalls.init fun _ => .empty := rfl
  obtain ⟨cs, hrun, -⟩ : ∃ cs, friendCalls.Run removingBob cs ∧ True :=
    TransitionSystem.exists_run_of_exec _ _ h0 (by decide +kernel)
  refine ⟨cs, hrun, (agrees_iff hrun).mpr fun a b => ?_⟩
  by_cases h : "ann" = a ∧ "bob" = b <;>
    simp [added, removingBob, addingBob, FriendCall.changes, FriendCall.addedUser, h]

/-- After the add alone, Ann's check does not report Bob. -/
theorem not_agrees : ¬ ∀ (calls : List FriendCall) (cs : Collections),
    friendCalls.Run calls cs → Agrees calls cs := by
  intro h
  have h0 : friendCalls.init fun _ => .empty := rfl
  obtain ⟨cs, hrun, -⟩ : ∃ cs, friendCalls.Run addingBob cs ∧ True :=
    TransitionSystem.exists_run_of_exec _ _ h0 (by decide +kernel)
  have hcheck := (h addingBob cs hrun).check ⟨"ann", some "Ann", none⟩
    ⟨"Bob", "", "bob", "", "", ""⟩
  obtain ⟨results, cs', hanswer, hmem⟩ := hcheck.mpr (by decide +kernel)
  rw [(friendsWritten hrun).check] at hanswer
  obtain ⟨rfl, -⟩ := Prod.ext_iff.mp (Option.some.inj hanswer)
  cases hmem

end Friends

end SuShareApp
