import SuShareApp.DatabaseService
import SuShareApp.Library.DocumentStore
import Mathlib.Data.List.Sort

/-!
# The calls of the database service

Every operation of `DatabaseService` as the screens call it : the request that it issues for
the signed-in user, and the handler that turns the answer of Firestore into calls of the
completion closure. Most of them have one of two handlers, that of a write (`completing`)
and that of a read which completes with what it decoded (`answering`).

A screen relies on an operation to answer exactly once. Seven operations do so for some
outcomes of their request only, and one does not issue a request for a user without a
display name ; `ServiceCall.Answers` lists when they do.

Served on its own, a call does to the collections what the operation of `Store` with its
name does, and completes with what that returns (`run_addUpdate` and the others).
-/

namespace SuShareApp

structure FirestoreError where
  localizedDescription : String
deriving DecidableEq, Repr

/-- The collections of the service, under the names of their constants. The comments are a
subcollection of each suShare document. -/
inductive CollectionPath
  | suShareCollection
  | userCollection
  | commentCollection (suShareId : String)
  | favoriteCollection
  | friendsCollection
  | updatesCollection
  | flaggedCollection
deriving DecidableEq

/-- A document that a query found, with its id. -/
abbrev Document := String × Dictionary

abbrev Completion (α : Type) := HandlerStep CollectionPath String Dictionary FirestoreError α

/-- An operation whose request returns `σ` and which completes with `α`. -/
abbrev ServiceOperation (σ α : Type) :=
  DocumentOperation CollectionPath String Dictionary FirestoreError σ α

/-- What a call does at once : it returns because a guard failed, crashes, or issues its
request. -/
inductive Invocation (σ α : Type)
  | returns
  | fatalError
  | issues (operation : ServiceOperation σ α)

/-- What Swift's strings are sorted with. -/
structure TextOrder where
  lowercased : String → String
  less : String → String → Bool

/-- `sorted {$0.key.lowercased() < $1.key.lowercased()}` -/
def TextOrder.sorted {α : Type} (t : TextOrder) (key : α → String) (l : List α) : List α :=
  l.insertionSort fun a b => t.less (t.lowercased (key b)) (t.lowercased (key a)) = false

namespace DatabaseService

/-- `whereField(field, isEqualTo: value)` -/
def whereField (field value : String) (d : Dictionary) : Bool :=
  d field = some (.string value)

/-! ## Handlers -/

/-- The handler of a write. -/
def completing (_ : Option Unit) (error : Option FirestoreError) : List (Completion Bool) :=
  match error with
  | some error => [.complete (.error error)]
  | none => [.complete (.ok true)]

/-- The handler of a read that completes with what it decodes. -/
def answering {σ α : Type} (decode : σ → α) (snapshot : Option σ)
    (error : Option FirestoreError) : List (Completion α) :=
  match error with
  | some error => [.complete (.error error)]
  | none =>
    match snapshot with
    | some snapshot => [.complete (.ok (decode snapshot))]
    | none => []

/-- The handler of a read of a user. An absent document is not answered. -/
def answeringUser (snapshot : Option (Option Dictionary)) (error : Option FirestoreError) :
    List (Completion User) :=
  match error with
  | some error => [.complete (.error error)]
  | none =>
    match snapshot with
    | some (some snapshotUser) => [.complete (.ok (User.init snapshotUser))]
    | _ => []

/-- The handler that deletes what a query found, and completes at each document. -/
def deletingEach (path : CollectionPath) (snapshot : Option (List Document))
    (error : Option FirestoreError) : List (Completion Bool) :=
  match error with
  | some error => [.complete (.error error)]
  | none =>
    match snapshot with
    | some documents => documents.flatMap fun document =>
      [.issue (.delete path document.1), .complete (.ok true)]
    | none => []

/-! ## Operations -/

section Operations

variable (t : TextOrder) (auth : Option AuthUser) (docRef : String) (now : Timestamp)

/-- `guard let user = Auth.auth().currentUser else { return }` -/
def withUser {σ α : Type} (auth : Option AuthUser) (operation : AuthUser → ServiceOperation σ α) :
    Invocation σ α :=
  match auth with
  | some user => .issues (operation user)
  | none => .returns

def flagASuShare (suShare : SuShare) : Invocation Unit Bool :=
  withUser auth fun user =>
    ⟨.setData .flaggedCollection docRef (Store.reportDocument user suShare), completing⟩

def updateFlaggedInSuShare (suShareId : String) : Invocation Unit Bool :=
  .issues ⟨.updateData .suShareCollection suShareId fun d =>
    d.updating (.ofList [("isTheSuShareFlagged", .bool true)]), completing⟩

def addUpdate (user : User) (suShare : SuShare) : Invocation Unit Bool :=
  .issues ⟨.setData .updatesCollection docRef (Store.updateDocument user suShare docRef now),
    completing⟩

def getUserUpdates : Invocation (List Document) (List Update) :=
  withUser auth fun currentUser =>
    ⟨.getDocuments .updatesCollection (whereField "userId" currentUser.uid),
      answering fun documents => documents.map fun e => Update.init now e.2⟩

def joinUserToSuShare (suShare : SuShare) : Invocation Unit Bool :=
  .issues ⟨.updateData .suShareCollection suShare.suShareId fun d =>
    d.updating (.ofList [("usersInTheSuShare", .strings suShare.usersInTheSuShare)]), completing⟩

/-- An error is printed, and nothing else. -/
def createASusu (sushare : SuShare) : Invocation Unit String :=
  withUser auth fun user =>
    ⟨.setData .suShareCollection docRef (Store.suShareDocument user docRef sushare),
      fun _ error => match error with
        | some _ => []
        | none => [.complete (.ok docRef)]⟩

def delete (susu : SuShare) : Invocation Unit Bool :=
  .issues ⟨.delete .suShareCollection susu.suShareId, completing⟩

def createDatabaseUser (user : AuthUser) : Invocation Unit Bool :=
  .issues ⟨.setData .userCollection user.uid (.ofList [
    ("email", .string (user.email.getD "")),
    ("userId", .string user.uid),
    ("username", .string (user.displayName.getD ""))]), completing⟩

def createDatabaseFriend (user friend friendUsername : String) : Invocation Unit Bool :=
  .issues ⟨.setData .friendsCollection docRef (.ofList [
    ("currentUser", .string user),
    ("friend", .string friend),
    ("friendUsername", .string friendUsername)]), completing⟩

/-- A query that finds nothing is not answered. -/
def checkForFriendship (user : User) : Invocation (List Document) Bool :=
  .issues ⟨.getDocuments .friendsCollection (whereField "friend" user.userId),
    fun snapshot error => match error with
      | some error => [.complete (.error error)]
      | none => match snapshot with
        | some documents => if documents.length > 0 then [.complete (.ok true)] else []
        | none => []⟩

def updateDatabaseUser (username : String) : Invocation Unit Bool :=
  withUser auth fun user =>
    ⟨.updateData .userCollection user.uid fun d =>
      d.updating (.ofList [("username", .string username)]), completing⟩

def updateFireBaseUserWithStripeStuff (fullName stripeCustomerId : String) :
    Invocation Unit Bool :=
  withUser auth fun user =>
    ⟨.updateData .userCollection user.uid fun d => d.updating (.ofList [
      ("fullName", .string fullName),
      ("stripeCustomerId", .string stripeCustomerId)]), completing⟩

def getAllUsers : Invocation (List Document) (List User) :=
  .issues ⟨.getDocuments .userCollection fun _ => true,
    answering fun documents => t.sorted User.username (documents.map fun e => User.init e.2)⟩

/-- The SuShares of the documents, by title. -/
def sortedByTitle (documents : List Document) : List SuShare :=
  t.sorted SuShare.susuTitle (documents.map fun e => SuShare.init now e.2)

def getCreatedSuSharesForCurrentUser : Invocation (List Document) (List SuShare) :=
  withUser auth fun user =>
    ⟨.getDocuments .suShareCollection (whereField "userId" user.uid),
      answering (sortedByTitle t now)⟩

def getCreatedSuShares (user : User) : Invocation (List Document) (List SuShare) :=
  .issues ⟨.getDocuments .suShareCollection (whereField "userId" user.userId),
    answering (sortedByTitle t now)⟩

/-- A user without a display name posts nothing, and hears nothing. -/
def postComment (sushare : SuShare) (comment : String) : Invocation Unit Bool :=
  match auth with
  | none => .returns
  | some user =>
    match user.displayName with
    | none => .returns
    | some displayName =>
      .issues ⟨.setData (.commentCollection sushare.suShareId) docRef
        (Store.commentDocument displayName now sushare comment), completing⟩

def addToFavorites (sushare : SuShare) : Invocation Unit Bool :=
  withUser auth fun user =>
    ⟨.setData .favoriteCollection docRef (Store.favoriteDocument user docRef sushare),
      completing⟩

def removeFromFavorite (suShare : SuShare) : Invocation (List Document) Bool :=
  withUser auth fun currentUser =>
    ⟨.getDocuments .favoriteCollection fun d =>
      whereField "userId" currentUser.uid d && whereField "suShareId" suShare.suShareId d,
      deletingEach .favoriteCollection⟩

def removeUpdate (update : Update) : Invocation Unit Bool :=
  .issues ⟨.delete .updatesCollection update.updateId, completing⟩

def isSuShareFavorite (suShare : SuShare) : Invocation (List Document) Bool :=
  withUser auth fun currentUser =>
    ⟨.getDocuments .favoriteCollection fun d =>
      whereField "suShareId" suShare.suShareId d && whereField "userId" currentUser.uid d,
      answering fun documents => decide (documents.length > 0)⟩

def getAllFavorites (user : User) : Invocation (List Document) (List SuShare) :=
  .issues ⟨.getDocuments .favoriteCollection (whereField "userId" user.userId),
    answering fun documents => documents.map fun e => SuShare.init now e.2⟩

def getAllFavoritesCurrent : Invocation (List Document) (List SuShare) :=
  withUser auth fun currentUser =>
    ⟨.getDocuments .favoriteCollection (whereField "userId" currentUser.uid),
      answering fun documents => documents.map fun e => SuShare.init now e.2⟩

def updateDatabaseUserImage (photoURL : String) : Invocation Unit Bool :=
  withUser auth fun user =>
    ⟨.updateData .userCollection user.uid fun d =>
      d.updating (.ofList [("photoURL", .string photoURL)]), completing⟩

/-- `$0.get("friendUsername") as! String` for each document, which crashes at one that does
not have it. -/
def friendUsernames (documents : List Document) : Option (List String) :=
  documents.mapM fun e => (e.2 "friendUsername").bind FieldValue.asString

def updateUserFriend : Invocation (List Document) (List String) :=
  withUser auth fun user =>
    ⟨.getDocuments .friendsCollection (whereField "currentUser" user.uid),
      fun snapshot error => match error with
        | some error => [.complete (.error error)]
        | none => match snapshot with
          | some documents => match friendUsernames documents with
            | some users => [.complete (.ok users)]
            | none => [.trap]
          | none => []⟩

def getCurrentUser : Invocation (Option Dictionary) User :=
  match auth with
  | none => .fatalError
  | some currentUser => .issues ⟨.getDocument .userCollection currentUser.uid, answeringUser⟩

def getUserForSuShare (suShare : SuShare) : Invocation (Option Dictionary) User :=
  .issues ⟨.getDocument .userCollection suShare.userId, answeringUser⟩

def databaseAddFriend (user : User) : Invocation Unit Bool :=
  .issues ⟨.setData .friendsCollection docRef (.ofList [("userId", .string user.userId)]),
    completing⟩

/-- Both filters are on the same field. -/
def databaseRemoveFriend (user : User) : Invocation (List Document) Bool :=
  withUser auth fun currentUser =>
    ⟨.getDocuments .friendsCollection fun d =>
      whereField "userId" currentUser.uid d && whereField "userId" user.userId d,
      deletingEach .friendsCollection⟩

end Operations

end DatabaseService

/-! ## Calls -/

/-- A call of an operation, by what its request returns and what it completes with. -/
inductive ServiceCall : Type → Type → Type
  | flagASuShare (suShare : SuShare) : ServiceCall Unit Bool
  | updateFlaggedInSuShare (suShareId : String) : ServiceCall Unit Bool
  | addUpdate (user : User) (suShare : SuShare) : ServiceCall Unit Bool
  | getUserUpdates : ServiceCall (List Document) (List Update)
  | joinUserToSuShare (suShare : SuShare) : ServiceCall Unit Bool
  | createASusu (sushare : SuShare) : ServiceCall Unit String
  | delete (susu : SuShare) : ServiceCall Unit Bool
  | createDatabaseUser (user : AuthUser) : ServiceCall Unit Bool
  | createDatabaseFriend (user friend friendUsername : String) : ServiceCall Unit Bool
  | checkForFriendship (user : User) : ServiceCall (List Document) Bool
  | updateDatabaseUser (username : String) : ServiceCall Unit Bool
  | updateFireBaseUserWithStripeStuff (fullName stripeCustomerId : String) :
    ServiceCall Unit Bool
  | getAllUsers : ServiceCall (List Document) (List User)
  | getCreatedSuSharesForCurrentUser : ServiceCall (List Document) (List SuShare)
  | getCreatedSuShares (user : User) : ServiceCall (List Document) (List SuShare)
  | postComment (sushare : SuShare) (comment : String) : ServiceCall Unit Bool
  | addToFavorites (sushare : SuShare) : ServiceCall Unit Bool
  | removeFromFavorite (suShare : SuShare) : ServiceCall (List Document) Bool
  | removeUpdate (update : Update) : ServiceCall Unit Bool
  | isSuShareFavorite (suShare : SuShare) : ServiceCall (List Document) Bool
  | getAllFavorites (user : User) : ServiceCall (List Document) (List SuShare)
  | getAllFavoritesCurrent : ServiceCall (List Document) (List SuShare)
  | updateDatabaseUserImage (photoURL : String) : ServiceCall Unit Bool
  | updateUserFriend : ServiceCall (List Document) (List String)
  | getCurrentUser : ServiceCall (Option Dictionary) User
  | getUserForSuShare (suShare : SuShare) : ServiceCall (Option Dictionary) User
  | databaseAddFriend (user : User) : ServiceCall Unit Bool
  | databaseRemoveFriend (user : User) : ServiceCall (List Document) Bool

/-- What the completion closure and the handler of a call do when its request, if it issues
one, has the outcome. -/
def Invocation.answer {σ α : Type} (outcome : Except FirestoreError σ) :
    Invocation σ α → List (Completion α)
  | .issues operation => operation.answer outcome
  | .returns => []
  | .fatalError => [.trap]

namespace ServiceCall

open DatabaseService

variable {σ α : Type}

/-- The call, with the id that `document()` draws for it. -/
def invoke (t : TextOrder) (auth : Option AuthUser) (docRef : String) (now : Timestamp) :
    {σ α : Type} → ServiceCall σ α → Invocation σ α
  | _, _, .flagASuShare suShare => DatabaseService.flagASuShare auth docRef suShare
  | _, _, .updateFlaggedInSuShare suShareId => DatabaseService.updateFlaggedInSuShare suShareId
  | _, _, .addUpdate user suShare => DatabaseService.addUpdate docRef now user suShare
  | _, _, .getUserUpdates => DatabaseService.getUserUpdates auth now
  | _, _, .joinUserToSuShare suShare => DatabaseService.joinUserToSuShare suShare
  | _, _, .createASusu sushare => DatabaseService.createASusu auth docRef sushare
  | _, _, .delete susu => DatabaseService.delete susu
  | _, _, .createDatabaseUser user => DatabaseService.createDatabaseUser user
  | _, _, .createDatabaseFriend user friend friendUsername =>
    DatabaseService.createDatabaseFriend docRef user friend friendUsername
  | _, _, .checkForFriendship user => DatabaseService.checkForFriendship user
  | _, _, .updateDatabaseUser username => DatabaseService.updateDatabaseUser auth username
  | _, _, .updateFireBaseUserWithStripeStuff fullName stripeCustomerId =>
    DatabaseService.updateFireBaseUserWithStripeStuff auth fullName stripeCustomerId
  | _, _, .getAllUsers => DatabaseService.getAllUsers t
  | _, _, .getCreatedSuSharesForCurrentUser =>
    DatabaseService.getCreatedSuSharesForCurrentUser t auth now
  | _, _, .getCreatedSuShares user => DatabaseService.getCreatedSuShares t now user
  | _, _, .postComment sushare comment =>
    DatabaseService.postComment auth docRef now sushare comment
  | _, _, .addToFavorites sushare => DatabaseService.addToFavorites auth docRef sushare
  | _, _, .removeFromFavorite suShare => DatabaseService.removeFromFavorite auth suShare
  | _, _, .removeUpdate update => DatabaseService.removeUpdate update
  | _, _, .isSuShareFavorite suShare => DatabaseService.isSuShareFavorite auth suShare
  | _, _, .getAllFavorites user => DatabaseService.getAllFavorites now user
  | _, _, .getAllFavoritesCurrent => DatabaseService.getAllFavoritesCurrent auth now
  | _, _, .updateDatabaseUserImage photoURL =>
    DatabaseService.updateDatabaseUserImage auth photoURL
  | _, _, .updateUserFriend => DatabaseService.updateUserFriend auth
  | _, _, .getCurrentUser => DatabaseService.getCurrentUser auth
  | _, _, .getUserForSuShare suShare => DatabaseService.getUserForSuShare suShare
  | _, _, .databaseAddFriend user => DatabaseService.databaseAddFriend docRef user
  | _, _, .databaseRemoveFriend user => DatabaseService.databaseRemoveFriend auth user

/-- When the call of a signed-in user answers once. -/
def Answers (user : AuthUser) : {σ α : Type} → ServiceCall σ α → Except FirestoreError σ → Prop
  | _, _, .createASusu _, outcome => outcome.isOk
  | _, _, .checkForFriendship _, outcome => ∀ documents, outcome = .ok documents → documents ≠ []
  | _, _, .removeFromFavorite _, outcome | _, _, .databaseRemoveFriend _, outcome =>
    ∀ documents, outcome = .ok documents → documents.length = 1
  | _, _, .updateUserFriend, outcome => ∀ documents, outcome = .ok documents →
    ∀ document ∈ documents, ∃ name, document.2 "friendUsername" = some (.string name)
  | _, _, .getCurrentUser, outcome | _, _, .getUserForSuShare _, outcome => outcome ≠ .ok none
  | _, _, .postComment _ _, _ => user.displayName ≠ none
  | _, _, _, _ => True

/-! ## Answering once -/

open HandlerStep

/-- The handler of a write answers every outcome once. -/
theorem answersOnce_completing {request : DocumentRequest CollectionPath String Dictionary Unit}
    (outcome : Except FirestoreError Unit) :
    AnswersOnce (DocumentOperation.answer ⟨request, completing⟩ outcome) outcome := by
  cases outcome <;> exact answersOnce_complete.mpr rfl

/-- So does the handler of a read that completes with what it decodes. -/
theorem answersOnce_answering {request : DocumentRequest CollectionPath String Dictionary σ}
    {decode : σ → α} (outcome : Except FirestoreError σ) :
    AnswersOnce (DocumentOperation.answer ⟨request, answering decode⟩ outcome) outcome := by
  cases outcome <;> exact answersOnce_complete.mpr rfl

theorem answersOnce_answeringUser
    {request : DocumentRequest CollectionPath String Dictionary (Option Dictionary)}
    (outcome : Except FirestoreError (Option Dictionary)) :
    AnswersOnce (DocumentOperation.answer ⟨request, answeringUser⟩ outcome) outcome ↔
      outcome ≠ .ok none := by
  rcases outcome with error | _ | data
  · exact iff_of_true (answersOnce_complete.mpr rfl) (by simp)
  · exact iff_of_false not_answersOnce_nil (by simp)
  · exact iff_of_true (answersOnce_complete.mpr rfl) (by simp)

theorem answersOnce_deletingEach {path : CollectionPath}
    {request : DocumentRequest CollectionPath String Dictionary (List Document)}
    (outcome : Except FirestoreError (List Document)) :
    AnswersOnce (DocumentOperation.answer ⟨request, deletingEach path⟩ outcome) outcome ↔
      ∀ documents, outcome = .ok documents → documents.length = 1 := by
  cases outcome with
  | error error => exact iff_of_true (answersOnce_complete.mpr rfl) (by simp)
  | ok documents =>
    refine (answersOnce_flatMap rfl).trans ⟨fun h _ he => ?_, fun h => h documents rfl⟩
    obtain rfl := Except.ok.inj he
    exact h

theorem asString_eq_some {v : Option FieldValue} {s : String} :
    v.bind FieldValue.asString = some s ↔ v = some (.string s) := by
  rcases v with _ | v
  · simp
  · cases v <;> simp [FieldValue.asString]

/-- The names of the friends can be read if every document has one. -/
theorem friendUsernames_isSome {documents : List Document} :
    (friendUsernames documents).isSome ↔
      ∀ document ∈ documents, ∃ name, document.2 "friendUsername" = some (.string name) := by
  unfold friendUsernames
  induction documents with
  | nil => simp
  | cons document documents ih =>
    have hname : (∃ name, document.2 "friendUsername" = some (.string name)) ↔
        ((document.2 "friendUsername").bind FieldValue.asString).isSome := by
      simp only [Option.isSome_iff_exists, asString_eq_some]
    rw [List.forall_mem_cons, ← ih, hname, List.mapM_cons]
    cases (document.2 "friendUsername").bind FieldValue.asString with
    | none => simp
    | some name =>
      cases documents.mapM fun e => (e.2 "friendUsername").bind FieldValue.asString <;> simp

/-- A call of a signed-in user answers once, for an outcome of its request, exactly in the
cases of `Answers`. -/
theorem answersOnce_iff (t : TextOrder) (user : AuthUser) (docRef : String) (now : Timestamp)
    (call : ServiceCall σ α) (outcome : Except FirestoreError σ) :
    AnswersOnce ((call.invoke t (some user) docRef now).answer outcome) outcome ↔
      call.Answers user outcome := by
  cases call with
  | createASusu sushare =>
    cases outcome with
    | error error => exact iff_of_false not_answersOnce_nil Bool.false_ne_true
    | ok _ => exact iff_of_true (answersOnce_complete.mpr rfl) rfl
  | checkForFriendship friend =>
    rcases outcome with error | documents
    · exact iff_of_true (answersOnce_complete.mpr rfl) fun _ he => by cases he
    · rcases documents with _ | ⟨document, documents⟩
      · exact iff_of_false not_answersOnce_nil fun h => h [] rfl rfl
      · refine iff_of_true (answersOnce_complete.mpr rfl) fun _ he => ?_
        obtain rfl := Except.ok.inj he
        exact List.cons_ne_nil _ _
  | postComment sushare comment =>
    obtain ⟨uid, displayName, email⟩ := user
    cases displayName with
    | none => exact iff_of_false not_answersOnce_nil fun h => h rfl
    | some name => exact iff_of_true (answersOnce_completing outcome) (Option.some_ne_none name)
  | updateUserFriend =>
    rcases outcome with error | documents
    · exact iff_of_true (answersOnce_complete.mpr rfl) fun _ he => by cases he
    · have hnames : Answers user updateUserFriend (.ok documents) ↔
          (friendUsernames documents).isSome := by
        rw [friendUsernames_isSome]
        refine ⟨fun h => h documents rfl, fun h _ he => ?_⟩
        obtain rfl := Except.ok.inj he
        exact h
      rw [hnames]
      change AnswersOnce (match friendUsernames documents with
        | some users => [.complete (.ok users)]
        | none => [.trap]) _ ↔ _
      cases friendUsernames documents with
      | none => exact iff_of_false not_answersOnce_trap Bool.false_ne_true
      | some users => exact iff_of_true (answersOnce_complete.mpr rfl) rfl
  | removeFromFavorite | databaseRemoveFriend => exact answersOnce_deletingEach outcome
  | getCurrentUser | getUserForSuShare => exact answersOnce_answeringUser outcome
  | getUserUpdates | getAllUsers | getCreatedSuSharesForCurrentUser | getCreatedSuShares
  | isSuShareFavorite | getAllFavorites | getAllFavoritesCurrent =>
    exact iff_of_true (answersOnce_answering outcome) trivial
  | _ => exact iff_of_true (answersOnce_completing outcome) trivial

/-- A create that fails is not answered. -/
theorem not_answersOnce : ¬ ∀ (t : TextOrder) (user : AuthUser) (docRef : String)
    (now : Timestamp) (σ α : Type) (call : ServiceCall σ α) (outcome : Except FirestoreError σ),
    AnswersOnce ((call.invoke t (some user) docRef now).answer outcome) outcome := by
  intro h
  have hcall := h ⟨id, fun _ _ => false⟩ ⟨"ann", some "Ann", none⟩ "s1" ⟨0, 0⟩ Unit String
    (.createASusu (.init ⟨0, 0⟩ (.ofList []))) (.error ⟨"offline"⟩)
  obtain ⟨_, hc, -⟩ := hcall
  cases hc

end ServiceCall

/-! ## The calls and the store -/

/-- The call on its own, without failures. -/
def Invocation.run {σ α : Type} (cs : CollectionPath → Collection String Dictionary) :
    Invocation σ α →
      Option (List (Except FirestoreError α) × (CollectionPath → Collection String Dictionary))
  | .issues operation => operation.run cs
  | .returns => some ([], cs)
  | .fatalError => none

namespace Store

/-- The collections of the store, with that of the friends. -/
def collections (db : Store) (friends : Collection String Dictionary) :
    CollectionPath → Collection String Dictionary
  | .suShareCollection => db.suShare
  | .userCollection => db.users
  | .commentCollection suShareId => db.comments suShareId
  | .favoriteCollection => db.favorites
  | .friendsCollection => friends
  | .updatesCollection => db.updates
  | .flaggedCollection => db.flagged

end Store

namespace DatabaseService

variable {cs : CollectionPath → Collection String Dictionary} {path : CollectionPath}
  {α : Type} (db : Store) (friends : Collection String Dictionary) (t : TextOrder)
  (user : AuthUser) (docRef : String) (now : Timestamp)

theorem run_setData {id : String} {data : Dictionary} :
    (Invocation.issues ⟨.setData path id data, completing⟩).run cs =
      some ([.ok true], Function.update cs path ((cs path).setData id data)) :=
  DocumentOperation.run_of_answer rfl rfl

theorem run_delete {id : String} :
    (Invocation.issues ⟨.delete path id, completing⟩).run cs =
      some ([.ok true], Function.update cs path ((cs path).delete id)) :=
  DocumentOperation.run_of_answer rfl rfl

/-- An update of a document that is not there is answered with an error. -/
theorem run_updateData {id : String} {change : Dictionary → Dictionary} :
    (Invocation.issues ⟨.updateData path id change, completing⟩).run cs =
      ((cs path).updateData id change).map fun c => ([.ok true], Function.update cs path c) := by
  cases hc : (cs path).updateData id change with
  | none => simp [Invocation.run, DocumentOperation.run, DocumentRequest.perform, hc]
  | some c =>
    have hr : DocumentRequest.perform cs (.updateData path id change) =
        some ((), Function.update cs path c) := by
      simp [DocumentRequest.perform, hc]
    exact DocumentOperation.run_of_answer hr rfl

theorem run_getDocuments {filter : Dictionary → Bool} {decode : List Document → α} :
    (Invocation.issues ⟨.getDocuments path filter, answering decode⟩).run cs =
      some ([.ok (decode ((cs path).query filter))], cs) :=
  DocumentOperation.run_of_answer rfl rfl

/-- A read of a user completes if there is a document. -/
theorem run_getDocument {id : String} :
    (Invocation.issues ⟨.getDocument path id, answeringUser⟩).run cs =
      some (((cs path).get? id).toList.map fun d => .ok (User.init d), cs) := by
  refine DocumentOperation.run_of_answer rfl ?_
  cases (cs path).get? id <;> rfl

end DatabaseService

namespace Store

variable {db : Store} {friends : Collection String Dictionary}

theorem update_suShare {c : Collection String Dictionary} :
    Function.update (db.collections friends) .suShareCollection c =
      { db with suShare := c }.collections friends := by
  funext path
  cases path <;> rfl

theorem update_favorites {c : Collection String Dictionary} :
    Function.update (db.collections friends) .favoriteCollection c =
      { db with favorites := c }.collections friends := by
  funext path
  cases path <;> rfl

theorem update_updates {c : Collection String Dictionary} :
    Function.update (db.collections friends) .updatesCollection c =
      { db with updates := c }.collections friends := by
  funext path
  cases path <;> rfl

theorem update_flagged {c : Collection String Dictionary} :
    Function.update (db.collections friends) .flaggedCollection c =
      { db with flagged := c }.collections friends := by
  funext path
  cases path <;> rfl

theorem update_comments {id : String} {c : Collection String Dictionary} :
    Function.update (db.collections friends) (.commentCollection id) c =
      { db with comments := Function.update db.comments id c }.collections friends := by
  funext path
  cases path with
  | commentCollection suShareId => by_cases h : suShareId = id <;> simp [collections, h]
  | _ => rfl

end Store

namespace DatabaseService

variable (db : Store) (friends : Collection String Dictionary) (user : AuthUser)
  (docRef : String) (now : Timestamp)

theorem run_flagASuShare (suShare : SuShare) :
    (flagASuShare (some user) docRef suShare).run (db.collections friends) =
      some ([.ok true], (db.flagASuShare user docRef suShare).collections friends) := by
  refine run_setData.trans ?_
  rw [Store.update_flagged]
  rfl

theorem run_updateFlaggedInSuShare (suShareId : String) :
    (updateFlaggedInSuShare suShareId).run (db.collections friends) =
      (db.updateFlaggedInSuShare suShareId).map fun db' =>
        ([.ok true], db'.collections friends) := by
  refine run_updateData.trans ?_
  simp only [Store.update_suShare]
  rw [Store.updateFlaggedInSuShare, Store.updateSuShare, Option.map_map]
  rfl

theorem run_addUpdate (dbUser : User) (suShare : SuShare) :
    (addUpdate docRef now dbUser suShare).run (db.collections friends) =
      some ([.ok true], (db.addUpdate dbUser suShare docRef now).collections friends) := by
  refine run_setData.trans ?_
  rw [Store.update_updates]
  rfl

theorem run_getUserUpdates :
    (getUserUpdates (some user) now).run (db.collections friends) =
      some ([.ok (db.getUserUpdates now user)], db.collections friends) :=
  run_getDocuments

theorem run_removeUpdate (update : Update) :
    (removeUpdate update).run (db.collections friends) =
      some ([.ok true], (db.removeUpdate update).collections friends) := by
  refine run_delete.trans ?_
  rw [Store.update_updates]
  rfl

theorem run_joinUserToSuShare (suShare : SuShare) :
    (joinUserToSuShare suShare).run (db.collections friends) =
      (db.joinUserToSuShare suShare).map fun db' => ([.ok true], db'.collections friends) := by
  refine run_updateData.trans ?_
  simp only [Store.update_suShare]
  rw [Store.joinUserToSuShare, Store.updateSuShare, Option.map_map]
  rfl

theorem run_createASusu (sushare : SuShare) :
    (createASusu (some user) docRef sushare).run (db.collections friends) =
      some ([.ok docRef], (db.createASusu user docRef sushare).collections friends) := by
  have hrun : (createASusu (some user) docRef sushare).run (db.collections friends) =
      some ([.ok docRef], Function.update (db.collections friends) .suShareCollection
        (db.suShare.setData docRef (Store.suShareDocument user docRef sushare))) :=
    DocumentOperation.run_of_answer rfl rfl
  rw [hrun, Store.update_suShare]
  rfl

theorem run_postComment {displayName : String} (hname : user.displayName = some displayName)
    (sushare : SuShare) (comment : String) :
    (postComment (some user) docRef now sushare comment).run (db.collections friends) =
      some ([.ok true],
        (db.postComment displayName docRef now sushare comment).collections friends) := by
  simp only [postComment, hname]
  refine run_setData.trans ?_
  rw [Store.update_comments]
  rfl

theorem run_addToFavorites (sushare : SuShare) :
    (addToFavorites (some user) docRef sushare).run (db.collections friends) =
      some ([.ok true], (db.addToFavorites user docRef sushare).collections friends) := by
  refine run_setData.trans ?_
  rw [Store.update_favorites]
  rfl

/-- A remove completes once for each favorite of the SuShare. -/
theorem run_removeFromFavorite (suShare : SuShare) :
    (removeFromFavorite (some user) suShare).run (db.collections friends) =
      some (List.replicate (db.favoritesOf user suShare).length (.ok true),
        (db.removeFromFavorite user suShare).collections friends) := by
  have hfold : ∀ (ids : List String) (db : Store), ids.foldl Store.deleteFavorite db =
      { db with favorites := ids.foldl Collection.delete db.favorites } := by
    intro ids
    induction ids with
    | nil => exact fun _ => rfl
    | cons id ids ih => exact fun db => ih (db.deleteFavorite id)
  refine (DocumentOperation.run_of_deletingEach rfl rfl).trans ?_
  rw [Store.update_favorites, Store.removeFromFavorite, hfold, Store.favoritesOf,
    List.length_map]
  rfl

theorem run_isSuShareFavorite (suShare : SuShare) :
    (isSuShareFavorite (some user) suShare).run (db.collections friends) =
      some ([.ok (db.isSuShareFavorite user suShare)], db.collections friends) :=
  run_getDocuments

theorem run_getAllFavorites (dbUser : User) :
    (getAllFavorites now dbUser).run (db.collections friends) =
      some ([.ok (db.getAllFavorites now dbUser)], db.collections friends) :=
  run_getDocuments

theorem run_getAllFavoritesCurrent :
    (getAllFavoritesCurrent (some user) now).run (db.collections friends) =
      some ([.ok (db.getAllFavoritesCurrent now user)], db.collections friends) :=
  run_getDocuments

theorem run_getCurrentUser :
    (getCurrentUser (some user)).run (db.collections friends) =
      some ((db.getCurrentUser user).toList.map .ok, db.collections friends) := by
  refine run_getDocument.trans ?_
  rw [Store.getCurrentUser, Option.toList_map, List.map_map]
  rfl

theorem run_getUserForSuShare (suShare : SuShare) :
    (getUserForSuShare suShare).run (db.collections friends) =
      some ((db.getUserForSuShare suShare).toList.map .ok, db.collections friends) := by
  refine run_getDocument.trans ?_
  rw [Store.getUserForSuShare, Option.toList_map, List.map_map]
  rfl

end DatabaseService

end SuShareApp
