import SuShareApp.Library.Collection
import SuShareApp.Models

/-!
# The database service

The Firestore collections of the app and the operations of `DatabaseService` on them,
as the server applies them. An operation on a document that must exist (`updateData`)
returns `none` where Firestore reports an error. `docRef` is the id that
`document()` drew for a new document, and `now` the client's clock. The documents are written
here as they are stored : the client truncates the timestamps in them.

After its creation a suShare document changes only in `writableFields`, and is never
removed : `Store.Extends`, which every operation satisfies.
-/

namespace SuShareApp

/-- The collections. `comments id` is the subcollection `suShare/{id}/comments`. -/
structure Store where
  suShare : Collection String Dictionary
  users : Collection String Dictionary
  favorites : Collection String Dictionary
  updates : Collection String Dictionary
  flagged : Collection String Dictionary
  comments : String → Collection String Dictionary

namespace Store

/-! ## Operations -/

/-- `document(documentId).updateData(fields)` on the suShare collection. -/
def updateSuShare (db : Store) (documentId : String) (fields : List (String × FieldValue)) :
    Option Store :=
  (db.suShare.updateData documentId fun d => d.updating (.ofList fields)).map fun c =>
    { db with suShare := c }

/-- The document that `flagASuShare` writes. -/
def reportDocument (user : AuthUser) (suShare : SuShare) : Dictionary :=
  .ofList [
    ("userWhoFlaggedIt", .string user.uid),
    ("suShareId", .string suShare.suShareId),
    ("user who created the SuShare ID", .string suShare.userId)]

def flagASuShare (db : Store) (user : AuthUser) (docRef : String) (suShare : SuShare) : Store :=
  { db with flagged := db.flagged.setData docRef (reportDocument user suShare) }

def updateFlaggedInSuShare (db : Store) (suShareId : String) : Option Store :=
  db.updateSuShare suShareId [("isTheSuShareFlagged", .bool true)]

/-- The document that `addUpdate` writes. -/
def updateDocument (user : User) (suShare : SuShare) (docRef : String) (now : Timestamp) :
    Dictionary :=
  .ofList [
    ("userId", .string suShare.userId),
    ("susuTitle", .string suShare.susuTitle),
    ("createdAt", .timestamp now.truncate),
    ("userJoined", .string user.username),
    ("userJoinedPhoto", .string user.profilePhoto),
    ("updateId", .string docRef)]

def addUpdate (db : Store) (user : User) (suShare : SuShare) (docRef : String)
    (now : Timestamp) : Store :=
  { db with updates := db.updates.setData docRef (updateDocument user suShare docRef now) }

def joinUserToSuShare (db : Store) (suShare : SuShare) : Option Store :=
  db.updateSuShare suShare.suShareId [("usersInTheSuShare", .strings suShare.usersInTheSuShare)]

/-- The document that `createASusu` writes. -/
def suShareDocument (user : AuthUser) (docRef : String) (sushare : SuShare) : Dictionary :=
  .ofList [
    ("securityState", .string sushare.securityState),
    ("susuTitle", .string sushare.susuTitle),
    ("susuImage", .string sushare.imageURL),
    ("suShareDescription", .string sushare.suShareDescription),
    ("potAmount", .double sushare.potAmount),
    ("numOfParticipants", .int sushare.numOfParticipants),
    ("paymentSchedule", .string sushare.paymentSchedule),
    ("userId", .string user.uid),
    ("category", .ints sushare.category),
    ("createdDate", .timestamp sushare.createdDate.truncate),
    ("suShareId", .string docRef),
    ("usersInTheSuShare", .strings sushare.usersInTheSuShare),
    ("favId", .string sushare.favId)]

def createASusu (db : Store) (user : AuthUser) (docRef : String) (sushare : SuShare) : Store :=
  { db with suShare := db.suShare.setData docRef (suShareDocument user docRef sushare) }

/-- `CreateSusuViewController.updateSuShareURL` -/
def updateSuShareURL (db : Store) (url : String) (documentId : String) : Option Store :=
  db.updateSuShare documentId [("imageURL", .string url)]

/-- The document that `postComment` writes. -/
def commentDocument (displayName : String) (now : Timestamp) (sushare : SuShare)
    (comment : String) : Dictionary :=
  .ofList [
    ("comment", .string comment),
    ("commentDate", .timestamp now.truncate),
    ("susuName", .string sushare.susuTitle),
    ("suShareId", .string sushare.suShareId),
    ("creatorName", .string sushare.userId),
    ("commentedBy", .string displayName)]

def postComment (db : Store) (displayName : String) (docRef : String) (now : Timestamp)
    (sushare : SuShare) (comment : String) : Store :=
  { db with
    comments := Function.update db.comments sushare.suShareId <|
      (db.comments sushare.suShareId).setData docRef
        (commentDocument displayName now sushare comment) }

/-- The document that `addToFavorites` writes. -/
def favoriteDocument (user : AuthUser) (docRef : String) (sushare : SuShare) : Dictionary :=
  .ofList [
    ("securityState", .string sushare.securityState),
    ("susuTitle", .string sushare.susuTitle),
    ("imageURL", .string sushare.imageURL),
    ("description", .string sushare.suShareDescription),
    ("potAmount", .double sushare.potAmount),
    ("numOfParticipants", .int sushare.numOfParticipants),
    ("paymentSchedule", .string sushare.paymentSchedule),
    ("userId", .string user.uid),
    ("category", .ints sushare.category),
    ("createdDate", .timestamp sushare.createdDate.truncate),
    ("suShareId", .string sushare.suShareId),
    ("favId", .string docRef),
    ("usersInTheSuShare", .strings sushare.usersInTheSuShare)]

def addToFavorites (db : Store) (user : AuthUser) (docRef : String) (sushare : SuShare) : Store :=
  { db with favorites := db.favorites.setData docRef (favoriteDocument user docRef sushare) }

/-- The query of `removeFromFavorite` : the user's favorites of the SuShare, by id. -/
def favoritesOf (db : Store) (user : AuthUser) (suShare : SuShare) : List String :=
  (db.favorites.query fun d => d "userId" = some (.string user.uid) &&
    d "suShareId" = some (.string suShare.suShareId)).map Prod.fst

/-- `document.reference.delete()` on a favorite that the query found. -/
def deleteFavorite (db : Store) (documentId : String) : Store :=
  { db with favorites := db.favorites.delete documentId }

/-- `removeFromFavorite` with all its deletes finished. -/
def removeFromFavorite (db : Store) (user : AuthUser) (suShare : SuShare) : Store :=
  (db.favoritesOf user suShare).foldl deleteFavorite db

def isSuShareFavorite (db : Store) (currentUser : AuthUser) (suShare : SuShare) : Bool :=
  (db.favorites.query fun d => d "suShareId" = some (.string suShare.suShareId) &&
    d "userId" = some (.string currentUser.uid)).length > 0

def getAllFavorites (db : Store) (now : Timestamp) (user : User) : List SuShare :=
  (db.favorites.query fun d => d "userId" = some (.string user.userId)).map fun e =>
    SuShare.init now e.2

/-- The query of the Favorites tab as well. -/
def getAllFavoritesCurrent (db : Store) (now : Timestamp) (currentUser : AuthUser) :
    List SuShare :=
  (db.favorites.query fun d => d "userId" = some (.string currentUser.uid)).map fun e =>
    SuShare.init now e.2

/-- `getCurrentUser`. An absent document is answered with nothing at all. -/
def getCurrentUser (db : Store) (currentUser : AuthUser) : Option User :=
  (db.users.get? currentUser.uid).map User.init

/-- `getUserForSuShare`, which answers nothing for an absent document as well. -/
def getUserForSuShare (db : Store) (suShare : SuShare) : Option User :=
  (db.users.get? suShare.userId).map User.init

def getUserUpdates (db : Store) (now : Timestamp) (currentUser : AuthUser) : List Update :=
  (db.updates.query fun d => d "userId" = some (.string currentUser.uid)).map fun e =>
    Update.init now e.2

def removeUpdate (db : Store) (update : Update) : Store :=
  { db with updates := db.updates.delete update.updateId }

theorem get?_comments_postComment (db : Store) (displayName : String) (docRef : String)
    (now : Timestamp) (sushare : SuShare) (comment : String) :
    ((db.postComment displayName docRef now sushare comment).comments sushare.suShareId).get?
      docRef = some (commentDocument displayName now sushare comment) := by
  simp only [postComment, Function.update_self, Collection.get?_setData_self]

/-- The members that the suShare document `id` lists, as the decoder reads them. -/
def members (db : Store) (id : String) : List String :=
  ((db.suShare.get? id).map fun doc =>
    doc.read "usersInTheSuShare" FieldValue.asStrings [""]).getD []

theorem members_eq {db : Store} {id : String} {doc : Dictionary} {l : List String}
    (hd : db.suShare.get? id = some doc) (hl : doc "usersInTheSuShare" = some (.strings l)) :
    db.members id = l := by
  rw [members, hd, Option.map_some, Option.getD_some]
  exact Dictionary.read_of_some hl rfl

/-- A field of the suShare document `id`. -/
def field (db : Store) (id key : String) : Option FieldValue :=
  (db.suShare.get? id).bind fun doc => doc key

theorem field_eq_some {db : Store} {id key : String} {v : FieldValue} :
    db.field id key = some v ↔ ∃ doc, db.suShare.get? id = some doc ∧ doc key = some v :=
  Option.bind_eq_some_iff

/-! ## What stays of a suShare document -/

/-- The fields of a suShare document that are written after its creation. -/
def writableFields : List String :=
  ["usersInTheSuShare", "isTheSuShareFlagged", "imageURL"]

/-- Every suShare document of `db` is still there in `db'`, with the same values outside
the writable fields. -/
def Extends (db db' : Store) : Prop :=
  ∀ id doc, db.suShare.get? id = some doc → ∃ doc', db'.suShare.get? id = some doc' ∧
    ∀ key, key ∉ writableFields → doc' key = doc key

theorem Extends.of_eq {db db' : Store} (h : db'.suShare = db.suShare) : db.Extends db' :=
  fun _ doc hd => ⟨doc, h ▸ hd, fun _ _ => rfl⟩

theorem Extends.refl (db : Store) : db.Extends db :=
  .of_eq rfl

theorem Extends.trans {db₁ db₂ db₃ : Store} (h : db₁.Extends db₂) (h' : db₂.Extends db₃) :
    db₁.Extends db₃ := by
  intro id doc hd
  obtain ⟨doc', hd', hk⟩ := h id doc hd
  obtain ⟨doc'', hd'', hk'⟩ := h' id doc' hd'
  exact ⟨doc'', hd'', fun key hkey => (hk' key hkey).trans (hk key hkey)⟩

/-- What a successful update of a suShare document did : it rewrote that document, which
was there. -/
theorem updateSuShare_eq_some {db db' : Store} {id : String} {fields : List (String × FieldValue)}
    (h : db.updateSuShare id fields = some db') :
    ∃ doc, db.suShare.get? id = some doc ∧
      db' = { db with suShare := db.suShare.setData id (doc.updating (.ofList fields)) } := by
  obtain ⟨c, hc, rfl⟩ := Option.map_eq_some_iff.mp h
  obtain ⟨doc, hd, rfl⟩ := Collection.updateData_eq_some hc
  exact ⟨doc, hd, rfl⟩

/-- Where a document comes from after an update of one field : it was there, and differs at
most in that field. -/
theorem get?_of_updateSuShare {db db' : Store} {k field : String} {v : FieldValue}
    (h : db.updateSuShare k [(field, v)] = some db') {id : String} {doc' : Dictionary}
    (hd : db'.suShare.get? id = some doc') :
    ∃ doc, db.suShare.get? id = some doc ∧ (∀ key, key ≠ field → doc' key = doc key) ∧
      (doc' field = doc field ∨ k = id ∧ doc' field = some v) := by
  obtain ⟨doc, hk, rfl⟩ := updateSuShare_eq_some h
  rw [Collection.get?_setData] at hd
  split_ifs at hd with hid
  · subst hid
    obtain rfl := Option.some.inj hd
    refine ⟨doc, hk, fun key hne => Dictionary.updating_of_none ?_, Or.inr ⟨rfl, ?_⟩⟩
    · simp [hne]
    · exact Dictionary.updating_of_some (by simp)
  · exact ⟨doc', hd, fun _ _ => rfl, Or.inl rfl⟩

/-- An update stores the value. -/
theorem field_updateSuShare {db db' : Store} {id key : String} {v : FieldValue}
    (h : db.updateSuShare id [(key, v)] = some db') : db'.field id key = some v := by
  obtain ⟨doc, -, rfl⟩ := updateSuShare_eq_some h
  exact field_eq_some.mpr ⟨_, Collection.get?_setData_self _ _ _,
    Dictionary.updating_of_some (by simp)⟩

/-- A join stores the list it was handed. -/
theorem members_joinUserToSuShare {db db' : Store} {s : SuShare}
    (h : db.joinUserToSuShare s = some db') : db'.members s.suShareId = s.usersInTheSuShare := by
  obtain ⟨doc, -, rfl⟩ := updateSuShare_eq_some h
  refine members_eq (Collection.get?_setData_self _ _ _) (Dictionary.updating_of_some ?_)
  simp

theorem extends_updateSuShare {db db' : Store} {id : String} {fields : List (String × FieldValue)}
    (h : db.updateSuShare id fields = some db')
    (hf : ∀ key, key ∉ writableFields → Dictionary.ofList fields key = none) :
    db.Extends db' := by
  obtain ⟨doc, hd, rfl⟩ := updateSuShare_eq_some h
  intro k d hk
  by_cases hid : k = id
  · subst hid
    obtain rfl : doc = d := Option.some.inj (hd.symm.trans hk)
    exact ⟨_, Collection.get?_setData_self _ _ _, fun key hkey =>
      Dictionary.updating_of_none (hf key hkey)⟩
  · exact ⟨d, (Collection.get?_setData_of_ne _ hid _).trans hk, fun _ _ => rfl⟩

/-- An update of one writable field. -/
theorem extends_updateSuShare_singleton {db db' : Store} {id field : String} {v : FieldValue}
    (hfield : field ∈ writableFields) (h : db.updateSuShare id [(field, v)] = some db') :
    db.Extends db' := by
  refine extends_updateSuShare h fun key hkey => ?_
  have hne : key ≠ field := fun he => hkey (he ▸ hfield)
  simp [hne]

theorem extends_createASusu {db : Store} {docRef : String} (hnew : db.suShare.get? docRef = none)
    (user : AuthUser) (sushare : SuShare) : db.Extends (db.createASusu user docRef sushare) := by
  intro id doc hd
  have hne : id ≠ docRef := by
    rintro rfl
    simp [hnew] at hd
  exact ⟨doc, (Collection.get?_setData_of_ne _ hne _).trans hd, fun _ _ => rfl⟩

end Store

end SuShareApp
