import SuShareApp.World

/-!
# Documents and what is decoded from them

A document is written as a list of keys in `DatabaseService`, and read back by the initializer
of its model, key by key. A key that only one of the two spells is not noticed : the field gets
the default of the decoder.

`addToFavorites` writes the description under another key than `createASusu` does and
`SuShare.init` reads, and the flag not at all; `Comment.init` reads three keys that nothing
writes. So a favorite and a comment come back as they were written exactly where the fields in
question held the defaults before, and the date is in whole microseconds
(`favorite_round_trip_iff`, `comment_round_trip_iff`).
-/

namespace SuShareApp

variable (db : Store) (docRef : String) (now : Timestamp)

/-! ## Favorites -/

/-- What a favorite is read back as : two fields are the favorite's own, two are lost, and the
date is truncated. -/
theorem SuShare.init_favoriteDocument (user : AuthUser) (s : SuShare) :
    SuShare.init now (Store.favoriteDocument user docRef s) =
      { s with
        suShareDescription := "No Description"
        createdDate := s.createdDate.truncate
        userId := user.uid
        isTheSuShareFlagged := false
        favId := docRef } := by
  simp [SuShare.init, Store.favoriteDocument, Dictionary.read, FieldValue.asString,
    FieldValue.asDouble, FieldValue.asInt, FieldValue.asInts, FieldValue.asTimestamp,
    FieldValue.asStrings]

/-- A SuShare comes back from the favorites as it went in, but for the user and the favorite's
id, exactly if its description is the default one, it is not flagged and its date is in whole
microseconds, as that of any SuShare that was read from the store. -/
theorem favorite_round_trip_iff (user : AuthUser) (s : SuShare) :
    ((db.addToFavorites user docRef s).favorites.get? docRef).map (SuShare.init now) =
        some { s with userId := user.uid, favId := docRef } ↔
      s.suShareDescription = "No Description" ∧ s.createdDate.truncate = s.createdDate ∧
        s.isTheSuShareFlagged = false := by
  rw [Store.addToFavorites, Collection.get?_setData_self, Option.map_some,
    SuShare.init_favoriteDocument, Option.some.injEq]
  cases s
  simp [eq_comm]

/-- The description of Ann's SuShare is lost. -/
theorem not_favorite_round_trip : ¬ ∀ (db : Store) (docRef : String) (now : Timestamp)
    (user : AuthUser) (s : SuShare),
    ((db.addToFavorites user docRef s).favorites.get? docRef).map (SuShare.init now) =
      some { s with userId := user.uid, favId := docRef } := by
  intro h
  have heq := h (World.initial .empty).db "f1" ⟨0, 0⟩ Sample.bob Sample.roof
  exact absurd heq (by decide +kernel)

/-! ## Comments -/

/-- The comment on the SuShare, with everything that `postComment` was given. -/
def SuShare.commented (s : SuShare) (displayName : String) (date : Timestamp) (text : String) :
    Comment where
  commentDate := date
  commentedBy := displayName
  susuId := s.suShareId
  susuName := s.susuTitle
  creatorName := s.userId
  comment := text

/-- What a comment is read back as : nothing of the SuShare, and the date truncated. -/
theorem Comment.init_commentDocument (displayName : String) (date : Timestamp) (s : SuShare)
    (text : String) : Comment.init now (Store.commentDocument displayName date s text) =
      { s.commented displayName date.truncate text with
        susuId := "no susuId"
        susuName := "no susuName"
        creatorName := "no creatorName" } := by
  simp [SuShare.commented, Comment.init, Store.commentDocument, Dictionary.read,
    FieldValue.asString, FieldValue.asTimestamp]

/-- A comment comes back as it was posted exactly if its SuShare has the defaults for its id,
its title and its owner, and the date is in whole microseconds. -/
theorem comment_round_trip_iff (displayName : String) (date : Timestamp) (s : SuShare)
    (text : String) :
    (((db.postComment displayName docRef date s text).comments s.suShareId).get? docRef).map
        (Comment.init now) = some (s.commented displayName date text) ↔
      date.truncate = date ∧ s.suShareId = "no susuId" ∧ s.susuTitle = "no susuName" ∧
        s.userId = "no creatorName" := by
  rw [Store.get?_comments_postComment, Option.map_some, Comment.init_commentDocument,
    Option.some.injEq]
  simp [SuShare.commented, eq_comm]

/-- A comment does not name Ann's SuShare. -/
theorem not_comment_round_trip : ¬ ∀ (db : Store) (docRef : String) (now : Timestamp)
    (displayName : String) (date : Timestamp) (s : SuShare) (text : String),
    (((db.postComment displayName docRef date s text).comments s.suShareId).get? docRef).map
      (Comment.init now) = some (s.commented displayName date text) := by
  intro h
  have heq := h (World.initial .empty).db "c1" ⟨0, 0⟩ "Bob" ⟨5, 0⟩ Sample.roof "Hi"
  exact absurd heq (by decide +kernel)

end SuShareApp
