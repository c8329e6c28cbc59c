import SuShareApp.Library.TransitionSystem
import SuShareApp.CreateForm
import SuShareApp.DatabaseService

/-!
# Clients and the server

The app as a whole : any number of clients, each holding SuShare values that it decoded
at some time, and the server, which applies the requests in flight one at a time and in
any order. A press on a screen issues requests, the server serves or rejects a request
and answers it, and an answer that reaches its client runs the completion handler, which
may issue further requests.

Screens are taken by the value they hold. A `Copy` is a SuShare that a client decoded
from a snapshot, in a list or on a detail screen opened from it; it is kept forever, so
a press may use a copy of any age. A snapshot shows what the server stores. The `origin`
of a copy is the suShare document it was copied from, directly or through favorites
documents; no handler reads it.

What a device sees of its own writes before the server has them, and in which order its writes are
taken, is left to the screens that it matters to (`ExploreFeed`, `Hearts`, `UpdatesScreen`).
-/

namespace SuShareApp

/-- The list a copy was received in, and for a profile's lists the profile. -/
inductive Tab
  | explore
  | created (profile : String)
  | favorites (profile : String)
deriving DecidableEq, Repr

/-- A SuShare as a client holds it. -/
structure Copy where
  tab : Tab
  origin : String
  sushare : SuShare
deriving DecidableEq, Repr

/-- What a handler reads from its client : the signed-in user, the id that `document()`
draws, the clock, and the download URL of an uploaded photo. -/
structure Client where
  currentUser : Option AuthUser
  docRef : String
  now : Timestamp
  url : String
deriving DecidableEq, Repr

/-! ## Requests -/

/-- A request in flight, with what its completion handler captured. -/
inductive Request
  | createASusu (user : AuthUser) (docRef : String) (sushare : SuShare)
  | uploadPhoto (documentId : String)
  | updateSuShareURL (url : String) (documentId : String)
  | joinUserToSuShare (user : AuthUser) (screen : Copy)
  | getCurrentUser (currentUser joiner : AuthUser) (screen : Copy)
  | addUpdate (dbUser : User) (docRef : String) (now : Timestamp) (joiner : AuthUser)
    (screen : Copy)
  | updateFlaggedInSuShare (copy : Copy)
  | flagASuShare (user : AuthUser) (docRef : String) (copy : Copy)
  | postComment (displayName docRef : String) (now : Timestamp) (comment : String)
    (screen : Copy)
  | addToFavorites (user : AuthUser) (docRef : String) (screen : Copy)
  | removeFromFavorite (user : AuthUser) (screen : Copy)
  | deleteFavorite (documentId : String)
deriving DecidableEq, Repr

/-- What the server sent back for a request. -/
inductive Answer
  | success (request : Request)
  | failure (request : Request)
  | currentUser (dbUser : User) (joiner : AuthUser) (screen : Copy)
  | favoriteDocuments (documentIds : List String)
deriving DecidableEq, Repr

namespace Request

/-- The store after the request was served. -/
def perform (db : Store) : Request → Option Store
  | .createASusu user docRef sushare => some (db.createASusu user docRef sushare)
  | .uploadPhoto _ => some db
  | .updateSuShareURL url documentId => db.updateSuShareURL url documentId
  | .joinUserToSuShare user screen =>
    db.joinUserToSuShare (screen.sushare.appendingUser user.uid)
  | .getCurrentUser _ _ _ => some db
  | .addUpdate dbUser docRef now joiner screen =>
    some (db.addUpdate dbUser (screen.sushare.appendingUser joiner.uid) docRef now)
  | .updateFlaggedInSuShare copy => db.updateFlaggedInSuShare copy.sushare.suShareId
  | .flagASuShare user docRef copy => some (db.flagASuShare user docRef copy.sushare)
  | .postComment displayName docRef now comment screen =>
    some (db.postComment displayName docRef now screen.sushare comment)
  | .addToFavorites user docRef screen => some (db.addToFavorites user docRef screen.sushare)
  | .removeFromFavorite _ _ => some db
  | .deleteFavorite documentId => some (db.deleteFavorite documentId)

/-- The answer to a served request. -/
def answer (db : Store) : Request → List Answer
  | .getCurrentUser currentUser joiner screen =>
    (db.getCurrentUser currentUser).toList.map fun dbUser => .currentUser dbUser joiner screen
  | .removeFromFavorite user screen => [.favoriteDocuments (db.favoritesOf user screen.sushare)]
  | r => [.success r]

/-- The copy whose data the request carries. -/
def copy? : Request → Option Copy
  | .joinUserToSuShare _ c | .getCurrentUser _ _ c | .addUpdate _ _ _ _ c
  | .updateFlaggedInSuShare c | .flagASuShare _ _ c | .postComment _ _ _ _ c
  | .addToFavorites _ _ c | .removeFromFavorite _ c => some c
  | .createASusu _ _ _ | .uploadPhoto _ | .updateSuShareURL _ _ | .deleteFavorite _ => none

/-- The id of the suShare document the request creates. -/
def created? : Request → Option String
  | .createASusu _ docRef _ => some docRef
  | _ => none

/-- The id of the new document that the request writes, in whichever collection. -/
def docRef? : Request → Option String
  | .createASusu _ docRef _ | .addUpdate _ docRef _ _ _ | .flagASuShare _ docRef _
  | .postComment _ docRef _ _ _ | .addToFavorites _ docRef _ => some docRef
  | _ => none

/-- Issued by a completion handler, and by no press. -/
def isFollowUp : Request → Bool
  | .uploadPhoto _ | .updateSuShareURL _ _ | .getCurrentUser _ _ _ | .addUpdate _ _ _ _ _
  | .flagASuShare _ _ _ | .deleteFavorite _ => true
  | _ => false

/-- What the request writes into a suShare document that is already there : the id of the
document, the field and the value. -/
def writes : Request → Option (String × String × FieldValue)
  | .updateSuShareURL url documentId => some (documentId, "imageURL", .string url)
  | .joinUserToSuShare user screen => some (screen.sushare.suShareId, "usersInTheSuShare",
      .strings (screen.sushare.usersInTheSuShare ++ [user.uid]))
  | .updateFlaggedInSuShare copy =>
    some (copy.sushare.suShareId, "isTheSuShareFlagged", .bool true)
  | _ => none

end Request

namespace Answer

/-- The requests that the completion handler issues. -/
def completion (client : Client) : Answer → List Request
  | .success (.createASusu _ docRef _) => [.uploadPhoto docRef]
  | .success (.uploadPhoto documentId) => [.updateSuShareURL client.url documentId]
  | .success (.joinUserToSuShare joiner screen) =>
    client.currentUser.toList.map fun user => .getCurrentUser user joiner screen
  | .currentUser dbUser joiner screen =>
    [.addUpdate dbUser client.docRef client.now joiner screen]
  | .success (.updateFlaggedInSuShare copy) =>
    client.currentUser.toList.map fun user => .flagASuShare user client.docRef copy
  | .favoriteDocuments documentIds => documentIds.map .deleteFavorite
  | _ => []

/-- The copy that the completion handler captured. -/
def copy? : Answer → Option Copy
  | .success r | .failure r => r.copy?
  | .currentUser _ _ c => some c
  | .favoriteDocuments _ => none

end Answer

/-! ## The world -/

/-- The store, the copies in lists and on detail screens, the requests and answers in
flight. -/
structure World where
  db : Store
  /-- The suShare document that each favorites document was copied from. -/
  favoriteOrigin : String → String
  lists : List Copy
  screens : List Copy
  requests : List Request
  answers : List Answer
  /-- The ids that `document()` has drawn. -/
  drawn : List String

/-- A press on a screen, or the submission of the create form. -/
inductive Press
  | joinSushareButtonPressed (screen : Copy)
  | report (copy : Copy)
  | addToFavorites (screen : Copy)
  | removeFromFavorite (screen : Copy)
  | postComment (screen : Copy) (commentText : String)
  | addSusu (form : CreateForm)

inductive Action
  /-- A list receives a document in a snapshot and decodes it. -/
  | receive (tab : Tab) (documentId : String) (now : Timestamp)
  /-- A detail screen is pushed for an entry of a list. -/
  | openDetail (copy : Copy)
  | press (p : Press) (client : Client)
  | serve (request : Request)
  | reject (request : Request)
  | deliver (answer : Answer) (client : Client)

namespace Press

/-- The requests of a press, or `none` if there is no such screen. The report button is
on the cells of the Explore list and on the detail screen. -/
def requests (w : World) (client : Client) : Press → Option (List Request)
  | .joinSushareButtonPressed screen =>
    if screen ∈ w.screens then
      some (client.currentUser.toList.map fun user => .joinUserToSuShare user screen)
    else none
  | .report copy =>
    if copy ∈ w.screens ∨ (copy ∈ w.lists ∧ copy.tab = .explore) then
      some [.updateFlaggedInSuShare copy]
    else none
  | .addToFavorites screen =>
    if screen ∈ w.screens then
      some (client.currentUser.toList.map fun user => .addToFavorites user client.docRef screen)
    else none
  | .removeFromFavorite screen =>
    if screen ∈ w.screens then
      some (client.currentUser.toList.map fun user => .removeFromFavorite user screen)
    else none
  | .postComment screen commentText =>
    if screen ∈ w.screens ∧ commentText ≠ "" then
      some ((client.currentUser.bind AuthUser.displayName).toList.map fun displayName =>
        .postComment displayName client.docRef client.now commentText screen)
    else none
  | .addSusu form =>
    some (client.currentUser.toList.flatMap fun user =>
      (form.addSusu client.currentUser client.now).toList.map fun sushare =>
        .createASusu user client.docRef sushare)

end Press

namespace World

/-- No SuShare yet, and the given user profiles. -/
def initial (users : Collection String Dictionary) : World where
  db := ⟨.empty, users, .empty, .empty, .empty, fun _ => .empty⟩
  favoriteOrigin := fun _ => ""
  lists := []
  screens := []
  requests := []
  answers := []
  drawn := []

/-- Decode a document for a list. The Explore list drops flagged SuShares; the tabs of a
profile query for its uid. -/
def read (w : World) (documentId : String) (now : Timestamp) : Tab → Option Copy
  | .explore => (w.db.suShare.get? documentId).bind fun doc =>
    if (SuShare.init now doc).isTheSuShareFlagged then none
    else some ⟨.explore, documentId, SuShare.init now doc⟩
  | .created profile => (w.db.suShare.get? documentId).bind fun doc =>
    if doc "userId" = some (.string profile) then
      some ⟨.created profile, documentId, SuShare.init now doc⟩
    else none
  | .favorites profile => (w.db.favorites.get? documentId).bind fun doc =>
    if doc "userId" = some (.string profile) then
      some ⟨.favorites profile, w.favoriteOrigin documentId, SuShare.init now doc⟩
    else none

/-- The Explore list fetches the owner's profile and pushes the detail screen in the
completion handler; the tabs of a profile push at once. -/
def pushes (w : World) (copy : Copy) : Bool :=
  copy.tab ≠ .explore || (w.db.getUserForSuShare copy.sushare).isSome

/-- The origin of a favorites document is that of the copy it was written from. -/
def originAfter (w : World) : Request → String → String
  | .addToFavorites _ docRef screen => Function.update w.favoriteOrigin docRef screen.origin
  | _ => w.favoriteOrigin

/-- The world after the server served `r`, leaving the store `db`. -/
def served (w : World) (r : Request) (db : Store) : World :=
  { w with
    db
    favoriteOrigin := w.originAfter r
    requests := w.requests.erase r
    answers := r.answer w.db ++ w.answers }

def step (w : World) : Action → Option World
  | .receive tab documentId now =>
    (w.read documentId now tab).map fun c => { w with lists := c :: w.lists }
  | .openDetail copy =>
    if copy ∈ w.lists ∧ w.pushes copy then some { w with screens := copy :: w.screens } else none
  | .press p client =>
    if client.docRef ∈ w.drawn then none
    else (p.requests w client).map fun rs =>
      { w with requests := rs ++ w.requests, drawn := client.docRef :: w.drawn }
  | .serve r =>
    if r ∈ w.requests then (r.perform w.db).map (w.served r) else none
  | .reject r =>
    if r ∈ w.requests then
      some { w with requests := w.requests.erase r, answers := .failure r :: w.answers }
    else none
  | .deliver a client =>
    if a ∈ w.answers ∧ client.docRef ∉ w.drawn then
      some { w with
        requests := a.completion client ++ w.requests
        answers := w.answers.erase a
        drawn := client.docRef :: w.drawn }
    else none

end World

/-- The copies that clients hold, on screens and in the handlers of what is in flight. -/
def World.copies (w : World) : List Copy :=
  w.lists ++ w.screens ++ w.requests.filterMap Request.copy? ++ w.answers.filterMap Answer.copy?

/-- The app, over the given user profiles. -/
def app (users : Collection String Dictionary) : TransitionSystem World Action where
  init w := w = World.initial users
  step := World.step

/-! ## What a step can do -/

/-- The three ways a served request can change the suShare collection : not at all, by a
new document, or by one writable field of a document. -/
theorem Request.perform_suShare {db db' : Store} {r : Request} (h : r.perform db = some db') :
    db'.suShare = db.suShare ∨
      (∃ user docRef sushare, r = .createASusu user docRef sushare ∧
        db' = db.createASusu user docRef sushare) ∨
      ∃ id field v, r.writes = some (id, field, v) ∧ field ∈ Store.writableFields ∧
        db.updateSuShare id [(field, v)] = some db' := by
  cases r with
  | createASusu user docRef sushare =>
    obtain rfl := Option.some.inj h
    exact Or.inr (Or.inl ⟨user, docRef, sushare, rfl, rfl⟩)
  | joinUserToSuShare _ _ | updateSuShareURL _ _ | updateFlaggedInSuShare _ =>
    exact Or.inr (Or.inr ⟨_, _, _, rfl, by simp [Store.writableFields], h⟩)
  | _ =>
    obtain rfl := Option.some.inj h
    exact Or.inl rfl

/-- Where a suShare document comes from : it was just created, or it was there, and differs
at most in the field that the request wrote. -/
theorem Request.get?_suShare_of_perform {db db' : Store} {r : Request}
    (h : r.perform db = some db') {id : String} {next : Dictionary}
    (hd : db'.suShare.get? id = some next) :
    (∃ user sushare, r = .createASusu user id sushare ∧
      next = Store.suShareDocument user id sushare) ∨
    ∃ doc, db.suShare.get? id = some doc ∧ ∀ key, next key = doc key ∨
      ∃ v, r.writes = some (id, key, v) ∧ key ∈ Store.writableFields ∧ next key = some v := by
  rcases Request.perform_suShare h with he | ⟨user, docRef, sushare, rfl, rfl⟩ |
    ⟨k, field, v, hw, hf, hu⟩
  · exact Or.inr ⟨next, he ▸ hd, fun _ => Or.inl rfl⟩
  · rw [Store.createASusu, Collection.get?_setData] at hd
    split_ifs at hd with hid
    · subst hid
      exact Or.inl ⟨user, sushare, rfl, (Option.some.inj hd).symm⟩
    · exact Or.inr ⟨next, hd, fun _ => Or.inl rfl⟩
  · obtain ⟨doc, hdoc, hkeys, hv⟩ := Store.get?_of_updateSuShare hu hd
    refine Or.inr ⟨doc, hdoc, fun key => ?_⟩
    by_cases hkey : key = field
    · subst hkey
      exact hv.imp_right fun ⟨hk, hv⟩ => ⟨v, hk ▸ hw, hf, hv⟩
    · exact Or.inl (hkeys key hkey)

/-- The member list is written by joins only. -/
theorem Request.of_writes_usersInTheSuShare {r : Request} {id : String} {v : FieldValue}
    (h : r.writes = some (id, "usersInTheSuShare", v)) : ∃ user screen,
    r = .joinUserToSuShare user screen ∧ screen.sushare.suShareId = id ∧
      v = .strings (screen.sushare.usersInTheSuShare ++ [user.uid]) := by
  cases r with
  | joinUserToSuShare user screen =>
    simp only [Request.writes, Option.some.injEq, Prod.mk.injEq, true_and] at h
    exact ⟨user, screen, rfl, h.1, h.2.symm⟩
  | _ => simp [Request.writes] at h

/-- The flag is written by reports only. -/
theorem Request.of_writes_isTheSuShareFlagged {r : Request} {id : String} {v : FieldValue}
    (h : r.writes = some (id, "isTheSuShareFlagged", v)) : ∃ copy,
    r = .updateFlaggedInSuShare copy ∧ copy.sushare.suShareId = id ∧ v = .bool true := by
  cases r with
  | updateFlaggedInSuShare copy =>
    simp only [Request.writes, Option.some.injEq, Prod.mk.injEq, true_and] at h
    exact ⟨copy, rfl, h.1, h.2.symm⟩
  | _ => simp [Request.writes] at h

/-- The image URL is written at the end of the create flow only. -/
theorem Request.of_writes_imageURL {r : Request} {id : String} {v : FieldValue}
    (h : r.writes = some (id, "imageURL", v)) : ∃ url,
    r = .updateSuShareURL url id ∧ v = .string url := by
  cases r with
  | updateSuShareURL url documentId =>
    simp only [Request.writes, Option.some.injEq, Prod.mk.injEq, true_and] at h
    obtain ⟨rfl, rfl⟩ := h
    exact ⟨url, rfl, rfl⟩
  | _ => simp [Request.writes] at h

/-- The three ways a served request can change the favorites collection. -/
theorem Request.perform_favorites {db db' : Store} {r : Request} (h : r.perform db = some db') :
    (db'.favorites = db.favorites ∧ ∀ w : World, w.originAfter r = w.favoriteOrigin) ∨
      (∃ user docRef screen, r = .addToFavorites user docRef screen ∧
        db' = db.addToFavorites user docRef screen.sushare) ∨
      ∃ id, r = .deleteFavorite id ∧ db' = db.deleteFavorite id := by
  have update : ∀ {id fields}, db.updateSuShare id fields = some db' →
      db'.favorites = db.favorites := by
    intro id fields hu
    obtain ⟨_, -, rfl⟩ := Store.updateSuShare_eq_some hu
    rfl
  cases r with
  | addToFavorites user docRef screen =>
    obtain rfl := Option.some.inj h
    exact Or.inr (Or.inl ⟨user, docRef, screen, rfl, rfl⟩)
  | deleteFavorite id =>
    obtain rfl := Option.some.inj h
    exact Or.inr (Or.inr ⟨id, rfl, rfl⟩)
  | joinUserToSuShare user screen => exact Or.inl ⟨update h, fun _ => rfl⟩
  | updateSuShareURL url id => exact Or.inl ⟨update h, fun _ => rfl⟩
  | updateFlaggedInSuShare copy => exact Or.inl ⟨update h, fun _ => rfl⟩
  | _ =>
    obtain rfl := Option.some.inj h
    exact Or.inl ⟨rfl, fun _ => rfl⟩

/-- The six kinds of request that a press issues, with what each of them needs. -/
inductive Press.Issues (w : World) (client : Client) : Press → Request → Prop
  | joinSushareButtonPressed {user : AuthUser} {screen : Copy} (hs : screen ∈ w.screens)
    (hu : client.currentUser = some user) :
    Issues w client (.joinSushareButtonPressed screen) (.joinUserToSuShare user screen)
  | report {copy : Copy} (hc : copy ∈ w.lists ∨ copy ∈ w.screens) :
    Issues w client (.report copy) (.updateFlaggedInSuShare copy)
  | addToFavorites {user : AuthUser} {screen : Copy} (hs : screen ∈ w.screens)
    (hu : client.currentUser = some user) :
    Issues w client (.addToFavorites screen) (.addToFavorites user client.docRef screen)
  | removeFromFavorite {user : AuthUser} {screen : Copy} (hs : screen ∈ w.screens)
    (hu : client.currentUser = some user) :
    Issues w client (.removeFromFavorite screen) (.removeFromFavorite user screen)
  | postComment {displayName text : String} {screen : Copy} (hs : screen ∈ w.screens)
    (hn : client.currentUser.bind AuthUser.displayName = some displayName) :
    Issues w client (.postComment screen text)
      (.postComment displayName client.docRef client.now text screen)
  | addSusu {form : CreateForm} {user : AuthUser} {sushare : SuShare}
    (hu : client.currentUser = some user)
    (hf : form.addSusu (some user) client.now = some sushare) :
    Issues w client (.addSusu form) (.createASusu user client.docRef sushare)

theorem Press.issues_of_requests {w : World} {client : Client} {p : Press} {rs : List Request}
    (h : p.requests w client = some rs) {r : Request} (hr : r ∈ rs) : p.Issues w client r := by
  cases p with
  | addSusu form =>
    obtain rfl := Option.some.inj h
    obtain ⟨user, hu, hr⟩ := List.mem_flatMap.mp hr
    obtain ⟨sushare, hf, rfl⟩ := List.mem_map.mp hr
    rw [Option.mem_toList.mp hu] at hf
    exact .addSusu (Option.mem_toList.mp hu) (Option.mem_toList.mp hf)
  | report copy =>
    obtain ⟨hc, hrs⟩ := Option.ite_none_right_eq_some.mp h
    obtain rfl := Option.some.inj hrs
    obtain rfl := List.mem_singleton.mp hr
    exact .report (hc.elim Or.inr fun h => Or.inl h.1)
  | joinSushareButtonPressed screen =>
    obtain ⟨hs, hrs⟩ := Option.ite_none_right_eq_some.mp h
    obtain rfl := Option.some.inj hrs
    obtain ⟨user, hu, rfl⟩ := List.mem_map.mp hr
    exact .joinSushareButtonPressed hs (Option.mem_toList.mp hu)
  | addToFavorites screen =>
    obtain ⟨hs, hrs⟩ := Option.ite_none_right_eq_some.mp h
    obtain rfl := Option.some.inj hrs
    obtain ⟨user, hu, rfl⟩ := List.mem_map.mp hr
    exact .addToFavorites hs (Option.mem_toList.mp hu)
  | removeFromFavorite screen =>
    obtain ⟨hs, hrs⟩ := Option.ite_none_right_eq_some.mp h
    obtain rfl := Option.some.inj hrs
    obtain ⟨user, hu, rfl⟩ := List.mem_map.mp hr
    exact .removeFromFavorite hs (Option.mem_toList.mp hu)
  | postComment screen text =>
    obtain ⟨hs, hrs⟩ := Option.ite_none_right_eq_some.mp h
    obtain rfl := Option.some.inj hrs
    obtain ⟨displayName, hn, rfl⟩ := List.mem_map.mp hr
    exact .postComment hs.1 (Option.mem_toList.mp hn)

/-- The six kinds of request that a completion handler issues. -/
inductive Answer.Issues (client : Client) : Answer → Request → Prop
  | createASusu {user : AuthUser} {docRef : String} {sushare : SuShare} :
    Issues client (.success (.createASusu user docRef sushare)) (.uploadPhoto docRef)
  | uploadPhoto {documentId : String} :
    Issues client (.success (.uploadPhoto documentId)) (.updateSuShareURL client.url documentId)
  | joinUserToSuShare {joiner user : AuthUser} {screen : Copy}
    (hu : client.currentUser = some user) :
    Issues client (.success (.joinUserToSuShare joiner screen))
      (.getCurrentUser user joiner screen)
  | currentUser {dbUser : User} {joiner : AuthUser} {screen : Copy} :
    Issues client (.currentUser dbUser joiner screen)
      (.addUpdate dbUser client.docRef client.now joiner screen)
  | updateFlaggedInSuShare {user : AuthUser} {copy : Copy} (hu : client.currentUser = some user) :
    Issues client (.success (.updateFlaggedInSuShare copy))
      (.flagASuShare user client.docRef copy)
  | favoriteDocuments {documentIds : List String} {documentId : String}
    (hid : documentId ∈ documentIds) :
    Issues client (.favoriteDocuments documentIds) (.deleteFavorite documentId)

theorem Answer.issues_of_completion {client : Client} {a : Answer} {r : Request}
    (hr : r ∈ a.completion client) : a.Issues client r := by
  cases a with
  | success q =>
    cases q with
    | createASusu user docRef sushare =>
      obtain rfl := List.mem_singleton.mp hr
      exact .createASusu
    | uploadPhoto documentId =>
      obtain rfl := List.mem_singleton.mp hr
      exact .uploadPhoto
    | joinUserToSuShare joiner screen =>
      obtain ⟨user, hu, rfl⟩ := List.mem_map.mp hr
      exact .joinUserToSuShare (Option.mem_toList.mp hu)
    | updateFlaggedInSuShare copy =>
      obtain ⟨user, hu, rfl⟩ := List.mem_map.mp hr
      exact .updateFlaggedInSuShare (Option.mem_toList.mp hu)
    | _ => simp [Answer.completion] at hr
  | failure q => simp [Answer.completion] at hr
  | currentUser dbUser joiner screen =>
    obtain rfl := List.mem_singleton.mp hr
    exact .currentUser
  | favoriteDocuments ids =>
    obtain ⟨id, hid, rfl⟩ := List.mem_map.mp hr
    exact .favoriteDocuments hid

/-- A press hands its request a copy from a screen or a list. -/
theorem Press.copy_of_requests {w : World} {client : Client} {p : Press} {rs : List Request}
    (h : p.requests w client = some rs) {r : Request} (hr : r ∈ rs) {c : Copy}
    (hc : r.copy? = some c) : c ∈ w.lists ∨ c ∈ w.screens := by
  cases Press.issues_of_requests h hr with
  | joinSushareButtonPressed hs | addToFavorites hs | removeFromFavorite hs | postComment hs =>
    obtain rfl := Option.some.inj hc
    exact Or.inr hs
  | report hs =>
    obtain rfl := Option.some.inj hc
    exact hs
  | addSusu => cases hc

/-- An answer carries the copy of its request. -/
theorem Request.copy_of_answer {db : Store} {r : Request} {a : Answer} (ha : a ∈ r.answer db)
    {c : Copy} (hc : a.copy? = some c) : r.copy? = some c := by
  cases r with
  | getCurrentUser currentUser joiner screen =>
    obtain ⟨dbUser, -, rfl⟩ := List.mem_map.mp ha
    exact hc
  | removeFromFavorite user screen =>
    obtain rfl := List.mem_singleton.mp ha
    simp [Answer.copy?] at hc
  | _ =>
    obtain rfl := List.mem_singleton.mp ha
    exact hc

/-- A completion handler hands on the copy it captured. -/
theorem Answer.copy_of_completion {client : Client} {a : Answer} {r : Request}
    (hr : r ∈ a.completion client) {c : Copy} (hc : r.copy? = some c) : a.copy? = some c := by
  cases Answer.issues_of_completion hr with
  | joinUserToSuShare | currentUser | updateFlaggedInSuShare => exact hc
  | createASusu | uploadPhoto | favoriteDocuments => cases hc

/-- What a press that creates a SuShare posts : the form's value, for the signed-in user and
under the id drawn by the press. -/
theorem Press.of_createASusu {w : World} {client : Client} {p : Press} {rs : List Request}
    (h : p.requests w client = some rs) :
    rs.filterMap Request.created? = [] ∨
      ∃ (form : CreateForm) (user : AuthUser) (sushare : SuShare),
        client.currentUser = some user ∧ form.addSusu (some user) client.now = some sushare ∧
        rs = [.createASusu user client.docRef sushare] := by
  cases p with
  | addSusu form =>
    obtain rfl := Option.some.inj h
    cases hu : client.currentUser with
    | none => simp
    | some user =>
      cases hs : form.addSusu (some user) client.now with
      | none => simp
      | some sushare => exact Or.inr ⟨form, user, sushare, rfl, hs, by simp⟩
  | _ =>
    obtain ⟨-, hrs⟩ := Option.ite_none_right_eq_some.mp h
    obtain rfl := Option.some.inj hrs
    simp [List.filterMap_map, Function.comp_def, Request.created?]

/-- A join comes from a press of Join on a detail screen. -/
theorem Press.of_joinUserToSuShare {w : World} {client : Client} {p : Press} {rs : List Request}
    (h : p.requests w client = some rs) {user : AuthUser} {screen : Copy}
    (hr : .joinUserToSuShare user screen ∈ rs) :
    p = .joinSushareButtonPressed screen ∧ client.currentUser = some user ∧
      screen ∈ w.screens := by
  cases Press.issues_of_requests h hr with
  | joinSushareButtonPressed hs hu => exact ⟨rfl, hu, hs⟩

/-- A press issues no follow-up. -/
theorem Press.isFollowUp_of_requests {w : World} {client : Client} {p : Press}
    {rs : List Request} (h : p.requests w client = some rs) {r : Request} (hr : r ∈ rs) :
    r.isFollowUp = false := by
  cases Press.issues_of_requests h hr <;> rfl

/-- A completion handler issues nothing but follow-ups. -/
theorem Answer.isFollowUp_of_completion {client : Client} {a : Answer} {r : Request}
    (hr : r ∈ a.completion client) : r.isFollowUp = true := by
  cases Answer.issues_of_completion hr <;> rfl

/-- A request is acknowledged by its own answer only. -/
theorem Request.eq_of_success_mem_answer {db : Store} {r q : Request}
    (h : .success q ∈ r.answer db) : r = q := by
  cases r <;> simp_all [Request.answer]

/-- A completion handler creates no SuShare. -/
theorem Answer.created_of_completion {client : Client} {a : Answer} {r : Request}
    (hr : r ∈ a.completion client) : r.created? = none := by
  have hf := Answer.isFollowUp_of_completion hr
  cases r with
  | createASusu user docRef sushare => cases hf
  | _ => rfl

namespace World

variable {w w' : World} {a : Action}

theorem mem_copies {c : Copy} : c ∈ w.copies ↔ c ∈ w.lists ∨ c ∈ w.screens ∨
    (∃ r ∈ w.requests, r.copy? = some c) ∨ ∃ a ∈ w.answers, a.copy? = some c := by
  simp [copies]

theorem mem_copies_of_screen {c : Copy} (h : c ∈ w.screens) : c ∈ w.copies :=
  mem_copies.mpr (Or.inr (Or.inl h))

theorem mem_copies_of_request {r : Request} {c : Copy} (hr : r ∈ w.requests)
    (hc : r.copy? = some c) : c ∈ w.copies :=
  mem_copies.mpr (Or.inr (Or.inr (Or.inl ⟨r, hr, hc⟩)))

theorem mem_copies_of_answer {ans : Answer} {c : Copy} (ha : ans ∈ w.answers)
    (hc : ans.copy? = some c) : c ∈ w.copies :=
  mem_copies.mpr (Or.inr (Or.inr (Or.inr ⟨ans, ha, hc⟩)))

/-- The six kinds of step, with what each of them needs. -/
inductive Steps (w : World) : Action → World → Prop
  | receive {tab : Tab} {id : String} {now : Timestamp} {c : Copy}
    (hc : w.read id now tab = some c) :
    Steps w (.receive tab id now) { w with lists := c :: w.lists }
  | openDetail {c : Copy} (hc : c ∈ w.lists) (hp : w.pushes c) :
    Steps w (.openDetail c) { w with screens := c :: w.screens }
  | press {p : Press} {client : Client} {rs : List Request} (hd : client.docRef ∉ w.drawn)
    (hrs : p.requests w client = some rs) :
    Steps w (.press p client)
      { w with requests := rs ++ w.requests, drawn := client.docRef :: w.drawn }
  | serve {r : Request} {db : Store} (hr : r ∈ w.requests) (hdb : r.perform w.db = some db) :
    Steps w (.serve r) (w.served r db)
  | reject {r : Request} (hr : r ∈ w.requests) :
    Steps w (.reject r)
      { w with requests := w.requests.erase r, answers := .failure r :: w.answers }
  | deliver {ans : Answer} {client : Client} (ha : ans ∈ w.answers)
    (hd : client.docRef ∉ w.drawn) :
    Steps w (.deliver ans client)
      { w with
        requests := ans.completion client ++ w.requests
        answers := w.answers.erase ans
        drawn := client.docRef :: w.drawn }

theorem steps_of_step (h : w.step a = some w') : w.Steps a w' := by
  cases a with
  | receive tab id now =>
    obtain ⟨c, hc, rfl⟩ := Option.map_eq_some_iff.mp h
    exact .receive hc
  | openDetail c =>
    obtain ⟨⟨hc, hp⟩, h⟩ := Option.ite_none_right_eq_some.mp h
    obtain rfl := Option.some.inj h
    exact .openDetail hc hp
  | press p client =>
    obtain ⟨hd, h⟩ := Option.ite_none_left_eq_some.mp h
    obtain ⟨rs, hrs, rfl⟩ := Option.map_eq_some_iff.mp h
    exact .press hd hrs
  | serve r =>
    obtain ⟨hr, h⟩ := Option.ite_none_right_eq_some.mp h
    obtain ⟨db, hdb, rfl⟩ := Option.map_eq_some_iff.mp h
    exact .serve hr hdb
  | reject r =>
    obtain ⟨hr, h⟩ := Option.ite_none_right_eq_some.mp h
    obtain rfl := Option.some.inj h
    exact .reject hr
  | deliver ans client =>
    obtain ⟨⟨ha, hd⟩, h⟩ := Option.ite_none_right_eq_some.mp h
    obtain rfl := Option.some.inj h
    exact .deliver ha hd

/-- Only a served request changes the store. -/
theorem db_step (h : w.step a = some w') :
    (w'.db = w.db ∧ w'.favoriteOrigin = w.favoriteOrigin) ∨
      ∃ r db, a = .serve r ∧ r ∈ w.requests ∧ r.perform w.db = some db ∧ w' = w.served r db := by
  cases steps_of_step h with
  | serve hr hdb => exact Or.inr ⟨_, _, rfl, hr, hdb, rfl⟩
  | receive | openDetail | press | reject | deliver => exact Or.inl ⟨rfl, rfl⟩

/-- Where a favorites document comes from : it was just written from a screen's copy, or it
was there. -/
theorem get?_favorites_served {r : Request} {db : Store} (h : r.perform w.db = some db)
    {id : String} {fav : Dictionary} (hf : db.favorites.get? id = some fav) :
    (∃ user screen, r = .addToFavorites user id screen ∧
      fav = Store.favoriteDocument user id screen.sushare ∧
      (w.served r db).favoriteOrigin id = screen.origin) ∨
    w.db.favorites.get? id = some fav ∧
      (w.served r db).favoriteOrigin id = w.favoriteOrigin id := by
  rcases Request.perform_favorites h with ⟨he, ho⟩ | ⟨user, docRef, screen, rfl, rfl⟩ |
    ⟨k, rfl, rfl⟩
  · exact Or.inr ⟨he ▸ hf, congrFun (ho w) id⟩
  · rw [Store.addToFavorites, Collection.get?_setData] at hf
    split_ifs at hf with hid
    · subst hid
      exact Or.inl ⟨user, screen, rfl, (Option.some.inj hf).symm, Function.update_self ..⟩
    · exact Or.inr ⟨hf, Function.update_of_ne hid ..⟩
  · exact Or.inr ⟨Collection.get?_of_get?_delete hf, rfl⟩

/-- Where a request in flight comes from. -/
theorem requests_step (h : w.step a = some w') {r : Request} (hr : r ∈ w'.requests) :
    r ∈ w.requests ∨
      (∃ p client rs, a = .press p client ∧ p.requests w client = some rs ∧ r ∈ rs) ∨
      ∃ ans client, a = .deliver ans client ∧ ans ∈ w.answers ∧ r ∈ ans.completion client := by
  cases steps_of_step h with
  | receive | openDetail => exact Or.inl hr
  | press hd hrs =>
    rcases List.mem_append.mp hr with hr | hr
    · exact Or.inr (Or.inl ⟨_, _, _, rfl, hrs, hr⟩)
    · exact Or.inl hr
  | serve | reject => exact Or.inl (List.mem_of_mem_erase hr)
  | deliver ha hd =>
    rcases List.mem_append.mp hr with hr | hr
    · exact Or.inr (Or.inr ⟨_, _, rfl, ha, hr⟩)
    · exact Or.inl hr

/-- Where an answer in flight comes from. -/
theorem answers_step (h : w.step a = some w') {ans : Answer} (ha : ans ∈ w'.answers) :
    ans ∈ w.answers ∨ (∃ r, a = .serve r ∧ r ∈ w.requests ∧ ans ∈ r.answer w.db) ∨
      ∃ r, a = .reject r ∧ r ∈ w.requests ∧ ans = .failure r := by
  cases steps_of_step h with
  | receive | openDetail | press => exact Or.inl ha
  | serve hr hdb =>
    rcases List.mem_append.mp ha with ha | ha
    · exact Or.inr (Or.inl ⟨_, rfl, hr, ha⟩)
    · exact Or.inl ha
  | reject hr =>
    rcases List.mem_cons.mp ha with rfl | ha
    · exact Or.inr (Or.inr ⟨_, rfl, hr, rfl⟩)
    · exact Or.inl ha
  | deliver => exact Or.inl (List.mem_of_mem_erase ha)

/-- What becomes of a request in flight : it stays, or it is served or rejected. -/
theorem requests_kept (h : w.step a = some w') {r : Request} (hr : r ∈ w.requests) :
    r ∈ w'.requests ∨ (∃ db, a = .serve r ∧ r.perform w.db = some db ∧ w' = w.served r db) ∨
      a = .reject r := by
  cases steps_of_step h with
  | receive | openDetail => exact Or.inl hr
  | press | deliver => exact Or.inl (List.mem_append_right _ hr)
  | @serve q db hq hdb =>
    by_cases hrq : r = q
    · subst hrq
      exact Or.inr (Or.inl ⟨db, rfl, hdb, rfl⟩)
    · exact Or.inl ((List.mem_erase_of_ne hrq).mpr hr)
  | @reject q hq =>
    by_cases hrq : r = q
    · exact Or.inr (Or.inr (by rw [hrq]))
    · exact Or.inl ((List.mem_erase_of_ne hrq).mpr hr)

/-- What becomes of an answer in flight : it stays, or it is delivered. -/
theorem answers_kept (h : w.step a = some w') {ans : Answer} (ha : ans ∈ w.answers) :
    ans ∈ w'.answers ∨ ∃ client, a = .deliver ans client ∧
      ∀ r ∈ ans.completion client, r ∈ w'.requests := by
  cases steps_of_step h with
  | receive | openDetail | press => exact Or.inl ha
  | serve => exact Or.inl (List.mem_append_right _ ha)
  | reject => exact Or.inl (List.mem_cons_of_mem _ ha)
  | @deliver other client _ _ =>
    by_cases he : ans = other
    · subst he
      exact Or.inr ⟨client, rfl, fun r hr => List.mem_append_left _ hr⟩
    · exact Or.inl ((List.mem_erase_of_ne he).mpr ha)

/-- The ids drawn so far stay drawn. -/
theorem drawn_subset (h : w.step a = some w') : w.drawn ⊆ w'.drawn := by
  cases steps_of_step h with
  | press | deliver => exact List.subset_cons_self _ _
  | receive | openDetail | serve | reject => exact List.Subset.refl _

/-- A detail screen that was opened stays. -/
theorem screens_subset (h : w.step a = some w') : w.screens ⊆ w'.screens := by
  cases steps_of_step h with
  | openDetail => exact List.subset_cons_self _ _
  | receive | press | serve | reject | deliver => exact List.Subset.refl _

/-- What a list decodes, and from where. -/
theorem read_eq_some {tab : Tab} {id : String} {now : Timestamp} {c : Copy}
    (h : w.read id now tab = some c) :
    c.tab = tab ∧ ∃ doc, c.sushare = SuShare.init now doc ∧
      ((w.db.suShare.get? id = some doc ∧ c.origin = id ∧ ∀ profile, tab ≠ .favorites profile) ∨
        ∃ profile, w.db.favorites.get? id = some doc ∧ c.origin = w.favoriteOrigin id ∧
          tab = .favorites profile ∧ doc "userId" = some (.string profile)) := by
  cases tab with
  | explore =>
    obtain ⟨doc, hd, h⟩ := Option.bind_eq_some_iff.mp h
    obtain ⟨-, h⟩ := Option.ite_none_left_eq_some.mp h
    obtain rfl := Option.some.inj h
    exact ⟨rfl, doc, rfl, Or.inl ⟨hd, rfl, by simp⟩⟩
  | created profile =>
    obtain ⟨doc, hd, h⟩ := Option.bind_eq_some_iff.mp h
    obtain ⟨-, h⟩ := Option.ite_none_right_eq_some.mp h
    obtain rfl := Option.some.inj h
    exact ⟨rfl, doc, rfl, Or.inl ⟨hd, rfl, by simp⟩⟩
  | favorites profile =>
    obtain ⟨doc, hd, h⟩ := Option.bind_eq_some_iff.mp h
    obtain ⟨hu, h⟩ := Option.ite_none_right_eq_some.mp h
    obtain rfl := Option.some.inj h
    exact ⟨rfl, doc, rfl, Or.inr ⟨profile, hd, rfl, rfl, hu⟩⟩

/-- A copy in a list or on a screen was there before, or has just been received. -/
theorem screens_step (h : w.step a = some w') {c : Copy} (hc : c ∈ w'.lists ∨ c ∈ w'.screens) :
    (c ∈ w.lists ∨ c ∈ w.screens) ∨
      ∃ tab id now, a = .receive tab id now ∧ w.read id now tab = some c := by
  cases steps_of_step h with
  | receive hd =>
    rcases hc with hc | hc
    · rcases List.mem_cons.mp hc with rfl | hc
      · exact Or.inr ⟨_, _, _, rfl, hd⟩
      · exact Or.inl (Or.inl hc)
    · exact Or.inl (Or.inr hc)
  | openDetail hl =>
    rcases hc with hc | hc
    · exact Or.inl (Or.inl hc)
    · rcases List.mem_cons.mp hc with rfl | hc
      · exact Or.inl (Or.inl hl)
      · exact Or.inl (Or.inr hc)
  | press | serve | reject | deliver => exact Or.inl hc

/-- A copy that a client holds was held before, or has just been received. -/
theorem copies_step (h : w.step a = some w') {c : Copy} (hc : c ∈ w'.copies) :
    c ∈ w.copies ∨ ∃ tab id now, a = .receive tab id now ∧ w.read id now tab = some c := by
  have held : ∀ {c}, c ∈ w.lists ∨ c ∈ w.screens → c ∈ w.copies := fun hc =>
    mem_copies.mpr (hc.imp_right Or.inl)
  rcases mem_copies.mp hc with hc | hc | ⟨r, hr, hc⟩ | ⟨ans, ha, hc⟩
  · exact (screens_step h (Or.inl hc)).imp_left held
  · exact (screens_step h (Or.inr hc)).imp_left held
  · left
    rcases requests_step h hr with hr | ⟨p, client, rs, -, hrs, hr⟩ | ⟨ans, client, -, ha, hr⟩
    · exact mem_copies_of_request hr hc
    · exact held (Press.copy_of_requests hrs hr hc)
    · exact mem_copies_of_answer ha (Answer.copy_of_completion hr hc)
  · left
    rcases answers_step h ha with ha | ⟨r, -, hr, ha⟩ | ⟨r, -, hr, rfl⟩
    · exact mem_copies_of_answer ha hc
    · exact mem_copies_of_request hr (Request.copy_of_answer ha hc)
    · exact mem_copies_of_request hr hc

end World

/-! ## A SuShare among four -/

namespace Sample

def ann : AuthUser := ⟨"ann", some "Ann", none⟩

def bob : AuthUser := ⟨"bob", some "Bob", none⟩

def cat : AuthUser := ⟨"cat", some "Cat", none⟩

/-- Ann's and Bob's profiles. -/
def profiles : Collection String Dictionary :=
  (Collection.empty.setData "ann" <| .ofList
    [("username", .string "Ann"), ("userId", .string "ann")]).setData "bob" <| .ofList
    [("username", .string "Bob"), ("userId", .string "bob")]

def client (user : AuthUser) (docRef : String) : Client :=
  ⟨some user, docRef, ⟨0, 0⟩, ""⟩

/-- What Ann enters. -/
def form : CreateForm where
  susuTitle := some "Roof"
  susuDes := some "A new roof"
  num := some (.finite 100)
  controls := .configureController
  schedule := some "Weekly"
  selectedImage := true
  isItPrivate := some .publicState
  selectedCategories := []

/-- Ann's SuShare as the Explore list decodes it. -/
def roof : SuShare where
  securityState := "publicState"
  susuTitle := "Roof"
  imageURL := " no image url"
  suShareDescription := "A new roof"
  potAmount := .finite 100
  numOfParticipants := 4
  paymentSchedule := "Weekly"
  userId := "ann"
  category := []
  createdDate := ⟨0, 0⟩
  suShareId := "s1"
  usersInTheSuShare := ["ann"]
  isTheSuShareFlagged := false
  favId := ""

/-- Ann's SuShare as the form posts it. -/
def posted : SuShare :=
  { roof with
    imageURL := "should be accessed from storage"
    userId := "nil"
    suShareId := "nil" }

def roofCopy : Copy :=
  ⟨.explore, "s1", roof⟩

/-- Bob's favorite of Ann's SuShare, as his Favorites tab decodes it. -/
def favoriteCopy : Copy :=
  ⟨.favorites "bob", "s1",
    { roof with suShareDescription := "No Description", userId := "bob", favId := "f1" }⟩

/-- Ann posts her SuShare, and its detail screen is opened from an Explore list. -/
def opening : List Action :=
  [.press (.addSusu form) (client ann "s1"), .serve (.createASusu ann "s1" posted),
    .receive .explore "s1" ⟨0, 0⟩, .openDetail roofCopy]

/-- Then Bob adds it to his favorites and opens it from there. -/
def favoriting : List Action :=
  opening ++ [.press (.addToFavorites roofCopy) (client bob "f1"),
    .serve (.addToFavorites bob "f1" roofCopy), .receive (.favorites "bob") "f1" ⟨0, 0⟩,
    .openDetail favoriteCopy]

/-- Ann posts her SuShare without a photo, and it is shown on an Explore list. -/
def showing : List Action :=
  opening ++ [.deliver (.success (.createASusu ann "s1" posted)) (client ann "d1"),
    .reject (.uploadPhoto "s1"), .deliver (.failure (.uploadPhoto "s1")) (client ann "d2")]

/-- A run of the app over these profiles whose last state passes a test. -/
theorem exists_run (as : List Action) (p : World → Prop)
    (h : ∃ w ∈ (app profiles).exec (World.initial profiles) as, p w) :
    ∃ w, (app profiles).Run as w ∧ p w :=
  TransitionSystem.exists_run_of_exec as p rfl h

end Sample

end SuShareApp
