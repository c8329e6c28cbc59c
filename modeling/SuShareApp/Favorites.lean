import SuShareApp.Library.SetObject
import SuShareApp.World

/-!
# Favorites

A favorites document is written under a random id, and nothing keeps two of them from
carrying the same user and SuShare. What makes the collection a set of such pairs is that
`removeFromFavorite` deletes every document its query finds, and that the queries ask for
the two fields which `addToFavorites` writes. With one call after another, each finished
before the next starts, the pairs follow `setObject` (`FavoriteCall.projection`).

A call of `removeFromFavorite` is the query and the deletes that its handler issues, served
one after another (`exec_removeFromFavorite`).
-/

namespace SuShareApp

namespace Store

/-! ## The pairs of a collection -/

/-- The document is found for the user and the SuShare. -/
def IsFavorite (doc : Dictionary) (p : String × String) : Prop :=
  doc "userId" = some (.string p.1) ∧ doc "suShareId" = some (.string p.2)

/-- The pairs of user and SuShare that some document is found for. -/
def favorited (db : Store) : Set (String × String) :=
  {p | ∃ id doc, db.favorites.get? id = some doc ∧ IsFavorite doc p}

variable {db : Store} {user : AuthUser} {suShare : SuShare} {id docRef : String}

theorem isFavorite_favoriteDocument {p : String × String} :
    IsFavorite (favoriteDocument user docRef suShare) p ↔ p = (user.uid, suShare.suShareId) := by
  obtain ⟨uid, suShareId⟩ := p
  simp [IsFavorite, favoriteDocument, eq_comm]

/-- A document is found for one pair only. -/
theorem IsFavorite.eq {doc : Dictionary} {p q : String × String} (hp : IsFavorite doc p)
    (hq : IsFavorite doc q) : p = q := by
  have hu := hp.1.symm.trans hq.1
  have hs := hp.2.symm.trans hq.2
  exact Prod.ext (by simpa using hu) (by simpa using hs)

theorem mem_favoritesOf : id ∈ db.favoritesOf user suShare ↔
    ∃ doc, db.favorites.get? id = some doc ∧ IsFavorite doc (user.uid, suShare.suShareId) := by
  unfold favoritesOf IsFavorite
  constructor
  · intro h
    obtain ⟨⟨_, doc⟩, hd, rfl⟩ := List.mem_map.mp h
    obtain ⟨hd, hp⟩ := Collection.mem_query.mp hd
    exact ⟨doc, hd, by simpa using hp⟩
  · rintro ⟨doc, hd, hp⟩
    exact List.mem_map.mpr ⟨(id, doc), Collection.mem_query.mpr ⟨hd, by simpa using hp⟩, rfl⟩

theorem isSuShareFavorite_iff :
    db.isSuShareFavorite user suShare = true ↔ (user.uid, suShare.suShareId) ∈ db.favorited := by
  unfold isSuShareFavorite
  rw [decide_eq_true_iff, gt_iff_lt, List.length_pos_iff_exists_mem]
  constructor
  · rintro ⟨⟨id, doc⟩, hd⟩
    obtain ⟨hd, hp⟩ := Collection.mem_query.mp hd
    exact ⟨id, doc, hd, by simpa [IsFavorite, and_comm] using hp⟩
  · rintro ⟨id, doc, hd, hp⟩
    exact ⟨(id, doc), Collection.mem_query.mpr ⟨hd, by simpa [IsFavorite, and_comm] using hp⟩⟩

/-! ## Adding and removing -/

/-- The collection after a remove : the documents that were not found. -/
theorem get?_removeFromFavorite : (db.removeFromFavorite user suShare).favorites.get? id =
    if id ∈ db.favoritesOf user suShare then none else db.favorites.get? id := by
  have hfold : ∀ (ids : List String) (db : Store),
      (ids.foldl deleteFavorite db).favorites = ids.foldl Collection.delete db.favorites := by
    intro ids
    induction ids with
    | nil => exact fun _ => rfl
    | cons id ids ih => exact fun db => ih (db.deleteFavorite id)
  rw [removeFromFavorite, hfold, Collection.get?_foldl_delete]

theorem get?_removeFromFavorite_eq_some {doc : Dictionary} :
    (db.removeFromFavorite user suShare).favorites.get? id = some doc ↔
      db.favorites.get? id = some doc ∧ ¬IsFavorite doc (user.uid, suShare.suShareId) := by
  rw [get?_removeFromFavorite]
  split_ifs with hid
  · obtain ⟨doc', hd', hp⟩ := mem_favoritesOf.mp hid
    simp only [false_iff, not_and, not_not]
    intro hd
    exact Option.some.inj (hd'.symm.trans hd) ▸ hp
  · exact (and_iff_left_of_imp fun hd hp => hid (mem_favoritesOf.mpr ⟨doc, hd, hp⟩)).symm

theorem favorited_removeFromFavorite : (db.removeFromFavorite user suShare).favorited =
    db.favorited \ {(user.uid, suShare.suShareId)} := by
  ext p
  constructor
  · rintro ⟨id, doc, hd, hp⟩
    obtain ⟨hd, hn⟩ := get?_removeFromFavorite_eq_some.mp hd
    exact ⟨⟨id, doc, hd, hp⟩, fun he => hn (he ▸ hp)⟩
  · rintro ⟨⟨id, doc, hd, hp⟩, hn⟩
    exact ⟨id, doc, get?_removeFromFavorite_eq_some.mpr ⟨hd, fun hq => hn (hp.eq hq)⟩, hp⟩

/-- A document that is there after an add was written by it, or was there. -/
theorem of_get?_addToFavorites {doc : Dictionary}
    (h : (db.addToFavorites user docRef suShare).favorites.get? id = some doc) :
    (id = docRef ∧ doc = favoriteDocument user docRef suShare) ∨
      db.favorites.get? id = some doc := by
  rw [addToFavorites, Collection.get?_setData] at h
  split_ifs at h with hid
  · exact Or.inl ⟨hid, (Option.some.inj h).symm⟩
  · exact Or.inr h

/-- An add is about its own pair only. -/
theorem favorited_addToFavorites_subset : (db.addToFavorites user docRef suShare).favorited ⊆
    {(user.uid, suShare.suShareId)} ∪ db.favorited := by
  rintro p ⟨id, doc, hd, hp⟩
  rcases of_get?_addToFavorites hd with ⟨rfl, rfl⟩ | hd
  · exact Or.inl (isFavorite_favoriteDocument.mp hp)
  · exact Or.inr ⟨id, doc, hd, hp⟩

theorem favorited_addToFavorites (h : db.favorites.get? docRef = none) :
    (db.addToFavorites user docRef suShare).favorited =
      {(user.uid, suShare.suShareId)} ∪ db.favorited := by
  refine favorited_addToFavorites_subset.antisymm ?_
  rintro p (rfl | ⟨id, doc, hd, hp⟩)
  · exact ⟨docRef, _, Collection.get?_setData_self _ _ _, isFavorite_favoriteDocument.mpr rfl⟩
  · have hne : id ≠ docRef := by
      rintro rfl
      simp [h] at hd
    exact ⟨id, doc, (Collection.get?_setData_of_ne _ hne _).trans hd, hp⟩

/-! ## Listing -/

/-- Every favorites document was written by `addToFavorites`. -/
def FavoritesWritten (db : Store) : Prop :=
  ∀ id doc, db.favorites.get? id = some doc →
    ∃ user docRef suShare, doc = favoriteDocument user docRef suShare

theorem FavoritesWritten.addToFavorites (h : db.FavoritesWritten) :
    (db.addToFavorites user docRef suShare).FavoritesWritten := by
  intro id doc hd
  rcases of_get?_addToFavorites hd with ⟨-, rfl⟩ | hd
  · exact ⟨user, docRef, suShare, rfl⟩
  · exact h id doc hd

theorem FavoritesWritten.removeFromFavorite (h : db.FavoritesWritten) :
    (db.removeFromFavorite user suShare).FavoritesWritten :=
  fun id doc hd => h id doc (get?_removeFromFavorite_eq_some.mp hd).1

/-- A document is decoded to the SuShare it is found for. -/
theorem FavoritesWritten.read_suShareId (h : db.FavoritesWritten) (now : Timestamp)
    {doc : Dictionary} (hd : db.favorites.get? id = some doc) :
    doc "suShareId" = some (.string (SuShare.init now doc).suShareId) := by
  obtain ⟨user, docRef, suShare, rfl⟩ := h id doc hd
  simp [favoriteDocument, SuShare.init, Dictionary.read, FieldValue.asString]

/-- The SuShares that the Favorites tab lists. -/
theorem mem_getAllFavorites (h : db.FavoritesWritten) {now : Timestamp} {u : User} :
    id ∈ (db.getAllFavorites now u).map SuShare.suShareId ↔ (u.userId, id) ∈ db.favorited := by
  unfold getAllFavorites
  rw [List.map_map, List.mem_map]
  constructor
  · rintro ⟨⟨k, doc⟩, hd, rfl⟩
    obtain ⟨hd, hu⟩ := Collection.mem_query.mp hd
    exact ⟨k, doc, hd, by simpa using hu, h.read_suShareId now hd⟩
  · rintro ⟨k, doc, hd, hu, hs⟩
    refine ⟨(k, doc), Collection.mem_query.mpr ⟨hd, by simpa using hu⟩, ?_⟩
    have he := hs.symm.trans (h.read_suShareId now hd)
    simpa using he.symm

theorem mem_getAllFavoritesCurrent (h : db.FavoritesWritten) {now : Timestamp} :
    id ∈ (db.getAllFavoritesCurrent now user).map SuShare.suShareId ↔
      (user.uid, id) ∈ db.favorited :=
  mem_getAllFavorites h (u := ⟨"", "", user.uid, "", "", ""⟩)

end Store

/-! ## Calls -/

/-- A call by a signed-in user, with the id that `document()` draws for an add. -/
inductive FavoriteCall
  | addToFavorites (user : AuthUser) (docRef : String) (sushare : SuShare)
  | removeFromFavorite (user : AuthUser) (suShare : SuShare)
  | isSuShareFavorite (user : AuthUser) (suShare : SuShare)
deriving DecidableEq, Repr

namespace FavoriteCall

/-- The user of the call and the SuShare that it is about. -/
def pair : FavoriteCall → String × String
  | .addToFavorites user _ suShare | .removeFromFavorite user suShare
  | .isSuShareFavorite user suShare => (user.uid, suShare.suShareId)

/-- The operation of the set of pairs that the call is. -/
def setOp : FavoriteCall → Option (SetOp (String × String))
  | .addToFavorites user _ suShare => some (.insert (user.uid, suShare.suShareId))
  | .removeFromFavorite user suShare => some (.erase (user.uid, suShare.suShareId))
  | .isSuShareFavorite _ _ => none

/-- The store when the call is finished. No document has the id that an add draws. -/
def perform (db : Store) : FavoriteCall → Option Store
  | .addToFavorites user docRef suShare =>
    if (db.favorites.get? docRef).isNone then some (db.addToFavorites user docRef suShare)
    else none
  | .removeFromFavorite user suShare => some (db.removeFromFavorite user suShare)
  | .isSuShareFavorite _ _ => some db

end FavoriteCall

/-- Calls one after another, from a store without favorites. -/
def favoriteCalls : TransitionSystem Store FavoriteCall where
  init db := db.favorites = .empty
  step := FavoriteCall.perform

namespace FavoriteCall

variable {db db' : Store} {call : FavoriteCall}

/-- An add that was performed drew a new id. -/
theorem of_perform_addToFavorites {user : AuthUser} {docRef : String} {suShare : SuShare}
    (h : (addToFavorites user docRef suShare).perform db = some db') :
    db.favorites.get? docRef = none ∧ db' = db.addToFavorites user docRef suShare := by
  obtain ⟨hnew, h⟩ := Option.ite_none_right_eq_some.mp h
  exact ⟨Option.isNone_iff_eq_none.mp hnew, (Option.some.inj h).symm⟩

/-- The pairs of the store follow the set of pairs. -/
def projection : TransitionSystem.Projection favoriteCalls (setObject (String × String)) where
  state := Store.favorited
  action := setOp
  init db h := by
    have h0 : db.favorites = .empty := h
    refine Set.eq_empty_of_forall_notMem ?_
    rintro p ⟨id, doc, hd, -⟩
    simp [h0] at hd
  step db call db' op h hop := by
    cases call with
    | addToFavorites user docRef suShare =>
      obtain ⟨hnew, rfl⟩ := of_perform_addToFavorites h
      obtain rfl := Option.some.inj hop
      exact congrArg some (Store.favorited_addToFavorites hnew).symm
    | removeFromFavorite user suShare =>
      obtain rfl := Option.some.inj h
      obtain rfl := Option.some.inj hop
      exact congrArg some Store.favorited_removeFromFavorite.symm
    | isSuShareFavorite user suShare => cases hop
  stutter db call db' h hop := by
    cases call with
    | isSuShareFavorite user suShare =>
      obtain rfl := Option.some.inj h
      rfl
    | _ => cases hop

theorem favoritesWritten_perform (hw : db.FavoritesWritten) (h : call.perform db = some db') :
    db'.FavoritesWritten := by
  cases call with
  | addToFavorites user docRef suShare =>
    obtain ⟨-, rfl⟩ := of_perform_addToFavorites h
    exact hw.addToFavorites
  | removeFromFavorite user suShare =>
    obtain rfl := Option.some.inj h
    exact hw.removeFromFavorite
  | isSuShareFavorite user suShare =>
    obtain rfl := Option.some.inj h
    exact hw

theorem favoritesWritten {calls : List FavoriteCall} (h : favoriteCalls.Run calls db) :
    db.FavoritesWritten := by
  refine h.invariant (I := fun _ db => db.FavoritesWritten) (fun db h0 => ?_)
    fun _ _ _ _ _ hw hs => favoritesWritten_perform hw hs
  have h0 : db.favorites = .empty := h0
  intro id doc hd
  simp [h0] at hd

/-- A call leaves the documents of other users and of other SuShares as they are. -/
theorem get?_perform (h : call.perform db = some db') {id : String} {doc : Dictionary}
    (hn : ¬Store.IsFavorite doc call.pair) :
    db'.favorites.get? id = some doc ↔ db.favorites.get? id = some doc := by
  cases call with
  | addToFavorites user docRef suShare =>
    obtain ⟨hnew, rfl⟩ := of_perform_addToFavorites h
    rw [Store.addToFavorites, Collection.get?_setData]
    split_ifs with hid
    · subst hid
      refine iff_of_false (fun he => hn ?_) (by simp [hnew])
      obtain rfl := Option.some.inj he
      exact Store.isFavorite_favoriteDocument.mpr rfl
    · exact Iff.rfl
  | removeFromFavorite user suShare =>
    obtain rfl := Option.some.inj h
    exact Store.get?_removeFromFavorite_eq_some.trans (and_iff_left hn)
  | isSuShareFavorite user suShare =>
    obtain rfl := Option.some.inj h
    exact Iff.rfl

/-- The favorites collection is a set for one call after another : both queries answer what
the last add or remove says, and a call changes no document of another pair. -/
theorem favorites_set {calls : List FavoriteCall} (h : favoriteCalls.Run calls db) :
    (∀ (user : AuthUser) (suShare : SuShare), db.isSuShareFavorite user suShare = true ↔
      SetOp.last (user.uid, suShare.suShareId) (calls.filterMap setOp) =
        some (.insert (user.uid, suShare.suShareId))) ∧
    (∀ (now : Timestamp) (user : User) (suShareId : String),
      suShareId ∈ (db.getAllFavorites now user).map SuShare.suShareId ↔
        SetOp.last (user.userId, suShareId) (calls.filterMap setOp) =
          some (.insert (user.userId, suShareId))) ∧
    (∀ (now : Timestamp) (user : AuthUser) (suShareId : String),
      suShareId ∈ (db.getAllFavoritesCurrent now user).map SuShare.suShareId ↔
        SetOp.last (user.uid, suShareId) (calls.filterMap setOp) =
          some (.insert (user.uid, suShareId))) ∧
    ∀ (call : FavoriteCall) (db' : Store), call.perform db = some db' →
      ∀ (id : String) (doc : Dictionary), ¬Store.IsFavorite doc call.pair →
        (db'.favorites.get? id = some doc ↔ db.favorites.get? id = some doc) := by
  have hset : ∀ p, p ∈ db.favorited ↔ SetOp.last p (calls.filterMap setOp) = some (.insert p) :=
    (projection.run h).mem_iff
  refine ⟨fun user suShare => ?_, fun now user suShareId => ?_, fun now user suShareId => ?_,
    fun call db' hs id doc hn => ?_⟩
  · rw [Store.isSuShareFavorite_iff, hset]
  · rw [Store.mem_getAllFavorites (favoritesWritten h), hset]
  · rw [Store.mem_getAllFavoritesCurrent (favoritesWritten h), hset]
  · exact get?_perform hs hn

/-- Bob adds Ann's SuShare twice and removes it, and Ann adds it in between. -/
def addingTwice : List FavoriteCall :=
  [.addToFavorites Sample.bob "f1" Sample.roof, .addToFavorites Sample.ann "f2" Sample.roof,
    .addToFavorites Sample.bob "f3" Sample.roof, .removeFromFavorite Sample.bob Sample.roof]

/-- Only Ann has it as a favorite. -/
theorem favorites_set_addingTwice : ∃ db, favoriteCalls.Run addingTwice db ∧
    db.isSuShareFavorite Sample.ann Sample.roof = true ∧
    ¬db.isSuShareFavorite Sample.bob Sample.roof = true := by
  obtain ⟨db, hrun, -⟩ : ∃ db, favoriteCalls.Run addingTwice db ∧ True :=
    TransitionSystem.exists_run_of_exec (s := (World.initial .empty).db) _ _ rfl
      (by decide +kernel)
  have hset := (favorites_set hrun).1
  refine ⟨db, hrun, (hset _ _).mpr (by decide +kernel), fun h => ?_⟩
  exact absurd ((hset _ _).mp h) (by decide +kernel)

end FavoriteCall

/-! ## The call among the requests -/

namespace World

/-- The server serves the deletes in flight one after another. -/
theorem exec_deletes (users : Collection String Dictionary) (rest : List Request) :
    ∀ (ids : List String) (w : World), w.requests = ids.map .deleteFavorite ++ rest →
      ∃ w', (app users).exec w (ids.map fun id => .serve (.deleteFavorite id)) = some w' ∧
        w'.db = ids.foldl Store.deleteFavorite w.db
  | [], w, _ => ⟨w, rfl, rfl⟩
  | id :: ids, w, h => by
    have hreq : w.requests = .deleteFavorite id :: (ids.map .deleteFavorite ++ rest) := h
    obtain ⟨w', hexec, hdb⟩ := exec_deletes users rest ids
      (w.served (.deleteFavorite id) (w.db.deleteFavorite id)) (by simp [served, hreq])
    refine ⟨w', ?_, hdb⟩
    have hstep : (app users).step w (.serve (.deleteFavorite id)) =
        some (w.served (.deleteFavorite id) (w.db.deleteFavorite id)) := by
      simp [app, step, hreq, Request.perform]
    rw [List.map_cons, TransitionSystem.exec, hstep]
    exact hexec

/-- A remove in flight whose query is served and answered, and whose deletes are served with
nothing else in between, leaves the store of `removeFromFavorite`. -/
theorem exec_removeFromFavorite {users : Collection String Dictionary} {w : World}
    {user : AuthUser} {screen : Copy} {client : Client}
    (hr : .removeFromFavorite user screen ∈ w.requests) (hd : client.docRef ∉ w.drawn) :
    ∃ w', (app users).exec w (.serve (.removeFromFavorite user screen) ::
        .deliver (.favoriteDocuments (w.db.favoritesOf user screen.sushare)) client ::
        (w.db.favoritesOf user screen.sushare).map fun id => .serve (.deleteFavorite id)) =
      some w' ∧ w'.db = w.db.removeFromFavorite user screen.sushare := by
  obtain ⟨w', hexec, hdb⟩ := exec_deletes users (w.requests.erase (.removeFromFavorite user screen))
    (w.db.favoritesOf user screen.sushare)
    { w with
      requests := (w.db.favoritesOf user screen.sushare).map .deleteFavorite ++
        w.requests.erase (.removeFromFavorite user screen)
      drawn := client.docRef :: w.drawn } rfl
  refine ⟨w', ?_, hdb⟩
  simpa [TransitionSystem.exec, app, step, hr, hd, Request.perform, served, originAfter,
    Request.answer, Answer.completion] using hexec

end World

end SuShareApp
