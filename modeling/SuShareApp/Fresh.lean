import SuShareApp.Library.Keys
import SuShareApp.World

/-!
# Fresh ids

A new document is written under the id that `document()` drew for it, in whichever
collection. The draw happens when the write is issued and the write when it is served, so
what keeps one document from landing on another is an invariant over both : the ids of the
writes in flight are distinct, all of them were drawn, and nothing is stored under them yet
(`Fresh`).
-/

namespace SuShareApp

/-- The collections that draw the ids of their documents. -/
inductive Place
  | suShare
  | favorites
  | updates
  | flagged
  | comments (suShareId : String)
deriving DecidableEq

namespace Store

def collection (db : Store) : Place → Collection String Dictionary
  | .suShare => db.suShare
  | .favorites => db.favorites
  | .updates => db.updates
  | .flagged => db.flagged
  | .comments suShareId => db.comments suShareId

/-- A document has the id. -/
def Has (db : Store) (id : String) : Prop :=
  ∃ place doc, (db.collection place).get? id = some doc

end Store

namespace Request

/-- The new document that the request writes : its collection, its id and its fields. -/
def creates : Request → Option (Place × String × Dictionary)
  | .createASusu user docRef sushare =>
    some (.suShare, docRef, Store.suShareDocument user docRef sushare)
  | .addToFavorites user docRef screen =>
    some (.favorites, docRef, Store.favoriteDocument user docRef screen.sushare)
  | .addUpdate dbUser docRef now joiner screen => some (.updates, docRef,
      Store.updateDocument dbUser (screen.sushare.appendingUser joiner.uid) docRef now)
  | .flagASuShare user docRef copy =>
    some (.flagged, docRef, Store.reportDocument user copy.sushare)
  | .postComment displayName docRef now comment screen =>
    some (.comments screen.sushare.suShareId, docRef,
      Store.commentDocument displayName now screen.sushare comment)
  | _ => none

theorem docRef?_of_creates {r : Request} {place : Place} {id : String} {doc : Dictionary}
    (h : r.creates = some (place, id, doc)) : r.docRef? = some id := by
  cases r <;> simp_all [creates, docRef?]

variable {db db' : Store} {r : Request}

/-- What a served request does to a collection : nothing, the new document, an update of a
SuShare, or the deletion of a favorite. -/
theorem perform_collection (h : r.perform db = some db') (place : Place) :
    db'.collection place = db.collection place ∨
      (∃ id doc, r.creates = some (place, id, doc) ∧
        db'.collection place = (db.collection place).setData id doc) ∨
      (place = .suShare ∧ r.creates = none) ∨
      ∃ id, r = .deleteFavorite id ∧ place = .favorites ∧
        db'.collection place = (db.collection place).delete id := by
  cases r with
  | createASusu user docRef sushare =>
    obtain rfl := Option.some.inj h
    cases place with
    | suShare => exact Or.inr (Or.inl ⟨_, _, rfl, rfl⟩)
    | _ => exact Or.inl rfl
  | addToFavorites user docRef screen =>
    obtain rfl := Option.some.inj h
    cases place with
    | favorites => exact Or.inr (Or.inl ⟨_, _, rfl, rfl⟩)
    | _ => exact Or.inl rfl
  | addUpdate dbUser docRef now joiner screen =>
    obtain rfl := Option.some.inj h
    cases place with
    | updates => exact Or.inr (Or.inl ⟨_, _, rfl, rfl⟩)
    | _ => exact Or.inl rfl
  | flagASuShare user docRef copy =>
    obtain rfl := Option.some.inj h
    cases place with
    | flagged => exact Or.inr (Or.inl ⟨_, _, rfl, rfl⟩)
    | _ => exact Or.inl rfl
  | postComment displayName docRef now comment screen =>
    obtain rfl := Option.some.inj h
    cases place with
    | comments suShareId =>
      by_cases hid : suShareId = screen.sushare.suShareId
      · subst hid
        exact Or.inr (Or.inl ⟨_, _, rfl, Function.update_self ..⟩)
      · exact Or.inl (Function.update_of_ne hid ..)
    | _ => exact Or.inl rfl
  | deleteFavorite id =>
    obtain rfl := Option.some.inj h
    cases place with
    | favorites => exact Or.inr (Or.inr (Or.inr ⟨id, rfl, rfl, rfl⟩))
    | _ => exact Or.inl rfl
  | joinUserToSuShare _ _ | updateSuShareURL _ _ | updateFlaggedInSuShare _ =>
    obtain ⟨doc, -, rfl⟩ := Store.updateSuShare_eq_some h
    cases place with
    | suShare => exact Or.inr (Or.inr (Or.inl ⟨rfl, rfl⟩))
    | _ => exact Or.inl rfl
  | uploadPhoto _ | getCurrentUser _ _ _ | removeFromFavorite _ _ =>
    obtain rfl := Option.some.inj h
    exact Or.inl rfl

/-- A served request adds at most a document with the id it was issued with. -/
theorem has_of_perform (h : r.perform db = some db') {id : String} (hid : db'.Has id) :
    db.Has id ∨ r.docRef? = some id := by
  obtain ⟨place, doc, hd⟩ := hid
  rcases perform_collection h place with he | ⟨k, d, hc, he⟩ | ⟨rfl, hc⟩ | ⟨k, rfl, rfl, he⟩
  · exact Or.inl ⟨place, doc, he ▸ hd⟩
  · rw [he] at hd
    rcases Collection.of_get?_setData hd with rfl | hd
    · exact Or.inr (docRef?_of_creates hc)
    · exact Or.inl ⟨place, doc, hd⟩
  · rcases get?_suShare_of_perform h hd with ⟨user, sushare, rfl, -⟩ | ⟨doc, hd, -⟩
    · cases hc
    · exact Or.inl ⟨.suShare, doc, hd⟩
  · rw [he] at hd
    exact Or.inl ⟨.favorites, doc, Collection.get?_of_get?_delete hd⟩

end Request

/-- A press draws at most one id. -/
theorem Press.docRefs_of_requests {w : World} {client : Client} {p : Press} {rs : List Request}
    (h : p.requests w client = some rs) :
    (rs.filterMap Request.docRef?).Sublist [client.docRef] := by
  cases p with
  | addSusu form =>
    obtain rfl := Option.some.inj h
    cases hu : client.currentUser with
    | none => simp
    | some user => cases hs : form.addSusu (some user) client.now <;> simp [Request.docRef?]
  | report copy =>
    obtain ⟨-, hrs⟩ := Option.ite_none_right_eq_some.mp h
    obtain rfl := Option.some.inj hrs
    simp [Request.docRef?]
  | postComment screen text =>
    obtain ⟨-, hrs⟩ := Option.ite_none_right_eq_some.mp h
    obtain rfl := Option.some.inj hrs
    cases client.currentUser.bind AuthUser.displayName <;> simp [Request.docRef?]
  | joinSushareButtonPressed screen | addToFavorites screen | removeFromFavorite screen =>
    obtain ⟨-, hrs⟩ := Option.ite_none_right_eq_some.mp h
    obtain rfl := Option.some.inj hrs
    cases client.currentUser <;> simp [Request.docRef?]

/-- A completion handler draws at most one id. -/
theorem Answer.docRefs_of_completion (client : Client) (a : Answer) :
    ((a.completion client).filterMap Request.docRef?).Sublist [client.docRef] := by
  cases a with
  | success q =>
    cases q with
    | createASusu _ _ _ | uploadPhoto _ => simp [Answer.completion, Request.docRef?]
    | joinUserToSuShare _ _ | updateFlaggedInSuShare _ =>
      cases hu : client.currentUser <;> simp [Answer.completion, Request.docRef?, hu]
    | _ => simp [Answer.completion]
  | failure q => simp [Answer.completion]
  | currentUser dbUser joiner screen => simp [Answer.completion, Request.docRef?]
  | favoriteDocuments ids =>
    simp [Answer.completion, List.filterMap_map, Function.comp_def, Request.docRef?]

/-! ## The invariant -/

/-- The ids of the writes in flight are distinct and drawn, and new to the store, which has
only ids that were drawn. -/
structure Fresh (w : World) : Prop where
  nodup : (w.requests.filterMap Request.docRef?).Nodup
  drawn : ∀ r ∈ w.requests, ∀ id, r.docRef? = some id → id ∈ w.drawn
  stored : ∀ id, w.db.Has id → id ∈ w.drawn
  absent : ∀ r ∈ w.requests, ∀ id, r.docRef? = some id → ¬w.db.Has id

namespace Fresh

variable {w w' : World} {a : Action}

theorem of_initial (users : Collection String Dictionary) : Fresh (World.initial users) := by
  refine ⟨List.nodup_nil, by simp [World.initial], ?_, by simp [World.initial]⟩
  rintro id ⟨place, doc, hd⟩
  cases place <;> cases hd

/-- New requests, under at most one newly drawn id. -/
theorem issue (h : Fresh w) {rs : List Request} {docRef : String}
    (hrs : (rs.filterMap Request.docRef?).Sublist [docRef]) (hd : docRef ∉ w.drawn)
    (answers : List Answer) :
    Fresh { w with requests := rs ++ w.requests, answers, drawn := docRef :: w.drawn } := by
  have hnew : ∀ r ∈ rs, ∀ id, r.docRef? = some id → id = docRef := fun r hr id hid =>
    List.mem_singleton.mp (hrs.subset (List.mem_filterMap.mpr ⟨r, hr, hid⟩))
  refine ⟨?_, fun r hr id hid => ?_, fun id hid => List.mem_cons_of_mem _ (h.stored id hid),
    fun r hr id hid => ?_⟩
  · rw [List.filterMap_append]
    refine List.nodup_append.mpr ⟨hrs.nodup (by simp), h.nodup, ?_⟩
    rintro id hid _ hid' rfl
    obtain ⟨r, hr, hid'⟩ := List.mem_filterMap.mp hid'
    obtain rfl := List.mem_singleton.mp (hrs.subset hid)
    exact hd (h.drawn r hr _ hid')
  · rcases List.mem_append.mp hr with hr | hr
    · exact hnew r hr id hid ▸ List.mem_cons_self
    · exact List.mem_cons_of_mem _ (h.drawn r hr id hid)
  · rcases List.mem_append.mp hr with hr | hr
    · exact fun hs => hd (hnew r hr id hid ▸ h.stored id hs)
    · exact h.absent r hr id hid

theorem step (h : Fresh w) (hs : w.step a = some w') : Fresh w' := by
  cases World.steps_of_step hs with
  | receive | openDetail => exact ⟨h.nodup, h.drawn, h.stored, h.absent⟩
  | press hd hrs => exact h.issue (Press.docRefs_of_requests hrs) hd w.answers
  | deliver ha hd => exact h.issue (Answer.docRefs_of_completion _ _) hd _
  | reject hr =>
    exact ⟨(List.erase_sublist.filterMap _).nodup h.nodup,
      fun q hq => h.drawn q (List.mem_of_mem_erase hq), h.stored,
      fun q hq => h.absent q (List.mem_of_mem_erase hq)⟩
  | @serve r db hr hdb =>
    refine ⟨(List.erase_sublist.filterMap _).nodup h.nodup,
      fun q hq => h.drawn q (List.mem_of_mem_erase hq), fun id hid => ?_, fun q hq id hid => ?_⟩
    · exact (Request.has_of_perform hdb hid).elim (h.stored id) (h.drawn r hr id)
    · intro hhas
      rcases Request.has_of_perform hdb hhas with hhas | hrid
      · exact h.absent q (List.mem_of_mem_erase hq) id hid hhas
      · exact Keys.ne_of_mem_erase h.nodup hr hq hid hrid

/-- Reports, updates and comments stay as they were written. -/
theorem get?_collection_step (h : Fresh w) (hs : w.step a = some w') (place : Place)
    (hsuShare : place ≠ .suShare) (hfavorites : place ≠ .favorites) {id : String}
    {doc : Dictionary} (hd : (w.db.collection place).get? id = some doc) :
    (w'.db.collection place).get? id = some doc := by
  rcases World.db_step hs with ⟨he, -⟩ | ⟨r, db, rfl, hr, hdb, rfl⟩
  · rwa [he]
  · change (db.collection place).get? id = some doc
    rcases Request.perform_collection hdb place with he | ⟨k, d, hc, he⟩ | ⟨hp, -⟩ | ⟨k, -, hp, -⟩
    · rwa [he]
    · -- the new document has an id of its own
      have hne : id ≠ k := by
        rintro rfl
        exact h.absent r hr _ (Request.docRef?_of_creates hc) ⟨place, doc, hd⟩
      rwa [he, Collection.get?_setData_of_ne _ hne]
    · exact absurd hp hsuShare
    · exact absurd hp hfavorites

end Fresh

variable {users : Collection String Dictionary} {as : List Action} {w : World}

/-- Every run keeps ids fresh. -/
theorem fresh (h : (app users).Run as w) : Fresh w := by
  refine h.invariant (I := fun _ w => Fresh w) (fun w h0 => ?_) fun _ _ _ _ _ ih hs => ih.step hs
  rw [show w = World.initial users from h0]
  exact .of_initial users

/-! ## The draws of a run -/

/-- The id that a step draws. -/
def Action.drawn? : Action → Option String
  | .press _ client | .deliver _ client => some client.docRef
  | _ => none

/-- The drawn ids, the last first, are those that the steps drew, and no id was drawn
twice. -/
theorem drawn_eq (h : (app users).Run as w) :
    w.drawn = (as.filterMap Action.drawn?).reverse ∧ w.drawn.Nodup := by
  refine h.invariant (I := fun as w => w.drawn = (as.filterMap Action.drawn?).reverse ∧
    w.drawn.Nodup) (fun w h0 => ?_) fun as w a w' _ ih hs => ?_
  · rw [show w = World.initial users from h0]
    exact ⟨rfl, List.nodup_nil⟩
  · obtain ⟨he, hn⟩ := ih
    rw [List.filterMap_append]
    cases World.steps_of_step hs with
    | receive | openDetail | serve | reject => simpa [Action.drawn?] using ⟨he, hn⟩
    | press hd | deliver _ hd => exact ⟨by simp [Action.drawn?, he], List.nodup_cons.mpr ⟨hd, hn⟩⟩

theorem nodup_drawn (h : (app users).Run as w) : (as.filterMap Action.drawn?).Nodup := by
  obtain ⟨he, hn⟩ := drawn_eq h
  rwa [he, (List.reverse_perm _).nodup_iff] at hn

/-- Two steps of a run that drew the same id are the same step. -/
theorem eq_of_drawn? (h : (app users).Run as w) {a b : Action} {id : String} (ha : a ∈ as)
    (hb : b ∈ as) (hda : a.drawn? = some id) (hdb : b.drawn? = some id) : a = b :=
  Keys.eq_of_nodup (nodup_drawn h) ha hb hda hdb

end SuShareApp
