import SuShareApp.Library.Keys
import SuShareApp.Payment
import SuShareApp.World

/-!
# Integrity of the copies

Favorites documents are copies of suShare documents, or copies of such copies, and are
never refreshed; neither are the values on the screens. What keeps them usable is that
they carry the id of the document they come from, and that nothing rewrites the terms of
a SuShare after its creation. `Intact` is the invariant over both collections, every
copy that a client holds and every creation in flight; it holds in every run (`intact`).

The owner is a different matter : `addToFavorites` writes the user who added the
favorite where `createASusu` writes the creator, and the shared decoder reads it back as
the owner of the SuShare (`attributed_iff`).
-/

namespace SuShareApp

/-! ## The terms of a SuShare -/

/-- What a member signs up for. -/
structure Terms where
  susuTitle : String
  potAmount : Double
  numOfParticipants : ℤ
  paymentSchedule : String
  category : List ℤ
  createdDate : Timestamp

def SuShare.terms (s : SuShare) : Terms where
  susuTitle := s.susuTitle
  potAmount := s.potAmount
  numOfParticipants := s.numOfParticipants
  paymentSchedule := s.paymentSchedule
  category := s.category
  createdDate := s.createdDate

/-- The terms as a document keeps them. -/
def Terms.truncate (t : Terms) : Terms :=
  { t with createdDate := t.createdDate.truncate }

namespace Terms

/-- The fields that hold the terms. -/
def keys : List String :=
  ["susuTitle", "potAmount", "numOfParticipants", "paymentSchedule", "category", "createdDate"]

/-- The fields with their values. -/
def fields (t : Terms) : List (String × FieldValue) := [
  ("susuTitle", .string t.susuTitle),
  ("potAmount", .double t.potAmount),
  ("numOfParticipants", .int t.numOfParticipants),
  ("paymentSchedule", .string t.paymentSchedule),
  ("category", .ints t.category),
  ("createdDate", .timestamp t.createdDate)]

/-- The document holds the terms. -/
def In (t : Terms) (doc : Dictionary) : Prop :=
  ∀ f ∈ t.fields, doc f.1 = some f.2

variable {t : Terms} {doc doc' : Dictionary}

theorem fst_mem_keys {f : String × FieldValue} (hf : f ∈ t.fields) : f.1 ∈ keys :=
  List.mem_map_of_mem (f := Prod.fst) hf

theorem key_not_mem_writableFields {key : String} (hk : key ∈ keys) :
    key ∉ Store.writableFields := by
  revert key
  decide

/-- The terms stay where only writable fields change. -/
theorem In.congr (ht : t.In doc) (h : ∀ key, key ∉ Store.writableFields → doc' key = doc key) :
    t.In doc' := by
  intro f hf
  rw [h _ (key_not_mem_writableFields (fst_mem_keys hf))]
  exact ht f hf

/-- Documents with the same terms agree on their fields. -/
theorem In.eq_on_keys (ht : t.In doc) (ht' : t.In doc') {key : String} (hk : key ∈ keys) :
    doc key = doc' key := by
  obtain ⟨f, hf, rfl⟩ : ∃ f ∈ t.fields, f.1 = key := List.mem_map.mp hk
  rw [ht f hf, ht' f hf]

/-- The decoder reads the terms back. -/
theorem In.terms_init (ht : t.In doc) (now : Timestamp) : (SuShare.init now doc).terms = t := by
  simp only [In, fields, List.forall_mem_cons] at ht
  obtain ⟨h1, h2, h3, h4, h5, h6, -⟩ := ht
  simp [SuShare.terms, SuShare.init, Dictionary.read, h1, h2, h3, h4, h5, h6,
    FieldValue.asString, FieldValue.asDouble, FieldValue.asInt, FieldValue.asInts,
    FieldValue.asTimestamp]

end Terms

/-- Both encoders write the terms. -/
theorem SuShare.terms_in_suShareDocument (user : AuthUser) (docRef : String) (s : SuShare) :
    s.terms.truncate.In (Store.suShareDocument user docRef s) := by
  simp [Terms.In, Terms.fields, Terms.truncate, SuShare.terms, Store.suShareDocument]

theorem SuShare.terms_in_favoriteDocument (user : AuthUser) (docRef : String) (s : SuShare) :
    s.terms.truncate.In (Store.favoriteDocument user docRef s) := by
  simp [Terms.In, Terms.fields, Terms.truncate, SuShare.terms, Store.favoriteDocument]

/-! ## The invariant -/

/-- A suShare document as the app writes it. -/
structure SuShareDocument (id : String) (doc : Dictionary) : Prop where
  suShareId : doc "suShareId" = some (.string id)
  userId : ∃ uid, doc "userId" = some (.string uid)
  terms : ∃ t : Terms, t.In doc ∧ 2 ≤ t.numOfParticipants ∧ t.numOfParticipants ≤ 10
  createdDate : ∃ date : Timestamp, doc "createdDate" = some (.timestamp date.truncate)

/-- A SuShare that was copied from the document `id`, with the terms the document still
has. -/
structure CopyOf (db : Store) (id : String) (s : SuShare) : Prop where
  suShareId : s.suShareId = id
  terms : ∃ doc, db.suShare.get? id = some doc ∧ s.terms.In doc

/-- A favorites document that was copied from the suShare document `origin`. -/
structure FavoriteDocument (db : Store) (origin id : String) (fav : Dictionary) : Prop where
  favId : fav "favId" = some (.string id)
  suShareId : fav "suShareId" = some (.string origin)
  terms : ∃ (t : Terms) (doc : Dictionary), db.suShare.get? origin = some doc ∧ t.In doc ∧
    t.In fav

theorem SuShareDocument.congr {id : String} {doc doc' : Dictionary} (h : SuShareDocument id doc)
    (hk : ∀ key, key ∉ Store.writableFields → doc' key = doc key) : SuShareDocument id doc' where
  suShareId := (hk _ (by decide)).trans h.suShareId
  userId := h.userId.imp fun _ hu => (hk _ (by decide)).trans hu
  terms := h.terms.imp fun _ ⟨ht, hn⟩ => ⟨ht.congr hk, hn⟩
  createdDate := h.createdDate.imp fun _ hdate => (hk _ (by decide)).trans hdate

/-- Terms that were read back are written as they are. -/
theorem SuShareDocument.truncate_terms {id : String} {doc : Dictionary} (h : SuShareDocument id doc)
    {t : Terms} (ht : t.In doc) : t.truncate = t := by
  obtain ⟨date, hdate⟩ := h.createdDate
  have hterms : doc "createdDate" = some (.timestamp t.createdDate) :=
    ht ("createdDate", _) (by simp [Terms.fields])
  have he : t.createdDate = date.truncate := by
    simpa using hterms.symm.trans hdate
  rw [Terms.truncate, he, Timestamp.truncate_truncate, ← he]

theorem CopyOf.mono {db db' : Store} {id : String} {s : SuShare} (hdb : db.Extends db')
    (h : CopyOf db id s) : CopyOf db' id s where
  suShareId := h.suShareId
  terms := by
    obtain ⟨doc, hd, ht⟩ := h.terms
    obtain ⟨doc', hd', hk⟩ := hdb id doc hd
    exact ⟨doc', hd', ht.congr hk⟩

theorem FavoriteDocument.mono {db db' : Store} {origin id : String} {fav : Dictionary}
    (hdb : db.Extends db') (h : FavoriteDocument db origin id fav) :
    FavoriteDocument db' origin id fav where
  favId := h.favId
  suShareId := h.suShareId
  terms := by
    obtain ⟨t, doc, hd, ht, hf⟩ := h.terms
    obtain ⟨doc', hd', hk⟩ := hdb origin doc hd
    exact ⟨t, doc', hd', ht.congr hk, hf⟩

/-- A new SuShare, before it is written. -/
structure Posted (w : World) (user : AuthUser) (docRef : String) (s : SuShare) : Prop where
  drawn : docRef ∈ w.drawn
  absent : w.db.suShare.get? docRef = none
  members : s.usersInTheSuShare = [user.uid]
  participants : 2 ≤ s.numOfParticipants ∧ s.numOfParticipants ≤ 10

/-- The invariant : ids are fresh, and every document and every copy is what its id says. -/
structure Intact (w : World) : Prop where
  drawn : ∀ id doc, w.db.suShare.get? id = some doc → id ∈ w.drawn
  posted : ∀ user docRef s, .createASusu user docRef s ∈ w.requests → Posted w user docRef s
  nodup : (w.requests.filterMap Request.created?).Nodup
  documents : ∀ id doc, w.db.suShare.get? id = some doc → SuShareDocument id doc
  favorites : ∀ id fav, w.db.favorites.get? id = some fav →
    FavoriteDocument w.db (w.favoriteOrigin id) id fav
  copies : ∀ c ∈ w.copies, CopyOf w.db c.origin c.sushare

namespace Intact

variable {w w' : World} {a : Action}

theorem of_initial (users : Collection String Dictionary) : Intact (World.initial users) := by
  constructor <;> simp [World.initial, World.copies]

/-- Nothing that a suShare document holds for good is ever lost. -/
theorem extends_perform (h : Intact w) {r : Request} {db : Store} (hr : r ∈ w.requests)
    (hdb : r.perform w.db = some db) : w.db.Extends db := by
  rcases Request.perform_suShare hdb with he | ⟨user, docRef, s, rfl, rfl⟩ |
    ⟨id, field, v, -, hf, hu⟩
  · exact .of_eq he
  · exact Store.extends_createASusu (h.posted _ _ _ hr).absent user s
  · exact Store.extends_updateSuShare_singleton hf hu

theorem extends_step (h : Intact w) (hs : w.step a = some w') : w.db.Extends w'.db := by
  rcases World.db_step hs with ⟨he, -⟩ | ⟨r, db, -, hr, hdb, rfl⟩
  · rw [he]
    exact .refl _
  · exact h.extends_perform hr hdb

/-- A suShare document is new, under an id drawn for it, or was there with the same values
outside the writable fields. -/
theorem get?_suShare_step (h : Intact w) (hs : w.step a = some w') {id : String}
    {doc' : Dictionary} (hd : w'.db.suShare.get? id = some doc') :
    (∃ user s, a = .serve (.createASusu user id s) ∧ Posted w user id s ∧
      doc' = Store.suShareDocument user id s) ∨
    ∃ doc, w.db.suShare.get? id = some doc ∧
      ∀ key, key ∉ Store.writableFields → doc' key = doc key := by
  rcases World.db_step hs with ⟨he, -⟩ | ⟨r, db, rfl, hr, hdb, rfl⟩
  · exact Or.inr ⟨doc', he ▸ hd, fun _ _ => rfl⟩
  · rcases Request.get?_suShare_of_perform hdb hd with ⟨user, s, rfl, hdoc⟩ | ⟨doc, hdoc, hk⟩
    · exact Or.inl ⟨user, s, rfl, h.posted _ _ _ hr, hdoc⟩
    · exact Or.inr ⟨doc, hdoc, fun key hkey =>
        (hk key).resolve_right fun ⟨_, _, hw, _⟩ => hkey hw⟩

theorem drawn_step (h : Intact w) (hs : w.step a = some w') {id : String} {doc' : Dictionary}
    (hd : w'.db.suShare.get? id = some doc') : id ∈ w'.drawn := by
  apply World.drawn_subset hs
  rcases h.get?_suShare_step hs hd with ⟨user, s, -, hp, -⟩ | ⟨doc, hdoc, -⟩
  · exact hp.drawn
  · exact h.drawn id doc hdoc

theorem documents_step (h : Intact w) (hs : w.step a = some w') {id : String}
    {doc' : Dictionary} (hd : w'.db.suShare.get? id = some doc') : SuShareDocument id doc' := by
  rcases h.get?_suShare_step hs hd with ⟨user, s, -, hp, rfl⟩ | ⟨doc, hdoc, hk⟩
  · exact ⟨by simp [Store.suShareDocument],
      ⟨user.uid, by simp [Store.suShareDocument]⟩,
      ⟨s.terms.truncate, s.terms_in_suShareDocument user id, hp.participants⟩,
      s.createdDate, by simp [Store.suShareDocument]⟩
  · exact (h.documents id doc hdoc).congr hk

theorem posted_step (h : Intact w) (hs : w.step a = some w') {user : AuthUser} {docRef : String}
    {s : SuShare} (hq : .createASusu user docRef s ∈ w'.requests) : Posted w' user docRef s := by
  have kept : ∀ {w' : World}, w.drawn ⊆ w'.drawn → w'.db = w.db →
      .createASusu user docRef s ∈ w.requests → Posted w' user docRef s := by
    intro w' hd hdb hq
    have hp := h.posted _ _ _ hq
    exact ⟨hd hp.drawn, hdb ▸ hp.absent, hp.members, hp.participants⟩
  cases World.steps_of_step hs with
  | receive | openDetail => exact kept (List.Subset.refl _) rfl hq
  | press hd hrs =>
    rcases List.mem_append.mp hq with hq | hq
    · -- the form's value, under the id that the press has drawn
      rcases Press.of_createASusu hrs with hn | ⟨form, u, sushare, -, hf, rfl⟩
      · have hm := List.mem_filterMap.mpr ⟨_, hq, (rfl : Request.created? _ = some docRef)⟩
        rw [hn] at hm
        cases hm
      · cases List.mem_singleton.mp hq
        obtain ⟨v, hv, hm, hn⟩ := CreateForm.of_addSusu hf
        cases hv
        refine ⟨List.mem_cons_self, ?_, hm, hn ▸ form.controls.amount_mem⟩
        exact Option.eq_none_iff_forall_ne_some.mpr fun doc hdoc => hd (h.drawn _ doc hdoc)
    · exact kept (List.subset_cons_self _ _) rfl hq
  | @serve r db hr hdb =>
    have hp := h.posted _ _ _ (List.mem_of_mem_erase hq)
    refine ⟨hp.drawn, ?_, hp.members, hp.participants⟩
    refine Option.eq_none_iff_forall_ne_some.mpr fun doc hdoc => ?_
    rcases Request.get?_suShare_of_perform hdb hdoc with ⟨u, q, rfl, -⟩ | ⟨d, hd, -⟩
    · exact Keys.ne_of_mem_erase h.nodup hr hq rfl rfl
    · rw [hp.absent] at hd
      cases hd
  | reject hr => exact kept (List.Subset.refl _) rfl (List.mem_of_mem_erase hq)
  | deliver ha hd =>
    rcases List.mem_append.mp hq with hq | hq
    · cases Answer.created_of_completion hq
    · exact kept (List.subset_cons_self _ _) rfl hq

theorem nodup_step (h : Intact w) (hs : w.step a = some w') :
    (w'.requests.filterMap Request.created?).Nodup := by
  cases World.steps_of_step hs with
  | receive | openDetail => exact h.nodup
  | press hd hrs =>
    rw [List.filterMap_append]
    rcases Press.of_createASusu hrs with hn | ⟨form, u, sushare, -, -, rfl⟩
    · rw [hn]
      exact h.nodup
    · refine List.nodup_cons.mpr ⟨fun hm => ?_, h.nodup⟩
      obtain ⟨r, hr, hc⟩ := List.mem_filterMap.mp hm
      cases r with
      | createASusu user docRef s =>
        cases hc
        exact hd (h.posted _ _ _ hr).drawn
      | _ => cases hc
  | serve | reject => exact (List.erase_sublist.filterMap _).nodup h.nodup
  | @deliver ans client ha hd =>
    have hn : (ans.completion client).filterMap Request.created? = [] :=
      List.filterMap_eq_nil_iff.mpr fun r hr => Answer.created_of_completion hr
    rw [List.filterMap_append, hn]
    exact h.nodup

theorem favorites_step (h : Intact w) (hs : w.step a = some w') {id : String} {fav : Dictionary}
    (hf : w'.db.favorites.get? id = some fav) :
    FavoriteDocument w'.db (w'.favoriteOrigin id) id fav := by
  have hext := h.extends_step hs
  rcases World.db_step hs with ⟨he, ho⟩ | ⟨r, db, rfl, hr, hdb, rfl⟩
  · rw [ho]
    rw [he] at hf
    exact (h.favorites id fav hf).mono hext
  · rcases World.get?_favorites_served hdb hf with ⟨user, screen, rfl, rfl, ho⟩ | ⟨hf, ho⟩
    · -- the copy that is written was itself copied from its origin
      have hc : screen ∈ w.copies := World.mem_copies_of_request hr rfl
      obtain ⟨hid, doc, hd, ht⟩ := h.copies screen hc
      have hin := SuShare.terms_in_favoriteDocument user id screen.sushare
      rw [(h.documents _ doc hd).truncate_terms ht] at hin
      obtain ⟨doc', hd', hk⟩ := hext _ doc hd
      rw [ho]
      exact ⟨by simp [Store.favoriteDocument], by simp [Store.favoriteDocument, hid],
        _, doc', hd', ht.congr hk, hin⟩
    · rw [ho]
      exact (h.favorites id fav hf).mono hext

/-- What a list decodes is a copy of the document it comes from. -/
theorem copyOf_read (h : Intact w) {tab : Tab} {id : String} {now : Timestamp} {c : Copy}
    (hc : w.read id now tab = some c) : CopyOf w.db c.origin c.sushare := by
  obtain ⟨-, doc, hi, ⟨hd, ho, -⟩ | ⟨profile, hd, ho, -, -⟩⟩ := World.read_eq_some hc
  · obtain ⟨hid, -, ⟨t, ht, -⟩, -⟩ := h.documents id doc hd
    rw [hi, ho]
    refine ⟨Dictionary.read_of_some hid rfl, doc, hd, ?_⟩
    rwa [ht.terms_init]
  · obtain ⟨-, hid, t, sdoc, hs, ht, hf⟩ := h.favorites id doc hd
    rw [hi, ho]
    refine ⟨Dictionary.read_of_some hid rfl, sdoc, hs, ?_⟩
    rwa [hf.terms_init]

theorem copies_step (h : Intact w) (hs : w.step a = some w') {c : Copy} (hc : c ∈ w'.copies) :
    CopyOf w'.db c.origin c.sushare := by
  refine CopyOf.mono (h.extends_step hs) ?_
  rcases World.copies_step hs hc with hc | ⟨tab, id, now, -, hc⟩
  · exact h.copies c hc
  · exact h.copyOf_read hc

theorem step (h : Intact w) (hs : w.step a = some w') : Intact w' where
  drawn _ _ hd := h.drawn_step hs hd
  posted _ _ _ hq := h.posted_step hs hq
  nodup := h.nodup_step hs
  documents _ _ hd := h.documents_step hs hd
  favorites _ _ hf := h.favorites_step hs hf
  copies _ hc := h.copies_step hs hc

end Intact

variable {users : Collection String Dictionary} {as : List Action} {w : World}

/-- Every run keeps the invariant. -/
theorem intact (h : (app users).Run as w) : Intact w := by
  refine h.invariant (I := fun _ w => Intact w) (fun w h0 => ?_) fun _ _ _ _ _ ih hs => ih.step hs
  rw [show w = World.initial users from h0]
  exact .of_initial users

/-! ## The writable fields -/

/-- Where the value of a field comes from : it was there, or the step created the document
with it or wrote it. -/
theorem World.field_of_step {w' : World} {a : Action} (hs : w.step a = some w')
    {id key : String} {v : FieldValue} (hv : w'.db.field id key = some v) :
    w.db.field id key = some v ∨
      (∃ user s, a = .serve (.createASusu user id s) ∧
        Store.suShareDocument user id s key = some v) ∨
      ∃ r, a = .serve r ∧ r ∈ w.requests ∧ r.writes = some (id, key, v) := by
  rcases World.db_step hs with ⟨he, -⟩ | ⟨r, db, rfl, hr, hdb, rfl⟩
  · exact Or.inl (he ▸ hv)
  · obtain ⟨next, hn, hv⟩ := Store.field_eq_some.mp hv
    rcases Request.get?_suShare_of_perform hdb hn with ⟨user, s, rfl, rfl⟩ | ⟨doc, hd, hk⟩
    · exact Or.inr (Or.inl ⟨user, s, rfl, hv⟩)
    · rcases hk key with he | ⟨v', hw, -, he⟩
      · exact Or.inl (Store.field_eq_some.mpr ⟨doc, hd, he.symm.trans hv⟩)
      · obtain rfl : v' = v := Option.some.inj (he.symm.trans hv)
        exact Or.inr (Or.inr ⟨r, rfl, hr, hw⟩)

/-- What becomes of the value of a field : it stays, or the step wrote another one. -/
theorem Intact.field_step {w' : World} {a : Action} (h : Intact w) (hs : w.step a = some w')
    {id key : String} {v : FieldValue} (hv : w.db.field id key = some v) :
    ∃ v', w'.db.field id key = some v' ∧
      (v' = v ∨ ∃ r, a = .serve r ∧ r.writes = some (id, key, v')) := by
  rcases World.db_step hs with ⟨he, -⟩ | ⟨r, db, rfl, hr, hdb, rfl⟩
  · exact ⟨v, he ▸ hv, Or.inl rfl⟩
  · obtain ⟨doc, hd, hv⟩ := Store.field_eq_some.mp hv
    obtain ⟨next, hn, -⟩ := h.extends_perform hr hdb id doc hd
    rcases Request.get?_suShare_of_perform hdb hn with ⟨user, s, rfl, -⟩ | ⟨doc', hd', hk⟩
    · -- a creation writes under an id that no document has
      rw [(h.posted _ _ _ hr).absent] at hd
      cases hd
    · obtain rfl : doc = doc' := Option.some.inj (hd.symm.trans hd')
      rcases hk key with he | ⟨v', hw, -, he⟩
      · exact ⟨v, Store.field_eq_some.mpr ⟨next, hn, he.trans hv⟩, Or.inl rfl⟩
      · exact ⟨v', Store.field_eq_some.mpr ⟨next, hn, he⟩, Or.inr ⟨r, rfl, hw⟩⟩

/-! ## Referential integrity -/

/-- The payment share is a matter of the terms. -/
theorem paymentInt_congr {s s' : SuShare} (h : s.terms = s'.terms) (rnd : ℚ → Double) :
    paymentInt rnd s = paymentInt rnd s' := by
  have hpot : s.potAmount = s'.potAmount := congrArg Terms.potAmount h
  have hn : s.numOfParticipants = s'.numOfParticipants := congrArg Terms.numOfParticipants h
  rw [paymentInt, paymentInt, hpot, hn]

/-- Joins, reports and comments on the copy go to the suShare document `id`. -/
structure Copy.Addresses (c : Copy) (id : String) : Prop where
  join : ∀ (db : Store) (user : AuthUser), (Request.joinUserToSuShare user c).perform db =
    db.updateSuShare id
      [("usersInTheSuShare", .strings (c.sushare.usersInTheSuShare ++ [user.uid]))]
  flag : ∀ db : Store, (Request.updateFlaggedInSuShare c).perform db =
    db.updateSuShare id [("isTheSuShareFlagged", .bool true)]
  report : ∀ (db : Store) (user : AuthUser) (docRef : String),
    ∃ db' doc, (Request.flagASuShare user docRef c).perform db = some db' ∧
      db'.flagged.get? docRef = some doc ∧ doc "suShareId" = some (.string id)
  comment : ∀ (db : Store) (name docRef : String) (now : Timestamp) (text : String),
    ∃ db', (Request.postComment name docRef now text c).perform db = some db' ∧
      (∃ doc, (db'.comments id).get? docRef = some doc ∧
        doc "suShareId" = some (.string id)) ∧
      ∀ k, k ≠ id → db'.comments k = db.comments k

theorem Copy.addresses_suShareId (c : Copy) : c.Addresses c.sushare.suShareId where
  join _ _ := rfl
  flag _ := rfl
  report db user docRef := ⟨_, _, rfl, Collection.get?_setData_self _ _ _, by
    simp [Store.reportDocument]⟩
  comment db name docRef now text := ⟨_, rfl,
    ⟨_, Store.get?_comments_postComment db name docRef now c.sushare text, by
      simp [Store.commentDocument]⟩,
    fun _ hk => Function.update_of_ne hk ..⟩

/-- Documents carry their own ids, favorites agree with the SuShare they point to on its
terms, and what a client does with a copy goes to the document the copy came from, for the
payment share of that document. -/
theorem integrity (h : (app users).Run as w) :
    (∀ id doc, w.db.suShare.get? id = some doc → doc "suShareId" = some (.string id)) ∧
    (∀ id fav, w.db.favorites.get? id = some fav → fav "favId" = some (.string id) ∧
      ∃ suShareId doc, fav "suShareId" = some (.string suShareId) ∧
        w.db.suShare.get? suShareId = some doc ∧ ∀ key ∈ Terms.keys, fav key = doc key) ∧
    ∀ c ∈ w.copies, c.Addresses c.origin ∧
      ∃ doc, w.db.suShare.get? c.origin = some doc ∧
        ∀ rnd now, paymentInt rnd c.sushare = paymentInt rnd (SuShare.init now doc) := by
  have hw := intact h
  refine ⟨fun id doc hd => (hw.documents id doc hd).suShareId, fun id fav hf => ?_,
    fun c hc => ?_⟩
  · obtain ⟨hid, hs, t, doc, hd, ht, htf⟩ := hw.favorites id fav hf
    exact ⟨hid, _, doc, hs, hd, fun key hk => htf.eq_on_keys ht hk⟩
  · obtain ⟨hid, doc, hd, ht⟩ := hw.copies c hc
    refine ⟨hid ▸ c.addresses_suShareId, doc, hd, fun rnd now => ?_⟩
    exact paymentInt_congr (ht.terms_init now).symm rnd

/-- Bob's favorite still goes to Ann's SuShare. -/
theorem integrity_favoriting : ∃ w, (app Sample.profiles).Run Sample.favoriting w ∧
    Sample.favoriteCopy ∈ w.copies ∧ Sample.favoriteCopy.Addresses "s1" := by
  obtain ⟨w, hrun, hc⟩ := Sample.exists_run Sample.favoriting
    (fun w => Sample.favoriteCopy ∈ w.copies) (by decide +kernel)
  exact ⟨w, hrun, hc, ((integrity hrun).2.2 _ hc).1⟩

/-! ## Owner attribution -/

/-- The update of a join, the report and the comments on the copy name `uid` as the owner. -/
structure Copy.AttributedTo (c : Copy) (uid : String) : Prop where
  update : ∀ (db : Store) (dbUser : User) (docRef : String) (now : Timestamp) (joiner : AuthUser),
    ∃ db' doc, (Request.addUpdate dbUser docRef now joiner c).perform db = some db' ∧
      db'.updates.get? docRef = some doc ∧ doc "userId" = some (.string uid)
  report : ∀ (db : Store) (user : AuthUser) (docRef : String),
    ∃ db' doc, (Request.flagASuShare user docRef c).perform db = some db' ∧
      db'.flagged.get? docRef = some doc ∧
      doc "user who created the SuShare ID" = some (.string uid)
  comment : ∀ (db : Store) (name docRef : String) (now : Timestamp) (text : String),
    ∃ db' doc, (Request.postComment name docRef now text c).perform db = some db' ∧
      (db'.comments c.sushare.suShareId).get? docRef = some doc ∧
      doc "creatorName" = some (.string uid)

/-- All three writers take the owner from the copy. -/
theorem Copy.attributedTo_iff {c : Copy} {uid : String} :
    c.AttributedTo uid ↔ c.sushare.userId = uid := by
  constructor
  · intro h
    obtain ⟨db', doc, hdb, hd, hu⟩ :=
      h.report ⟨.empty, .empty, .empty, .empty, .empty, fun _ => .empty⟩ ⟨"", none, none⟩ ""
    obtain rfl := Option.some.inj hdb
    rw [Store.flagASuShare, Collection.get?_setData_self] at hd
    obtain rfl := Option.some.inj hd
    simpa [Store.reportDocument] using hu
  · rintro rfl
    refine ⟨fun db dbUser docRef now joiner => ?_, fun db user docRef => ?_,
      fun db name docRef now text => ?_⟩
    · refine ⟨_, _, rfl, Collection.get?_setData_self _ _ _, ?_⟩
      simp [Store.updateDocument, SuShare.appendingUser]
    · refine ⟨_, _, rfl, Collection.get?_setData_self _ _ _, ?_⟩
      simp [Store.reportDocument]
    · refine ⟨_, _, rfl, Store.get?_comments_postComment db name docRef now c.sushare text, ?_⟩
      simp [Store.commentDocument]

/-- The user's request created the suShare document `id`. -/
def CreatedBy (as : List Action) (id uid : String) : Prop :=
  ∃ user s, .serve (.createASusu user id s) ∈ as ∧ user.uid = uid

theorem CreatedBy.append {as : List Action} {id uid : String} (h : CreatedBy as id uid)
    (a : Action) : CreatedBy (as ++ [a]) id uid := by
  obtain ⟨user, s, hm, hu⟩ := h
  exact ⟨user, s, List.mem_append_left _ hm, hu⟩

/-- The owner that a copy names : the profile, for a copy from a Favorites tab, and
otherwise the owner in the suShare document. -/
def Copy.Owned (db : Store) (c : Copy) : Prop :=
  (∃ profile, c.tab = .favorites profile ∧ c.sushare.userId = profile) ∨
    (∀ profile, c.tab ≠ .favorites profile) ∧
      ∃ doc, db.suShare.get? c.origin = some doc ∧
        doc "userId" = some (.string c.sushare.userId)

theorem Copy.Owned.mono {db db' : Store} (hdb : db.Extends db') {c : Copy} (h : c.Owned db) :
    c.Owned db' := by
  refine h.imp_right fun ⟨ht, doc, hd, hu⟩ => ⟨ht, ?_⟩
  obtain ⟨doc', hd', hk⟩ := hdb _ doc hd
  exact ⟨doc', hd', (hk _ (by decide)).trans hu⟩

/-- Where the owners come from : a document names its creator, a copy the owner its list
showed. -/
structure Owners (as : List Action) (w : World) : Prop where
  documents : ∀ id doc, w.db.suShare.get? id = some doc → ∃ uid, CreatedBy as id uid
  created : ∀ id uid, CreatedBy as id uid → ∃ doc, w.db.suShare.get? id = some doc ∧
    doc "userId" = some (.string uid)
  copies : ∀ c ∈ w.copies, c.Owned w.db

/-- What a list decodes names the owner of its document. -/
theorem Intact.owned_read (h : Intact w) {tab : Tab} {id : String} {now : Timestamp} {c : Copy}
    (hc : w.read id now tab = some c) : c.Owned w.db := by
  obtain ⟨ht, doc, hi, ⟨hd, ho, hf⟩ | ⟨profile, hd, ho, hf, hu⟩⟩ := World.read_eq_some hc
  · obtain ⟨-, ⟨uid, hu⟩, -⟩ := h.documents id doc hd
    have hread : c.sushare.userId = uid := hi ▸ Dictionary.read_of_some hu rfl
    exact Or.inr ⟨ht ▸ hf, doc, ho ▸ hd, hread ▸ hu⟩
  · have hread : c.sushare.userId = profile := hi ▸ Dictionary.read_of_some hu rfl
    exact Or.inl ⟨profile, ht.trans hf, hread⟩

theorem Owners.step {as : List Action} {w w' : World} {a : Action} (hw : Intact w)
    (h : Owners as w) (hs : w.step a = some w') : Owners (as ++ [a]) w' := by
  have hext := hw.extends_step hs
  refine ⟨fun id doc hd => ?_, fun id uid ⟨user, s, hm, hu⟩ => ?_, fun c hc => ?_⟩
  · rcases hw.get?_suShare_step hs hd with ⟨user, s, rfl, -, -⟩ | ⟨doc, hdoc, -⟩
    · exact ⟨user.uid, user, s, List.mem_append_right _ List.mem_cons_self, rfl⟩
    · exact (h.documents id doc hdoc).imp fun _ hcr => hcr.append a
  · rcases List.mem_append.mp hm with hm | hm
    · obtain ⟨doc, hd, hdu⟩ := h.created id uid ⟨user, s, hm, hu⟩
      obtain ⟨doc', hd', hk⟩ := hext id doc hd
      exact ⟨doc', hd', (hk _ (by decide)).trans hdu⟩
    · obtain rfl := List.mem_singleton.mp hm
      cases World.steps_of_step hs with
      | serve hr hdb =>
        obtain rfl := Option.some.inj hdb
        refine ⟨_, Collection.get?_setData_self _ _ _, ?_⟩
        simp [Store.suShareDocument, hu]
  · rcases World.copies_step hs hc with hc | ⟨tab, id, now, -, hc⟩
    · exact (h.copies c hc).mono hext
    · exact (hw.owned_read hc).mono hext

theorem owners (h : (app users).Run as w) : Owners as w := by
  refine h.invariant (I := Owners) (fun w h0 => ?_) fun _ _ _ _ hr ih hs => ih.step (intact hr) hs
  obtain rfl : w = World.initial users := h0
  exact ⟨by simp [World.initial], fun id uid ⟨_, _, hm, _⟩ => absurd hm (List.not_mem_nil),
    by simp [World.initial, World.copies]⟩

/-- What a client writes about a SuShare names its creator as the owner exactly when the
copy is not from a Favorites tab, or from the creator's own. -/
theorem attributed_iff (h : (app users).Run as w) {c : Copy} (hc : c ∈ w.copies) :
    (∃ uid, CreatedBy as c.sushare.suShareId uid) ∧
    ∀ uid, CreatedBy as c.sushare.suShareId uid →
      (c.AttributedTo uid ↔ ∀ profile, c.tab = .favorites profile → profile = uid) := by
  have hw := owners h
  obtain ⟨hid, doc, hd, -⟩ := (intact h).copies c hc
  rw [hid]
  refine ⟨hw.documents _ doc hd, fun uid hcr => ?_⟩
  rw [Copy.attributedTo_iff]
  rcases hw.copies c hc with ⟨profile, ht, hu⟩ | ⟨ht, doc', hd', hu⟩
  · simp [ht, hu]
  · obtain ⟨doc'', hd'', hu''⟩ := hw.created _ uid hcr
    obtain rfl : doc' = doc'' := Option.some.inj (hd'.symm.trans hd'')
    have huid : c.sushare.userId = uid := by
      rw [hu''] at hu
      cases hu
      rfl
    exact iff_of_true huid fun profile hp => absurd hp (ht profile)

/-- From the Explore list, Ann is the owner. -/
theorem attributed_iff_opening : ∃ w, (app Sample.profiles).Run Sample.opening w ∧
    Sample.roofCopy.AttributedTo "ann" := by
  obtain ⟨w, hrun, hc⟩ := Sample.exists_run Sample.opening
    (fun w => Sample.roofCopy ∈ w.copies) (by decide +kernel)
  have hcr : CreatedBy Sample.opening "s1" "ann" :=
    ⟨Sample.ann, Sample.posted, by simp [Sample.opening], rfl⟩
  have h := (attributed_iff hrun hc).2 "ann" hcr
  exact ⟨w, hrun, h.mpr fun _ ht => by cases ht⟩

/-- From Bob's Favorites tab, the owner of Ann's SuShare is Bob. -/
theorem not_attributed_from_favorites : ¬ ∀ (users : Collection String Dictionary)
    (as : List Action) (w : World) (c : Copy) (uid : String), (app users).Run as w →
    c ∈ w.screens → CreatedBy as c.sushare.suShareId uid → c.AttributedTo uid := by
  intro h
  obtain ⟨w, hrun, hc⟩ := Sample.exists_run Sample.favoriting
    (fun w => Sample.favoriteCopy ∈ w.screens) (by decide +kernel)
  have hcr : CreatedBy Sample.favoriting "s1" "ann" :=
    ⟨Sample.ann, Sample.posted, by simp [Sample.favoriting, Sample.opening], rfl⟩
  have hann := h _ _ w _ "ann" hrun hc hcr
  have hbob : "bob" = "ann" := Copy.attributedTo_iff.mp hann
  exact absurd hbob (by decide)

end SuShareApp
