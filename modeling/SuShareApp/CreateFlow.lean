import SuShareApp.Fresh
import SuShareApp.Integrity

/-!
# The create flow

`addSusu` starts a chain of three requests : the suShare document, the photo at the path
named after the document's id, and the photo's download URL in the document. Each is issued
by the completion handler of the one before, and a failure ends the chain where it is.

Nothing is taken back. The suShare documents are those of the attempts whose first request
was served, one each, whatever became of the photo (`documents_of_attempts`). A chain that
came to its end has stored what was entered, with the URL of its own photo
(`create_round_trip`), and without what is below a microsecond of the date
(`not_create_round_trip`).

The photo's way through the storage service is a layer over the app : `CreateFlow` runs the
app together with the photos that the handlers captured and those at the storage paths.
What the service returns as the URL of a photo at a path is a parameter.
-/

namespace SuShareApp

variable {users : Collection String Dictionary} {as : List Action} {w w' : World} {a : Action}

/-! ## Attempts -/

/-- The id that an attempt to create a SuShare drew. -/
def Action.attempt? : Action → Option String
  | .press (.addSusu _) client => some client.docRef
  | _ => none

/-- The id under which the server created a SuShare. -/
def Action.created? : Action → Option String
  | .serve r => r.created?
  | _ => none

/-- A submission of the form by the user, with the id `docRef`, asked to create `s`. -/
def PostedBy (as : List Action) (form : CreateForm) (client : Client) (user : AuthUser)
    (s : SuShare) : Prop :=
  .press (.addSusu form) client ∈ as ∧ client.currentUser = some user ∧
    form.addSusu (some user) client.now = some s

theorem PostedBy.append {form : CreateForm} {client : Client} {user : AuthUser} {s : SuShare}
    (h : PostedBy as form client user s) (a : Action) :
    PostedBy (as ++ [a]) form client user s :=
  ⟨List.mem_append_left _ h.1, h.2⟩

/-- What a press that asks for a creation submitted. -/
theorem Press.postedBy_of_requests {client : Client} {p : Press} {rs : List Request}
    (h : p.requests w client = some rs) {user : AuthUser} {docRef : String} {s : SuShare}
    (hr : .createASusu user docRef s ∈ rs) : ∃ form, p = .addSusu form ∧
    client.docRef = docRef ∧ client.currentUser = some user ∧
      form.addSusu (some user) client.now = some s := by
  cases Press.issues_of_requests h hr with
  | addSusu hu hf => exact ⟨_, rfl, rfl, hu, hf⟩

/-- Every creation in flight and every suShare document was posted by a submission, and the
documents are those that the server created. -/
structure Attempts (as : List Action) (w : World) : Prop where
  requests : ∀ user docRef s, .createASusu user docRef s ∈ w.requests →
    ∃ form client, PostedBy as form client user s ∧ client.docRef = docRef
  documents : ∀ id doc, w.db.suShare.get? id = some doc →
    ∃ form client user s, PostedBy as form client user s ∧ client.docRef = id ∧
      ∀ key, key ∉ Store.writableFields → doc key = Store.suShareDocument user id s key
  created : ∀ id, id ∈ as.filterMap Action.created? ↔ ∃ doc, w.db.suShare.get? id = some doc
  nodup : (as.filterMap Action.created?).Nodup

/-- The step that creates a SuShare serves a request in flight. -/
theorem mem_requests_of_created? (hs : w.step a = some w') {id : String}
    (hc : a.created? = some id) : ∃ user s, a = .serve (.createASusu user id s) ∧
      .createASusu user id s ∈ w.requests ∧ w'.db = w.db.createASusu user id s := by
  cases World.steps_of_step hs with
  | receive | openDetail | press | reject | deliver => cases hc
  | @serve r db hr hdb =>
    cases r with
    | createASusu user docRef s =>
      obtain rfl : docRef = id := Option.some.inj hc
      exact ⟨user, s, rfl, hr, (Option.some.inj hdb).symm⟩
    | _ => cases hc

/-- The SuShares after a step : those before it, and the one it created. -/
theorem Intact.exists_suShare_step (h : Intact w) (hs : w.step a = some w') (id : String) :
    (∃ doc, w'.db.suShare.get? id = some doc) ↔
      (∃ doc, w.db.suShare.get? id = some doc) ∨ a.created? = some id := by
  constructor
  · rintro ⟨doc, hd⟩
    rcases h.get?_suShare_step hs hd with ⟨user, s, rfl, -, -⟩ | ⟨doc, hd, -⟩
    · exact Or.inr rfl
    · exact Or.inl ⟨doc, hd⟩
  · rintro (⟨doc, hd⟩ | hc)
    · obtain ⟨doc', hd', -⟩ := h.extends_step hs id doc hd
      exact ⟨doc', hd'⟩
    · obtain ⟨user, s, -, -, hdb⟩ := mem_requests_of_created? hs hc
      rw [hdb]
      exact ⟨_, Collection.get?_setData_self _ _ _⟩

theorem mem_created_append {id : String} : id ∈ (as ++ [a]).filterMap Action.created? ↔
    id ∈ as.filterMap Action.created? ∨ a.created? = some id := by
  simp [List.filterMap_append, List.mem_filterMap]

namespace Attempts

theorem requests_step (h : Attempts as w) (hs : w.step a = some w') {user : AuthUser}
    {docRef : String} {s : SuShare} (hr : .createASusu user docRef s ∈ w'.requests) :
    ∃ form client, PostedBy (as ++ [a]) form client user s ∧ client.docRef = docRef := by
  rcases World.requests_step hs hr with hr | ⟨p, client, rs, rfl, hrs, hr⟩ |
    ⟨ans, client, -, -, hr⟩
  · obtain ⟨form, client, hp, hd⟩ := h.requests user docRef s hr
    exact ⟨form, client, hp.append a, hd⟩
  · obtain ⟨form, rfl, hd, hu, hf⟩ := Press.postedBy_of_requests hrs hr
    exact ⟨form, client, ⟨List.mem_append_right _ List.mem_cons_self, hu, hf⟩, hd⟩
  · cases Answer.created_of_completion hr

theorem documents_step (hw : Intact w) (h : Attempts as w) (hs : w.step a = some w')
    {id : String} {doc : Dictionary} (hd : w'.db.suShare.get? id = some doc) :
    ∃ form client user s, PostedBy (as ++ [a]) form client user s ∧ client.docRef = id ∧
      ∀ key, key ∉ Store.writableFields → doc key = Store.suShareDocument user id s key := by
  rcases hw.get?_suShare_step hs hd with ⟨user, s, rfl, -, rfl⟩ | ⟨before, hb, hk⟩
  · obtain ⟨u, v, he, hr, -⟩ := mem_requests_of_created? hs rfl
    cases he
    obtain ⟨form, client, hp, hd⟩ := h.requests user id s hr
    exact ⟨form, client, user, s, hp.append _, hd, fun _ _ => rfl⟩
  · obtain ⟨form, client, user, s, hp, hd, hkeys⟩ := h.documents id before hb
    exact ⟨form, client, user, s, hp.append a, hd, fun key hkey =>
      (hk key hkey).trans (hkeys key hkey)⟩

theorem nodup_step (hw : Intact w) (h : Attempts as w) (hs : w.step a = some w') :
    ((as ++ [a]).filterMap Action.created?).Nodup := by
  rw [List.filterMap_append]
  cases hc : a.created? with
  | none => simpa [hc] using h.nodup
  | some id =>
    obtain ⟨user, s, -, hr, -⟩ := mem_requests_of_created? hs hc
    have hnew : id ∉ as.filterMap Action.created? := fun hm => by
      obtain ⟨doc, hd⟩ := (h.created id).mp hm
      rw [(hw.posted user id s hr).absent] at hd
      cases hd
    refine List.nodup_append.mpr ⟨h.nodup, by simp [hc], ?_⟩
    rintro k hk k' hk' rfl
    obtain rfl : k = id := by simpa [hc] using hk'
    exact hnew hk

theorem step (hw : Intact w) (h : Attempts as w) (hs : w.step a = some w') :
    Attempts (as ++ [a]) w' where
  requests _ _ _ hr := h.requests_step hs hr
  documents _ _ hd := h.documents_step hw hs hd
  created id := by rw [mem_created_append, h.created id, hw.exists_suShare_step hs id]
  nodup := h.nodup_step hw hs

end Attempts

theorem attempts (h : (app users).Run as w) : Attempts as w := by
  refine h.invariant (I := Attempts) (fun w h0 => ?_)
    fun _ _ _ _ hr ih hs => ih.step (intact hr) hs
  rw [show w = World.initial users from h0]
  constructor <;> simp [World.initial]

/-- Attempts draw their ids. -/
theorem nodup_attempts (h : (app users).Run as w) : (as.filterMap Action.attempt?).Nodup := by
  refine (Keys.sublist (fun a id ha => ?_) as).nodup (nodup_drawn h)
  cases a with
  | press p client =>
    cases p with
    | addSusu form => exact ha
    | _ => cases ha
  | _ => cases ha

/-- The documents are those of the attempts whose document write was served, one for each
of them : the attempts have ids of their own, an attempt has a document exactly if its
write was served, and there are no other documents. -/
theorem documents_of_attempts (h : (app users).Run as w) :
    (as.filterMap Action.attempt?).Nodup ∧
    as.filterMap Action.created? ⊆ as.filterMap Action.attempt? ∧
    w.db.suShare.ids.Perm (as.filterMap Action.created?) := by
  have hinv := attempts h
  refine ⟨nodup_attempts h, fun id hid => ?_, ?_⟩
  · obtain ⟨doc, hd⟩ := (hinv.created id).mp hid
    obtain ⟨form, client, user, s, hp, hdoc, -⟩ := hinv.documents id doc hd
    exact List.mem_filterMap.mpr ⟨_, hp.1, congrArg some hdoc⟩
  · refine (List.perm_ext_iff_of_nodup w.db.suShare.nodup_ids hinv.nodup).mpr fun id => ?_
    rw [Collection.mem_ids, hinv.created id]

/-- Ann submits the form again, and the server rejects the document. -/
def Sample.resubmitting : List Action :=
  showing ++ [.press (.addSusu form) (client ann "s2"), .reject (.createASusu ann "s2" posted)]

/-- Of her two attempts the first has left a document. -/
theorem documents_of_attempts_resubmitting : ∃ w,
    (app Sample.profiles).Run Sample.resubmitting w ∧ w.db.suShare.ids.Perm ["s1"] := by
  obtain ⟨w, hrun, -⟩ := Sample.exists_run Sample.resubmitting (fun _ => True) (by decide +kernel)
  exact ⟨w, hrun, (documents_of_attempts hrun).2.2⟩

/-- The photo of Ann's SuShare could not be uploaded : the flow has ended, and the document
is there. -/
theorem not_all_or_nothing : ¬ ∀ (users : Collection String Dictionary) (as : List Action)
    (w : World) (form : CreateForm) (client : Client), (app users).Run as w →
    .press (.addSusu form) client ∈ as → w.requests = [] → w.answers = [] →
    (∀ url, .serve (.updateSuShareURL url client.docRef) ∉ as) →
    w.db.suShare.get? client.docRef = none := by
  intro h
  obtain ⟨w, hrun, hrequests, hanswers, hsome⟩ := Sample.exists_run Sample.showing
    (fun w => w.requests = [] ∧ w.answers = [] ∧ (w.db.suShare.get? "s1").isSome)
    (by decide +kernel)
  have hnone := h _ _ w Sample.form (Sample.client Sample.ann "s1") hrun
    (by simp [Sample.showing, Sample.opening]) hrequests hanswers
    (by simp [Sample.showing, Sample.opening])
  rw [show (Sample.client Sample.ann "s1").docRef = "s1" from rfl] at hnone
  simp [hnone] at hsome

/-! ## The photos -/

/-- The path at which `uploadPhoto` puts a photo, `none` where it has no reference. -/
def photoReference (userId sushareId : Option String) : Option String :=
  match userId, sushareId with
  | some userId, _ => some ("UserProfilePhotos/" ++ userId ++ ".jpg")
  | none, some sushareId => some ("SuSharePhotos/" ++ sushareId ++ ".jpg")
  | none, none => none

/-- The path of a SuShare's photo. -/
def storagePath (sushareId : String) : String :=
  "SuSharePhotos/" ++ sushareId ++ ".jpg"

theorem storagePath_injective : Function.Injective storagePath := fun _ _ h =>
  (String.append_right_inj _).mp ((String.append_left_inj _).mp h)

/-- The app, the photos that the handlers of the create flows captured, by the id of the
document, and the photos in the storage, by path. -/
structure CreateFlow (Photo : Type) where
  world : World
  photos : String → Option Photo
  storage : String → Option Photo

inductive CreateAction (Photo : Type)
  /-- A submission of the form, with the selected photo. -/
  | addSusu (form : CreateForm) (client : Client) (photo : Photo)
  /-- Any other step of the app. -/
  | app (a : Action)

namespace CreateFlow

variable {Photo : Type} (url : String → Photo → String)

/-- The storage after a step of the app : `putData` of the photo captured with the id. -/
def stored (s : CreateFlow Photo) : Action → String → Option Photo
  | .serve (.uploadPhoto id) => (photoReference none (some id)).elim s.storage fun path =>
    Function.update s.storage path (s.photos id)
  | _ => s.storage

/-- The step of the app is one that the photos allow : a submission comes with a photo, and
`downloadURL` returns the URL of what is stored at the path. -/
def Allows (s : CreateFlow Photo) : Action → Prop
  | .press (.addSusu _) _ => False
  | .deliver (.success (.uploadPhoto id)) client =>
    ((photoReference none (some id)).bind fun path => (s.storage path).map (url path)) =
      some client.url
  | _ => True

instance (s : CreateFlow Photo) : DecidablePred (s.Allows url) := fun a => by
  unfold Allows
  split <;> infer_instance

def step (s : CreateFlow Photo) : CreateAction Photo → Option (CreateFlow Photo)
  | .addSusu form client photo => (s.world.step (.press (.addSusu form) client)).map fun world =>
    ⟨world, Function.update s.photos client.docRef (some photo), s.storage⟩
  | .app a =>
    if s.Allows url a then (s.world.step a).map fun world => ⟨world, s.photos, s.stored a⟩
    else none

end CreateFlow

/-- The app with its photos, over the given user profiles. -/
def createFlow {Photo : Type} (url : String → Photo → String)
    (users : Collection String Dictionary) :
    TransitionSystem (CreateFlow Photo) (CreateAction Photo) where
  init s := s = ⟨World.initial users, fun _ => none, fun _ => none⟩
  step := CreateFlow.step url

namespace CreateFlow

variable {Photo : Type} {url : String → Photo → String}

/-- The step of the app. -/
def appAction : CreateAction Photo → Option Action
  | .addSusu form client _ => some (.press (.addSusu form) client)
  | .app a => some a

/-- The create flow runs the app. -/
def projection (url : String → Photo → String) (users : Collection String Dictionary) :
    (createFlow url users).Projection (SuShareApp.app users) where
  state := world
  action := appAction
  init s h := by rw [show s = _ from h]; rfl
  step s a s' b hs ha := by
    cases a with
    | addSusu form client photo =>
      obtain rfl := Option.some.inj ha
      obtain ⟨w, hw, rfl⟩ := Option.map_eq_some_iff.mp hs
      exact hw
    | app a =>
      obtain rfl := Option.some.inj ha
      obtain ⟨-, hs⟩ := Option.ite_none_right_eq_some.mp hs
      obtain ⟨w, hw, rfl⟩ := Option.map_eq_some_iff.mp hs
      exact hw
  stutter s a s' hs ha := by cases a <;> cases ha

/-- `u` is the URL of the photo that was captured with the id, which is in the storage. -/
def Own (url : String → Photo → String) (s : CreateFlow Photo) (id u : String) : Prop :=
  ∃ photo, s.photos id = some photo ∧ s.storage (storagePath id) = some photo ∧
    u = url (storagePath id) photo

/-- Photos stay with their ids, and so do the URLs on their way to a document and in it. -/
structure Linked (url : String → Photo → String) (as : List (CreateAction Photo))
    (s : CreateFlow Photo) : Prop where
  drawn : ∀ id photo, s.photos id = some photo → id ∈ s.world.drawn
  photos : ∀ form client photo, .addSusu form client photo ∈ as →
    s.photos client.docRef = some photo
  stored : ∀ id photo, s.storage (storagePath id) = some photo → s.photos id = some photo
  links : ∀ u id, .updateSuShareURL u id ∈ s.world.requests → s.Own url id u
  documents : ∀ id v, s.world.db.field id "imageURL" = some v → ∃ u, v = .string u ∧ s.Own url id u
  linked : ∀ u id, .app (.serve (.updateSuShareURL u id)) ∈ as →
    ∃ v, s.world.db.field id "imageURL" = some v

variable {as : List (CreateAction Photo)} {s s' : CreateFlow Photo}

theorem Own.mono {id u : String} (h : s.Own url id u)
    (hp : ∀ photo, s.photos id = some photo → s'.photos id = some photo)
    (hst : ∀ photo, s.photos id = some photo → s.storage (storagePath id) = some photo →
      s'.storage (storagePath id) = some photo) : s'.Own url id u := by
  obtain ⟨photo, hphoto, hstored, hu⟩ := h
  exact ⟨photo, hp photo hphoto, hst photo hphoto hstored, hu⟩

/-- A completion handler links the URL that the upload returned. -/
theorem Answer.of_updateSuShareURL_mem_completion {client : Client} {ans : Answer}
    {u id : String} (h : .updateSuShareURL u id ∈ ans.completion client) :
    ans = .success (.uploadPhoto id) ∧ client.url = u := by
  cases Answer.issues_of_completion h with
  | uploadPhoto => exact ⟨rfl, rfl⟩

/-- A submission captures its photo under an id of its own. -/
theorem Linked.addSusu (h : Linked url as s) {form : CreateForm} {client : Client}
    {photo : Photo} {w : World} (hs : s.world.step (.press (.addSusu form) client) = some w) :
    Linked url (as ++ [.addSusu form client photo])
      ⟨w, Function.update s.photos client.docRef (some photo), s.storage⟩ := by
  cases World.steps_of_step hs with
  | @press _ _ rs hd hrs =>
    have hkept : ∀ id p, s.photos id = some p →
        Function.update s.photos client.docRef (some photo) id = some p := fun id p hp => by
      have hne : id ≠ client.docRef := fun he => hd (he ▸ h.drawn id p hp)
      rwa [Function.update_of_ne hne]
    refine ⟨fun id p hp => ?_, fun f c p hm => ?_, fun id p hp => hkept id p (h.stored id p hp),
      fun u id hr => ?_, fun id v hv => ?_, fun u id hm => ?_⟩
    · by_cases hid : id = client.docRef
      · exact hid ▸ List.mem_cons_self
      · exact List.mem_cons_of_mem _ (h.drawn id p (by simpa [hid] using hp))
    · rcases List.mem_append.mp hm with hm | hm
      · exact hkept _ p (h.photos f c p hm)
      · cases List.mem_singleton.mp hm
        exact Function.update_self ..
    · rcases List.mem_append.mp hr with hr | hr
      · cases Press.isFollowUp_of_requests hrs hr
      · exact (h.links u id hr).mono (hkept id) fun _ _ hst => hst
    · obtain ⟨u, hu, hown⟩ := h.documents id v hv
      exact ⟨u, hu, hown.mono (hkept id) fun _ _ hst => hst⟩
    · simp only [List.mem_append, List.mem_singleton, reduceCtorEq, or_false] at hm
      exact h.linked u id hm

/-- A step puts at most the photo captured with an id, at the path for it. -/
theorem stored_eq (s : CreateFlow Photo) (a : Action) : s.stored a = s.storage ∨
    ∃ id, s.stored a = Function.update s.storage (storagePath id) (s.photos id) := by
  unfold stored
  split
  · exact Or.inr ⟨_, rfl⟩
  · exact Or.inl rfl

/-- A photo that was put at its path stays there. -/
theorem stored_kept (a : Action) {id : String} {photo : Photo} (hp : s.photos id = some photo)
    (hst : s.storage (storagePath id) = some photo) :
    s.stored a (storagePath id) = some photo := by
  rcases stored_eq s a with he | ⟨k, he⟩
  · rw [he, hst]
  · rw [he]
    by_cases hid : storagePath id = storagePath k
    · obtain rfl := storagePath_injective hid
      rw [Function.update_self, hp]
    · rw [Function.update_of_ne hid, hst]

/-- Where an image URL comes from : it was there, or its update was just served. -/
theorem imageURL_of_step {w w' : World} {a : Action} (hs : w.step a = some w') {id : String}
    {v : FieldValue} (hv : w'.db.field id "imageURL" = some v) :
    w.db.field id "imageURL" = some v ∨
      ∃ u, v = .string u ∧ .updateSuShareURL u id ∈ w.requests := by
  rcases World.field_of_step hs hv with hv | ⟨user, q, -, hv⟩ | ⟨r, -, hr, hw⟩
  · exact Or.inl hv
  · -- a new document has its image under another key
    simp [Store.suShareDocument] at hv
  · obtain ⟨u, rfl, rfl⟩ := Request.of_writes_imageURL hw
    exact Or.inr ⟨u, rfl, hr⟩

theorem Linked.app (hw : Intact s.world) (h : Linked url as s) {a : Action}
    (ha : s.Allows url a) {w : World} (hs : s.world.step a = some w) :
    Linked url (as ++ [.app a]) ⟨w, s.photos, s.stored a⟩ := by
  have happ : ∀ {b : CreateAction Photo}, b ∈ as ++ [.app a] → b ∈ as ∨ b = .app a := fun hb =>
    (List.mem_append.mp hb).imp_right List.mem_singleton.mp
  have hkept : ∀ {id u}, s.Own url id u → Own url ⟨w, s.photos, s.stored a⟩ id u := fun hown =>
    hown.mono (fun _ hp => hp) fun _ hp hst => stored_kept a hp hst
  refine ⟨fun id p hp => World.drawn_subset hs (h.drawn id p hp), fun f c p hm => ?_,
    fun id p hp => ?_, fun u id hr => ?_, fun id v hv => ?_, fun u id hm => ?_⟩
  · rcases happ hm with hm | hm
    · exact h.photos f c p hm
    · cases hm
  · rcases stored_eq s a with he | ⟨k, he⟩
    · exact h.stored id p (he ▸ hp)
    · by_cases hid : id = k
      · subst hid
        simpa [he] using hp
      · have hne : storagePath id ≠ storagePath k := fun hp => hid (storagePath_injective hp)
        have hold : s.stored a (storagePath id) = s.storage (storagePath id) := by
          rw [he, Function.update_of_ne hne]
        exact h.stored id p (hold ▸ hp)
  · rcases World.requests_step hs hr with hr | ⟨p, client, rs, -, hrs, hr⟩ |
      ⟨ans, client, rfl, -, hr⟩
    · exact hkept (h.links u id hr)
    · cases Press.isFollowUp_of_requests hrs hr
    · obtain ⟨rfl, rfl⟩ := Answer.of_updateSuShareURL_mem_completion hr
      obtain ⟨photo, hphoto, hurl⟩ := Option.map_eq_some_iff.mp ha
      exact hkept ⟨photo, h.stored id photo hphoto, hphoto, hurl.symm⟩
  · rcases imageURL_of_step hs hv with hv | ⟨u, rfl, hr⟩
    · obtain ⟨u, hu, hown⟩ := h.documents id v hv
      exact ⟨u, hu, hkept hown⟩
    · exact ⟨u, rfl, hkept (h.links u id hr)⟩
  · rcases happ hm with hm | hm
    · obtain ⟨v, hv⟩ := h.linked u id hm
      obtain ⟨v', hv', -⟩ := hw.field_step hs hv
      exact ⟨v', hv'⟩
    · cases hm
      cases World.steps_of_step hs with
      | serve _ hdb => exact ⟨_, Store.field_updateSuShare hdb⟩

theorem linked (h : (createFlow url users).Run as s) : Linked url as s := by
  refine h.invariant (I := Linked url) (fun s h0 => ?_) fun as s a s' hr ih hs => ?_
  · rw [show s = _ from h0]
    constructor <;> simp [World.initial, Store.field]
  · cases a with
    | addSusu form client photo =>
      obtain ⟨w, hw, rfl⟩ := Option.map_eq_some_iff.mp hs
      exact ih.addSusu hw
    | app a =>
      obtain ⟨ha, hs⟩ := Option.ite_none_right_eq_some.mp hs
      obtain ⟨w, hw, rfl⟩ := Option.map_eq_some_iff.mp hs
      exact ih.app (intact ((projection url users).run hr)) ha hw

/-! ## The round trip -/

/-- The SuShare is what the user entered in the form, with the photo's URL and the date of the
submission. -/
structure Entered (form : CreateForm) (client : Client) (user : AuthUser) (imageURL : String)
    (createdDate : Timestamp) (v : SuShare) : Prop where
  securityState : form.isItPrivate.map Security.rawValue = some v.securityState
  susuTitle : form.susuTitle = some v.susuTitle
  suShareDescription : form.susuDes = some v.suShareDescription
  potAmount : form.num = some v.potAmount
  numOfParticipants : v.numOfParticipants = form.controls.amountOfParticipants
  paymentSchedule : form.schedule = some v.paymentSchedule
  category : v.category = form.selectedCategories.map Category.rawValue
  createdDate : v.createdDate = createdDate
  userId : v.userId = user.uid
  suShareId : v.suShareId = client.docRef
  imageURL : v.imageURL = imageURL

/-- The decoder reads back what the encoder wrote, but for the writable fields and the two
fields that it fills in itself. -/
theorem init_eq_of_suShareDocument {user : AuthUser} {docRef u : String} {v : SuShare}
    {doc : Dictionary} (hk : ∀ key, key ∉ Store.writableFields →
      doc key = Store.suShareDocument user docRef v key)
    (hu : doc "imageURL" = some (.string u)) (now : Timestamp) :
    SuShare.init now doc =
      { v with
        imageURL := u
        userId := user.uid
        createdDate := v.createdDate.truncate
        suShareId := docRef
        usersInTheSuShare := (SuShare.init now doc).usersInTheSuShare
        isTheSuShareFlagged := (SuShare.init now doc).isTheSuShareFlagged } := by
  simp [SuShare.init, Dictionary.read, hu, hk "securityState" (by decide),
    hk "susuTitle" (by decide), hk "suShareDescription" (by decide), hk "potAmount" (by decide),
    hk "numOfParticipants" (by decide), hk "paymentSchedule" (by decide), hk "userId" (by decide),
    hk "category" (by decide), hk "createdDate" (by decide), hk "suShareId" (by decide),
    hk "favId" (by decide), Store.suShareDocument, FieldValue.asString, FieldValue.asDouble,
    FieldValue.asInt, FieldValue.asInts, FieldValue.asTimestamp]

/-- What a document that was created from the form is decoded to. -/
theorem Entered.of_document {form : CreateForm} {client : Client} {user : AuthUser}
    {v : SuShare} (hf : form.addSusu (some user) client.now = some v) {doc : Dictionary}
    (hk : ∀ key, key ∉ Store.writableFields →
      doc key = Store.suShareDocument user client.docRef v key) {u : String}
    (hu : doc "imageURL" = some (.string u)) (now : Timestamp) :
    Entered form client user u client.now.truncate (SuShare.init now doc) := by
  rw [init_eq_of_suShareDocument hk hu now]
  simp only [CreateForm.addSusu, bind, Option.bind_eq_some_iff] at hf
  obtain ⟨susuTitle, ⟨_, htitle, hne⟩, susuDes, ⟨_, hdes, hne'⟩, num, hnum, schedule, hschedule,
    -, -, security, hsecurity, _, -, hv⟩ := hf
  cases hv
  exact {
    securityState := by rw [hsecurity]; rfl
    susuTitle := by rw [htitle, eq_of_nonEmpty hne]
    suShareDescription := by rw [hdes, eq_of_nonEmpty hne']
    potAmount := hnum
    numOfParticipants := rfl
    paymentSchedule := hschedule
    category := rfl
    createdDate := rfl
    userId := rfl
    suShareId := rfl
    imageURL := rfl }

/-- A flow whose last step was served has a document that is decoded to what the user
entered, under its own id, for its creator, with the date in whole microseconds and with the URL
of the photo that this flow put in the storage, at a path that no other flow uses. -/
theorem create_round_trip (h : (createFlow url users).Run as s) {form : CreateForm}
    {client : Client} {photo : Photo} {u : String} (hp : .addSusu form client photo ∈ as)
    (hu : .app (.serve (.updateSuShareURL u client.docRef)) ∈ as) :
    (∃ doc user, s.world.db.suShare.get? client.docRef = some doc ∧
      client.currentUser = some user ∧
      ∀ now, Entered form client user (url (storagePath client.docRef) photo)
        client.now.truncate (SuShare.init now doc)) ∧
    s.storage (storagePath client.docRef) = some photo ∧
    ∀ form' client' photo', .addSusu form' client' photo' ∈ as →
      storagePath client'.docRef = storagePath client.docRef →
      form' = form ∧ client' = client ∧ photo' = photo := by
  have hl := linked h
  have hrun := (projection url users).run h
  have hpress : ∀ {f c p}, .addSusu f c p ∈ as →
      .press (.addSusu f) c ∈ as.filterMap appAction := fun hm =>
    List.mem_filterMap.mpr ⟨_, hm, rfl⟩
  -- the id of a submission is drawn by no other step
  have hsame : ∀ {f c}, .press (.addSusu f) c ∈ as.filterMap appAction →
      c.docRef = client.docRef → f = form ∧ c = client := by
    intro f c hm hd
    have he := eq_of_drawn? hrun hm (hpress hp) rfl (congrArg some hd.symm)
    cases he
    exact ⟨rfl, rfl⟩
  obtain ⟨v, hv⟩ := hl.linked u _ hu
  obtain ⟨_, rfl, own, hown, hstored, rfl⟩ := hl.documents _ v hv
  obtain rfl : own = photo := Option.some.inj (hown.symm.trans (hl.photos form client photo hp))
  refine ⟨?_, hstored, fun f c p hm hpath => ?_⟩
  · obtain ⟨doc, hd, himage⟩ := Store.field_eq_some.mp hv
    obtain ⟨f, c, user, q, hposted, hc, hk⟩ := (attempts hrun).documents _ doc hd
    obtain ⟨rfl, rfl⟩ := hsame hposted.1 hc
    exact ⟨doc, user, hd, hposted.2.1, Entered.of_document hposted.2.2 hk himage⟩
  · obtain ⟨rfl, rfl⟩ := hsame (hpress hm) (storagePath_injective hpath)
    exact ⟨rfl, rfl, Option.some.inj ((hl.photos f c p hm).symm.trans hown)⟩

/-- A storage whose URLs show the path and the photo. -/
def sampleURL (path photo : String) : String :=
  path ++ "?" ++ photo

/-- Ann and the clock at which she submits the form. -/
def submitter : Client :=
  { Sample.client Sample.ann "s1" with now := ⟨5, 1500⟩ }

/-- Ann's SuShare is posted with its photo. -/
def completing : List (CreateAction String) :=
  let posted : SuShare := { Sample.posted with createdDate := ⟨5, 1500⟩ }
  [.addSusu Sample.form submitter "roof",
    .app (.serve (.createASusu Sample.ann "s1" posted)),
    .app (.deliver (.success (.createASusu Sample.ann "s1" posted))
      (Sample.client Sample.ann "d1")),
    .app (.serve (.uploadPhoto "s1")),
    .app (.deliver (.success (.uploadPhoto "s1"))
      { Sample.client Sample.ann "d2" with url := "SuSharePhotos/s1.jpg?roof" }),
    .app (.serve (.updateSuShareURL "SuSharePhotos/s1.jpg?roof" "s1"))]

theorem submitted_completing : .addSusu Sample.form submitter "roof" ∈ completing ∧
    .app (.serve (.updateSuShareURL "SuSharePhotos/s1.jpg?roof" submitter.docRef)) ∈
      completing := by
  simp [completing, submitter, Sample.client]

/-- The document is decoded to what Ann entered, half a microsecond earlier. -/
theorem create_round_trip_completing : ∃ s,
    (createFlow sampleURL Sample.profiles).Run completing s ∧
      ∃ doc user, s.world.db.suShare.get? "s1" = some doc ∧ ∀ now,
        Entered Sample.form submitter user "SuSharePhotos/s1.jpg?roof" ⟨5, 1000⟩
          (SuShare.init now doc) := by
  obtain ⟨s, hrun, -⟩ := TransitionSystem.exists_run_of_exec
    (T := createFlow sampleURL Sample.profiles) completing (fun _ => True) rfl
    (by decide +kernel)
  obtain ⟨doc, user, hd, -, hentered⟩ := (create_round_trip hrun submitted_completing.1
    submitted_completing.2).1
  exact ⟨s, hrun, doc, user, hd, hentered⟩

/-- The date of the document is half a microsecond before that of the submission. -/
theorem not_create_round_trip : ¬ ∀ (url : String → String → String)
    (users : Collection String Dictionary) (as : List (CreateAction String))
    (s : CreateFlow String), (createFlow url users).Run as s →
    ∀ form client photo u, .addSusu form client photo ∈ as →
      .app (.serve (.updateSuShareURL u client.docRef)) ∈ as →
      ∃ doc user, s.world.db.suShare.get? client.docRef = some doc ∧ ∀ now,
        Entered form client user (url (storagePath client.docRef) photo) client.now
          (SuShare.init now doc) := by
  intro h
  obtain ⟨s, hrun, hdate⟩ := TransitionSystem.exists_run_of_exec
    (T := createFlow sampleURL Sample.profiles) completing
    (fun s => (s.world.db.suShare.get? "s1").map
      (fun doc => (SuShare.init ⟨9, 0⟩ doc).createdDate) = some ⟨5, 1000⟩) rfl (by decide +kernel)
  obtain ⟨doc, user, hd, hentered⟩ := h _ _ _ s hrun _ _ _ _ submitted_completing.1
    submitted_completing.2
  rw [show s.world.db.suShare.get? "s1" = some doc from hd, Option.map_some,
    (hentered ⟨9, 0⟩).createdDate] at hdate
  exact absurd hdate (by decide)

end CreateFlow

end SuShareApp
