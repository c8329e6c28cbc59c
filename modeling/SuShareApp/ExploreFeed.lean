import SuShareApp.ExploreLists
import SuShareApp.Flags
import SuShareApp.Library.LocalStore

/-!
# The Explore screen on the store

One device with its Explore screen, and the app that everybody runs. The device receives the
store from time to time, and what it writes is in its view before the server has it (`LocalStore`).
A snapshot is raised from the view : when the device has written or received something, and for each
listener that is registered when the screen appears. The screen filters what the last snapshot
had, a row opens a detail screen once the owner's profile was fetched, and a cell reports its
SuShare.

A row is a copy of a SuShare in the store, or of one that was posted from this device and is not
there, since it is still on its way or was refused ; and no two rows show the same one
(`rows_in_store`). A SuShare that was reported leaves the screen for good once the device has
received the flag (`reported_gone`), although not at once : while tags are pressed or a
search is on, a snapshot does not change the rows.

The app opens and reports what the server has sent (`World`), so a row that only this device's own
writes have made is not opened here.
-/

namespace SuShareApp

/-- The copy that a row of the Explore list is. -/
def exploreCopy (sushare : SuShare) : Copy :=
  ⟨.explore, sushare.suShareId, sushare⟩

namespace Request

/-- Firestore puts it into the queue of writes. The other requests are queries and an upload. -/
def isWrite : Request → Bool
  | .getCurrentUser _ _ _ | .removeFromFavorite _ _ | .uploadPhoto _ => false
  | _ => true

/-- What a device sees of its own write. An update of what it does not have shows nothing. -/
def overlay (db : Store) (r : Request) : Store :=
  (r.perform db).getD db

end Request

/-- The app, this device, its Explore screen, the snapshots on their way to the listeners, the
oldest first, and the rows whose owners are being fetched. -/
structure ExploreFeed where
  world : World
  device : LocalStore Store Request
  vc : ExploreViewController
  snapshots : List (Collection String Dictionary)
  opening : List Copy

namespace ExploreFeed

inductive Action
  /-- Any step of the app that is not one of this device. -/
  | app (a : SuShareApp.Action)
  /-- A press on a screen of this device. -/
  | press (p : Press) (client : Client)
  /-- A handler runs on this device. -/
  | deliver (answer : Answer) (client : Client)
  /-- The server takes the oldest write of this device. -/
  | serve
  | acknowledge
  | reject
  /-- This device receives the store. -/
  | receive (now : Timestamp)
  /-- A snapshot of the view is on its way to the listeners. -/
  | raise
  /-- A listener handles the oldest snapshot; there can be several listeners, or none. -/
  | snapshot (now : Timestamp)
  | advance
  | event (e : ExploreEvent)
  | didSelectItemAt (row : ℕ)
  /-- The owner of a row is fetched, and the detail screen is pushed. -/
  | pushDetail (copy : Copy)
  | report (row : ℕ) (client : Client)

/-- The app, where an Explore list has received the collection. -/
def received (w : World) (now : Timestamp) : World :=
  { w with
    lists := (w.db.suShare.docs.filterMap fun e => w.read e.1 now .explore) ++ w.lists }

/-- The documents of a snapshot as the listener gets them. -/
def documents (c : Collection String Dictionary) : List Dictionary :=
  c.docs.map Prod.snd

/-- What this device has of the suShare collection. -/
def view (s : ExploreFeed) : Collection String Dictionary :=
  (s.device.view Request.overlay).suShare

/-- The server takes or refuses no write of this device. -/
def OfOthers (s : ExploreFeed) : SuShareApp.Action → Prop
  | .serve r | .reject r => s.device.pending.count r < s.world.requests.count r
  | _ => True

instance (s : ExploreFeed) : DecidablePred s.OfOthers
  | .serve _ | .reject _ => inferInstanceAs (Decidable (_ < _))
  | .receive _ _ _ | .openDetail _ | .press _ _ | .deliver _ _ => inferInstanceAs (Decidable True)

/-- The app takes a step, in which this device issues these requests. -/
def issue (s : ExploreFeed) (a : SuShareApp.Action) (rs : List Request) : Option ExploreFeed :=
  (s.world.step a).map fun world =>
    { s with world, device := s.device.write (rs.filter Request.isWrite) }

def pressed (s : ExploreFeed) (p : Press) (client : Client) : Option ExploreFeed :=
  (p.requests s.world client).bind fun rs => s.issue (.press p client) rs

def step (t : TextSearch) (s : ExploreFeed) : Action → Option ExploreFeed
  | .app a =>
    if s.OfOthers a then (s.world.step a).map fun world => { s with world } else none
  | .press p client => s.pressed p client
  | .deliver answer client => s.issue (.deliver answer client) (answer.completion client)
  | .serve => s.device.serve.bind fun (r, device) =>
    (s.world.step (.serve r)).map fun world => { s with world, device }
  | .acknowledge => s.device.acknowledge.map fun (_, device) => { s with device }
  | .reject => s.device.reject.bind fun (r, device) =>
    (s.world.step (.reject r)).map fun world => { s with world, device }
  | .receive now => some { s with
      world := received s.world now
      device := s.device.receive s.world.db }
  | .raise => some { s with snapshots := s.snapshots ++ [s.view] }
  | .snapshot now => s.snapshots.head?.map fun c =>
    { s with vc := s.vc.snapshot now (documents c) }
  | .advance => some { s with snapshots := s.snapshots.tail }
  | .event e => some { s with vc := s.vc.handle t e }
  | .didSelectItemAt row => s.vc.currentSusus[row]?.map fun sushare =>
    { s with opening := exploreCopy sushare :: s.opening }
  | .pushDetail copy =>
    if copy ∈ s.opening then
      (s.world.step (.openDetail copy)).map fun world =>
        { s with world, opening := s.opening.erase copy }
    else none
  | .report row client => s.vc.currentSusus[row]?.bind fun sushare =>
    s.pressed (.report (exploreCopy sushare)) client

end ExploreFeed

/-- An Explore screen that was just opened, on the app with the given user profiles. -/
def exploreFeed (t : TextSearch) (users : Collection String Dictionary) :
    TransitionSystem ExploreFeed ExploreFeed.Action where
  init s := s = ⟨World.initial users, .initial (World.initial users).db, .initial, [], []⟩
  step := ExploreFeed.step t

namespace ExploreFeed

variable {t : TextSearch} {users : Collection String Dictionary} {s s' : ExploreFeed}
  {w w' : World}

/-- The steps, with what each of them found. -/
inductive Steps (t : TextSearch) (s : ExploreFeed) : Action → ExploreFeed → Prop
  | app {a : SuShareApp.Action} {world : World} (hw : s.world.step a = some world) :
    Steps t s (.app a) { s with world }
  | press {a : Action} {p : Press} {client : Client} {rs : List Request} {world : World}
    (ha : a = .press p client ∨ ∃ row copy, a = .report row client ∧ p = .report copy)
    (hrs : p.requests s.world client = some rs)
    (hw : s.world.step (.press p client) = some world) :
    Steps t s a { s with world, device := s.device.write (rs.filter Request.isWrite) }
  | deliver {answer : Answer} {client : Client} {world : World}
    (hw : s.world.step (.deliver answer client) = some world) :
    Steps t s (.deliver answer client) { s with
      world
      device := s.device.write ((answer.completion client).filter Request.isWrite) }
  | serve {r : Request} {device : LocalStore Store Request} {world : World}
    (hr : s.device.serve = some (r, device)) (hw : s.world.step (.serve r) = some world) :
    Steps t s .serve { s with world, device }
  | acknowledge {r : Request} {device : LocalStore Store Request}
    (hr : s.device.acknowledge = some (r, device)) : Steps t s .acknowledge { s with device }
  | reject {r : Request} {device : LocalStore Store Request} {world : World}
    (hr : s.device.reject = some (r, device)) (hw : s.world.step (.reject r) = some world) :
    Steps t s .reject { s with world, device }
  | receive {now : Timestamp} : Steps t s (.receive now) { s with
      world := received s.world now
      device := s.device.receive s.world.db }
  | raise : Steps t s .raise { s with snapshots := s.snapshots ++ [s.view] }
  | snapshot {now : Timestamp} {c : Collection String Dictionary} (hc : c ∈ s.snapshots) :
    Steps t s (.snapshot now) { s with vc := s.vc.snapshot now (documents c) }
  | advance : Steps t s .advance { s with snapshots := s.snapshots.tail }
  | event {e : ExploreEvent} : Steps t s (.event e) { s with vc := s.vc.handle t e }
  | didSelectItemAt {row : ℕ} {x : SuShare} (hx : x ∈ s.vc.currentSusus) :
    Steps t s (.didSelectItemAt row) { s with opening := exploreCopy x :: s.opening }
  | pushDetail {copy : Copy} {world : World} (hc : copy ∈ s.opening)
    (hw : s.world.step (.openDetail copy) = some world) :
    Steps t s (.pushDetail copy) { s with world, opening := s.opening.erase copy }

theorem steps_of_step {a : Action} (h : s.step t a = some s') : s.Steps t a s' := by
  cases a with
  | app a =>
    obtain ⟨-, h⟩ := Option.ite_none_right_eq_some.mp h
    obtain ⟨w, hw, rfl⟩ := Option.map_eq_some_iff.mp h
    exact .app hw
  | press p client =>
    obtain ⟨rs, hrs, h⟩ := Option.bind_eq_some_iff.mp h
    obtain ⟨w, hw, rfl⟩ := Option.map_eq_some_iff.mp h
    exact .press (.inl rfl) hrs hw
  | deliver answer client =>
    obtain ⟨w, hw, rfl⟩ := Option.map_eq_some_iff.mp h
    exact .deliver hw
  | serve =>
    obtain ⟨⟨r, device⟩, hr, h⟩ := Option.bind_eq_some_iff.mp h
    obtain ⟨w, hw, rfl⟩ := Option.map_eq_some_iff.mp h
    exact .serve hr hw
  | acknowledge =>
    obtain ⟨⟨r, device⟩, hr, rfl⟩ := Option.map_eq_some_iff.mp h
    exact .acknowledge hr
  | reject =>
    obtain ⟨⟨r, device⟩, hr, h⟩ := Option.bind_eq_some_iff.mp h
    obtain ⟨w, hw, rfl⟩ := Option.map_eq_some_iff.mp h
    exact .reject hr hw
  | receive now =>
    obtain rfl := Option.some.inj h
    exact .receive
  | raise =>
    obtain rfl := Option.some.inj h
    exact .raise
  | snapshot now =>
    obtain ⟨c, hc, rfl⟩ := Option.map_eq_some_iff.mp h
    exact .snapshot (List.mem_of_mem_head? hc)
  | advance =>
    obtain rfl := Option.some.inj h
    exact .advance
  | event e =>
    obtain rfl := Option.some.inj h
    exact .event
  | didSelectItemAt row =>
    obtain ⟨x, hx, rfl⟩ := Option.map_eq_some_iff.mp h
    exact .didSelectItemAt (List.mem_of_getElem? hx)
  | pushDetail copy =>
    obtain ⟨hc, h⟩ := Option.ite_none_right_eq_some.mp h
    obtain ⟨w, hw, rfl⟩ := Option.map_eq_some_iff.mp h
    exact .pushDetail hc hw
  | report row client =>
    obtain ⟨x, hx, h⟩ := Option.bind_eq_some_iff.mp h
    obtain ⟨rs, hrs, h⟩ := Option.bind_eq_some_iff.mp h
    obtain ⟨w, hw, rfl⟩ := Option.map_eq_some_iff.mp h
    exact .press (.inr ⟨row, exploreCopy x, rfl, rfl⟩) hrs hw

/-! ## The app -/

variable (users) in
/-- To receive a collection is to receive its documents one by one. -/
theorem exec_received (w : World) (now : Timestamp) (ids : List String) :
    ∃ as, (app users).exec w as = some { w with
      lists := (ids.filterMap fun id => w.read id now .explore) ++ w.lists } := by
  induction ids with
  | nil => exact ⟨[], rfl⟩
  | cons id ids ih =>
    obtain ⟨as, has⟩ := ih
    cases hread : w.read id now .explore with
    | none => exact ⟨as, by simpa [hread] using has⟩
    | some c =>
      refine ⟨as ++ [.receive .explore id now], ?_⟩
      rw [TransitionSystem.exec_append, has]
      have hreceive : World.step { w with
          lists := (ids.filterMap fun id => w.read id now .explore) ++ w.lists }
          (.receive .explore id now) = some { w with
            lists := c :: ((ids.filterMap fun id => w.read id now .explore) ++ w.lists) } := by
        have hread' : World.read { w with
            lists := (ids.filterMap fun id => w.read id now .explore) ++ w.lists } id now
            .explore = some c := hread
        rw [World.step, hread']
        rfl
      simp [TransitionSystem.exec, app, hreceive, hread]

/-- The screen refines the app. -/
def refinement (t : TextSearch) (users : Collection String Dictionary) :
    (exploreFeed t users).Refinement (app users) where
  state := world
  init := by
    rintro _ rfl
    rfl
  step s a s' h := by
    have single : ∀ {a : SuShareApp.Action} {w : World}, s.world.step a = some w →
        ∃ bs, (app users).exec s.world bs = some w := fun {a w} ha =>
      ⟨[a], by simp [TransitionSystem.exec, app, ha]⟩
    cases steps_of_step h with
    | app hw | press _ _ hw | deliver hw | serve _ hw | reject _ hw | pushDetail _ hw =>
      exact single hw
    | receive =>
      rename_i now
      obtain ⟨as, has⟩ := exec_received users s.world now s.world.db.suShare.ids
      refine ⟨as, ?_⟩
      rw [has, received, Collection.ids, List.filterMap_map]
      rfl
    -- the other steps are the screen's own
    | _ => exact ⟨[], rfl⟩

/-- So what every run of the app keeps holds here as well. -/
theorem intact_world {as : List Action} (h : (exploreFeed t users).Run as s) :
    Intact s.world := by
  obtain ⟨bs, hrun⟩ := (refinement t users).exists_run h
  exact intact hrun

/-! ## What was posted here -/

/-- The create button was pressed on this device, and the SuShare got this id and these terms. -/
def PostedHere (as : List Action) (id : String) (terms : Terms) : Prop :=
  ∃ form client user sushare, .press (.addSusu form) client ∈ as ∧ client.docRef = id ∧
    client.currentUser = some user ∧ form.addSusu (some user) client.now = some sushare ∧
      sushare.terms.truncate = terms

theorem PostedHere.append {as : List Action} {id : String} {terms : Terms}
    (h : PostedHere as id terms) (bs : List Action) : PostedHere (as ++ bs) id terms := by
  obtain ⟨form, client, user, sushare, ha, hrest⟩ := h
  exact ⟨form, client, user, sushare, List.mem_append_left _ ha, hrest⟩

/-- A SuShare is stored, or going to be, under this id with these terms only. -/
structure Reserved (w : World) (id : String) (terms : Terms) : Prop where
  drawn : id ∈ w.drawn
  stored : ∀ doc, w.db.suShare.get? id = some doc → terms.In doc
  requested : ∀ user sushare, .createASusu user id sushare ∈ w.requests →
    sushare.terms.truncate = terms

theorem Reserved.step {id : String} {terms : Terms} (h : Reserved w id terms) (hw : Intact w)
    {a : SuShareApp.Action} (hs : w.step a = some w') : Reserved w' id terms := by
  refine ⟨World.drawn_subset hs h.drawn, fun doc hd => ?_, fun user sushare hr => ?_⟩
  · rcases hw.get?_suShare_step hs hd with ⟨user, sushare, rfl, -, rfl⟩ | ⟨doc', hd', hkeys⟩
    · cases World.steps_of_step hs with
      | serve hr _ => exact h.requested user sushare hr ▸ sushare.terms_in_suShareDocument user id
    · exact (h.stored doc' hd').congr hkeys
  · rcases World.requests_step hs hr with hold | ⟨p, client, rs, rfl, hrs, hnew⟩ |
      ⟨ans, client, -, -, hnew⟩
    · exact h.requested user sushare hold
    · -- a press draws another id
      have hd : client.docRef ∉ w.drawn := by
        cases World.steps_of_step hs with
        | press hd _ => exact hd
      cases Press.issues_of_requests hrs hnew with
      | addSusu => exact absurd h.drawn hd
    · cases Answer.created_of_completion hnew

/-- The app's part takes a step, receives something, or stays. -/
theorem world_step {a : Action} (hs : s.step t a = some s') :
    (∃ b, s.world.step b = some s'.world) ∨ (∃ now, s'.world = received s.world now) ∨
      s'.world = s.world := by
  cases steps_of_step hs with
  | app hw | press _ _ hw | deliver hw | serve _ hw | reject _ hw | pushDetail _ hw =>
    exact .inl ⟨_, hw⟩
  | receive => exact .inr (.inl ⟨_, rfl⟩)
  | _ => exact .inr (.inr rfl)

theorem suShareId_init {id : String} {doc : Dictionary} (h : SuShareDocument id doc)
    (now : Timestamp) : (SuShare.init now doc).suShareId = id :=
  Dictionary.read_of_some h.suShareId rfl

/-- There is a document of this id with these terms, or a SuShare was posted so. -/
def Genuine (posted : String → Terms → Prop) (db : Store) (id : String) (terms : Terms) : Prop :=
  (∃ doc, db.suShare.get? id = some doc ∧ terms.In doc) ∨ posted id terms

/-- The documents of a collection are SuShares, with terms that are genuine. -/
structure Shown (posted : String → Terms → Prop) (db : Store)
    (c : Collection String Dictionary) : Prop where
  written : ∀ id doc, c.get? id = some doc → SuShareDocument id doc
  genuine : ∀ id doc, c.get? id = some doc → ∀ terms : Terms, terms.In doc →
    Genuine posted db id terms

/-- Rows of distinct SuShares, all of them genuine. -/
structure Listed (posted : String → Terms → Prop) (db : Store) (susus : List SuShare) :
    Prop where
  nodup : (susus.map SuShare.suShareId).Nodup
  genuine : ∀ x ∈ susus, Genuine posted db x.suShareId x.terms

variable {posted posted' : String → Terms → Prop} {db db' : Store}

theorem Genuine.mono {id : String} {terms : Terms} (h : Genuine posted db id terms)
    (hdb : db.Extends db') (hposted : ∀ id terms, posted id terms → posted' id terms) :
    Genuine posted' db' id terms := by
  rcases h with ⟨doc, hd, hin⟩ | h
  · obtain ⟨doc', hd', hkeys⟩ := hdb id doc hd
    exact .inl ⟨doc', hd', hin.congr hkeys⟩
  · exact .inr (hposted id terms h)

theorem Shown.mono {c : Collection String Dictionary} (h : Shown posted db c)
    (hdb : db.Extends db') (hposted : ∀ id terms, posted id terms → posted' id terms) :
    Shown posted' db' c :=
  ⟨h.written, fun id doc hd terms hin => (h.genuine id doc hd terms hin).mono hdb hposted⟩

theorem Listed.mono {susus : List SuShare} (h : Listed posted db susus)
    (hdb : db.Extends db') (hposted : ∀ id terms, posted id terms → posted' id terms) :
    Listed posted' db' susus :=
  ⟨h.nodup, fun x hx => (h.genuine x hx).mono hdb hposted⟩

theorem Listed.sublist {susus susus' : List SuShare} (h : Listed posted db susus)
    (hsub : susus'.Sublist susus) : Listed posted db susus' :=
  ⟨(hsub.map _).nodup h.nodup, fun x hx => h.genuine x (hsub.subset hx)⟩

theorem mem_documents {c : Collection String Dictionary} {doc : Dictionary} :
    doc ∈ documents c ↔ ∃ id, c.get? id = some doc := by
  simp [documents, Collection.mem_docs_iff]

open ExploreViewController in
theorem Shown.listed {c : Collection String Dictionary} (h : Shown posted db c)
    (now : Timestamp) : Listed posted db (catalogue now (documents c)) where
  nodup := by
    have hids : (documents c).map (SuShare.suShareId ∘ SuShare.init now) = c.ids := by
      rw [documents, List.map_map]
      refine List.map_congr_left fun e he => ?_
      exact suShareId_init (h.written e.1 e.2 (Collection.mem_docs_iff.mp he)) now
    have hall : (((documents c).map (SuShare.init now)).map SuShare.suShareId).Nodup := by
      rw [List.map_map, hids]
      exact c.nodup_ids
    have hsub := (List.filter_sublist (l := (documents c).map (SuShare.init now))
      (p := fun x => x.isTheSuShareFlagged ≠ true)).map SuShare.suShareId
    exact ((List.perm_insertionSort _ _).map _).nodup_iff.mpr (hsub.nodup hall)
  genuine x hx := by
    obtain ⟨⟨doc, hdoc, rfl⟩, -⟩ := mem_catalogue.mp hx
    obtain ⟨id, hid⟩ := mem_documents.mp hdoc
    have hwritten := h.written id doc hid
    obtain ⟨terms, hin, -⟩ := hwritten.terms
    rw [suShareId_init hwritten, hin.terms_init]
    exact h.genuine id doc hid terms hin

/-- What the store has is genuine. -/
theorem shown_suShare (h : Intact w) : Shown posted w.db w.db.suShare :=
  ⟨h.documents, fun _ doc hd _ hin => .inl ⟨doc, hd, hin⟩⟩

/-- A SuShare that this device creates was posted here, with a valid number of participants. -/
def Creates (posted : String → Terms → Prop) (r : Request) : Prop :=
  ∀ user docRef sushare, r = .createASusu user docRef sushare →
    posted docRef sushare.terms.truncate ∧
      2 ≤ sushare.numOfParticipants ∧ sushare.numOfParticipants ≤ 10

theorem Creates.mono {r : Request} (h : Creates posted r)
    (hposted : ∀ id terms, posted id terms → posted' id terms) : Creates posted' r :=
  fun user docRef sushare he => (h user docRef sushare he).imp_left (hposted _ _)

/-- A write of this device, over what it had. -/
theorem Shown.overlay {view : Store} (h : Shown posted db view.suShare) {r : Request}
    (hr : Creates posted r) : Shown posted db (r.overlay view).suShare := by
  unfold Request.overlay
  cases hperform : r.perform view with
  | none => exact h
  | some view' =>
    -- a document is new, or has the terms that it had
    have hfrom : ∀ id doc, view'.suShare.get? id = some doc →
        (∃ user sushare, r = .createASusu user id sushare ∧
          doc = Store.suShareDocument user id sushare) ∨
        ∃ doc', view.suShare.get? id = some doc' ∧
          ∀ key, key ∉ Store.writableFields → doc key = doc' key := by
      intro id doc hd
      refine (Request.get?_suShare_of_perform hperform hd).imp_right ?_
      rintro ⟨doc', hd', hkeys⟩
      exact ⟨doc', hd', fun key hkey =>
        (hkeys key).resolve_right fun ⟨_, _, hwritable, _⟩ => hkey hwritable⟩
    refine ⟨fun id doc hd => ?_, fun id doc hd terms hin => ?_⟩
    · rcases hfrom id doc hd with ⟨user, sushare, rfl, rfl⟩ | ⟨doc', hd', hkeys⟩
      · obtain ⟨-, hparticipants⟩ := hr user id sushare rfl
        exact ⟨by simp [Store.suShareDocument],
          ⟨user.uid, by simp [Store.suShareDocument]⟩,
          ⟨sushare.terms.truncate, sushare.terms_in_suShareDocument user id, hparticipants⟩,
          sushare.createdDate, by simp [Store.suShareDocument]⟩
      · exact (h.written id doc' hd').congr hkeys
    · rcases hfrom id doc hd with ⟨user, sushare, rfl, rfl⟩ | ⟨doc', hd', hkeys⟩
      · have hterms : sushare.terms.truncate = terms :=
          ((sushare.terms_in_suShareDocument user id).terms_init ⟨0, 0⟩).symm.trans
            (hin.terms_init ⟨0, 0⟩)
        exact .inr (hterms ▸ (hr user id sushare rfl).1)
      · exact h.genuine id doc' hd' terms (hin.congr fun key hkey => (hkeys key hkey).symm)

/-- All that the device and its screen have, and all that is on its way to it, is genuine. -/
structure Fed (posted : String → Terms → Prop) (s : ExploreFeed) : Prop where
  remote : Shown posted s.world.db s.device.remote.suShare
  writes : ∀ r ∈ s.device.writes, Creates posted r
  snapshots : ∀ c ∈ s.snapshots, Shown posted s.world.db c
  originalSusus : Listed posted s.world.db s.vc.originalSusus
  currentSusus : Listed posted s.world.db s.vc.currentSusus

namespace Fed

theorem view (h : s.Fed posted) : Shown posted s.world.db s.view :=
  LocalStore.view_induction (P := fun view : Store => Shown posted s.world.db view.suShare)
    h.remote fun r hr _ hview => hview.overlay (h.writes r hr)

/-- The app goes on, and this device may have written something. -/
theorem mono (h : s.Fed posted) {world : World} (hdb : s.world.db.Extends world.db)
    (hposted : ∀ id terms, posted id terms → posted' id terms)
    (device : LocalStore Store Request) (hremote : device.remote = s.device.remote)
    (hwrites : ∀ r ∈ device.writes, r ∈ s.device.writes ∨ Creates posted' r)
    (opening : List Copy) : Fed posted' ⟨world, device, s.vc, s.snapshots, opening⟩ where
  remote := by
    dsimp only
    rw [hremote]
    exact h.remote.mono hdb hposted
  writes r hr := (hwrites r hr).elim (fun hr => (h.writes r hr).mono hposted) id
  snapshots c hc := (h.snapshots c hc).mono hdb hposted
  originalSusus := h.originalSusus.mono hdb hposted
  currentSusus := h.currentSusus.mono hdb hposted

theorem snapshot (h : s.Fed posted) {c : Collection String Dictionary} (hc : c ∈ s.snapshots)
    (now : Timestamp) : Fed posted { s with vc := s.vc.snapshot now (documents c) } := by
  have hlisted := (h.snapshots c hc).listed now
  refine ⟨h.remote, h.writes, h.snapshots, ?_, ?_⟩
  · rw [ExploreViewController.snapshot_eq]
    exact hlisted
  · rw [ExploreViewController.snapshot_eq]
    dsimp only
    split_ifs
    · exact hlisted
    · exact h.currentSusus

theorem event (h : s.Fed posted) (e : ExploreEvent) :
    Fed posted { s with vc := s.vc.handle t e } where
  remote := h.remote
  writes := h.writes
  snapshots := h.snapshots
  originalSusus := by
    rw [Session.originalSusus_handle]
    exact h.originalSusus
  currentSusus := h.originalSusus.sublist (Session.currentSusus_handle_sublist t s.vc e)

/-- A press writes a new SuShare if it is one of the create button. -/
theorem creates_of_press {as : List Action} {a : Action} {p : Press} {client : Client}
    {rs : List Request}
    (ha : a = .press p client ∨ ∃ row copy, a = .report row client ∧ p = .report copy)
    (hrs : p.requests w client = some rs) : ∀ r ∈ rs, Creates (PostedHere (as ++ [a])) r := by
  rintro r hr user docRef sushare rfl
  cases Press.issues_of_requests hrs hr with
  | @addSusu form _ _ hu hf =>
    obtain ⟨v, hv, -, hn⟩ := CreateForm.of_addSusu hf
    refine ⟨⟨form, client, user, sushare, ?_, rfl, hu, hf, rfl⟩, hn ▸ form.controls.amount_mem⟩
    rcases ha with rfl | ⟨row, copy, -, hp⟩
    · exact List.mem_append_right _ (List.mem_singleton_self _)
    · cases hp

theorem step {as : List Action} {a : Action} (h : s.Fed (PostedHere as)) (hw : Intact s.world)
    (hs : s.step t a = some s') : s'.Fed (PostedHere (as ++ [a])) := by
  have hposted : ∀ id terms, PostedHere as id terms → PostedHere (as ++ [a]) id terms :=
    fun id terms h => h.append _
  have hsame := Store.Extends.refl s.world.db
  cases steps_of_step hs with
  | app hstep =>
    exact h.mono (hw.extends_step hstep) hposted _ rfl (fun r hr => .inl hr) _
  | @press _ p client rs world ha hrs hstep =>
    refine h.mono (hw.extends_step hstep) hposted (s.device.write (rs.filter Request.isWrite)) rfl
      (fun r hr => ?_) _
    rw [LocalStore.writes_write] at hr
    exact (List.mem_append.mp hr).imp_right fun hr =>
      creates_of_press ha hrs r (List.mem_of_mem_filter hr)
  | @deliver answer client world hstep =>
    refine h.mono (hw.extends_step hstep) hposted
      (s.device.write ((answer.completion client).filter Request.isWrite)) rfl (fun r hr => ?_) _
    rw [LocalStore.writes_write] at hr
    refine (List.mem_append.mp hr).imp_right fun hr user docRef sushare he => ?_
    have hnone := Answer.created_of_completion (List.mem_of_mem_filter hr)
    rw [he] at hnone
    cases hnone
  | serve hr hstep =>
    exact h.mono (hw.extends_step hstep) hposted _ (LocalStore.remote_serve hr)
      (fun r hmem => .inl (LocalStore.writes_serve hr ▸ hmem)) _
  | acknowledge hr =>
    exact h.mono hsame hposted _ (LocalStore.remote_acknowledge hr)
      (fun r hmem => .inl (LocalStore.writes_acknowledge hr ▸ hmem)) _
  | reject hr hstep =>
    exact h.mono (hw.extends_step hstep) hposted _ (LocalStore.remote_reject hr)
      (fun r hmem => .inl (LocalStore.writes_reject hr hmem)) _
  | @receive now =>
    have hreceived : s.world.db.Extends (received s.world now).db := hsame
    have hfed := h.mono hreceived hposted s.device rfl (fun r hr => .inl hr) s.opening
    have hremote : Shown (PostedHere (as ++ [.receive now])) s.world.db s.world.db.suShare :=
      shown_suShare hw
    exact ⟨hremote, fun r hr => hfed.writes r (List.mem_append_right _ hr),
      hfed.snapshots, hfed.originalSusus, hfed.currentSusus⟩
  | raise =>
    have hfed := h.mono hsame hposted _ rfl (fun r hr => .inl hr) s.opening
    refine ⟨hfed.remote, hfed.writes, fun c hc => ?_, hfed.originalSusus, hfed.currentSusus⟩
    rcases List.mem_append.mp hc with hc | hc
    · exact hfed.snapshots c hc
    · obtain rfl := List.mem_singleton.mp hc
      exact hfed.view
  | snapshot hc =>
    exact (h.mono hsame hposted _ rfl (fun r hr => .inl hr) s.opening).snapshot hc _
  | advance =>
    have hfed := h.mono hsame hposted _ rfl (fun r hr => .inl hr) s.opening
    exact ⟨hfed.remote, hfed.writes, fun c hc => hfed.snapshots c (List.mem_of_mem_tail hc),
      hfed.originalSusus, hfed.currentSusus⟩
  | event => exact (h.mono hsame hposted _ rfl (fun r hr => .inl hr) s.opening).event _
  | didSelectItemAt => exact h.mono hsame hposted _ rfl (fun r hr => .inl hr) _
  | pushDetail _ hstep =>
    exact h.mono (hw.extends_step hstep) hposted _ rfl (fun r hr => .inl hr) _

end Fed

theorem fed {as : List Action} (h : (exploreFeed t users).Run as s) :
    s.Fed (PostedHere as) := by
  refine h.invariant (I := fun as s => s.Fed (PostedHere as)) ?_ ?_
  · intro s h0
    rw [show s = _ from h0]
    have hnone : ∀ id doc, (World.initial users).db.suShare.get? id ≠ some doc := by
      simp [World.initial]
    refine ⟨?_, by simp [LocalStore.initial, LocalStore.writes, LocalStore.unacknowledged],
      by simp, ?_, ?_⟩
    · exact ⟨fun id doc hd => absurd hd (hnone id doc), fun id doc hd => absurd hd (hnone id doc)⟩
    · exact ⟨List.nodup_nil, by simp [ExploreViewController.initial]⟩
    · exact ⟨List.nodup_nil, by simp [ExploreViewController.initial]⟩
  · intro _ s a s' hrun hfed hs
    exact hfed.step (intact_world hrun) hs

/-- The SuShare is flagged, and this device knows it : it has received the flag, no write of its own
creates the SuShare over it, and the snapshots on their way have the flag. -/
structure Announced (id : String) (s : ExploreFeed) : Prop where
  flagged : s.world.db.Flagged id
  remote : s.device.remote.Flagged id
  writes : ∀ r ∈ s.device.writes, r.created? ≠ some id
  snapshots : ∀ c ∈ s.snapshots, ∀ doc, c.get? id = some doc →
    doc "isTheSuShareFlagged" = some (.bool true)

/-- The screen shows everything that it has. -/
def Unfiltered (s : ExploreFeed) : Prop :=
  s.vc.currentTags = [] ∧ s.vc.currentQuery = ""

/-- No entry of the list is the SuShare. -/
def Lacks (id : String) (susus : List SuShare) : Prop :=
  ∀ x ∈ susus, x.suShareId ≠ id

/-- Gone from what the screen has. -/
structure Gone (id : String) (s : ExploreFeed) : Prop extends Announced id s where
  originalSusus : Lacks id s.vc.originalSusus

/-- Gone from the rows, too. -/
structure Hidden (id : String) (s : ExploreFeed) : Prop extends Gone id s where
  currentSusus : Lacks id s.vc.currentSusus

variable {id : String}

/-- A catalogue leaves out what is flagged. -/
theorem lacks_catalogue {c : Collection String Dictionary} (h : Shown posted db c)
    (hflag : ∀ doc, c.get? id = some doc → doc "isTheSuShareFlagged" = some (.bool true))
    (now : Timestamp) : Lacks id (ExploreViewController.catalogue now (documents c)) := by
  rintro x hx rfl
  obtain ⟨⟨doc, hdoc, rfl⟩, hunflagged⟩ := ExploreViewController.mem_catalogue.mp hx
  obtain ⟨id, hid⟩ := mem_documents.mp hdoc
  rw [suShareId_init (h.written id doc hid) now] at hflag
  have htrue : (SuShare.init now doc).isTheSuShareFlagged = true :=
    Dictionary.read_of_some (hflag doc hid) rfl
  exact Bool.false_ne_true (hunflagged.symm.trans htrue)

/-- No write but the creation of the SuShare takes the flag away. -/
theorem flagged_overlay {r : Request} (h : db.Flagged id) (hr : r.created? ≠ some id) :
    (r.overlay db).Flagged id := by
  unfold Request.overlay
  cases hperform : r.perform db with
  | none => exact h
  | some db' =>
    obtain ⟨doc, hd, hflag⟩ := Store.field_eq_some.mp h
    -- the document is still there
    obtain ⟨doc', hd'⟩ : ∃ doc', db'.suShare.get? id = some doc' := by
      rcases Request.perform_suShare hperform with he | ⟨user, docRef, sushare, rfl, rfl⟩ |
        ⟨k, field, v, -, hfield, hupdate⟩
      · exact ⟨doc, he ▸ hd⟩
      · have hne : id ≠ docRef := fun he => hr (congrArg some he.symm)
        exact ⟨doc, (Collection.get?_setData_of_ne _ hne _).trans hd⟩
      · obtain ⟨doc', hd', -⟩ := Store.extends_updateSuShare_singleton hfield hupdate id doc hd
        exact ⟨doc', hd'⟩
    rcases Request.get?_suShare_of_perform hperform hd' with ⟨user, sushare, rfl, -⟩ |
      ⟨old, hold, hkeys⟩
    · exact absurd rfl hr
    · obtain rfl := Option.some.inj (hd.symm.trans hold)
      refine Store.field_eq_some.mpr ⟨doc', hd', ?_⟩
      rcases hkeys "isTheSuShareFlagged" with he | ⟨v, hwrites, -, hv⟩
      · exact he.trans hflag
      · obtain ⟨copy, -, -, rfl⟩ := Request.of_writes_isTheSuShareFlagged hwrites
        exact hv

namespace Announced

/-- So the view has the flag. -/
theorem view (h : Announced id s) {doc : Dictionary} (hd : s.view.get? id = some doc) :
    doc "isTheSuShareFlagged" = some (.bool true) := by
  have hflagged : (s.device.view Request.overlay).Flagged id :=
    LocalStore.view_induction (P := fun db : Store => db.Flagged id) h.remote
      fun r hr _ hdb => flagged_overlay hdb (h.writes r hr)
  obtain ⟨doc', hd', hflag⟩ := Store.field_eq_some.mp hflagged
  exact Option.some.inj (hd.symm.trans hd') ▸ hflag

/-- The app goes on, and this device may have written something. -/
theorem mono (h : Announced id s) {world : World} (hflagged : world.db.Flagged id)
    (device : LocalStore Store Request) (hremote : device.remote = s.device.remote)
    (hwrites : ∀ r ∈ device.writes, r ∈ s.device.writes ∨ r.created? ≠ some id)
    (opening : List Copy) : Announced id ⟨world, device, s.vc, s.snapshots, opening⟩ :=
  ⟨hflagged, by rw [hremote]; exact h.remote,
    fun r hr => (hwrites r hr).elim (h.writes r) fun hne => hne, h.snapshots⟩

theorem step {a : Action} (h : Announced id s) (hw : Intact s.world)
    (hs : s.step t a = some s') : Announced id s' := by
  cases steps_of_step hs with
  | app hstep => exact h.mono (hw.flagged_step hstep h.flagged) _ rfl (fun r hr => .inl hr) _
  | @press _ p client rs world ha hrs hstep =>
    refine h.mono (hw.flagged_step hstep h.flagged) (s.device.write (rs.filter Request.isWrite)) rfl
      (fun r hr => ?_) _
    rw [LocalStore.writes_write] at hr
    refine (List.mem_append.mp hr).imp_right fun hr he => ?_
    -- a press draws another id
    have hd : client.docRef ∉ s.world.drawn := by
      cases World.steps_of_step hstep with
      | press hd _ => exact hd
    obtain ⟨doc, hdoc, -⟩ := Store.field_eq_some.mp h.flagged
    cases Press.issues_of_requests hrs (List.mem_of_mem_filter hr) with
    | addSusu => exact hd (Option.some.inj he ▸ hw.drawn id doc hdoc)
    | _ => cases he
  | @deliver answer client world hstep =>
    refine h.mono (hw.flagged_step hstep h.flagged)
      (s.device.write ((answer.completion client).filter Request.isWrite)) rfl (fun r hr => ?_) _
    rw [LocalStore.writes_write] at hr
    refine (List.mem_append.mp hr).imp_right fun hr he => ?_
    rw [Answer.created_of_completion (List.mem_of_mem_filter hr)] at he
    cases he
  | serve hr hstep =>
    exact h.mono (hw.flagged_step hstep h.flagged) _ (LocalStore.remote_serve hr)
      (fun r hmem => .inl (LocalStore.writes_serve hr ▸ hmem)) _
  | acknowledge hr =>
    exact h.mono h.flagged _ (LocalStore.remote_acknowledge hr)
      (fun r hmem => .inl (LocalStore.writes_acknowledge hr ▸ hmem)) _
  | reject hr hstep =>
    exact h.mono (hw.flagged_step hstep h.flagged) _ (LocalStore.remote_reject hr)
      (fun r hmem => .inl (LocalStore.writes_reject hr hmem)) _
  | receive =>
    exact ⟨h.flagged, h.flagged, fun r hr => h.writes r (List.mem_append_right _ hr), h.snapshots⟩
  | raise =>
    refine ⟨h.flagged, h.remote, h.writes, fun c hc doc hd => ?_⟩
    rcases List.mem_append.mp hc with hc | hc
    · exact h.snapshots c hc doc hd
    · obtain rfl := List.mem_singleton.mp hc
      exact h.view hd
  | advance =>
    exact ⟨h.flagged, h.remote, h.writes, fun c hc => h.snapshots c (List.mem_of_mem_tail hc)⟩
  | pushDetail _ hstep =>
    exact h.mono (hw.flagged_step hstep h.flagged) _ rfl (fun r hr => .inl hr) _
  | _ => exact ⟨h.flagged, h.remote, h.writes, h.snapshots⟩

end Announced

/-- Only snapshots and the user's filters change the controller. -/
theorem vc_step {a : Action} (hs : s.step t a = some s') :
    s'.vc = s.vc ∨ (∃ now, ∃ c ∈ s.snapshots, s'.vc = s.vc.snapshot now (documents c)) ∨
      ∃ e, s'.vc = s.vc.handle t e := by
  cases steps_of_step hs with
  | snapshot hc => exact .inr (.inl ⟨_, _, hc, rfl⟩)
  | event => exact .inr (.inr ⟨_, rfl⟩)
  | _ => exact .inl rfl

/-- The first snapshot that has the flag takes the SuShare away. -/
theorem Announced.gone (h : Announced id s) (hfed : s.Fed posted) (hw : Intact s.world)
    {now : Timestamp} (hs : s.step t (.snapshot now) = some s') : Gone id s' := by
  refine ⟨h.step hw hs, ?_⟩
  obtain ⟨c, hc, rfl⟩ := Option.map_eq_some_iff.mp hs
  have hc := List.mem_of_mem_head? hc
  rw [ExploreViewController.snapshot_eq]
  exact lacks_catalogue (hfed.snapshots c hc) (h.snapshots c hc) now

/-- With no filters the rows are all that the screen has. -/
theorem Gone.hidden_of_unfiltered (h : Gone id s') (hs₀ : s.Unfiltered) {now : Timestamp}
    (hs : s.step t (.snapshot now) = some s') : Hidden id s' := by
  refine ⟨h, ?_⟩
  have horiginal := h.originalSusus
  obtain ⟨c, -, rfl⟩ := Option.map_eq_some_iff.mp hs
  rw [ExploreViewController.snapshot_eq] at horiginal ⊢
  dsimp only at horiginal ⊢
  rwa [if_pos (.inl hs₀)]

theorem Gone.step {a : Action} (h : Gone id s) (hfed : s.Fed posted) (hw : Intact s.world)
    (hs : s.step t a = some s') : Gone id s' := by
  refine ⟨h.toAnnounced.step hw hs, ?_⟩
  rcases vc_step hs with hvc | ⟨now, c, hc, hvc⟩ | ⟨e, hvc⟩
  · rw [hvc]
    exact h.originalSusus
  · rw [hvc, ExploreViewController.snapshot_eq]
    exact lacks_catalogue (hfed.snapshots c hc) (h.snapshots c hc) now
  · rw [hvc, Session.originalSusus_handle]
    exact h.originalSusus

/-- The next press or search takes its row away. -/
theorem Gone.hidden (h : Gone id s) (hfed : s.Fed posted) (hw : Intact s.world) {e : ExploreEvent}
    (hs : s.step t (.event e) = some s') : Hidden id s' := by
  refine ⟨h.step hfed hw hs, ?_⟩
  obtain rfl := Option.some.inj hs
  intro x hx
  exact h.originalSusus x ((Session.currentSusus_handle_sublist t s.vc e).subset hx)

theorem Hidden.step {a : Action} (h : Hidden id s) (hfed : s.Fed posted) (hw : Intact s.world)
    (hs : s.step t a = some s') : Hidden id s' := by
  refine ⟨h.toGone.step hfed hw hs, ?_⟩
  rcases vc_step hs with hvc | ⟨now, c, hc, hvc⟩ | ⟨e, hvc⟩
  · rw [hvc]
    exact h.currentSusus
  · rw [hvc, ExploreViewController.snapshot_eq]
    dsimp only
    split_ifs
    · exact lacks_catalogue (hfed.snapshots c hc) (h.snapshots c hc) now
    · exact h.currentSusus
  · intro x hx
    rw [hvc] at hx
    exact h.originalSusus x ((Session.currentSusus_handle_sublist t s.vc e).subset hx)

/-- Once a snapshot with the flag is handled, the screen does not have the SuShare any more, and
from the next press or search on, or at once if nothing was filtered, there is no row of it :
whatever is pressed, searched, posted or delivered later. -/
theorem reported_gone {as bs : List Action} {s₁ : ExploreFeed}
    (h : (exploreFeed t users).Run as s) (hid : s.Announced id) {now : Timestamp}
    (hs : (exploreFeed t users).step s (.snapshot now) = some s₁)
    (hexec : (exploreFeed t users).exec s₁ bs = some s') :
    Lacks id s'.vc.originalSusus ∧
      (s.Unfiltered ∨ (∃ e, .event e ∈ bs) → Lacks id s'.vc.currentSusus) := by
  have hrun := h.snoc hs
  have hgone : Gone id s₁ := Announced.gone (t := t) hid (fed h) (intact_world h) hs
  have keep : ∀ {as : List Action} {s : ExploreFeed}, (exploreFeed t users).Run as s →
      Hidden id s → ∀ {bs : List Action} {s' : ExploreFeed},
      (exploreFeed t users).exec s bs = some s' → Hidden id s' := fun hrun hhidden =>
    hrun.stable (P := Hidden id) (fun _ _ _ _ hr hh hs => hh.step (fed hr) (intact_world hr) hs)
      hhidden
  have stays : ∀ {cs : List Action} {s₂ : ExploreFeed},
      (exploreFeed t users).exec s₁ cs = some s₂ → Gone id s₂ :=
    hrun.stable (P := Gone id)
      (fun _ _ _ _ hr hg hs => hg.step (fed hr) (intact_world hr) hs) hgone
  refine ⟨(stays hexec).originalSusus, ?_⟩
  rintro (hunfiltered | ⟨e, he⟩)
  · exact (keep hrun (hgone.hidden_of_unfiltered (t := t) hunfiltered hs) hexec).currentSusus
  · obtain ⟨cs, ds, rfl⟩ := List.append_of_mem he
    rw [TransitionSystem.exec_append] at hexec
    obtain ⟨s₂, hcs, hexec⟩ := Option.bind_eq_some_iff.mp hexec
    obtain ⟨s₃, hevent, hexec⟩ := Option.bind_eq_some_iff.mp hexec
    have hrun₂ := hrun.append_of_exec hcs
    have hhidden := (stays hcs).hidden (fed hrun₂) (intact_world hrun₂) hevent
    exact (keep (hrun₂.snoc hevent) hhidden hexec).currentSusus

/-! ## Bob's report -/

open Sample

/-- Ann posts it on her own device, Bob reports it from its cell on this one, and the server sends
the collection again. -/
def reportingRoof : List Action :=
  [.app (.press (.addSusu form) (client ann "s1")),
    .app (.serve (.createASusu ann "s1" Sample.posted)), .receive ⟨0, 0⟩, .raise,
    .snapshot ⟨0, 0⟩, .advance, .report 0 (client bob "d3"), .serve, .acknowledge,
    .receive ⟨1, 0⟩, .raise]

/-- The row was there, and is gone when the snapshot is handled. -/
theorem reported_gone_reportingRoof : ∃ s s' : ExploreFeed, s.vc.currentSusus.length = 1 ∧
    s.step ExploreViewController.ascii (.snapshot ⟨1, 0⟩) = some s' ∧
    Lacks "s1" s'.vc.currentSusus := by
  obtain ⟨s, hrun, hrows, hflagged, hremote, hwrites, hsnapshots, hunfiltered, hsome⟩ :=
    TransitionSystem.exists_run_of_exec
      (T := exploreFeed ExploreViewController.ascii profiles) reportingRoof
      (fun s => s.vc.currentSusus.length = 1 ∧ s.world.db.Flagged "s1" ∧
        s.device.remote.Flagged "s1" ∧ (∀ r ∈ s.device.writes, r.created? ≠ some "s1") ∧
        (∀ c ∈ s.snapshots, ∀ doc ∈ c.get? "s1", doc "isTheSuShareFlagged" = some (.bool true)) ∧
        (s.vc.currentTags = [] ∧ s.vc.currentQuery = "") ∧
        (s.step ExploreViewController.ascii (.snapshot ⟨1, 0⟩)).isSome)
      rfl (by decide +kernel)
  obtain ⟨s', hs⟩ := Option.isSome_iff_exists.mp hsome
  have hexec : (exploreFeed ExploreViewController.ascii profiles).exec s' [] = some s' := rfl
  have hgone := reported_gone hrun ⟨hflagged, hremote, hwrites, hsnapshots⟩ hs hexec
  exact ⟨s, s', hrows, hs, hgone.2 (.inl hunfiltered)⟩

end ExploreFeed

end SuShareApp
