import SuShareApp.Favorites
import SuShareApp.Library.Keys
import SuShareApp.Library.LocalStore

/-!
# Hearts

The heart button of the detail screens. A screen asks once, when it is loaded, whether its
SuShare is a favorite, and keeps the answer in `isFavorite`. A press adds or removes the
favorite as `isFavorite` says; the flag changes when the answer to that is handled, at the
end of the main queue. Any number of screens of any users are open, on any number of devices.

A device reads its own view of the store (`LocalStore`), so a query finds what the device has
written, whether or not the server has it yet. The server takes the writes of a device in their
order, and the devices in any order; queries that are the same are answered in the order of the
calls. A failure is printed or shown in an alert and changes nothing but that the write is dropped.

The flag is all that keeps a press from adding a favorite that is there already or on its
way. Duplicates come from presses that it misleads, and only from these
(`no_duplicate_favorites`, `duplicate_of_press`).
-/

namespace SuShareApp

/-- A detail screen with its heart. -/
structure HeartScreen where
  /-- The device. Signing out replaces all screens, and the next user has a queue of writes of his
  own : as far as the hearts go, that is another device. -/
  device : ℕ
  currentUser : AuthUser
  sushare : SuShare
  isFavorite : Bool
  /-- The heart is in the navigation bar. -/
  hasHeart : Bool
deriving DecidableEq, Repr

/-- A write of a device, with the screen whose handler waits for it. -/
inductive HeartWrite
  | addToFavorites (screen : ℕ) (user : AuthUser) (docRef : String) (sushare : SuShare)
  | delete (documentId : String)
deriving DecidableEq, Repr

/-- A query that is not answered yet. -/
inductive HeartQuery
  | isSuShareFavorite (screen : ℕ) (currentUser : AuthUser) (suShare : SuShare)
  | removeFromFavorite (screen : ℕ) (currentUser : AuthUser) (suShare : SuShare)
deriving DecidableEq, Repr

/-- What waits in the main queue of a device : the handler of an answer, or the assignment that
such a handler has put at the end of it. -/
inductive HeartBlock
  | isSuShareFavorite (screen : ℕ) (isFavoriteDB : Bool)
  | addToFavorites (screen : ℕ)
  | removeFromFavorite (screen : ℕ) (documentIds : List String)
  | setFavorite (screen : ℕ) (isFavorite : Bool)
deriving DecidableEq, Repr

namespace HeartWrite

def perform (db : Store) : HeartWrite → Store
  | .addToFavorites _ user docRef sushare => db.addToFavorites user docRef sushare
  | .delete documentId => db.deleteFavorite documentId

/-- The handler of the acknowledgement. `document.reference.delete()` has none. -/
def completion : HeartWrite → List HeartBlock
  | .addToFavorites i _ _ _ => [.addToFavorites i]
  | .delete _ => []

/-- The pair that the write adds a document for. -/
def adds? : HeartWrite → Option (String × String)
  | .addToFavorites _ user _ sushare => some (user.uid, sushare.suShareId)
  | .delete _ => none

end HeartWrite

namespace HeartQuery

/-- The filters of the query, in the order of the code. -/
def filters : HeartQuery → List (String × String)
  | .isSuShareFavorite _ user suShare =>
    [("suShareId", suShare.suShareId), ("userId", user.uid)]
  | .removeFromFavorite _ user suShare =>
    [("userId", user.uid), ("suShareId", suShare.suShareId)]

/-- The handler, with what the query finds. -/
def answer (view : Store) : HeartQuery → HeartBlock
  | .isSuShareFavorite i user suShare => .isSuShareFavorite i (view.isSuShareFavorite user suShare)
  | .removeFromFavorite i user suShare => .removeFromFavorite i (view.favoritesOf user suShare)

end HeartQuery

namespace HeartBlock

def screen : HeartBlock → ℕ
  | .isSuShareFavorite i _ | .addToFavorites i | .removeFromFavorite i _ | .setFavorite i _ => i

/-- The screen after the block. -/
def run (s : HeartScreen) : HeartBlock → HeartScreen
  | .isSuShareFavorite _ isFavoriteDB =>
    { s with
      isFavorite := isFavoriteDB
      -- the owner of the SuShare keeps the heart for a favorite only
      hasHeart := s.hasHeart && (isFavoriteDB || s.sushare.userId ≠ s.currentUser.uid) }
  | .setFavorite _ isFavorite => { s with isFavorite }
  | .addToFavorites _ | .removeFromFavorite _ _ => s

/-- What the block writes. -/
def writes : HeartBlock → List HeartWrite
  | .removeFromFavorite _ documentIds => documentIds.map .delete
  | _ => []

/-- What the block hands to `DispatchQueue.main.async`. That of a remove completes once for each
document. -/
def async : HeartBlock → List HeartBlock
  | .addToFavorites i => [.setFavorite i true]
  | .removeFromFavorite i documentIds => documentIds.map fun _ => .setFavorite i false
  | _ => []

end HeartBlock

/-- A device with its view of the store, its open queries in the order of the calls, and its main
queue. -/
structure HeartDevice where
  store : LocalStore Store HeartWrite
  queries : List HeartQuery
  main : List HeartBlock

namespace HeartDevice

def view (device : HeartDevice) : Store :=
  device.store.view HeartWrite.perform

def ask (device : HeartDevice) (q : HeartQuery) : HeartDevice :=
  { device with queries := device.queries ++ [q] }

def write (device : HeartDevice) (ws : List HeartWrite) : HeartDevice :=
  { device with store := device.store.write ws }

/-- No query that is the same was called earlier. -/
def Oldest (device : HeartDevice) (q : HeartQuery) : Prop :=
  (device.queries.find? fun q' => q'.filters = q.filters) = some q

instance (device : HeartDevice) (q : HeartQuery) : Decidable (device.Oldest q) :=
  inferInstanceAs (Decidable (_ = _))

def answer (device : HeartDevice) (q : HeartQuery) : HeartDevice :=
  { device with
    queries := device.queries.erase q
    main := device.main ++ [q.answer device.view] }

/-- The first block of the main queue, with the rest of the queue. -/
def run (device : HeartDevice) (block : HeartBlock) (rest : List HeartBlock) : HeartDevice :=
  { device with
    store := device.store.write block.writes
    main := rest ++ block.async }

end HeartDevice

/-- A press : the device writes, or asks for what there is to delete. -/
def HeartScreen.favoriteButtonPressed (screen : HeartScreen) (i : ℕ) (docRef : String)
    (device : HeartDevice) : HeartDevice :=
  if screen.isFavorite then device.ask (.removeFromFavorite i screen.currentUser screen.sushare)
  else device.write [.addToFavorites i screen.currentUser docRef screen.sushare]

/-- The pair of the user and the SuShare. -/
def HeartScreen.pair (screen : HeartScreen) : String × String :=
  (screen.currentUser.uid, screen.sushare.suShareId)

/-- The store, the detail screens, and the devices. -/
structure Hearts where
  db : Store
  screens : List HeartScreen
  devices : ℕ → HeartDevice
  /-- The ids that `document()` has drawn. -/
  drawn : List String

inductive HeartAction
  | viewDidLoad (device : ℕ) (currentUser : AuthUser) (sushare : SuShare)
  | favoriteButtonPressed (screen : ℕ) (docRef : String)
  /-- The server takes the oldest write of the device. -/
  | serve (device : ℕ)
  /-- The device hears that its write is done, -/
  | acknowledge (device : ℕ)
  /-- or that it is refused. -/
  | reject (device : ℕ)
  /-- The device receives the state of the server. -/
  | receive (device : ℕ)
  | answer (device : ℕ) (q : HeartQuery)
  | fail (device : ℕ) (q : HeartQuery)
  /-- The main queue of the device runs its first block. -/
  | main (device : ℕ)

namespace Hearts

/-- A new id : neither drawn before nor stored. -/
def IsNew (s : Hearts) (docRef : String) : Prop :=
  docRef ∉ s.drawn ∧ (s.db.favorites.get? docRef).isNone

instance (s : Hearts) (docRef : String) : Decidable (s.IsNew docRef) :=
  inferInstanceAs (Decidable (_ ∧ _))

def setDevice (s : Hearts) (d : ℕ) (device : HeartDevice) : Hearts :=
  { s with devices := Function.update s.devices d device }

def step (s : Hearts) : HeartAction → Option Hearts
  | .viewDidLoad d currentUser sushare =>
    some { s.setDevice d ((s.devices d).ask
        (.isSuShareFavorite s.screens.length currentUser sushare)) with
      screens := s.screens ++ [⟨d, currentUser, sushare, false, true⟩] }
  | .favoriteButtonPressed i docRef => s.screens[i]?.bind fun screen =>
    if screen.hasHeart ∧ s.IsNew docRef then
      some { s.setDevice screen.device
          (screen.favoriteButtonPressed i docRef (s.devices screen.device)) with
        drawn := docRef :: s.drawn }
    else none
  | .serve d => (s.devices d).store.serve.map fun (w, store) =>
    { s.setDevice d { s.devices d with store } with db := w.perform s.db }
  | .acknowledge d => (s.devices d).store.acknowledge.map fun (w, store) =>
    s.setDevice d { s.devices d with store, main := (s.devices d).main ++ w.completion }
  | .reject d => (s.devices d).store.reject.map fun (_, store) =>
    s.setDevice d { s.devices d with store }
  | .receive d =>
    some (s.setDevice d { s.devices d with store := (s.devices d).store.receive s.db })
  | .answer d q =>
    if (s.devices d).Oldest q then some (s.setDevice d ((s.devices d).answer q)) else none
  | .fail d q =>
    if (s.devices d).Oldest q then
      some (s.setDevice d { s.devices d with queries := (s.devices d).queries.erase q })
    else none
  | .main d => match (s.devices d).main with
    | [] => none
    | block :: rest => some { s.setDevice d ((s.devices d).run block rest) with
      screens := s.screens.modify block.screen block.run }

end Hearts

/-- The hearts over the given store, which all devices have received, before any detail screen is
opened. -/
def hearts (db : Store) : TransitionSystem Hearts HeartAction where
  init s := s = ⟨db, [], fun _ => ⟨.initial db, [], []⟩, []⟩
  step := Hearts.step

namespace Hearts

variable {db : Store} {as : List HeartAction} {s s' : Hearts} {a : HeartAction}

/-! ## What a step can do -/

/-- The nine kinds of step, with what each of them needs. -/
inductive Steps (s : Hearts) : HeartAction → Hearts → Prop
  | viewDidLoad {d : ℕ} {currentUser : AuthUser} {sushare : SuShare} :
    Steps s (.viewDidLoad d currentUser sushare)
      { s.setDevice d ((s.devices d).ask
          (.isSuShareFavorite s.screens.length currentUser sushare)) with
        screens := s.screens ++ [⟨d, currentUser, sushare, false, true⟩] }
  | favoriteButtonPressed {i : ℕ} {docRef : String} {screen : HeartScreen}
    (hi : s.screens[i]? = some screen) (hheart : screen.hasHeart) (hnew : s.IsNew docRef) :
    Steps s (.favoriteButtonPressed i docRef)
      { s.setDevice screen.device
          (screen.favoriteButtonPressed i docRef (s.devices screen.device)) with
        drawn := docRef :: s.drawn }
  | serve {d : ℕ} {w : HeartWrite} {store : LocalStore Store HeartWrite}
    (hw : (s.devices d).store.serve = some (w, store)) :
    Steps s (.serve d) { s.setDevice d { s.devices d with store } with db := w.perform s.db }
  | acknowledge {d : ℕ} {w : HeartWrite} {store : LocalStore Store HeartWrite}
    (hw : (s.devices d).store.acknowledge = some (w, store)) :
    Steps s (.acknowledge d) (s.setDevice d
      { s.devices d with store, main := (s.devices d).main ++ w.completion })
  | reject {d : ℕ} {w : HeartWrite} {store : LocalStore Store HeartWrite}
    (hw : (s.devices d).store.reject = some (w, store)) :
    Steps s (.reject d) (s.setDevice d { s.devices d with store })
  | receive {d : ℕ} :
    Steps s (.receive d)
      (s.setDevice d { s.devices d with store := (s.devices d).store.receive s.db })
  | answer {d : ℕ} {q : HeartQuery} (hq : (s.devices d).Oldest q) :
    Steps s (.answer d q) (s.setDevice d ((s.devices d).answer q))
  | fail {d : ℕ} {q : HeartQuery} (hq : (s.devices d).Oldest q) :
    Steps s (.fail d q)
      (s.setDevice d { s.devices d with queries := (s.devices d).queries.erase q })
  | main {d : ℕ} {block : HeartBlock} {rest : List HeartBlock}
    (hmain : (s.devices d).main = block :: rest) :
    Steps s (.main d) { s.setDevice d ((s.devices d).run block rest) with
      screens := s.screens.modify block.screen block.run }

theorem steps_of_step (h : s.step a = some s') : s.Steps a s' := by
  cases a with
  | viewDidLoad d currentUser sushare =>
    obtain rfl := Option.some.inj h
    exact .viewDidLoad
  | favoriteButtonPressed i docRef =>
    obtain ⟨screen, hi, h⟩ := Option.bind_eq_some_iff.mp h
    obtain ⟨⟨hheart, hnew⟩, h⟩ := Option.ite_none_right_eq_some.mp h
    obtain rfl := Option.some.inj h
    exact .favoriteButtonPressed hi hheart hnew
  | serve d =>
    obtain ⟨⟨w, store⟩, hw, rfl⟩ := Option.map_eq_some_iff.mp h
    exact .serve hw
  | acknowledge d =>
    obtain ⟨⟨w, store⟩, hw, rfl⟩ := Option.map_eq_some_iff.mp h
    exact .acknowledge hw
  | reject d =>
    obtain ⟨⟨w, store⟩, hw, rfl⟩ := Option.map_eq_some_iff.mp h
    exact .reject hw
  | receive d =>
    obtain rfl := Option.some.inj h
    exact .receive
  | answer d q =>
    obtain ⟨hq, h⟩ := Option.ite_none_right_eq_some.mp h
    obtain rfl := Option.some.inj h
    exact .answer hq
  | fail d q =>
    obtain ⟨hq, h⟩ := Option.ite_none_right_eq_some.mp h
    obtain rfl := Option.some.inj h
    exact .fail hq
  | main d =>
    cases hmain : (s.devices d).main with
    | nil => simp [step, hmain] at h
    | cons block rest =>
      simp only [step, hmain] at h
      obtain rfl := Option.some.inj h
      exact .main hmain

@[simp]
theorem devices_setDevice (d d' : ℕ) (device : HeartDevice) :
    (s.setDevice d device).devices d' = if d' = d then device else s.devices d' :=
  Function.update_apply ..

end Hearts

/-! ## One document for a pair -/

namespace Store

variable {db : Store} {user : AuthUser} {suShare : SuShare} {id docRef : String}

/-- No two documents are found for the same pair. -/
def Unrepeated (db : Store) : Prop :=
  ∀ p id id' doc doc', db.favorites.get? id = some doc → db.favorites.get? id' = some doc' →
    IsFavorite doc p → IsFavorite doc' p → id = id'

theorem Unrepeated.addToFavorites (h : db.Unrepeated)
    (hn : (user.uid, suShare.suShareId) ∉ db.favorited) :
    (db.addToFavorites user docRef suShare).Unrepeated := by
  intro p id id' doc doc' hd hd' hp hp'
  have hold : ∀ {k d}, db.favorites.get? k = some d → IsFavorite d p →
      IsFavorite (favoriteDocument user docRef suShare) p → False := by
    intro k d hk hdp hnew
    obtain rfl := isFavorite_favoriteDocument.mp hnew
    exact hn ⟨k, d, hk, hdp⟩
  rcases of_get?_addToFavorites hd with ⟨rfl, rfl⟩ | hd
  · rcases of_get?_addToFavorites hd' with ⟨rfl, -⟩ | hd'
    · rfl
    · exact (hold hd' hp' hp).elim
  · rcases of_get?_addToFavorites hd' with ⟨-, rfl⟩ | hd'
    · exact (hold hd hp hp').elim
    · exact h p id id' doc doc' hd hd' hp hp'

theorem Unrepeated.deleteFavorite (h : db.Unrepeated) : (db.deleteFavorite id).Unrepeated :=
  fun p k k' doc doc' hd hd' => h p k k' doc doc' (Collection.get?_of_get?_delete hd)
    (Collection.get?_of_get?_delete hd')

theorem favorited_deleteFavorite : (db.deleteFavorite id).favorited ⊆ db.favorited := by
  rintro p ⟨k, doc, hd, hp⟩
  exact ⟨k, doc, Collection.get?_of_get?_delete hd, hp⟩

theorem FavoritesWritten.deleteFavorite (h : db.FavoritesWritten) :
    (db.deleteFavorite id).FavoritesWritten :=
  fun k doc hd => h k doc (Collection.get?_of_get?_delete hd)

theorem nodup_favoritesOf : (db.favoritesOf user suShare).Nodup :=
  db.favorites.nodup_ids.sublist (List.filter_sublist.map _)

theorem Unrepeated.length_favoritesOf (h : db.Unrepeated) :
    (db.favoritesOf user suShare).length ≤ 1 := by
  have heq : ∀ id ∈ db.favoritesOf user suShare, ∀ id' ∈ db.favoritesOf user suShare,
      id = id' := by
    intro id hid id' hid'
    obtain ⟨doc, hd, hp⟩ := mem_favoritesOf.mp hid
    obtain ⟨doc', hd', hp'⟩ := mem_favoritesOf.mp hid'
    exact h _ id id' doc doc' hd hd' hp hp'
  match hl : db.favoritesOf user suShare with
  | [] | [_] => simp
  | id :: id' :: rest =>
    have hn : (id :: id' :: rest).Nodup := hl ▸ nodup_favoritesOf
    have he := heq id (by simp [hl]) id' (by simp [hl])
    simp [he] at hn

/-- Two documents are found for the pair. -/
theorem one_lt_length_favoritesOf {id' : String} (hid : id ∈ db.favoritesOf user suShare)
    (hid' : id' ∈ db.favoritesOf user suShare) (hne : id ≠ id') :
    1 < (db.favoritesOf user suShare).length := by
  match hl : db.favoritesOf user suShare with
  | [] => simp [hl] at hid
  | [k] =>
    rw [hl, List.mem_singleton] at hid hid'
    exact absurd (hid.trans hid'.symm) hne
  | _ :: _ :: _ => simp

/-- An add over a document that is found for the pair. -/
theorem one_lt_length_addToFavorites {doc : Dictionary} (hd : db.favorites.get? id = some doc)
    (hp : IsFavorite doc (user.uid, suShare.suShareId)) (hne : id ≠ docRef) :
    1 < ((db.addToFavorites user docRef suShare).favoritesOf user suShare).length := by
  refine one_lt_length_favoritesOf (mem_favoritesOf.mpr ⟨doc, ?_, hp⟩) (mem_favoritesOf.mpr
    ⟨_, Collection.get?_setData_self _ _ _, isFavorite_favoriteDocument.mpr rfl⟩) hne
  exact (Collection.get?_setData_of_ne _ hne _).trans hd

/-- The Favorites tab lists a SuShare once. -/
theorem Unrepeated.nodup_getAllFavorites (h : db.Unrepeated) (hw : db.FavoritesWritten)
    (now : Timestamp) (u : User) :
    ((db.getAllFavorites now u).map SuShare.suShareId).Nodup := by
  unfold getAllFavorites
  rw [List.map_map]
  refine List.pairwise_map.mpr ?_
  refine (db.favorites.sorted.filter _).imp_of_mem fun {e e'} he he' hlt heq => ?_
  obtain ⟨hd, hu⟩ := Collection.mem_query.mp he
  obtain ⟨hd', hu'⟩ := Collection.mem_query.mp he'
  refine hlt.ne (h (u.userId, (SuShare.init now e.2).suShareId) _ _ _ _ hd hd'
    ⟨by simpa using hu, hw.read_suShareId now hd⟩ ⟨by simpa using hu', ?_⟩)
  rw [hw.read_suShareId now hd', show (SuShare.init now e.2).suShareId = _ from heq]
  rfl

end Store

namespace Hearts

variable {db : Store} {users : Collection String Dictionary} {as : List HeartAction}
  {s s' : Hearts} {a : HeartAction} {d : ℕ} {device : HeartDevice}

/-- The writes of a device that the server has not taken. -/
def pending (s : Hearts) (d : ℕ) : List HeartWrite :=
  (s.devices d).store.pending

theorem pending_setDevice :
    (s.setDevice d device).pending = Function.update s.pending d device.store.pending := by
  funext d'
  by_cases hd : d' = d <;> simp [pending, hd]

/-- Most of what a device does issues no write. -/
theorem pending_setDevice_of_eq (h : device.store.pending = s.pending d) :
    (s.setDevice d device).pending = s.pending := by
  rw [pending_setDevice, h, Function.update_eq_self]

/-- A press on an empty heart comes when no favorite of the pair is stored or on its way. -/
def CleanPress (s : Hearts) : HeartAction → Prop
  | .favoriteButtonPressed i _ => ∀ screen ∈ s.screens[i]?, screen.isFavorite = false →
    s.db.isSuShareFavorite screen.currentUser screen.sushare = false ∧
      ∀ other ∈ s.screens, ∀ w ∈ s.pending other.device, w.adds? ≠ some screen.pair
  | _ => True

instance (s : Hearts) : DecidablePred (CleanPress s) := fun a => by
  unfold CleanPress
  split <;> infer_instance

/-- A pair has one document or one add on its way, on one of the devices. -/
structure Single (db : Store) (pending : ℕ → List HeartWrite) : Prop where
  unrepeated : db.Unrepeated
  written : db.FavoritesWritten
  absent : ∀ d, ∀ w ∈ pending d, ∀ p, w.adds? = some p → p ∉ db.favorited
  nodup : ∀ d, ((pending d).filterMap HeartWrite.adds?).Nodup
  apart : ∀ d d', ∀ w ∈ pending d, ∀ w' ∈ pending d', ∀ p, w.adds? = some p →
    w'.adds? = some p → d = d'

namespace Single

variable {pending : ℕ → List HeartWrite} {w : HeartWrite} {rest ws : List HeartWrite}

/-- A device has fewer writes on their way. -/
theorem sublist (h : Single db pending) (hsub : rest.Sublist (pending d)) :
    Single db (Function.update pending d rest) := by
  have hsub' : ∀ d', (Function.update pending d rest d').Sublist (pending d') := by
    intro d'
    by_cases hd : d' = d
    · subst hd
      simpa using hsub
    · simp [hd]
  exact ⟨h.unrepeated, h.written, fun d' w hw => h.absent d' w ((hsub' d').subset hw),
    fun d' => ((hsub' d').filterMap _).nodup (h.nodup d'), fun d₁ d₂ w hw w' hw' =>
      h.apart d₁ d₂ w ((hsub' d₁).subset hw) w' ((hsub' d₂).subset hw')⟩

/-- A device writes. What it adds nobody has added. -/
theorem issue (h : Single db pending) (hstored : ∀ w ∈ ws, ∀ p, w.adds? = some p →
      p ∉ db.favorited ∧ ∀ d', ∀ w' ∈ pending d', w'.adds? ≠ some p)
    (hnodup : (ws.filterMap HeartWrite.adds?).Nodup) :
    Single db (Function.update pending d (pending d ++ ws)) := by
  have hmem : ∀ {d' w}, w ∈ Function.update pending d (pending d ++ ws) d' →
      w ∈ pending d' ∨ d' = d ∧ w ∈ ws := by
    intro d' w hw
    by_cases hd : d' = d
    · subst hd
      rw [Function.update_self] at hw
      exact (List.mem_append.mp hw).imp_right fun hw => ⟨rfl, hw⟩
    · rw [Function.update_of_ne hd] at hw
      exact .inl hw
  refine ⟨h.unrepeated, h.written, fun d' w hw p hp => ?_, fun d' => ?_,
    fun d₁ d₂ w hw w' hw' p hp hp' => ?_⟩
  · rcases hmem hw with hw | ⟨-, hw⟩
    · exact h.absent d' w hw p hp
    · exact (hstored w hw p hp).1
  · by_cases hd : d' = d
    · subst hd
      rw [Function.update_self, List.filterMap_append]
      refine List.nodup_append.mpr ⟨h.nodup d', hnodup, fun p hp q hq => ?_⟩
      rintro rfl
      obtain ⟨w', hw', hp'⟩ := List.mem_filterMap.mp hp
      obtain ⟨w, hw, hq⟩ := List.mem_filterMap.mp hq
      exact (hstored w hw p hq).2 d' w' hw' hp'
    · rw [Function.update_of_ne hd]
      exact h.nodup d'
  · rcases hmem hw with hold | ⟨hd, hnew⟩ <;> rcases hmem hw' with hold' | ⟨hd', hnew'⟩
    · exact h.apart d₁ d₂ w hold w' hold' p hp hp'
    · exact absurd hp ((hstored w' hnew' p hp').2 d₁ w hold)
    · exact absurd hp' ((hstored w hnew p hp).2 d₂ w' hold')
    · exact hd.trans hd'.symm

/-- The server takes the oldest write of a device. -/
theorem serve (h : Single db pending) (hp : pending d = w :: rest) :
    Single (w.perform db) (Function.update pending d rest) := by
  have hw : w ∈ pending d := hp ▸ List.mem_cons_self
  have hrest := h.sublist (d := d) (hp ▸ List.sublist_cons_self w rest)
  cases w with
  | addToFavorites i user docRef suShare =>
    refine ⟨h.unrepeated.addToFavorites (h.absent d _ hw _ rfl), h.written.addToFavorites,
      fun d' w' hw' p hp' hmem => ?_, hrest.nodup, hrest.apart⟩
    rcases Store.favorited_addToFavorites_subset hmem with rfl | hmem
    · by_cases hd : d' = d
      · subst hd
        have hnodup := h.nodup d'
        rw [Function.update_self] at hw'
        rw [hp] at hnodup
        exact (List.nodup_cons.mp hnodup).1 (List.mem_filterMap.mpr ⟨w', hw', hp'⟩)
      · rw [Function.update_of_ne hd] at hw'
        exact hd (h.apart d' d w' hw' _ hw _ hp' rfl)
    · exact hrest.absent d' w' hw' p hp' hmem
  | delete id =>
    exact ⟨h.unrepeated.deleteFavorite, h.written.deleteFavorite, fun d' w' hw' p hp' hmem =>
      hrest.absent d' w' hw' p hp' (Store.favorited_deleteFavorite hmem), hrest.nodup, hrest.apart⟩

end Single

/-- A screen stays on its device. -/
theorem device_run (screen : HeartScreen) (block : HeartBlock) :
    (block.run screen).device = screen.device := by
  cases block <;> rfl

/-- A block deletes, and adds nothing. -/
theorem adds?_of_mem_writes {block : HeartBlock} {w : HeartWrite} (hw : w ∈ block.writes) :
    w.adds? = none := by
  cases block with
  | removeFromFavorite i ids =>
    obtain ⟨id, -, rfl⟩ := List.mem_map.mp hw
    rfl
  | _ => cases hw

/-- What a press writes. -/
theorem pending_favoriteButtonPressed (screen : HeartScreen) (i : ℕ) (docRef : String)
    (device : HeartDevice) : (screen.favoriteButtonPressed i docRef device).store.pending =
      device.store.pending ++ if screen.isFavorite then [] else
        [.addToFavorites i screen.currentUser docRef screen.sushare] := by
  unfold HeartScreen.favoriteButtonPressed
  split <;> simp [HeartDevice.ask, HeartDevice.write, LocalStore.write]

/-- What can be done to the store and to the writes on their way. -/
inductive Moves (s s' : Hearts) : HeartAction → Prop
  | press {i : ℕ} {docRef : String} {screen : HeartScreen} (hi : s.screens[i]? = some screen)
    (hnew : s.IsNew docRef) (hempty : screen.isFavorite = false) (hdb : s'.db = s.db)
    (hp : s'.pending = Function.update s.pending screen.device (s.pending screen.device ++
      [.addToFavorites i screen.currentUser docRef screen.sushare]))
    (hdrawn : s'.drawn = docRef :: s.drawn) :
    Moves s s' (.favoriteButtonPressed i docRef)
  | serve {d : ℕ} {w : HeartWrite} {rest : List HeartWrite} (hw : s.pending d = w :: rest)
    (hdb : s'.db = w.perform s.db) (hp : s'.pending = Function.update s.pending d rest)
    (hdrawn : s'.drawn = s.drawn) : Moves s s' (.serve d)
  | reject {d : ℕ} {w : HeartWrite} {rest : List HeartWrite} (hw : s.pending d = w :: rest)
    (hdb : s'.db = s.db) (hp : s'.pending = Function.update s.pending d rest)
    (hdrawn : s'.drawn = s.drawn) : Moves s s' (.reject d)
  | other {a : HeartAction} {d : ℕ} {ws : List HeartWrite} (hws : ∀ w ∈ ws, w.adds? = none)
    (hdb : s'.db = s.db) (hp : s'.pending = Function.update s.pending d (s.pending d ++ ws))
    (hdrawn : s.drawn ⊆ s'.drawn) : Moves s s' a

theorem moves_of_step (h : s.step a = some s') : Moves s s' a := by
  have nothing : ∀ {s' : Hearts} {a : HeartAction}, s'.db = s.db → s'.pending = s.pending →
      s.drawn ⊆ s'.drawn → Moves s s' a := fun hdb hp hdrawn =>
    .other (List.forall_mem_nil _) hdb (show _ = Function.update _ 0 _ by simp [hp]) hdrawn
  cases steps_of_step h with
  | viewDidLoad => exact nothing rfl (pending_setDevice_of_eq rfl) (List.Subset.refl _)
  | @favoriteButtonPressed i docRef screen hi hheart hnew =>
    cases hf : screen.isFavorite with
    | true =>
      refine nothing rfl (pending_setDevice_of_eq ?_) (List.subset_cons_self _ _)
      simp [pending_favoriteButtonPressed, hf, pending]
    | false =>
      refine .press hi hnew hf rfl (pending_setDevice.trans ?_) rfl
      simp [pending_favoriteButtonPressed, hf, pending]
  | serve hw =>
    obtain ⟨rest, hp, rfl⟩ := LocalStore.serve_eq_some.mp hw
    exact .serve hp rfl pending_setDevice rfl
  | acknowledge hw =>
    obtain ⟨served, -, rfl⟩ := LocalStore.acknowledge_eq_some.mp hw
    exact nothing rfl (pending_setDevice_of_eq rfl) (List.Subset.refl _)
  | reject hw =>
    obtain ⟨-, rest, hp, rfl⟩ := LocalStore.reject_eq_some.mp hw
    exact .reject hp rfl pending_setDevice rfl
  | receive | answer | fail =>
    exact nothing rfl (pending_setDevice_of_eq rfl) (List.Subset.refl _)
  | @main d block rest hmain =>
    exact .other (d := d) (fun w => adds?_of_mem_writes) rfl pending_setDevice
      (List.Subset.refl _)

/-- No screen is closed, and none moves to another device. -/
theorem exists_screen_of_step (h : s.step a = some s') {screen : HeartScreen}
    (hscreen : screen ∈ s.screens) : ∃ screen' ∈ s'.screens, screen'.device = screen.device := by
  cases steps_of_step h with
  | viewDidLoad => exact ⟨screen, List.mem_append_left _ hscreen, rfl⟩
  | @main d block rest hmain =>
    obtain ⟨i, hi⟩ := List.mem_iff_getElem?.mp hscreen
    have hi' : (s.screens.modify block.screen block.run)[i]? = _ := List.getElem?_modify ..
    rw [hi] at hi'
    refine ⟨_, List.mem_of_getElem? hi', ?_⟩
    split
    · exact device_run screen block
    · rfl
  | _ => exact ⟨screen, hscreen, rfl⟩

/-- What is on its way was written from a screen, under an id that was drawn. -/
theorem of_mem_pending (h : (hearts db).Run as s) {i : ℕ} {user : AuthUser}
    {docRef : String} {suShare : SuShare}
    (hw : .addToFavorites i user docRef suShare ∈ s.pending d) :
    (∃ screen ∈ s.screens, screen.device = d) ∧ docRef ∈ s.drawn := by
  revert d i user docRef suShare
  refine h.invariant (I := fun _ s => ∀ {d i user docRef suShare},
    .addToFavorites i user docRef suShare ∈ s.pending d →
      (∃ screen ∈ s.screens, screen.device = d) ∧ docRef ∈ s.drawn)
    (fun s h0 => ?_) fun _ s a s' _ ih hs d i user docRef suShare hw => ?_
  · rw [show s = _ from h0]
    simp [pending, LocalStore.initial]
  · -- what was there keeps its screen
    have keep : ∀ {d i user docRef suShare}, s.drawn ⊆ s'.drawn →
        .addToFavorites i user docRef suShare ∈ s.pending d →
          (∃ screen ∈ s'.screens, screen.device = d) ∧ docRef ∈ s'.drawn := by
      intro d i user docRef suShare hdrawn hw
      obtain ⟨⟨screen, hscreen, hd⟩, hid⟩ := ih hw
      obtain ⟨screen', hscreen', hd'⟩ := exists_screen_of_step (a := a) hs hscreen
      exact ⟨⟨screen', hscreen', hd'.trans hd⟩, hdrawn hid⟩
    cases moves_of_step hs with
    | @press j ref screen hi hnew hempty hdb hp hdrawn =>
      rw [hp, Function.update_apply] at hw
      split_ifs at hw with hd
      · rcases List.mem_append.mp hw with hw | hw
        · exact hd ▸ keep (hdrawn ▸ List.subset_cons_self _ _) hw
        · cases List.mem_singleton.mp hw
          obtain ⟨screen', hscreen', hd'⟩ :=
            exists_screen_of_step (a := .favoriteButtonPressed i _) hs (List.mem_of_getElem? hi)
          exact ⟨⟨screen', hscreen', hd'.trans hd.symm⟩, hdrawn ▸ List.mem_cons_self⟩
      · exact keep (hdrawn ▸ List.subset_cons_self _ _) hw
    | @serve d' w rest hw' hdb hp hdrawn | @reject d' w rest hw' hdb hp hdrawn =>
      have hold : .addToFavorites i user docRef suShare ∈ s.pending d := by
        rw [hp, Function.update_apply] at hw
        split_ifs at hw with hd
        · rw [hd, hw']
          exact List.mem_cons_of_mem _ hw
        · exact hw
      exact keep (fun _ hid => hdrawn ▸ hid) hold
    | @other _ d' ws hws hdb hp hdrawn =>
      have hold : .addToFavorites i user docRef suShare ∈ s.pending d := by
        rw [hp, Function.update_apply] at hw
        split_ifs at hw with hd
        · rcases List.mem_append.mp hw with hw | hw
          · exact hd ▸ hw
          · exact absurd (hws _ hw) nofun
        · exact hw
      exact keep hdrawn hold

/-- A press issues an add only where `CleanPress` allows it. -/
theorem Single.step (h : Single s.db s.pending) (hrun : (hearts db).Run as s)
    (hG : CleanPress s a) (hs : s.step a = some s') : Single s'.db s'.pending := by
  cases moves_of_step hs with
  | @press i docRef screen hi hnew hempty hdb hp hdrawn =>
    obtain ⟨hstored, hother⟩ := hG screen hi hempty
    rw [hdb, hp]
    refine h.issue ?_ (by simp [HeartWrite.adds?])
    intro w hw p hpair
    obtain rfl := List.mem_singleton.mp hw
    obtain rfl := Option.some.inj hpair
    refine ⟨fun hmem => ?_, fun d' w' hw' hadds => ?_⟩
    · rw [Store.isSuShareFavorite_iff.mpr hmem] at hstored
      cases hstored
    · cases w' with
      | addToFavorites j user ref suShare =>
        obtain ⟨⟨other, hscreen, rfl⟩, -⟩ := of_mem_pending hrun hw'
        exact hother other hscreen _ hw' hadds
      | delete id => cases hadds
  | serve hw hdb hp hdrawn =>
    rw [hdb, hp]
    exact h.serve hw
  | @reject d w rest hw hdb hp hdrawn =>
    rw [hdb, hp]
    exact h.sublist (hw ▸ List.sublist_cons_self w rest)
  | other hws hdb hp hdrawn =>
    rw [hdb, hp]
    have hnil := List.filterMap_eq_nil_iff.mpr hws
    refine h.issue (fun w hw p hpair => ?_) (by simp [hnil])
    rw [hws w hw] at hpair
    cases hpair

/-- If every press on an empty heart comes when no favorite is stored or on its way, no pair
ever has two documents, and the Favorites tab lists no SuShare twice. -/
theorem no_duplicate_favorites
    (h : (hearts (World.initial users).db).RunWhere CleanPress as s) :
    (∀ (user : AuthUser) (suShare : SuShare), (s.db.favoritesOf user suShare).length ≤ 1) ∧
    (∀ (now : Timestamp) (user : User),
      ((s.db.getAllFavorites now user).map SuShare.suShareId).Nodup) ∧
    ∀ (now : Timestamp) (user : AuthUser),
      ((s.db.getAllFavoritesCurrent now user).map SuShare.suShareId).Nodup := by
  have hsingle : Single s.db s.pending := by
    refine h.invariant (I := fun _ s => Single s.db s.pending) (fun s h0 => ?_)
      fun _ _ _ _ hr ih hG hs => ih.step hr.run hG hs
    rw [show s = _ from h0]
    constructor <;> simp [Store.Unrepeated, Store.FavoritesWritten, World.initial, pending,
      LocalStore.initial]
  refine ⟨fun user suShare => hsingle.unrepeated.length_favoritesOf, ?_, fun now user => ?_⟩
  · exact hsingle.unrepeated.nodup_getAllFavorites hsingle.written
  · exact hsingle.unrepeated.nodup_getAllFavorites hsingle.written now
      ⟨"", "", user.uid, "", "", ""⟩

/-! ## Writes that are served -/

/-- A device can hear of all that the server has taken. -/
theorem exists_exec_acknowledge (db : Store) (d : ℕ) : ∀ (served : List HeartWrite) {s : Hearts},
    (s.devices d).store.served = served → ∃ bs s', (hearts db).exec s bs = some s' ∧
      s'.db = s.db ∧ s'.pending = s.pending ∧ (s'.devices d).store.served = []
  | [], s, h => ⟨[], s, rfl, rfl, rfl, h⟩
  | w :: served, s, h => by
    obtain ⟨s₁, hs₁, hdb₁, hp₁, hsv₁⟩ : ∃ s₁, (hearts db).step s (.acknowledge d) = some s₁ ∧
        s₁.db = s.db ∧ s₁.pending = s.pending ∧ (s₁.devices d).store.served = served := by
      refine ⟨_, Option.map_eq_some_iff.mpr ⟨_, LocalStore.acknowledge_eq_some.mpr
        ⟨served, h, rfl⟩, rfl⟩, rfl, pending_setDevice_of_eq rfl, by simp⟩
    obtain ⟨bs, s', hexec, hdb, hp, hsv⟩ := exists_exec_acknowledge db d served hsv₁
    exact ⟨.acknowledge d :: bs, s', Option.bind_eq_some_iff.mpr ⟨s₁, hs₁, hexec⟩,
      hdb.trans hdb₁, hp.trans hp₁, hsv⟩

/-- The server can refuse the writes before one of them, and take that. -/
theorem exists_exec_serve (db : Store) (d : ℕ) {w : HeartWrite} {post : List HeartWrite} :
    ∀ (pre : List HeartWrite) {s : Hearts}, s.pending d = pre ++ w :: post →
      ∃ bs s', (hearts db).exec s bs = some s' ∧ s'.db = w.perform s.db ∧
        s'.pending = Function.update s.pending d post
  | [], s, h => by
    refine ⟨[.serve d], _, Option.bind_eq_some_iff.mpr ⟨_, Option.map_eq_some_iff.mpr
      ⟨_, LocalStore.serve_eq_some.mpr ⟨post, h, rfl⟩, rfl⟩, rfl⟩, rfl, pending_setDevice⟩
  | v :: pre, s, h => by
    obtain ⟨bs₁, s₁, hexec₁, hdb₁, hp₁, hsv₁⟩ := exists_exec_acknowledge db d _ (s := s) rfl
    obtain ⟨s₂, hs₂, hdb₂, hp₂⟩ : ∃ s₂, (hearts db).step s₁ (.reject d) = some s₂ ∧
        s₂.db = s₁.db ∧ s₂.pending = Function.update s₁.pending d (pre ++ w :: post) :=
      ⟨_, Option.map_eq_some_iff.mpr ⟨_, LocalStore.reject_eq_some.mpr
        ⟨hsv₁, _, (congrFun hp₁ d).trans h, rfl⟩, rfl⟩, rfl, pending_setDevice⟩
    obtain ⟨bs, s', hexec, hdb, hp⟩ := exists_exec_serve db d pre
      (show s₂.pending d = pre ++ w :: post by simp [hp₂])
    refine ⟨bs₁ ++ .reject d :: bs, s', ?_, ?_, ?_⟩
    · rw [TransitionSystem.exec_append, hexec₁]
      simp [TransitionSystem.exec, hs₂, hexec]
    · rw [hdb, hdb₂, hdb₁]
    · rw [hp, hp₂, hp₁, Function.update_idem]

/-- What a press on an empty heart writes. -/
theorem of_press {i : ℕ} {docRef : String} {screen : HeartScreen}
    (hi : s.screens[i]? = some screen) (hempty : screen.isFavorite = false)
    (hs : s.step (.favoriteButtonPressed i docRef) = some s') :
    s.IsNew docRef ∧ s'.db = s.db ∧ s'.pending = Function.update s.pending screen.device
      (s.pending screen.device ++
        [.addToFavorites i screen.currentUser docRef screen.sushare]) := by
  cases steps_of_step hs with
  | favoriteButtonPressed hi' hheart hnew =>
    obtain rfl := Option.some.inj (hi.symm.trans hi')
    refine ⟨hnew, rfl, pending_setDevice.trans ?_⟩
    simp [pending_favoriteButtonPressed, hempty, pending]

/-- After a press on an empty heart while a favorite is stored or on its way, the server can take
the adds on their way and refuse the other writes, and the pair has two documents. -/
theorem duplicate_of_press (h : (hearts db).Run as s) {i : ℕ} {docRef : String}
    (hs : (hearts db).step s (.favoriteButtonPressed i docRef) = some s')
    (hG : ¬CleanPress s (.favoriteButtonPressed i docRef)) :
    ∃ bs s'', (hearts db).exec s' bs = some s'' ∧ ∃ (user : AuthUser) (suShare : SuShare),
      1 < (s''.db.favoritesOf user suShare).length := by
  obtain ⟨screen, hi, hempty, hG⟩ : ∃ screen, s.screens[i]? = some screen ∧
      screen.isFavorite = false ∧
      (s.db.isSuShareFavorite screen.currentUser screen.sushare = true ∨
        ∃ other ∈ s.screens, ∃ w ∈ s.pending other.device, w.adds? = some screen.pair) := by
    simpa [CleanPress, -Bool.not_eq_false, or_iff_not_imp_left] using hG
  obtain ⟨hnew, hdb, hp⟩ := of_press hi hempty hs
  rcases hG with hstored | ⟨other, -, w, hw, hadds⟩
  · -- the favorite is stored
    obtain ⟨id, doc, hd, hpair⟩ := Store.isSuShareFavorite_iff.mp hstored
    have hne : id ≠ docRef := by
      rintro rfl
      simp [IsNew, hd] at hnew
    obtain ⟨bs, s'', hexec, hdb', -⟩ := exists_exec_serve db screen.device _
      (s := s') (by rw [hp, Function.update_self])
    refine ⟨bs, s'', hexec, screen.currentUser, screen.sushare, ?_⟩
    rw [hdb', hdb]
    exact Store.one_lt_length_addToFavorites hd hpair hne
  · -- the favorite is on its way
    cases w with
    | addToFavorites j user ref suShare =>
      have hne : ref ≠ docRef := by
        rintro rfl
        exact hnew.1 (of_mem_pending h hw).2
      obtain ⟨pre, post, hsplit⟩ := List.append_of_mem hw
      -- the new add comes after it, or is on another device
      obtain ⟨post', hp', hmem⟩ : ∃ post', s'.pending other.device =
          pre ++ .addToFavorites j user ref suShare :: post' ∧
          .addToFavorites i screen.currentUser docRef screen.sushare ∈
            Function.update s'.pending other.device post' screen.device := by
        by_cases hd : screen.device = other.device
        · exact ⟨post ++ [.addToFavorites i screen.currentUser docRef screen.sushare],
            by simp [hp, hd, hsplit], by simp [hd]⟩
        · exact ⟨post, by simp [hp, Ne.symm hd, hsplit], by simp [hp, hd]⟩
      obtain ⟨bs₁, s₁, hexec₁, hdb₁, hp₁⟩ := exists_exec_serve db other.device pre hp'
      rw [← hp₁] at hmem
      obtain ⟨pre₁, post₁, hsplit₁⟩ := List.append_of_mem hmem
      obtain ⟨bs₂, s₂, hexec₂, hdb₂, -⟩ := exists_exec_serve db screen.device pre₁ hsplit₁
      refine ⟨bs₁ ++ bs₂, s₂, ?_, screen.currentUser, screen.sushare, ?_⟩
      · rw [TransitionSystem.exec_append, hexec₁]
        exact hexec₂
      · rw [hdb₂, hdb₁]
        exact Store.one_lt_length_addToFavorites (Collection.get?_setData_self _ _ _)
          (Store.isFavorite_favoriteDocument.mpr (Option.some.inj hadds).symm) hne
    | delete id => cases hadds

/-- Bob opens Ann's SuShare, and the query finds no favorite. -/
def loading : List HeartAction :=
  [.viewDidLoad 0 Sample.bob Sample.roof, .answer 0 (.isSuShareFavorite 0 Sample.bob Sample.roof),
    .main 0]

/-- He adds it, removes it, and adds it again, with every answer handled in between. -/
def pressingInTurn : List HeartAction :=
  loading ++ [.favoriteButtonPressed 0 "f1", .serve 0, .acknowledge 0, .main 0, .main 0,
    .favoriteButtonPressed 0 "f2", .answer 0 (.removeFromFavorite 0 Sample.bob Sample.roof),
    .main 0, .serve 0, .acknowledge 0, .main 0, .favoriteButtonPressed 0 "f3", .serve 0]

/-- He presses the empty heart twice before the first add is answered. -/
def pressingTwice : List HeartAction :=
  loading ++ [.favoriteButtonPressed 0 "f1", .favoriteButtonPressed 0 "f2", .serve 0, .serve 0]

/-- The favorite is stored once. -/
theorem no_duplicate_favorites_pressingInTurn : ∃ s,
    (hearts (World.initial .empty).db).RunWhere CleanPress pressingInTurn s ∧
      s.db.isSuShareFavorite Sample.bob Sample.roof = true ∧
      (s.db.favoritesOf Sample.bob Sample.roof).length ≤ 1 := by
  obtain ⟨s, hrun, hstored⟩ := TransitionSystem.exists_run_of_exec
    (T := (hearts (World.initial .empty).db).guarded CleanPress) pressingInTurn
    (fun s => s.db.isSuShareFavorite Sample.bob Sample.roof = true) rfl (by decide +kernel)
  exact ⟨s, hrun.runWhere, hstored, (no_duplicate_favorites hrun.runWhere).1 _ _⟩

/-- The favorite is stored twice. -/
theorem duplicate_favorites : ¬ ∀ (users : Collection String Dictionary) (as : List HeartAction)
    (s : Hearts), (hearts (World.initial users).db).Run as s →
    ∀ (user : AuthUser) (suShare : SuShare), (s.db.favoritesOf user suShare).length ≤ 1 := by
  intro h
  obtain ⟨s, hrun, hlength⟩ := TransitionSystem.exists_run_of_exec
    (T := hearts (World.initial .empty).db) pressingTwice
    (fun s => (s.db.favoritesOf Sample.bob Sample.roof).length = 2) rfl (by decide +kernel)
  have hle := h .empty _ s hrun Sample.bob Sample.roof
  omega

end Hearts

end SuShareApp
