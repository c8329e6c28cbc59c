import SuShareApp.Hearts

/-!
# The heart and the store

One detail screen on its own : its query, its presses, and what the server does with them,
without failures. Whenever nothing is in flight, the heart should say whether the favorite
is stored.

The device finds its own writes in its view at once, and the server takes them in their order, so
the documents end up as the last presses left them. The flag follows the answers. An add sets it
when it is acknowledged, which takes a while ; a remove sets it when it has found what to
delete, which may come first. So a remove that is asked while an add waits to be acknowledged
deletes the document of that add, and is the first to set the flag (`heart_disagrees`) ; and
a remove that is still to be answered deletes the document of an add that is pressed meanwhile.

If no heart is pressed then (`InTurn`), the screen is at any time either filling its heart or
emptying it. While it is filling (`Filling`), a document of the pair is in the view, no block of
the main queue is going to delete it, and the flag is going to be set. While it is emptying
(`Emptying`), no add waits, and every document of the pair is about to be deleted, or a remove is
about to find it.
-/

namespace SuShareApp

/-- The query is one of `removeFromFavorite`. -/
def HeartQuery.isRemove : HeartQuery → Bool
  | .isSuShareFavorite _ _ _ => false
  | .removeFromFavorite _ _ _ => true

/-- A query of the only screen. -/
def HeartQuery.IsOf (screen : HeartScreen) : HeartQuery → Prop
  | .isSuShareFavorite i user suShare | .removeFromFavorite i user suShare =>
    i = 0 ∧ user = screen.currentUser ∧ suShare = screen.sushare

namespace HeartBlock

/-- The value that the block assigns to the flag. -/
def sets : HeartBlock → List Bool
  | .isSuShareFavorite _ b | .setFavorite _ b => [b]
  | .addToFavorites _ | .removeFromFavorite _ _ => []

/-- The values that it leaves to the end of the queue. -/
def later : HeartBlock → List Bool
  | .addToFavorites _ => [true]
  | .removeFromFavorite _ documentIds => documentIds.map fun _ => false
  | .isSuShareFavorite _ _ | .setFavorite _ _ => []

/-- The ids of the documents that the block deletes. -/
def ids : HeartBlock → List String
  | .removeFromFavorite _ documentIds => documentIds
  | _ => []

variable (block : HeartBlock)

theorem writes_eq : block.writes = block.ids.map .delete := by
  cases block <;> rfl

theorem sets_async : block.async.flatMap sets = block.later := by
  cases block with
  | removeFromFavorite i ids =>
    induction ids with
    | nil => rfl
    | cons _ _ ih => exact congrArg (false :: ·) ih
  | _ => rfl

theorem later_async : block.async.flatMap later = [] := by
  cases block <;> simp [async, later]

theorem ids_of_mem_async {b : HeartBlock} (hb : b ∈ block.async) : b.ids = [] := by
  cases block <;> simp [async] at hb
  · rw [hb]
    rfl
  · rw [hb.2]
    rfl

theorem screen_of_mem_async {b : HeartBlock} (hb : b ∈ block.async) :
    b.screen = block.screen := by
  cases block <;> simp [async] at hb
  · rw [hb]
    rfl
  · rw [hb.2]
    rfl

end HeartBlock

/-- The value of the flag once the main queue has run. -/
def HeartScreen.settled (screen : HeartScreen) (main : List HeartBlock) : Bool :=
  (main.flatMap HeartBlock.sets ++ main.flatMap HeartBlock.later).getLast?.getD screen.isFavorite

namespace Store

variable {db : Store} {user : AuthUser} {suShare : SuShare} {id k docRef : String}

/-- The query finds a favorite if a remove would. -/
theorem isSuShareFavorite_iff_exists :
    db.isSuShareFavorite user suShare = true ↔ ∃ id, id ∈ db.favoritesOf user suShare := by
  simp only [isSuShareFavorite_iff, mem_favoritesOf]
  exact Iff.rfl

theorem mem_favoritesOf_addToFavorites :
    id ∈ (db.addToFavorites user docRef suShare).favoritesOf user suShare ↔
      id = docRef ∨ id ∈ db.favoritesOf user suShare := by
  rw [mem_favoritesOf, mem_favoritesOf, addToFavorites, Collection.get?_setData]
  split_ifs with hid
  · subst hid
    exact iff_of_true ⟨_, rfl, isFavorite_favoriteDocument.mpr rfl⟩ (Or.inl rfl)
  · exact (or_iff_right hid).symm

theorem mem_favoritesOf_deleteFavorite :
    id ∈ (db.deleteFavorite k).favoritesOf user suShare ↔
      id ≠ k ∧ id ∈ db.favoritesOf user suShare := by
  rw [mem_favoritesOf, mem_favoritesOf, deleteFavorite, Collection.get?_delete]
  split_ifs with hid
  · simp [hid]
  · simp [hid]

theorem mem_favoritesOf_foldl_delete : ∀ (ids : List String) (db : Store),
    id ∈ ((ids.map .delete).foldl HeartWrite.perform db).favoritesOf user suShare ↔
      id ∉ ids ∧ id ∈ db.favoritesOf user suShare
  | [], db => by simp
  | k :: ids, db => by
    rw [List.map_cons, List.foldl_cons, mem_favoritesOf_foldl_delete ids,
      HeartWrite.perform, mem_favoritesOf_deleteFavorite, List.mem_cons, not_or]
    exact and_left_comm.trans and_assoc.symm

end Store

/-- A write sets one document, or takes it away. -/
theorem HeartWrite.exists_get?_perform (w : HeartWrite) : ∃ key doc, ∀ (db : Store) (id : String),
    (perform db w).favorites.get? id = if id = key then doc else db.favorites.get? id := by
  cases w with
  | addToFavorites i user docRef suShare =>
    exact ⟨docRef, _, fun db id => Collection.get?_setData ..⟩
  | delete key => exact ⟨key, none, fun db id => Collection.get?_delete ..⟩

/-- The favorites are overwritten document by document. -/
theorem HeartWrite.overwrites : LocalStore.Overwrites HeartWrite.perform := by
  have ext : ∀ {db db' : Store}, { db with favorites := db'.favorites } = db' →
      (∀ id, db.favorites.get? id = db'.favorites.get? id) → db = db' := by
    intro db db' heq hget
    rw [← heq, ← Collection.ext_get? hget]
  constructor
  · intro db w
    obtain ⟨key, doc, hget⟩ := w.exists_get?_perform
    refine ext (by cases w <;> rfl) fun id => ?_
    simp only [hget]
    split_ifs <;> rfl
  · intro db v w
    obtain ⟨key, doc, hget⟩ := w.exists_get?_perform
    obtain ⟨key', doc', hget'⟩ := v.exists_get?_perform
    refine ext (by cases v <;> cases w <;> rfl) fun id => ?_
    simp only [hget, hget']
    split_ifs <;> rfl

/-! ## Filling and emptying -/

/-- Nothing is in flight on the device. -/
def HeartDevice.Idle (device : HeartDevice) : Prop :=
  device.store.unacknowledged = [] ∧ device.queries = [] ∧ device.main = []

instance (device : HeartDevice) : Decidable device.Idle :=
  inferInstanceAs (Decidable (_ ∧ _ ∧ _))

/-- The view has a document of the pair that no block is going to delete. -/
def HeartScreen.Remains (screen : HeartScreen) (device : HeartDevice) : Prop :=
  ∃ id ∈ device.view.favoritesOf screen.currentUser screen.sushare, ∀ b ∈ device.main, id ∉ b.ids

/-- The heart is being filled : a document remains, and the flag is going to be set, when an add is
acknowledged or by the first query at the latest. -/
structure Filling (screen : HeartScreen) (device : HeartDevice) : Prop where
  queries : ∀ q ∈ device.queries, q.isRemove = false
  remains : screen.Remains device
  settled : screen.settled device.main = true ∨
    (∃ w ∈ device.store.unacknowledged, w.adds? ≠ none) ∨
      device.queries ≠ [] ∧ device.main.flatMap HeartBlock.later = []

/-- The heart is being emptied : no add waits, and what remains is going to be found by a
remove. -/
structure Emptying (screen : HeartScreen) (device : HeartDevice) : Prop where
  writes : ∀ w ∈ device.store.unacknowledged, w.adds? = none
  remains : screen.Remains device → ∃ q ∈ device.queries, q.isRemove = true
  settled : screen.settled device.main = true → screen.Remains device

variable {screen : HeartScreen} {device device' : HeartDevice} {block : HeartBlock}
  {rest : List HeartBlock} {q : HeartQuery}

/-- Running the main queue does not change what the flag will be. -/
theorem settled_run : (block.run screen).settled (rest ++ block.async) =
    screen.settled (block :: rest) := by
  have hnow : ∀ l : List Bool, (block.sets ++ l).getLast?.getD screen.isFavorite =
      l.getLast?.getD (block.run screen).isFavorite := by
    intro l
    cases block <;> simp [HeartBlock.sets, HeartBlock.run, List.getLast?_cons]
  simp only [HeartScreen.settled, List.flatMap_append, List.flatMap_cons,
    HeartBlock.sets_async, HeartBlock.later_async, List.append_nil, List.append_assoc]
  exact (hnow _).symm

/-- A handler that leaves an assignment to the end of the queue decides. -/
theorem settled_concat {v : Bool} (h : block.later.getLast? = some v) (main : List HeartBlock) :
    screen.settled (main ++ [block]) = v := by
  simp [HeartScreen.settled, List.flatMap_append, ← List.append_assoc, List.getLast?_append, h]

/-- The answer to the first query counts if no handler has left an assignment. -/
theorem settled_answer (i : ℕ) (v : Bool) (main : List HeartBlock) :
    screen.settled (main ++ [.isSuShareFavorite i v]) =
      if main.flatMap HeartBlock.later = [] then v else screen.settled main := by
  split_ifs with hlater
  · simp [HeartScreen.settled, hlater, HeartBlock.sets, HeartBlock.later]
  · obtain ⟨last, hlast⟩ := Option.ne_none_iff_exists'.mp (mt List.getLast?_eq_none_iff.mp hlater)
    simp [HeartScreen.settled, HeartBlock.sets, HeartBlock.later, List.getLast?_append,
      List.getLast?_cons, hlast]

/-- Other blocks change nothing. -/
theorem settled_concat_nil (hs : block.sets = []) (hl : block.later = [])
    (main : List HeartBlock) : screen.settled (main ++ [block]) = screen.settled main := by
  simp [HeartScreen.settled, hs, hl]

/-- A block deletes what it is going to delete, and the rest remains. -/
theorem remains_run (hmain : device.main = block :: rest) :
    (block.run screen).Remains (device.run block rest) ↔ screen.Remains device := by
  have hpair : (block.run screen).currentUser = screen.currentUser ∧
      (block.run screen).sushare = screen.sushare := by
    cases block <;> exact ⟨rfl, rfl⟩
  have hview : (device.run block rest).view =
      (block.ids.map .delete).foldl HeartWrite.perform device.view := by
    rw [← HeartBlock.writes_eq]
    exact LocalStore.view_write
  unfold HeartScreen.Remains
  rw [hpair.1, hpair.2, hview, hmain]
  refine exists_congr fun id => ?_
  rw [Store.mem_favoritesOf_foldl_delete, List.forall_mem_cons]
  have hasync : (∀ b ∈ (device.run block rest).main, id ∉ b.ids) ↔ ∀ b ∈ rest, id ∉ b.ids := by
    refine List.forall_mem_append.trans (and_iff_left fun b hb => ?_)
    simp [block.ids_of_mem_async hb]
  rw [hasync]
  tauto

/-- A block that deletes nothing lets everything remain. -/
theorem remains_append {blocks : List HeartBlock} (hview : device'.view = device.view)
    (hmain : device'.main = device.main ++ blocks) (hids : ∀ b ∈ blocks, b.ids = []) :
    screen.Remains device' ↔ screen.Remains device := by
  unfold HeartScreen.Remains
  rw [hview, hmain]
  refine exists_congr fun id => and_congr_right fun _ =>
    List.forall_mem_append.trans (and_iff_left fun b hb => ?_)
  simp [hids b hb]

/-- The first query deletes nothing. -/
theorem remains_answer (hq : q.isRemove = false) :
    screen.Remains (device.answer q) ↔ screen.Remains device := by
  refine remains_append rfl rfl fun b (hb : b ∈ [q.answer device.view]) => ?_
  rw [List.mem_singleton.mp hb]
  cases q with
  | isSuShareFavorite i user suShare => rfl
  | removeFromFavorite i user suShare => cases hq

theorem ids_of_mem_completion {w : HeartWrite} {b : HeartBlock} (hb : b ∈ w.completion) :
    b.ids = [] := by
  cases w with
  | addToFavorites i user docRef suShare =>
    rw [List.mem_singleton.mp hb]
    rfl
  | delete id => cases hb

theorem later_ne_nil_of_ids {id : String} (h : id ∈ block.ids) : block.later ≠ [] := by
  cases block with
  | removeFromFavorite i ids => exact fun he => List.ne_nil_of_mem h (List.map_eq_nil_iff.mp he)
  | _ => cases h

theorem remains_setStore {store : LocalStore Store HeartWrite}
    (hview : store.view HeartWrite.perform = device.view) :
    screen.Remains { device with store } ↔ screen.Remains device :=
  remains_append hview (List.append_nil _).symm (List.forall_mem_nil _)

namespace Filling

variable {store : LocalStore Store HeartWrite} {w : HeartWrite}

/-- The server takes a write, or the device receives its state. -/
theorem setStore (h : Filling screen device)
    (hview : store.view HeartWrite.perform = device.view)
    (hwrites : store.unacknowledged = device.store.unacknowledged) :
    Filling screen { device with store } := by
  refine ⟨h.queries, ?_, ?_⟩
  · exact (remains_setStore hview).mpr h.remains
  · change _ ∨ (∃ w ∈ store.unacknowledged, w.adds? ≠ none) ∨ _
    rw [hwrites]
    exact h.settled

theorem acknowledge (h : Filling screen device)
    (hw : device.store.acknowledge = some (w, store)) :
    Filling screen { device with store, main := device.main ++ w.completion } := by
  have hunack := LocalStore.unacknowledged_acknowledge hw
  refine ⟨h.queries, ?_, ?_⟩
  · exact (remains_append (LocalStore.view_acknowledge hw) rfl fun b => ids_of_mem_completion).mpr
      h.remains
  · cases w with
    | addToFavorites i user docRef suShare => exact .inl (settled_concat rfl device.main)
    | delete id =>
      simp only [HeartWrite.completion, List.append_nil]
      refine h.settled.imp_right (Or.imp_left ?_)
      rintro ⟨v, hv, hadds⟩
      rw [hunack] at hv
      refine ⟨v, (List.mem_cons.mp hv).resolve_left ?_, hadds⟩
      rintro rfl
      exact hadds rfl

/-- The first query finds the document that remains. -/
theorem answer (h : Filling screen device) (hq : q ∈ device.queries) (hof : q.IsOf screen) :
    Filling screen (device.answer q) := by
  cases q with
  | isSuShareFavorite i user suShare =>
    obtain ⟨rfl, rfl, rfl⟩ := hof
    have hfound : device.view.isSuShareFavorite screen.currentUser screen.sushare = true := by
      obtain ⟨id, hid, -⟩ := h.remains
      exact Store.isSuShareFavorite_iff_exists.mpr ⟨id, hid⟩
    refine ⟨fun q hq => h.queries q (List.mem_of_mem_erase hq), ?_, ?_⟩
    · exact (remains_answer rfl).mpr h.remains
    · simp only [HeartDevice.answer, HeartQuery.answer, settled_answer, hfound]
      split_ifs with hlater
      · exact .inl rfl
      · rcases h.settled with hset | hwaits | ⟨-, hnone⟩
        · exact .inl hset
        · exact .inr (.inl hwaits)
        · exact absurd hnone hlater
  | removeFromFavorite i user suShare =>
    exact absurd (h.queries _ hq) (by simp [HeartQuery.isRemove])

theorem run (h : Filling screen device) (hmain : device.main = block :: rest) :
    Filling (block.run screen) (device.run block rest) := by
  refine ⟨h.queries, (remains_run hmain).mpr h.remains, ?_⟩
  have hsettled := h.settled
  rw [hmain, ← settled_run] at hsettled
  refine hsettled.imp_right (Or.imp ?_ ?_)
  · rintro ⟨w, hw, hadds⟩
    refine ⟨w, ?_, hadds⟩
    rw [HeartDevice.run, LocalStore.unacknowledged_write]
    exact List.mem_append_left _ hw
  · rintro ⟨hne, hnone⟩
    refine ⟨hne, ?_⟩
    rw [List.flatMap_cons, List.append_eq_nil_iff] at hnone
    simp [HeartDevice.run, hnone.2, HeartBlock.later_async]

end Filling

namespace Emptying

variable {store : LocalStore Store HeartWrite} {w : HeartWrite}

theorem setStore (h : Emptying screen device)
    (hview : store.view HeartWrite.perform = device.view)
    (hwrites : store.unacknowledged = device.store.unacknowledged) :
    Emptying screen { device with store } :=
  ⟨hwrites ▸ h.writes, fun hr => h.remains ((remains_setStore hview).mp hr),
    fun hs => (remains_setStore hview).mpr (h.settled hs)⟩

/-- Only a delete waits to be acknowledged. -/
theorem acknowledge (h : Emptying screen device)
    (hw : device.store.acknowledge = some (w, store)) :
    Emptying screen { device with store, main := device.main ++ w.completion } := by
  have hunack := LocalStore.unacknowledged_acknowledge hw
  have hwrites := h.writes
  rw [hunack, List.forall_mem_cons] at hwrites
  cases w with
  | addToFavorites i user docRef suShare => cases hwrites.1
  | delete id =>
    simp only [HeartWrite.completion, List.append_nil]
    have hremains : screen.Remains { device with store } ↔ screen.Remains device :=
      remains_setStore (LocalStore.view_acknowledge hw)
    exact ⟨hwrites.2, fun hr => h.remains (hremains.mp hr),
      fun hs => hremains.mpr (h.settled hs)⟩

/-- The first query finds a document only if it remains, or a handler has left the last word to
the end of the queue. -/
theorem answer_isSuShareFavorite (h : Emptying screen device) :
    Emptying screen
      (device.answer (.isSuShareFavorite 0 screen.currentUser screen.sushare)) := by
  refine ⟨h.writes, fun hr => ?_, fun hs => (remains_answer rfl).mpr ?_⟩
  · obtain ⟨q, hq, hremove⟩ := h.remains ((remains_answer rfl).mp hr)
    refine ⟨q, (List.mem_erase_of_ne ?_).mpr hq, hremove⟩
    rintro rfl
    cases hremove
  · simp only [HeartDevice.answer, HeartQuery.answer, settled_answer] at hs
    split_ifs at hs with hlater
    · obtain ⟨id, hid⟩ := Store.isSuShareFavorite_iff_exists.mp hs
      refine ⟨id, hid, fun b hb hmem => ?_⟩
      exact later_ne_nil_of_ids hmem (List.flatMap_eq_nil_iff.mp hlater b hb)
    · exact h.settled hs

/-- A remove finds all that remains, and empties the heart if it finds anything. -/
theorem answer_removeFromFavorite (h : Emptying screen device) :
    Emptying screen
      (device.answer (.removeFromFavorite 0 screen.currentUser screen.sushare)) := by
  have hnone : ¬screen.Remains
      (device.answer (.removeFromFavorite 0 screen.currentUser screen.sushare)) := by
    rintro ⟨id, hid, hkept⟩
    exact hkept _ (List.mem_append_right _ (List.mem_singleton_self _)) hid
  refine ⟨h.writes, fun hr => absurd hr hnone, fun hs => ?_⟩
  simp only [HeartDevice.answer, HeartQuery.answer] at hs
  by_cases hfound : device.view.favoritesOf screen.currentUser screen.sushare = []
  · rw [hfound, settled_concat_nil rfl rfl] at hs
    obtain ⟨id, hid, -⟩ := h.settled hs
    rw [hfound] at hid
    cases hid
  · rw [settled_concat (v := false)] at hs
    · cases hs
    · simp [HeartBlock.later, List.getLast?_replicate, hfound]

theorem answer (h : Emptying screen device) (hof : q.IsOf screen) :
    Emptying screen (device.answer q) := by
  cases q with
  | isSuShareFavorite i user suShare =>
    obtain ⟨rfl, rfl, rfl⟩ := hof
    exact h.answer_isSuShareFavorite
  | removeFromFavorite i user suShare =>
    obtain ⟨rfl, rfl, rfl⟩ := hof
    exact h.answer_removeFromFavorite

theorem run (h : Emptying screen device) (hmain : device.main = block :: rest) :
    Emptying (block.run screen) (device.run block rest) := by
  refine ⟨?_, fun hr => h.remains ((remains_run hmain).mp hr), fun hs => ?_⟩
  · rw [HeartDevice.run, LocalStore.unacknowledged_write, List.forall_mem_append]
    exact ⟨h.writes, fun w => Hearts.adds?_of_mem_writes⟩
  · rw [HeartDevice.run, settled_run, ← hmain] at hs
    exact (remains_run hmain).mpr (h.settled hs)

end Emptying

/-! ## Presses -/

/-- The add of a press is in the view at once, and no block deletes it. -/
theorem filling_of_press (hempty : screen.isFavorite = false)
    (hqueries : ∀ q ∈ device.queries, q.isRemove = false) {i : ℕ} {docRef : String}
    (hnew : ∀ b ∈ device.main, docRef ∉ b.ids) :
    Filling screen (screen.favoriteButtonPressed i docRef device) := by
  have hpress : screen.favoriteButtonPressed i docRef device =
      device.write [.addToFavorites i screen.currentUser docRef screen.sushare] := by
    simp [HeartScreen.favoriteButtonPressed, hempty]
  rw [hpress]
  refine ⟨hqueries, ⟨docRef, ?_, hnew⟩, .inr (.inl
    ⟨.addToFavorites i screen.currentUser docRef screen.sushare, ?_, by simp [HeartWrite.adds?]⟩)⟩
  · rw [HeartDevice.view, HeartDevice.write, LocalStore.view_write]
    exact Store.mem_favoritesOf_addToFavorites.mpr (.inl rfl)
  · rw [HeartDevice.write, LocalStore.unacknowledged_write]
    exact List.mem_append_right _ (List.mem_singleton_self _)

/-- A remove is going to find what remains. -/
theorem emptying_of_press (h : Filling screen device ∨ Emptying screen device)
    (hfull : screen.isFavorite = true)
    (hwrites : ∀ w ∈ device.store.unacknowledged, w.adds? = none) {i : ℕ} {docRef : String} :
    Emptying screen (screen.favoriteButtonPressed i docRef device) := by
  have hpress : screen.favoriteButtonPressed i docRef device =
      device.ask (.removeFromFavorite i screen.currentUser screen.sushare) := by
    simp [HeartScreen.favoriteButtonPressed, hfull]
  rw [hpress]
  refine ⟨hwrites, fun _ => ⟨_, List.mem_append_right _ (List.mem_singleton_self _), rfl⟩,
    fun hs => ?_⟩
  rcases h with h | h
  · exact h.remains
  · exact h.settled hs

/-! ## The screen on its own -/

/-- What the only screen has on its device is its own, and all ids are known. -/
structure Own (known : String → Prop) (db : Store) (screen : HeartScreen)
    (device : HeartDevice) : Prop where
  tracks : device.store.Tracks HeartWrite.perform db
  writes : ∀ w ∈ device.store.unacknowledged, ∀ b ∈ w.completion, b.screen = 0
  queries : ∀ q ∈ device.queries, q.IsOf screen
  main : ∀ b ∈ device.main, b.screen = 0
  stored : ∀ id ∈ device.view.favorites.ids, known id
  found : ∀ b ∈ device.main, ∀ id ∈ b.ids, known id

/-- A write leaves the documents that there were, and its own. -/
theorem HeartWrite.mem_ids_perform {db : Store} {w : HeartWrite} {id : String}
    (h : id ∈ (w.perform db).favorites.ids) :
    id ∈ db.favorites.ids ∨ ∃ i user suShare, w = .addToFavorites i user id suShare := by
  obtain ⟨doc, hd⟩ := Collection.mem_ids.mp h
  cases w with
  | addToFavorites i user docRef suShare =>
    rcases Store.of_get?_addToFavorites hd with ⟨rfl, -⟩ | hd
    · exact .inr ⟨i, user, suShare, rfl⟩
    · exact .inl (Collection.mem_ids.mpr ⟨doc, hd⟩)
  | delete k => exact .inl (Collection.mem_ids.mpr ⟨doc, Collection.get?_of_get?_delete hd⟩)

namespace Own

variable {known known' : String → Prop} {db : Store} {store : LocalStore Store HeartWrite}
  {w : HeartWrite}

theorem mono (h : Own known db screen device) (hknown : ∀ id, known id → known' id) :
    Own known' db screen device :=
  ⟨h.tracks, h.writes, h.queries, h.main, fun id hid => hknown id (h.stored id hid),
    fun b hb id hid => hknown id (h.found b hb id hid)⟩

theorem serve (h : Own known db screen device) (hw : device.store.serve = some (w, store)) :
    Own known (w.perform db) screen { device with store } where
  tracks := h.tracks.serve hw
  writes := by
    change ∀ w ∈ store.unacknowledged, _
    rw [LocalStore.unacknowledged_serve hw]
    exact h.writes
  queries := h.queries
  main := h.main
  stored := by
    change ∀ id ∈ (store.view HeartWrite.perform).favorites.ids, known id
    rw [LocalStore.view_serve hw]
    exact h.stored
  found := h.found

theorem acknowledge (h : Own known db screen device)
    (hw : device.store.acknowledge = some (w, store)) :
    Own known db screen { device with store, main := device.main ++ w.completion } := by
  have hwrites := h.writes
  rw [LocalStore.unacknowledged_acknowledge hw, List.forall_mem_cons] at hwrites
  refine ⟨h.tracks.acknowledge hw, hwrites.2, h.queries,
    List.forall_mem_append.mpr ⟨h.main, hwrites.1⟩, ?_,
    List.forall_mem_append.mpr ⟨h.found, fun b hb id hid => ?_⟩⟩
  · change ∀ id ∈ (store.view HeartWrite.perform).favorites.ids, known id
    rw [LocalStore.view_acknowledge hw]
    exact h.stored
  · rw [ids_of_mem_completion hb] at hid
    cases hid

/-- The state of the server is no news. -/
theorem view_receive (h : Own known db screen device) :
    (device.store.receive db).view HeartWrite.perform = device.view := by
  rw [(h.tracks.receive HeartWrite.overwrites).view, HeartDevice.view, h.tracks.view]
  rfl

theorem receive (h : Own known db screen device) :
    Own known db screen { device with store := device.store.receive db } where
  tracks := h.tracks.receive HeartWrite.overwrites
  writes := h.writes
  queries := h.queries
  main := h.main
  stored := by
    change ∀ id ∈ ((device.store.receive db).view HeartWrite.perform).favorites.ids, known id
    rw [h.view_receive]
    exact h.stored
  found := h.found

theorem answer (h : Own known db screen device) (hq : q ∈ device.queries) :
    Own known db screen (device.answer q) := by
  have hof := h.queries q hq
  refine ⟨h.tracks, h.writes, fun q hq => h.queries q (List.mem_of_mem_erase hq),
    List.forall_mem_append.mpr ⟨h.main, List.forall_mem_singleton.mpr ?_⟩, h.stored,
    List.forall_mem_append.mpr ⟨h.found, List.forall_mem_singleton.mpr ?_⟩⟩
  · cases q <;> exact hof.1
  · cases q with
    | isSuShareFavorite i user suShare => nofun
    | removeFromFavorite i user suShare =>
      intro id hid
      obtain ⟨doc, hd, -⟩ := Store.mem_favoritesOf.mp hid
      exact h.stored id (Collection.mem_ids.mpr ⟨doc, hd⟩)

theorem run (h : Own known db screen device) (hmain : device.main = block :: rest) :
    Own known db (block.run screen) (device.run block rest) := by
  have hscreen := h.main
  have hfound := h.found
  rw [hmain, List.forall_mem_cons] at hscreen hfound
  refine ⟨h.tracks.write, ?_, fun q hq => ?_, ?_, ?_, ?_⟩
  · rw [HeartDevice.run, LocalStore.unacknowledged_write, List.forall_mem_append]
    refine ⟨h.writes, fun w hw b hb => ?_⟩
    rw [block.writes_eq] at hw
    obtain ⟨id, -, rfl⟩ := List.mem_map.mp hw
    cases hb
  · have hof := h.queries q hq
    cases q <;> cases block <;> exact hof
  · exact List.forall_mem_append.mpr ⟨hscreen.2, fun b hb =>
      (block.screen_of_mem_async hb).trans hscreen.1⟩
  · rw [HeartDevice.run, HeartDevice.view, LocalStore.view_write]
    refine List.foldlRecOn (motive := fun db : Store => ∀ id ∈ db.favorites.ids, known id) _ _
      h.stored fun db hdb w hw id hid => ?_
    rcases HeartWrite.mem_ids_perform hid with hid | ⟨i, user, suShare, rfl⟩
    · exact hdb id hid
    · exact absurd (Hearts.adds?_of_mem_writes hw) nofun
  · refine List.forall_mem_append.mpr ⟨hfound.2, fun b hb id hid => ?_⟩
    rw [block.ids_of_mem_async hb] at hid
    cases hid

/-- A press draws an id for the document that it may write. -/
theorem press (h : Own known db screen device) {docRef : String} (hid : known docRef) :
    Own known db screen (screen.favoriteButtonPressed 0 docRef device) := by
  unfold HeartScreen.favoriteButtonPressed
  split
  · exact ⟨h.tracks, h.writes, List.forall_mem_append.mpr ⟨h.queries,
      List.forall_mem_singleton.mpr ⟨rfl, rfl, rfl⟩⟩, h.main, h.stored, h.found⟩
  · refine ⟨h.tracks.write, ?_, h.queries, h.main, fun id hid' => ?_, h.found⟩
    · rw [HeartDevice.write, LocalStore.unacknowledged_write, List.forall_mem_append]
      exact ⟨h.writes, by simp [HeartWrite.completion, HeartBlock.screen]⟩
    · rw [HeartDevice.view, HeartDevice.write, LocalStore.view_write, List.foldl_cons,
        List.foldl_nil] at hid'
      rcases HeartWrite.mem_ids_perform hid' with hold | ⟨i, user, suShare, he⟩
      · exact h.stored id hold
      · cases he
        exact hid

end Own

namespace Hearts

/-- Nothing is in flight. -/
def Quiet (s : Hearts) : Prop :=
  ∀ screen ∈ s.screens, (s.devices screen.device).Idle

instance (s : Hearts) : Decidable s.Quiet :=
  inferInstanceAs (Decidable (∀ _ ∈ _, _))

/-- One detail screen over the store, nothing fails, and an id that the store had at the
start is not drawn again. -/
def Alone (db₀ : Store) (s : Hearts) : HeartAction → Prop
  | .viewDidLoad _ _ _ => s.screens = []
  | .favoriteButtonPressed _ docRef => docRef ∉ db₀.favorites.ids
  | .reject _ | .fail _ _ => False
  | _ => True

/-- A full heart is pressed when no add of the device waits to be acknowledged, and an empty one
when no remove is still to be answered. -/
def InTurn (s : Hearts) : HeartAction → Prop
  | .favoriteButtonPressed i _ => ∀ screen ∈ s.screens[i]?,
    if screen.isFavorite then
      ∀ w ∈ (s.devices screen.device).store.unacknowledged, w.adds? = none
    else ∀ q ∈ (s.devices screen.device).queries, q.isRemove = false
  | _ => True

instance (db₀ : Store) (s : Hearts) : DecidablePred (Alone db₀ s)
  | .viewDidLoad _ _ _ => inferInstanceAs (Decidable (s.screens = []))
  | .favoriteButtonPressed _ docRef => inferInstanceAs (Decidable (docRef ∉ db₀.favorites.ids))
  | .reject _ | .fail _ _ => inferInstanceAs (Decidable False)
  | .serve _ | .acknowledge _ | .receive _ | .answer _ _ | .main _ =>
    inferInstanceAs (Decidable True)

instance (s : Hearts) : DecidablePred (InTurn s)
  | .favoriteButtonPressed i _ => inferInstanceAs (Decidable (∀ screen ∈ s.screens[i]?,
      if screen.isFavorite then
        ∀ w ∈ (s.devices screen.device).store.unacknowledged, w.adds? = none
      else ∀ q ∈ (s.devices screen.device).queries, q.isRemove = false))
  | .viewDidLoad _ _ _ | .serve _ | .acknowledge _ | .reject _ | .receive _ | .answer _ _
  | .fail _ _ | .main _ => inferInstanceAs (Decidable True)

/-- The ids that may be in use : those drawn and those of the store at the start. -/
def Known (db₀ : Store) (s : Hearts) (id : String) : Prop :=
  id ∈ s.drawn ∨ id ∈ db₀.favorites.ids

/-- The device of the only screen. -/
structure Solo (db₀ : Store) (screen : HeartScreen) (s : Hearts) : Prop where
  screens : s.screens = [screen]
  others : ∀ d ≠ screen.device, (s.devices d).Idle
  own : Own (s.Known db₀) s.db screen (s.devices screen.device)
  turn : Filling screen (s.devices screen.device) ∨ Emptying screen (s.devices screen.device)

/-- Before the screen is loaded nothing is in flight, and from then on its heart is being filled
or emptied. -/
def Sole (db₀ : Store) (s : Hearts) : Prop :=
  s.screens = [] ∧ s.db = db₀ ∧ (∀ d, s.devices d = ⟨.initial db₀, [], []⟩) ∨
    ∃ screen, Solo db₀ screen s

variable {db₀ : Store} {s s' : Hearts} {a : HeartAction}

/-- The query of the new screen tells whether its heart is being filled. -/
theorem solo_of_load {d : ℕ} {user : AuthUser} {suShare : SuShare} (hdb : s.db = db₀)
    (hdevices : ∀ d, s.devices d = ⟨.initial db₀, [], []⟩) :
    Solo db₀ ⟨d, user, suShare, false, true⟩
      { s.setDevice d ((s.devices d).ask (.isSuShareFavorite 0 user suShare)) with
        screens := [⟨d, user, suShare, false, true⟩] } := by
  have hdevice : (s.setDevice d ((s.devices d).ask (.isSuShareFavorite 0 user suShare))).devices d =
      ⟨.initial db₀, [.isSuShareFavorite 0 user suShare], []⟩ := by
    simp [hdevices, HeartDevice.ask]
  refine ⟨rfl, fun d' hd => ?_, ?_, ?_⟩
  · have hne : d' ≠ d := hd
    simp [hne, hdevices, HeartDevice.Idle, LocalStore.unacknowledged, LocalStore.initial]
  · dsimp only
    rw [hdevice]
    refine ⟨hdb ▸ LocalStore.Tracks.initial, List.forall_mem_nil _, ?_, List.forall_mem_nil _,
      fun id hid => .inr hid, List.forall_mem_nil _⟩
    exact List.forall_mem_singleton.mpr ⟨rfl, rfl, rfl⟩
  · dsimp only
    rw [hdevice]
    cases hfound : db₀.isSuShareFavorite user suShare with
    | true =>
      obtain ⟨id, hid⟩ := Store.isSuShareFavorite_iff_exists.mp hfound
      exact .inl ⟨List.forall_mem_singleton.mpr rfl, ⟨id, hid, List.forall_mem_nil _⟩,
        .inr (.inr ⟨List.cons_ne_nil _ _, rfl⟩)⟩
    | false =>
      refine .inr ⟨List.forall_mem_nil _, ?_, fun hs => absurd hs Bool.false_ne_true⟩
      rintro ⟨id, hid, -⟩
      have hne := Store.isSuShareFavorite_iff_exists.mpr ⟨id, hid⟩
      exact absurd (hne.symm.trans hfound) (by simp)

namespace Solo

variable {screen screen' : HeartScreen} {device : HeartDevice} {d : ℕ}

/-- A step of the device. -/
theorem of_setDevice (h : Solo db₀ screen s) (hd : screen'.device = screen.device)
    (hdevices : s'.devices = Function.update s.devices screen.device device)
    (hscreens : s'.screens = [screen']) (hown : Own (s'.Known db₀) s'.db screen' device)
    (hturn : Filling screen' device ∨ Emptying screen' device) : Solo db₀ screen' s' := by
  have hdevice : s'.devices screen'.device = device := by
    rw [hdevices, hd, Function.update_self]
  refine ⟨hscreens, fun d' hne => ?_, ?_, ?_⟩
  · rw [hdevices, Function.update_of_ne (hd ▸ hne)]
    exact h.others d' (hd ▸ hne)
  · rwa [hdevice]
  · rwa [hdevice]

/-- No other device has anything to do. -/
theorem device_eq (h : Solo db₀ screen s) (hbusy : ¬(s.devices d).Idle) : d = screen.device := by
  by_contra hne
  exact hbusy (h.others d hne)

/-- Another device receives what the server has. -/
theorem receive_other (h : Solo db₀ screen s) (hne : d ≠ screen.device) : Solo db₀ screen
    (s.setDevice d { s.devices d with store := (s.devices d).store.receive s.db }) := by
  have hdevice : (s.setDevice d { s.devices d with
      store := (s.devices d).store.receive s.db }).devices screen.device =
        s.devices screen.device := by
    simp [Ne.symm hne]
  refine ⟨h.screens, fun d' hd' => ?_, ?_, ?_⟩
  · rw [devices_setDevice]
    split_ifs with he
    · exact he ▸ h.others d' hd'
    · exact h.others d' hd'
  · rw [hdevice]
    exact h.own
  · rw [hdevice]
    exact h.turn

theorem press (h : Solo db₀ screen s) {i : ℕ} {docRef : String} {sc : HeartScreen}
    (hi : s.screens[i]? = some sc) (hnew : s.IsNew docRef) (hG : docRef ∉ db₀.favorites.ids)
    (hturn : InTurn s (.favoriteButtonPressed i docRef)) : Solo db₀ screen
      { s.setDevice sc.device (sc.favoriteButtonPressed i docRef (s.devices sc.device)) with
        drawn := docRef :: s.drawn } := by
  have hturn := hturn sc hi
  rw [h.screens, List.getElem?_singleton] at hi
  obtain ⟨rfl, hi⟩ := Option.ite_none_right_eq_some.mp hi
  obtain rfl := Option.some.inj hi
  have hfresh : ∀ b ∈ (s.devices screen.device).main, docRef ∉ b.ids := by
    intro b hb hid
    rcases h.own.found b hb docRef hid with hdrawn | hstored
    · exact hnew.1 hdrawn
    · exact hG hstored
  refine h.of_setDevice rfl rfl h.screens ?_ ?_
  · exact (h.own.mono fun id hid => hid.imp_left (List.mem_cons_of_mem _)).press
      (.inl List.mem_cons_self)
  · cases hf : screen.isFavorite with
    | true =>
      rw [if_pos hf] at hturn
      exact .inr (emptying_of_press h.turn hf hturn)
    | false =>
      rw [if_neg (by simp [hf])] at hturn
      exact .inl (filling_of_press hf hturn hfresh)

theorem step (h : Solo db₀ screen s) (hA : Alone db₀ s a) (hG : InTurn s a)
    (hs : s.step a = some s') : ∃ screen', Solo db₀ screen' s' := by
  cases steps_of_step hs with
  | viewDidLoad =>
    have hnil : s.screens = [] := hA
    simp [h.screens] at hnil
  | favoriteButtonPressed hi hheart hnew => exact ⟨screen, h.press hi hnew hA hG⟩
  | @serve d w store hw =>
    obtain rfl : d = screen.device := h.device_eq fun hidle => by
      obtain ⟨pending, hp, -⟩ := LocalStore.serve_eq_some.mp hw
      simpa [LocalStore.unacknowledged, hp] using hidle.1
    have hview : store.view HeartWrite.perform = (s.devices screen.device).view :=
      LocalStore.view_serve hw
    have hwrites := LocalStore.unacknowledged_serve hw
    exact ⟨screen, h.of_setDevice rfl rfl h.screens (h.own.serve hw)
      (h.turn.imp (fun h => h.setStore hview hwrites) fun h => h.setStore hview hwrites)⟩
  | @acknowledge d w store hw =>
    obtain rfl : d = screen.device := h.device_eq fun hidle => by
      simpa [LocalStore.unacknowledged_acknowledge hw] using hidle.1
    exact ⟨screen, h.of_setDevice rfl rfl h.screens (h.own.acknowledge hw)
      (h.turn.imp (fun h => h.acknowledge hw) fun h => h.acknowledge hw)⟩
  | reject | fail => exact hA.elim
  | @receive d =>
    by_cases hd : d = screen.device
    · subst hd
      have hview := h.own.view_receive
      exact ⟨screen, h.of_setDevice rfl rfl h.screens h.own.receive
        (h.turn.imp (fun h => h.setStore hview rfl) fun h => h.setStore hview rfl)⟩
    · exact ⟨screen, h.receive_other hd⟩
  | @answer d q hq =>
    have hq : q ∈ (s.devices d).queries := List.mem_of_find?_eq_some hq
    obtain rfl : d = screen.device := h.device_eq fun hidle => by
      simp [hidle.2.1] at hq
    have hof := h.own.queries q hq
    exact ⟨screen, h.of_setDevice rfl rfl h.screens (h.own.answer hq)
      (h.turn.imp (fun h => h.answer hq hof) fun h => h.answer hof)⟩
  | @main d block rest hmain =>
    obtain rfl : d = screen.device := h.device_eq fun hidle => by
      simp [hidle.2.2] at hmain
    have hscreen : block.screen = 0 := h.own.main block (hmain ▸ List.mem_cons_self)
    refine ⟨block.run screen, h.of_setDevice (device_run screen block) rfl ?_ (h.own.run hmain)
      (h.turn.imp (fun h => h.run hmain) fun h => h.run hmain)⟩
    simp [h.screens, hscreen]

end Solo

theorem sole_step (h : Sole db₀ s) (hA : Alone db₀ s a) (hG : InTurn s a)
    (hs : s.step a = some s') : Sole db₀ s' := by
  rcases h with ⟨hscreens, hdb, hdevices⟩ | ⟨screen, h⟩
  · cases steps_of_step hs with
    | viewDidLoad =>
      rw [hscreens]
      exact .inr ⟨_, solo_of_load hdb hdevices⟩
    | favoriteButtonPressed hi => simp [hscreens] at hi
    | serve hw | acknowledge hw | reject hw =>
      rw [hdevices] at hw
      cases hw
    | @receive d =>
      refine .inl ⟨hscreens, hdb, fun d' => ?_⟩
      rw [devices_setDevice, hdevices, hdevices, hdb]
      split_ifs <;> rfl
    | answer hq | fail hq =>
      rw [HeartDevice.Oldest, hdevices] at hq
      cases hq
    | main hmain =>
      rw [hdevices] at hmain
      cases hmain
  · exact .inr (h.step hA hG hs)

/-- If a full heart is pressed when no add waits to be acknowledged, and an empty one when no remove
is still to be answered, then the flag is that of the store whenever nothing is in flight. -/
theorem isFavorite_iff_stored {as : List HeartAction}
    (h : (hearts db₀).RunWhere (fun s a => Alone db₀ s a ∧ InTurn s a) as s) {i : ℕ}
    {screen : HeartScreen} (hi : s.screens[i]? = some screen) (hquiet : s.Quiet) :
    screen.isFavorite = true ↔ screen.pair ∈ s.db.favorited := by
  have hsole : Sole db₀ s := h.invariant (I := fun _ s => Sole db₀ s)
    (fun s h0 => by rw [show s = _ from h0]; exact .inl ⟨rfl, rfl, fun _ => rfl⟩)
    fun _ _ _ _ _ ih hG hs => sole_step ih hG.1 hG.2 hs
  rcases hsole with ⟨hscreens, -⟩ | ⟨sc, h⟩
  · simp [hscreens] at hi
  rw [h.screens, List.getElem?_singleton] at hi
  obtain ⟨-, hi⟩ := Option.ite_none_right_eq_some.mp hi
  obtain rfl := Option.some.inj hi
  obtain ⟨hwrites, hqueries, hmain⟩ := hquiet sc (by simp [h.screens])
  have hsettled : sc.settled (s.devices sc.device).main = sc.isFavorite := by
    simp [HeartScreen.settled, hmain]
  -- with nothing pending the view is the store
  have hview : (s.devices sc.device).view = s.db := by
    have hpending := (List.append_eq_nil_iff.mp hwrites).2
    rw [HeartDevice.view, h.own.tracks.view, hpending]
    rfl
  have hremains : sc.Remains (s.devices sc.device) ↔ sc.pair ∈ s.db.favorited := by
    refine Iff.trans ?_
      (Store.isSuShareFavorite_iff_exists.symm.trans Store.isSuShareFavorite_iff)
    simp [HeartScreen.Remains, hview, hmain]
  rw [← hremains, ← hsettled]
  rcases h.turn with h | h
  · refine iff_of_true ?_ h.remains
    simpa [hwrites, hqueries] using h.settled
  · refine ⟨h.settled, fun hr => ?_⟩
    simpa [hqueries] using h.remains hr

/-- Bob opens Ann's SuShare, presses the heart when the query is answered, and presses it again
when the add is acknowledged, and when the remove is answered. -/
def pressingWhenSettled : List HeartAction :=
  loading ++ [.favoriteButtonPressed 0 "f1", .serve 0, .acknowledge 0, .main 0, .main 0,
    .favoriteButtonPressed 0 "f2", .answer 0 (.removeFromFavorite 0 Sample.bob Sample.roof),
    .main 0, .main 0, .favoriteButtonPressed 0 "f3", .serve 0, .serve 0, .receive 0,
    .acknowledge 0, .acknowledge 0, .main 0, .main 0]

/-- He presses the empty heart twice, and the full one when the first add is acknowledged. The
remove finds both documents. The second add is acknowledged later. -/
def pressingThrice : List HeartAction :=
  loading ++ [.favoriteButtonPressed 0 "f1", .favoriteButtonPressed 0 "f2", .serve 0,
    .acknowledge 0, .main 0, .main 0, .favoriteButtonPressed 0 "f3",
    .answer 0 (.removeFromFavorite 0 Sample.bob Sample.roof), .main 0, .main 0, .main 0,
    .serve 0, .acknowledge 0, .main 0, .main 0, .serve 0, .acknowledge 0, .serve 0,
    .acknowledge 0]

/-- The flag and the store agree. -/
theorem isFavorite_iff_stored_pressingWhenSettled : ∃ s screen,
    (hearts (World.initial .empty).db).RunWhere
      (fun s a => Alone (World.initial .empty).db s a ∧ InTurn s a) pressingWhenSettled s ∧
    s.screens[0]? = some screen ∧ s.Quiet ∧
    (screen.isFavorite = true ↔ screen.pair ∈ s.db.favorited) := by
  obtain ⟨s, hrun, hscreen, hquiet⟩ := TransitionSystem.exists_run_of_exec
    (T := (hearts (World.initial .empty).db).guarded
      fun s a => Alone (World.initial .empty).db s a ∧ InTurn s a) pressingWhenSettled
    (fun s => s.screens = [⟨0, Sample.bob, Sample.roof, true, true⟩] ∧ s.Quiet) rfl
    (by decide +kernel)
  have hi : s.screens[0]? = some ⟨0, Sample.bob, Sample.roof, true, true⟩ := by
    rw [hscreen]
    rfl
  exact ⟨s, _, hrun.runWhere, hi, hquiet, isFavorite_iff_stored hrun.runWhere hi hquiet⟩

/-- The heart is full, and no favorite is stored. -/
theorem heart_disagrees : ¬ ∀ (db₀ : Store) (as : List HeartAction) (s : Hearts),
    (hearts db₀).RunWhere (Alone db₀) as s → s.Quiet → ∀ screen ∈ s.screens,
      (screen.isFavorite = true ↔ screen.pair ∈ s.db.favorited) := by
  intro h
  obtain ⟨s, hrun, hscreen, hnone, hquiet⟩ := TransitionSystem.exists_run_of_exec
    (T := (hearts (World.initial .empty).db).guarded (Alone (World.initial .empty).db))
    pressingThrice
    (fun s => ⟨0, Sample.bob, Sample.roof, true, true⟩ ∈ s.screens ∧
      s.db.isSuShareFavorite Sample.bob Sample.roof = false ∧ s.Quiet) rfl (by decide +kernel)
  have hiff := h _ _ s hrun.runWhere hquiet _ hscreen
  have hstored := Store.isSuShareFavorite_iff.mpr (hiff.mp rfl)
  exact Bool.false_ne_true (hnone.symm.trans hstored)

end Hearts

end SuShareApp
