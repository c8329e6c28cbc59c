import SuShareApp.Hearts

/-!
# One's own SuShares among the favorites

`updateHeartUI` takes the heart away from a detail screen whose SuShare names the signed-in user
as its owner, once the query has answered that it is not a favorite. Until then the heart is
there, and so it is after a failed query, or if the copy on the screen names somebody else : a
favorite of another user does, since `addToFavorites` writes who added it.

With the screens of a user on one SuShare all naming this user, no failed query, and no press
before the answer, the SuShare never gets among the user's favorites, whatever else is opened,
pressed and served in between (`own_favorite_absent`). A press that does not wait puts it there
(`own_favorite_of_press`).
-/

namespace SuShareApp

/-- The screen whose first query this is. -/
def HeartQuery.loads? : HeartQuery → Option ℕ
  | .isSuShareFavorite i _ _ => some i
  | .removeFromFavorite _ _ _ => none

def HeartBlock.loads? : HeartBlock → Option ℕ
  | .isSuShareFavorite i _ => some i
  | _ => none

/-- Only the answer to the first query takes the heart away, and nothing changes whose screen it
is. -/
theorem HeartBlock.run_eq (screen : HeartScreen) (block : HeartBlock) :
    (block.run screen).currentUser = screen.currentUser ∧
      (block.run screen).sushare = screen.sushare ∧
      (block.run screen).device = screen.device ∧
      (screen.hasHeart = false → (block.run screen).hasHeart = false) := by
  cases block with
  | isSuShareFavorite i isFavoriteDB => exact ⟨rfl, rfl, rfl, fun h => by simp [run, h]⟩
  | _ => exact ⟨rfl, rfl, rfl, id⟩

theorem HeartBlock.pair_run (screen : HeartScreen) (block : HeartBlock) :
    (block.run screen).pair = screen.pair := by
  cases block <;> rfl

theorem HeartBlock.loads?_of_mem_async {block b : HeartBlock} (hb : b ∈ block.async) :
    b.loads? = none := by
  cases block with
  | addToFavorites i =>
    obtain rfl := List.mem_singleton.mp hb
    rfl
  | removeFromFavorite i ids =>
    obtain ⟨id, -, rfl⟩ := List.mem_map.mp hb
    rfl
  | _ => cases hb

theorem HeartBlock.screen_of_loads? {block : HeartBlock} {i : ℕ} (h : block.loads? = some i) :
    block.screen = i := by
  cases block with
  | isSuShareFavorite j isFavoriteDB => exact Option.some.inj h
  | _ => cases h

/-- A write of another pair, or a delete. -/
theorem HeartWrite.absent_perform {p : String × String} {w : HeartWrite} {db : Store}
    (h : p ∉ db.favorited) (hw : w.adds? ≠ some p) : p ∉ (w.perform db).favorited := by
  cases w with
  | addToFavorites i user docRef suShare =>
    intro hmem
    rcases Store.favorited_addToFavorites_subset hmem with he | hmem
    · exact hw (congrArg some (Set.mem_singleton_iff.mp he).symm)
    · exact h hmem
  | delete id => exact fun hmem => h (Store.favorited_deleteFavorite hmem)

namespace HeartDevice

/-- The first query of the screen has not been answered yet. -/
def Querying (device : HeartDevice) (i : ℕ) : Prop :=
  (∃ q ∈ device.queries, q.loads? = some i) ∨ ∃ b ∈ device.main, b.loads? = some i

instance (device : HeartDevice) (i : ℕ) : Decidable (device.Querying i) :=
  inferInstanceAs (Decidable (_ ∨ _))

/-- The device has no document of the pair, and no add of one. -/
structure Lacks (p : String × String) (device : HeartDevice) : Prop where
  remote : p ∉ device.store.remote.favorited
  adds : ∀ w ∈ device.store.writes, w.adds? ≠ some p

variable {p : String × String} {device : HeartDevice} {block : HeartBlock}
  {rest : List HeartBlock} {q : HeartQuery} {store : LocalStore Store HeartWrite}
  {w : HeartWrite}

namespace Lacks

/-- So no query finds one. -/
theorem view (h : device.Lacks p) : p ∉ device.view.favorited :=
  LocalStore.view_induction (P := fun db => p ∉ db.favorited) h.remote
    fun w hw _ hdb => HeartWrite.absent_perform hdb (h.adds w hw)

theorem write (h : device.Lacks p) {ws : List HeartWrite} (hws : ∀ w ∈ ws, w.adds? ≠ some p)
    (queries : List HeartQuery) (main : List HeartBlock) :
    Lacks p ⟨device.store.write ws, queries, main⟩ := by
  refine ⟨h.remote, ?_⟩
  rw [LocalStore.writes_write]
  exact List.forall_mem_append.mpr ⟨h.adds, hws⟩

theorem serve (h : device.Lacks p) (hw : device.store.serve = some (w, store)) :
    Lacks p { device with store } :=
  ⟨LocalStore.remote_serve hw ▸ h.remote, LocalStore.writes_serve hw ▸ h.adds⟩

theorem acknowledge (h : device.Lacks p) (hw : device.store.acknowledge = some (w, store))
    (main : List HeartBlock) : Lacks p { device with store, main } :=
  ⟨LocalStore.remote_acknowledge hw ▸ h.remote, LocalStore.writes_acknowledge hw ▸ h.adds⟩

theorem reject (h : device.Lacks p) (hw : device.store.reject = some (w, store)) :
    Lacks p { device with store } :=
  ⟨LocalStore.remote_reject hw ▸ h.remote, fun v hv => h.adds v (LocalStore.writes_reject hw hv)⟩

theorem receive (h : device.Lacks p) {db : Store} (hdb : p ∉ db.favorited) :
    Lacks p { device with store := device.store.receive db } :=
  ⟨hdb, fun w hw => h.adds w (List.mem_append_right _ hw)⟩

end Lacks

end HeartDevice

namespace Hearts

open HeartDevice (Lacks)

variable {db : Store} {p : String × String} {as : List HeartAction} {s s' : Hearts}
  {a : HeartAction}

/-- The screens of the pair name its user as the owner, their first queries do not fail, and their
hearts are pressed after the answer. -/
def Waits (p : String × String) (s : Hearts) : HeartAction → Prop
  | .viewDidLoad _ currentUser sushare =>
    (currentUser.uid, sushare.suShareId) = p → sushare.userId = currentUser.uid
  | .favoriteButtonPressed i _ => ∀ screen ∈ s.screens[i]?, screen.pair = p →
    ¬(s.devices screen.device).Querying i
  | .fail _ (.isSuShareFavorite _ user suShare) => (user.uid, suShare.suShareId) ≠ p
  | _ => True

instance (p : String × String) (s : Hearts) : DecidablePred (Waits p s)
  | .viewDidLoad _ currentUser sushare =>
    inferInstanceAs (Decidable ((currentUser.uid, sushare.suShareId) = p → _))
  | .favoriteButtonPressed i _ => inferInstanceAs (Decidable (∀ screen ∈ s.screens[i]?,
    screen.pair = p → ¬(s.devices screen.device).Querying i))
  | .fail _ (.isSuShareFavorite _ user suShare) =>
    inferInstanceAs (Decidable ((user.uid, suShare.suShareId) ≠ p))
  | .fail _ (.removeFromFavorite _ _ _) | .serve _ | .acknowledge _ | .reject _ | .receive _
  | .answer _ _ | .main _ => inferInstanceAs (Decidable True)

/-- A query of the device is that of a screen, and finds no favorite of the pair. -/
structure Asked (p : String × String) (screens : List HeartScreen) (device : HeartDevice) :
    Prop extends Lacks p device where
  queries : ∀ i user suShare, .isSuShareFavorite i user suShare ∈ device.queries →
    ∃ screen, screens[i]? = some screen ∧ screen.pair = (user.uid, suShare.suShareId)
  main : ∀ i isFavoriteDB, .isSuShareFavorite i isFavoriteDB ∈ device.main →
    ∃ screen, screens[i]? = some screen ∧ (screen.pair = p → isFavoriteDB = false)

/-- The pair is not stored and not on its way, no answer says that it is, and its screens are
waiting for the answer or have lost their hearts. -/
structure Unfavorited (p : String × String) (s : Hearts) : Prop where
  absent : p ∉ s.db.favorited
  devices : ∀ d, Asked p s.screens (s.devices d)
  screens : ∀ i screen, s.screens[i]? = some screen → screen.pair = p →
    screen.sushare.userId = screen.currentUser.uid ∧
      ((s.devices screen.device).Querying i ∨ screen.hasHeart = false)

theorem Asked.mono {screens screens' : List HeartScreen} {device : HeartDevice}
    (h : Asked p screens device) (hkeep : ∀ (i : ℕ) (screen : HeartScreen),
      screens[i]? = some screen →
        ∃ screen' : HeartScreen, screens'[i]? = some screen' ∧ screen'.pair = screen.pair) :
    Asked p screens' device := by
  refine ⟨h.toLacks, fun i user suShare hq => ?_, fun i isFavoriteDB hb => ?_⟩
  · obtain ⟨screen, hi, hpair⟩ := h.queries i user suShare hq
    obtain ⟨screen', hi', hp⟩ := hkeep i screen hi
    exact ⟨screen', hi', hp.trans hpair⟩
  · obtain ⟨screen, hi, hfalse⟩ := h.main i isFavoriteDB hb
    obtain ⟨screen', hi', hp⟩ := hkeep i screen hi
    exact ⟨screen', hi', fun hp' => hfalse (hp.symm.trans hp')⟩

namespace Unfavorited

variable {d : ℕ} {device : HeartDevice}

/-- A step of a device that leaves the screens as they are and loses none of their queries. -/
theorem setDevice (h : Unfavorited p s) (hscreens : s'.screens = s.screens)
    (hdevices : s'.devices = Function.update s.devices d device) (habsent : p ∉ s'.db.favorited)
    (hasked : Asked p s.screens device) (hquerying : ∀ i screen, s.screens[i]? = some screen →
      screen.pair = p → (s.devices d).Querying i → device.Querying i) : Unfavorited p s' := by
  have hdevice : ∀ d', s'.devices d' = if d' = d then device else s.devices d' := fun d' => by
    rw [hdevices, Function.update_apply]
  refine ⟨habsent, fun d' => ?_, fun i screen hi hpair => ?_⟩
  · rw [hscreens, hdevice]
    split_ifs
    · exact hasked
    · exact h.devices d'
  · rw [hscreens] at hi
    obtain ⟨howner, hwait⟩ := h.screens i screen hi hpair
    refine ⟨howner, hwait.imp_left fun hq => ?_⟩
    rw [hdevice]
    split_ifs with hd
    · exact hquerying i screen hi hpair (hd ▸ hq)
    · exact hq

theorem viewDidLoad (h : Unfavorited p s) {currentUser : AuthUser} {sushare : SuShare}
    (hG : (currentUser.uid, sushare.suShareId) = p → sushare.userId = currentUser.uid) :
    Unfavorited p { s.setDevice d ((s.devices d).ask
        (.isSuShareFavorite s.screens.length currentUser sushare)) with
      screens := s.screens ++ [⟨d, currentUser, sushare, false, true⟩] } := by
  have hkeep : ∀ (i : ℕ) (screen : HeartScreen), s.screens[i]? = some screen →
      ∃ screen' : HeartScreen, (s.screens ++ [⟨d, currentUser, sushare, false, true⟩])[i]? =
        some screen' ∧ screen'.pair = screen.pair := fun i screen hi =>
    ⟨screen, (List.getElem?_append_left (List.getElem?_eq_some_iff.mp hi).1).trans hi, rfl⟩
  refine ⟨h.absent, fun d' => ?_, fun i screen hi hpair => ?_⟩
  · have hold := (h.devices d').mono hkeep
    rw [devices_setDevice]
    split_ifs with hd
    · subst hd
      refine ⟨⟨hold.remote, hold.adds⟩, fun i user suShare hq => ?_, hold.main⟩
      rcases List.mem_append.mp hq with hq | hq
      · exact hold.queries i user suShare hq
      · cases List.mem_singleton.mp hq
        exact ⟨_, List.getElem?_concat_length, rfl⟩
    · exact hold
  · have hask : ∀ (d' i : ℕ), (s.devices d').Querying i →
        ((s.setDevice d ((s.devices d).ask
          (.isSuShareFavorite s.screens.length currentUser sushare))).devices d').Querying i := by
      intro d' i hq
      rw [devices_setDevice]
      split_ifs with hd
      · subst hd
        exact hq.imp_left fun ⟨q, hq, hqi⟩ => ⟨q, List.mem_append_left _ hq, hqi⟩
      · exact hq
    rcases lt_or_ge i s.screens.length with hlt | hge
    · rw [List.getElem?_append_left hlt] at hi
      obtain ⟨howner, hwait⟩ := h.screens i screen hi hpair
      exact ⟨howner, hwait.imp_left (hask _ i)⟩
    · rw [List.getElem?_append_right hge, List.getElem?_singleton] at hi
      obtain ⟨hzero, he⟩ := Option.ite_none_right_eq_some.mp hi
      cases he
      refine ⟨hG hpair, .inl ?_⟩
      dsimp only
      rw [devices_setDevice, if_pos rfl, show i = s.screens.length by omega]
      exact .inl ⟨_, List.mem_append_right _ (List.mem_singleton_self _), rfl⟩

/-- The owner's screens have no heart to press. -/
theorem press (h : Unfavorited p s) {i : ℕ} {docRef : String} {screen : HeartScreen}
    (hi : s.screens[i]? = some screen) (hheart : screen.hasHeart)
    (hG : screen.pair = p → ¬(s.devices screen.device).Querying i) :
    Unfavorited p { s.setDevice screen.device
        (screen.favoriteButtonPressed i docRef (s.devices screen.device)) with
      drawn := docRef :: s.drawn } := by
  have hother : screen.pair ≠ p := by
    intro hpair
    obtain ⟨-, hq | hnone⟩ := h.screens i screen hi hpair
    · exact hG hpair hq
    · rw [hnone] at hheart
      cases hheart
  have hasked := h.devices screen.device
  unfold HeartScreen.favoriteButtonPressed
  split
  · refine h.setDevice rfl rfl h.absent ⟨⟨hasked.remote, hasked.adds⟩, ?_, hasked.main⟩
      fun j other hj hpair hq => hq.imp_left fun ⟨q, hq, hqi⟩ => ⟨q, List.mem_append_left _ hq, hqi⟩
    intro j user suShare hq
    exact hasked.queries j user suShare ((List.mem_append.mp hq).resolve_right (by simp))
  · refine h.setDevice rfl rfl h.absent ⟨hasked.write ?_ _ _, hasked.queries, hasked.main⟩
      fun j other hj hpair hq => hq
    exact List.forall_mem_singleton.mpr fun he => hother (Option.some.inj he)

theorem serve (h : Unfavorited p s) {w : HeartWrite} {store : LocalStore Store HeartWrite}
    (hw : (s.devices d).store.serve = some (w, store)) :
    Unfavorited p { s.setDevice d { s.devices d with store } with db := w.perform s.db } := by
  have hasked := h.devices d
  refine h.setDevice rfl rfl ?_ ⟨hasked.serve hw, hasked.queries, hasked.main⟩
    fun i screen hi hpair hq => hq
  refine HeartWrite.absent_perform h.absent (hasked.adds w ?_)
  obtain ⟨pending, hp, -⟩ := LocalStore.serve_eq_some.mp hw
  simp [LocalStore.writes, LocalStore.unacknowledged, hp]

theorem acknowledge (h : Unfavorited p s) {w : HeartWrite} {store : LocalStore Store HeartWrite}
    (hw : (s.devices d).store.acknowledge = some (w, store)) :
    Unfavorited p (s.setDevice d
      { s.devices d with store, main := (s.devices d).main ++ w.completion }) := by
  have hasked := h.devices d
  refine h.setDevice rfl rfl h.absent ⟨hasked.acknowledge hw _, hasked.queries, ?_⟩
    fun i screen hi hpair hq => hq.imp_right fun ⟨b, hb, hbi⟩ => ⟨b, List.mem_append_left _ hb, hbi⟩
  intro i isFavoriteDB hb
  refine hasked.main i isFavoriteDB ((List.mem_append.mp hb).resolve_right ?_)
  cases w <;> simp [HeartWrite.completion]

/-- The query finds no document of the pair. -/
theorem answer (h : Unfavorited p s) {q : HeartQuery} (hq : q ∈ (s.devices d).queries) :
    Unfavorited p (s.setDevice d ((s.devices d).answer q)) := by
  have hasked := h.devices d
  refine h.setDevice rfl rfl h.absent ⟨⟨hasked.remote, hasked.adds⟩, fun i user suShare hr =>
    hasked.queries i user suShare (List.mem_of_mem_erase hr), ?_⟩ ?_
  · intro i isFavoriteDB hb
    rcases List.mem_append.mp hb with hb | hb
    · exact hasked.main i isFavoriteDB hb
    · cases q with
      | isSuShareFavorite j user suShare =>
        obtain ⟨rfl, rfl⟩ := HeartBlock.isSuShareFavorite.inj (List.mem_singleton.mp hb)
        obtain ⟨screen, hi, hpair⟩ := hasked.queries _ user suShare hq
        refine ⟨screen, hi, fun hp => Bool.eq_false_iff.mpr fun htrue => ?_⟩
        exact hasked.view (hp ▸ hpair ▸ Store.isSuShareFavorite_iff.mp htrue)
      | removeFromFavorite j user suShare => simp [HeartQuery.answer] at hb
  · rintro i screen hi hpair (⟨r, hr, hri⟩ | ⟨b, hb, hbi⟩)
    · by_cases he : r = q
      · subst he
        refine .inr ⟨_, List.mem_append_right _ (List.mem_singleton_self _), ?_⟩
        cases r with
        | isSuShareFavorite j user suShare => exact hri
        | removeFromFavorite j user suShare => cases hri
      · exact .inl ⟨r, (List.mem_erase_of_ne he).mpr hr, hri⟩
    · exact .inr ⟨b, List.mem_append_left _ hb, hbi⟩

/-- The failed query is one of another pair. -/
theorem fail (h : Unfavorited p s) {q : HeartQuery} (hq : q ∈ (s.devices d).queries)
    (hG : Waits p s (.fail d q)) : Unfavorited p
      (s.setDevice d { s.devices d with queries := (s.devices d).queries.erase q }) := by
  have hasked := h.devices d
  refine h.setDevice rfl rfl h.absent ⟨⟨hasked.remote, hasked.adds⟩, fun i user suShare hr =>
    hasked.queries i user suShare (List.mem_of_mem_erase hr), hasked.main⟩ ?_
  intro i screen hi hpair
  refine Or.imp_left fun ⟨r, hr, hri⟩ => ?_
  by_cases he : r = q
  · subst he
    cases r with
    | isSuShareFavorite j user suShare =>
      obtain rfl : j = i := Option.some.inj hri
      obtain ⟨screen', hi', hpair'⟩ := hasked.queries j user suShare hr
      obtain rfl : screen = screen' := Option.some.inj (hi.symm.trans hi')
      exact absurd (hpair'.symm.trans hpair) hG
    | removeFromFavorite j user suShare => cases hri
  · exact ⟨r, (List.mem_erase_of_ne he).mpr hr, hri⟩

/-- The answer to the query of an owner takes the heart away. -/
theorem hasHeart_run (h : Unfavorited p s) {i : ℕ} {screen : HeartScreen} {block : HeartBlock}
    (hb : block ∈ (s.devices d).main) (hloads : block.loads? = some i)
    (hi : s.screens[i]? = some screen) (hpair : screen.pair = p) :
    (block.run screen).hasHeart = false := by
  cases block with
  | isSuShareFavorite j isFavoriteDB =>
    obtain rfl : j = i := Option.some.inj hloads
    obtain ⟨screen', hi', hfalse⟩ := (h.devices d).main j isFavoriteDB hb
    obtain rfl : screen = screen' := Option.some.inj (hi.symm.trans hi')
    simp [HeartBlock.run, hfalse hpair, (h.screens j screen hi hpair).1]
  | _ => cases hloads

theorem main (h : Unfavorited p s) {block : HeartBlock} {rest : List HeartBlock}
    (hmain : (s.devices d).main = block :: rest) :
    Unfavorited p { s.setDevice d ((s.devices d).run block rest) with
      screens := s.screens.modify block.screen block.run } := by
  have hblock : block ∈ (s.devices d).main := hmain ▸ List.mem_cons_self
  have hkeep : ∀ (i : ℕ) (screen : HeartScreen), s.screens[i]? = some screen →
      ∃ screen' : HeartScreen, (s.screens.modify block.screen block.run)[i]? = some screen' ∧
        screen'.pair = screen.pair := by
    intro i screen hi
    rw [List.getElem?_modify, hi]
    refine ⟨_, rfl, ?_⟩
    split
    · exact block.pair_run screen
    · rfl
  refine ⟨h.absent, fun d' => ?_, fun i screen' hi hpair => ?_⟩
  · have hold := (h.devices d').mono hkeep
    rw [devices_setDevice]
    split_ifs with hd
    · subst hd
      refine ⟨hold.write (fun w hw => ?_) _ _, hold.queries, fun i isFavoriteDB hb => ?_⟩
      · simp [adds?_of_mem_writes hw]
      · refine hold.main i isFavoriteDB ?_
        rw [hmain]
        refine List.mem_cons_of_mem _ ((List.mem_append.mp hb).resolve_right fun hb => ?_)
        cases HeartBlock.loads?_of_mem_async hb
    · exact hold
  · rw [List.getElem?_modify] at hi
    obtain ⟨screen, hold, rfl⟩ := Option.map_eq_some_iff.mp hi
    -- the block changes one screen, and neither whose it is nor its device
    obtain ⟨hpair', huser, hsushare, hdevice, hheart⟩ :
        (if block.screen = i then block.run screen else screen).pair = screen.pair ∧
        (if block.screen = i then block.run screen else screen).currentUser =
          screen.currentUser ∧
        (if block.screen = i then block.run screen else screen).sushare = screen.sushare ∧
        (if block.screen = i then block.run screen else screen).device = screen.device ∧
        (screen.hasHeart = false →
          (if block.screen = i then block.run screen else screen).hasHeart = false) := by
      split
      · exact ⟨block.pair_run screen, block.run_eq screen⟩
      · exact ⟨rfl, rfl, rfl, rfl, id⟩
    obtain ⟨howner, hwait⟩ := h.screens i screen hold (hpair'.symm.trans hpair)
    rw [huser, hsushare, hdevice]
    refine ⟨howner, ?_⟩
    by_cases hloads : screen.device = d ∧ block.loads? = some i
    · rw [if_pos (HeartBlock.screen_of_loads? hloads.2)]
      exact .inr (h.hasHeart_run hblock hloads.2 hold (hpair'.symm.trans hpair))
    · refine hwait.imp (fun hq => ?_) hheart
      dsimp only
      rw [devices_setDevice]
      split_ifs with hd
      · subst hd
        refine hq.imp_right fun ⟨b, hb, hbi⟩ => ⟨b, List.mem_append_left _ ?_, hbi⟩
        rw [hmain] at hb
        refine (List.mem_cons.mp hb).resolve_left ?_
        rintro rfl
        exact hloads ⟨rfl, hbi⟩
      · exact hq

theorem step (h : Unfavorited p s) (hG : Waits p s a) (hs : s.step a = some s') :
    Unfavorited p s' := by
  cases steps_of_step hs with
  | viewDidLoad => exact h.viewDidLoad hG
  | favoriteButtonPressed hi hheart hnew => exact h.press hi hheart (hG _ hi)
  | serve hw => exact h.serve hw
  | acknowledge hw => exact h.acknowledge hw
  | @reject d w store hw =>
    have hasked := h.devices d
    exact h.setDevice rfl rfl h.absent ⟨hasked.reject hw, hasked.queries, hasked.main⟩
      fun i screen hi hpair hq => hq
  | @receive d =>
    have hasked := h.devices d
    exact h.setDevice rfl rfl h.absent ⟨hasked.receive h.absent, hasked.queries, hasked.main⟩
      fun i screen hi hpair hq => hq
  | answer hq => exact h.answer (List.mem_of_find?_eq_some hq)
  | fail hq => exact h.fail (List.mem_of_find?_eq_some hq) hG
  | main hmain => exact h.main hmain

end Unfavorited

/-- A user's own SuShare does not get among his favorites by screens that name him as the owner
and whose hearts are pressed after the answer to the query. -/
theorem own_favorite_absent (h : (hearts db).RunWhere (Waits p) as s) (hp : p ∉ db.favorited) :
    p ∉ s.db.favorited ∧ ∀ d, p ∉ (s.devices d).view.favorited ∧
      ∀ w ∈ s.pending d, w.adds? ≠ some p := by
  have hinv : Unfavorited p s := by
    refine h.invariant (I := fun _ s => Unfavorited p s) (fun s h0 => ?_)
      fun _ _ _ _ _ ih hG hs => ih.step hG hs
    rw [show s = _ from h0]
    have hdevice : Asked p [] ⟨.initial db, [], []⟩ :=
      ⟨⟨hp, List.forall_mem_nil _⟩, fun _ _ _ hq => absurd hq List.not_mem_nil,
        fun _ _ hb => absurd hb List.not_mem_nil⟩
    exact ⟨hp, fun _ => hdevice, fun i screen hi => by simp at hi⟩
  refine ⟨hinv.absent, fun d => ⟨(hinv.devices d).view, fun w hw => (hinv.devices d).adds w ?_⟩⟩
  exact List.mem_append_right _ (List.mem_append_right _ hw)

/-- A press on the empty heart of a user's own SuShare, before the answer, can put it among his
favorites. -/
theorem own_favorite_of_press {i : ℕ} {docRef : String} {screen : HeartScreen}
    (hi : s.screens[i]? = some screen) (hpair : screen.pair = p)
    (hempty : screen.isFavorite = false)
    (hs : (hearts db).step s (.favoriteButtonPressed i docRef) = some s') :
    ∃ bs s'', (hearts db).exec s' bs = some s'' ∧ p ∈ s''.db.favorited := by
  obtain ⟨-, -, hpending⟩ := of_press hi hempty hs
  obtain ⟨bs, s'', hexec, hdb, -⟩ := exists_exec_serve db screen.device _ (s := s')
    (by rw [hpending, Function.update_self])
  refine ⟨bs, s'', hexec, docRef,
    Store.favoriteDocument screen.currentUser docRef screen.sushare, ?_,
    Store.isFavorite_favoriteDocument.mpr hpair.symm⟩
  rw [hdb]
  exact Collection.get?_setData_self _ _ _

/-- Ann opens her SuShare and loses the heart, while Bob adds it. -/
def openingOwn : List HeartAction :=
  [.viewDidLoad 0 Sample.ann Sample.roof, .viewDidLoad 1 Sample.bob Sample.roof,
    .answer 0 (.isSuShareFavorite 0 Sample.ann Sample.roof),
    .answer 1 (.isSuShareFavorite 1 Sample.bob Sample.roof), .main 1,
    .favoriteButtonPressed 1 "f1", .main 0, .serve 1]

/-- The SuShare is a favorite of Bob's, and not of Ann's. -/
theorem own_favorite_absent_openingOwn : ∃ s,
    (hearts (World.initial .empty).db).RunWhere (Waits ("ann", "s1")) openingOwn s ∧
      s.db.isSuShareFavorite Sample.bob Sample.roof = true ∧
      ("ann", "s1") ∉ s.db.favorited := by
  obtain ⟨s, hrun, hstored⟩ := TransitionSystem.exists_run_of_exec
    (T := (hearts (World.initial .empty).db).guarded (Waits ("ann", "s1"))) openingOwn
    (fun s => s.db.isSuShareFavorite Sample.bob Sample.roof = true) rfl (by decide +kernel)
  have hnone : ("ann", "s1") ∉ (World.initial .empty).db.favorited := by
    rintro ⟨id, doc, hd, -⟩
    cases hd
  exact ⟨s, hrun.runWhere, hstored, (own_favorite_absent hrun.runWhere hnone).1⟩

end Hearts

end SuShareApp
