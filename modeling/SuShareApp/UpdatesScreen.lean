import SuShareApp.Library.LocalStore
import SuShareApp.UpdatesFeed

/-!
# The screen of the updates

The screen lists the updates of the signed-in user, and loads them when it appears and when it
is pulled. A row that is swiped away is removed from the store first. The handler of the delete
then removes the row, in a block at the end of the main queue, by the index that it had when it
was swiped. A failure is printed and changes nothing but that the delete is dropped. The deletes
of the device are taken in their order, a load answers from its view (`LocalStore`), and
others write the store meanwhile.

The index is right as long as the row has not moved, and nothing in the code sees to that. A
removal moves the rows below it, and a reload may move all of them, so the removals hit the
right rows if they come from the bottom up and no reload between a swipe and its removal
changes the row (`RowsKept`).
-/

namespace SuShareApp

/-- `updates.remove(at: row)`, which traps beyond the end. -/
def Update.removeAt (updates : List Update) (row : ℕ) : Option (List Update) :=
  if row < updates.length then some (updates.eraseIdx row) else none

/-- An update that is swiped away, with its row at that time : a delete of the device. -/
structure Swipe where
  update : Update
  row : ℕ
deriving DecidableEq, Repr

def Swipe.perform (db : Store) (swipe : Swipe) : Store :=
  db.removeUpdate swipe.update

/-- What waits in the main queue : the handler of a load or of a delete, or the removal that the
handler of a delete has put at the end of it. -/
inductive UpdatesBlock
  | getUserUpdates (dbUpdates : List Update)
  | removeUpdate (swipe : Swipe)
  | removeRow (swipe : Swipe)
deriving DecidableEq, Repr

/-- The swipe whose removal is still to come. -/
def UpdatesBlock.swipe? : UpdatesBlock → Option Swipe
  | .getUserUpdates _ => none
  | .removeUpdate swipe | .removeRow swipe => some swipe

/-- The store, the device and its screen. -/
structure UpdatesScreen where
  db : Store
  store : LocalStore Store Swipe
  updates : List Update
  /-- How many loads are not answered yet : they all ask the same. -/
  loads : ℕ
  main : List UpdatesBlock

inductive UpdatesAction
  | viewDidAppear
  | refreshUpdates
  /-- The row is swiped away. -/
  | commit (row : ℕ)
  /-- The server takes the oldest delete. -/
  | serve
  | acknowledge
  | reject
  /-- The device receives the state of the server. -/
  | receive
  /-- The oldest load is answered, -/
  | answer (now : Timestamp)
  /-- or fails. -/
  | fail
  /-- The main queue runs its first block. -/
  | main
  /-- Others leave the store like this. -/
  | write (db : Store)

namespace UpdatesScreen

/-- The first block of the main queue, with the rest of the queue. -/
def run (s : UpdatesScreen) (rest : List UpdatesBlock) : UpdatesBlock → Option UpdatesScreen
  | .getUserUpdates dbUpdates => some { s with updates := dbUpdates, main := rest }
  | .removeUpdate swipe => some { s with main := rest ++ [.removeRow swipe] }
  | .removeRow swipe => (Update.removeAt s.updates swipe.row).map fun updates =>
    { s with updates, main := rest }

def step (currentUser : AuthUser) (s : UpdatesScreen) : UpdatesAction → Option UpdatesScreen
  | .viewDidAppear | .refreshUpdates => some { s with loads := s.loads + 1 }
  | .commit row => s.updates[row]?.map fun update =>
    { s with store := s.store.write [⟨update, row⟩] }
  | .serve => s.store.serve.map fun (swipe, store) => { s with db := swipe.perform s.db, store }
  | .acknowledge => s.store.acknowledge.map fun (swipe, store) =>
    { s with store, main := s.main ++ [.removeUpdate swipe] }
  | .reject => s.store.reject.map fun (_, store) => { s with store }
  | .receive => some { s with store := s.store.receive s.db }
  | .answer now =>
    if 0 < s.loads then
      some { s with
        loads := s.loads - 1
        main := s.main ++
          [.getUserUpdates ((s.store.view Swipe.perform).getUserUpdates now currentUser)] }
    else none
  | .fail => if 0 < s.loads then some { s with loads := s.loads - 1 } else none
  | .main => match s.main with
    | [] => none
    | block :: rest => s.run rest block
  | .write db => some { s with db }

/-- The swipes whose removals are still to come, with this main queue. -/
def swipes (s : UpdatesScreen) (main : List UpdatesBlock) : List Swipe :=
  s.store.unacknowledged ++ main.filterMap UpdatesBlock.swipe?

end UpdatesScreen

/-- The screen of the user, from when it is loaded. -/
def updatesScreen (currentUser : AuthUser) : TransitionSystem UpdatesScreen UpdatesAction where
  init s := s = ⟨s.db, .initial s.db, [], 0, []⟩
  step := UpdatesScreen.step currentUser

namespace UpdatesScreen

variable {currentUser : AuthUser} {as : List UpdatesAction} {s s' : UpdatesScreen}
  {a : UpdatesAction} {swipe : Swipe} {rest : List UpdatesBlock}

/-- The removal of a swipe comes when all swipes with their removals to come are in rows above
it, and a list comes when it has those swipes in their rows. -/
def RowsKept (s : UpdatesScreen) : UpdatesAction → Prop
  | .main => match s.main with
    | .removeRow swipe :: rest => ∀ other ∈ s.swipes rest, other.row < swipe.row
    | .getUserUpdates dbUpdates :: rest =>
      ∀ swipe ∈ s.swipes rest, dbUpdates[swipe.row]? = some swipe.update
    | _ => True
  | _ => True

instance (s : UpdatesScreen) : DecidablePred (RowsKept s) := fun a => by
  unfold RowsKept
  split
  · split <;> infer_instance
  · infer_instance

/-- The list loses the update, or never had it and stays. -/
def Loses (updates updates' : List Update) (update : Update) : Prop :=
  (∃ before after, updates = before ++ update :: after ∧ updates' = before ++ after) ∨
    update ∉ updates ∧ updates' = updates

/-- The next removal uses an index of the list, and the list loses the update that was swiped
away. -/
def RemovesTheSwiped (currentUser : AuthUser) (s : UpdatesScreen) : Prop :=
  ∀ swipe, s.main.head? = some (.removeRow swipe) → swipe.row < s.updates.length ∧
    ∃ s', s.step currentUser .main = some s' ∧ Loses s.updates s'.updates swipe.update

/-! ## Rows -/

/-- Every swipe that is on its way has its update in its row. -/
def Aligned (s : UpdatesScreen) : Prop :=
  ∀ swipe ∈ s.swipes s.main, s.updates[swipe.row]? = some swipe.update

/-- With the list as it is, only new swipes matter. -/
theorem Aligned.of_subset (h : s.Aligned) (hupdates : s'.updates = s.updates)
    (hsub : s'.swipes s'.main ⊆ s.swipes s.main) : s'.Aligned := by
  intro swipe hswipe
  rw [hupdates]
  exact h swipe (hsub hswipe)

/-- A list that has the update in a row loses it with the row. -/
theorem loses_eraseIdx {updates : List Update} {row : ℕ} {update : Update}
    (h : updates[row]? = some update) : Loses updates (updates.eraseIdx row) update := by
  obtain ⟨hrow, rfl⟩ := List.getElem?_eq_some_iff.mp h
  refine Or.inl ⟨updates.take row, updates.drop (row + 1), ?_, List.eraseIdx_eq_take_drop_succ ..⟩
  rw [List.getElem_cons_drop, List.take_append_drop]

/-- With every swipe in its row, the next removal takes the update that was swiped away. -/
theorem Aligned.removesTheSwiped (h : s.Aligned) : s.RemovesTheSwiped currentUser := by
  intro swipe hhead
  obtain ⟨rest, hmain⟩ : ∃ rest, s.main = .removeRow swipe :: rest :=
    ⟨_, List.eq_cons_of_mem_head? hhead⟩
  have hrow := h swipe (by simp [swipes, hmain, UpdatesBlock.swipe?])
  obtain ⟨hlt, -⟩ := List.getElem?_eq_some_iff.mp hrow
  refine ⟨hlt, { s with updates := s.updates.eraseIdx swipe.row, main := rest }, ?_,
    loses_eraseIdx hrow⟩
  simp [step, hmain, run, Update.removeAt, hlt]

/-- A removal leaves the rows above it where they are, and a list that comes has them all. -/
theorem Aligned.main (h : s.Aligned) (hG : RowsKept s .main)
    (hs : s.step currentUser .main = some s') : s'.Aligned := by
  cases hmain : s.main with
  | nil => simp [step, hmain] at hs
  | cons block rest =>
    simp only [step, hmain] at hs
    simp only [RowsKept, hmain] at hG
    have hrest : s.swipes rest ⊆ s.swipes s.main := by
      rw [hmain]
      refine List.append_subset.mpr ⟨List.subset_append_left _ _, ?_⟩
      exact List.subset_append_of_subset_right _
        ((List.sublist_cons_self block rest).filterMap _).subset
    cases block with
    | getUserUpdates dbUpdates =>
      obtain rfl := Option.some.inj hs
      exact hG
    | removeUpdate first =>
      obtain rfl := Option.some.inj hs
      refine h.of_subset rfl fun swipe hswipe => ?_
      simpa [swipes, hmain, UpdatesBlock.swipe?, or_comm, or_left_comm] using hswipe
    | removeRow first =>
      obtain ⟨updates, hremove, rfl⟩ := Option.map_eq_some_iff.mp hs
      obtain ⟨-, hremove⟩ := Option.ite_none_right_eq_some.mp hremove
      obtain rfl := Option.some.inj hremove
      intro swipe hswipe
      rw [← h swipe (hrest hswipe)]
      exact List.getElem?_eraseIdx_of_lt (hG swipe hswipe)

/-- What no step can do without `RowsKept` : it keeps the swipes in their rows. -/
theorem Aligned.step (h : s.Aligned) (hG : RowsKept s a) (hs : s.step currentUser a = some s') :
    s'.Aligned := by
  cases a with
  | viewDidAppear | refreshUpdates | receive | write =>
    obtain rfl := Option.some.inj hs
    exact h
  | commit row =>
    obtain ⟨update, hrow, rfl⟩ := Option.map_eq_some_iff.mp hs
    intro swipe hswipe
    rw [swipes, LocalStore.unacknowledged_write, List.append_assoc] at hswipe
    rcases List.mem_append.mp hswipe with hswipe | hswipe
    · exact h swipe (List.mem_append_left _ hswipe)
    rcases List.mem_cons.mp hswipe with rfl | hswipe
    · exact hrow
    · exact h swipe (List.mem_append_right _ hswipe)
  | serve =>
    obtain ⟨⟨taken, store⟩, hw, rfl⟩ := Option.map_eq_some_iff.mp hs
    refine h.of_subset rfl ?_
    simp [swipes, LocalStore.unacknowledged_serve hw]
  | acknowledge =>
    obtain ⟨⟨done, store⟩, hw, rfl⟩ := Option.map_eq_some_iff.mp hs
    refine h.of_subset rfl fun swipe hswipe => ?_
    simpa [swipes, LocalStore.unacknowledged_acknowledge hw, UpdatesBlock.swipe?, or_comm,
      or_left_comm] using hswipe
  | reject =>
    obtain ⟨⟨refused, store⟩, hw, rfl⟩ := Option.map_eq_some_iff.mp hs
    refine h.of_subset rfl fun swipe hswipe => ?_
    rw [swipes, LocalStore.unacknowledged_reject hw]
    exact List.mem_cons_of_mem _ hswipe
  | answer now =>
    obtain ⟨-, hs⟩ := Option.ite_none_right_eq_some.mp hs
    obtain rfl := Option.some.inj hs
    refine h.of_subset rfl fun swipe hswipe => ?_
    simpa [swipes, UpdatesBlock.swipe?] using hswipe
  | fail =>
    obtain ⟨-, hs⟩ := Option.ite_none_right_eq_some.mp hs
    obtain rfl := Option.some.inj hs
    exact h
  | main => exact h.main hG hs

/-- If the removals come from the bottom up, and every list that comes has the swiped updates
in their rows, then each removal takes the update that was swiped away. -/
theorem removes_the_swiped (h : (updatesScreen currentUser).RunWhere RowsKept as s) :
    s.RemovesTheSwiped currentUser := by
  refine Aligned.removesTheSwiped (h.invariant (I := fun _ s => s.Aligned) ?_ ?_)
  · intro s h0
    rw [show s = _ from h0]
    simp [Aligned, swipes, LocalStore.unacknowledged, LocalStore.initial]
  · exact fun _ _ _ _ _ ih hG hs => ih.step hG hs

/-- The owner of Ann's SuShare. -/
def owner : AuthUser := ⟨"ann", none, none⟩

/-- The store after the users of these names joined Ann's SuShare. -/
def joins (usernames : List String) : Store :=
  usernames.foldl (fun db name => db.addUpdate (UpdatesFeed.joiner name) UpdatesFeed.joined name
    ⟨1, 0⟩) ⟨.empty, .empty, .empty, .empty, .empty, fun _ => .empty⟩

/-- The update of such a join. -/
def join (username : String) : Update :=
  .added (UpdatesFeed.joiner username) UpdatesFeed.joined username ⟨1, 0⟩

/-- The screen appears, with the updates of these joins. -/
def appearing (usernames : List String) : List UpdatesAction :=
  [.write (joins usernames), .viewDidAppear, .receive, .answer ⟨2, 0⟩, .main]

/-- The last update is swiped away, and then the first one, while a reload is on its way that was
answered before. The last one is removed first. -/
def removingFromBelow : List UpdatesAction :=
  appearing ["bob", "cat", "dan"] ++ [.refreshUpdates, .answer ⟨2, 0⟩, .commit 2, .commit 0, .main,
    .serve, .serve, .acknowledge, .acknowledge, .main, .main, .main]

/-- Both updates are swiped away, and the upper one is removed first. -/
def removingFromAbove : List UpdatesAction :=
  appearing ["bob", "cat"] ++ [.commit 0, .commit 1, .serve, .serve, .acknowledge, .acknowledge,
    .main, .main, .main]

/-- The next removal is that of the first row. -/
theorem removes_the_swiped_removingFromBelow : ∃ s,
    (updatesScreen owner).RunWhere RowsKept removingFromBelow s ∧
      s.main = [.removeRow ⟨join "bob", 0⟩] ∧ s.RemovesTheSwiped owner := by
  have h0 : (updatesScreen owner).init ⟨joins [], .initial (joins []), [], 0, []⟩ := rfl
  obtain ⟨s, hrun, hmain⟩ := TransitionSystem.exists_run_of_exec
    (T := (updatesScreen owner).guarded RowsKept) removingFromBelow
    (fun s => s.main = [.removeRow ⟨join "bob", 0⟩]) h0 (by decide +kernel)
  exact ⟨s, hrun.runWhere, hmain, removes_the_swiped hrun.runWhere⟩

/-- One update is left, and the next removal is that of the second row. -/
theorem removal_traps : ¬ ∀ (currentUser : AuthUser) (as : List UpdatesAction)
    (s : UpdatesScreen), (updatesScreen currentUser).Run as s →
      s.RemovesTheSwiped currentUser := by
  intro h
  have h0 : (updatesScreen owner).init ⟨joins [], .initial (joins []), [], 0, []⟩ := rfl
  obtain ⟨s, hrun, hmain, hupdates⟩ := TransitionSystem.exists_run_of_exec
    (T := updatesScreen owner) removingFromAbove
    (fun s => s.main = [.removeRow ⟨join "cat", 1⟩] ∧ s.updates = [join "cat"]) h0
    (by decide +kernel)
  obtain ⟨hlt, -⟩ := h _ _ s hrun ⟨join "cat", 1⟩ (by simp [hmain])
  simp [hupdates] at hlt

end UpdatesScreen

end SuShareApp
