import SuShareApp.Fresh
import SuShareApp.Library.Matching

/-!
# Join notifications

An update is the third step of a chain : a press of Join writes the member list, the answer
to that reads the profile of the signed-in user, and the answer to this writes the update.
Chains of many users run at once, and any of their requests may fail. For each joiner and
screen, the updates written and the chains that are on their way to one are together no more
than the joins that were acknowledged (`counted`), so each update has an acknowledged join of
its own (`updates_matched`).

The profile that the chain reads is that of the user who is signed in when the join is
acknowledged, which has to be the one who joined (`SameUser`).
-/

namespace SuShareApp

/-- A joiner and the screen he joined on : the chains that a join can start are alike. -/
abbrev JoinKey := AuthUser × Copy

namespace Request

/-- The chain that the request is a step of, after the join itself. -/
def chain : Request → Option JoinKey
  | .getCurrentUser _ joiner screen | .addUpdate _ _ _ joiner screen => some (joiner, screen)
  | _ => none

end Request

namespace Answer

/-- The chain that the answer is to continue. -/
def chain : Answer → Option JoinKey
  | .currentUser _ joiner screen => some (joiner, screen)
  | _ => none

end Answer

namespace Action

/-- The join that is acknowledged to its client. -/
def acknowledges : Action → Option JoinKey
  | .deliver (.success (.joinUserToSuShare joiner screen)) _ => some (joiner, screen)
  | _ => none

/-- The chain whose update is written. -/
def notifies : Action → Option JoinKey
  | .serve (.addUpdate _ _ _ joiner screen) => some (joiner, screen)
  | _ => none

/-- The update that is written, with its id. -/
def update? : Action → Option (String × Dictionary)
  | .serve (.addUpdate dbUser docRef now joiner screen) =>
    some (docRef, Store.updateDocument dbUser (screen.sushare.appendingUser joiner.uid) docRef now)
  | _ => none

end Action

namespace World

variable {users : Collection String Dictionary} {as : List Action} {w w' : World} {a : Action}

/-- The user signed in on the client does not change while the chain is running. -/
def SameUser (_ : World) : Action → Prop
  | .deliver (.success (.joinUserToSuShare joiner _)) client => client.currentUser = some joiner
  | _ => True

instance (w : World) : DecidablePred (SameUser w) := fun a => by
  unfold SameUser
  split <;> infer_instance

/-- The chains with the key that are on their way to an update. -/
def chains (w : World) (k : JoinKey) : ℕ :=
  (w.requests.countP fun r => r.chain = some k) + w.answers.countP fun ans => ans.chain = some k

/-! ## Counting chains -/

/-- What is taken out of a list is no longer counted. -/
theorem countP_erase_add {α : Type} [DecidableEq α] (p : α → Bool) {x : α} {l : List α}
    (h : x ∈ l) : (l.erase x).countP p + (if p x then 1 else 0) = l.countP p := by
  rw [(List.perm_cons_erase h).countP_eq p, List.countP_cons]

/-- A press starts no chain. -/
theorem countP_chain_press {client : Client} {p : Press} {rs : List Request}
    (h : p.requests w client = some rs) (k : JoinKey) :
    (rs.countP fun r => r.chain = some k) = 0 := by
  refine List.countP_eq_zero.mpr fun r hr => ?_
  have hf := Press.isFollowUp_of_requests h hr
  cases r <;> simp_all [Request.isFollowUp, Request.chain]

/-- A served request writes its update, or is answered with the next step of its chain. -/
theorem countP_chain_answer (db : Store) (r : Request) (k : JoinKey) :
    (if (Action.serve r).notifies = some k then 1 else 0) +
        (r.answer db).countP (fun ans => ans.chain = some k) ≤
      if r.chain = some k then 1 else 0 := by
  cases r with
  | addUpdate dbUser docRef now joiner screen =>
    simp [Request.answer, Answer.chain, Request.chain, Action.notifies]
  | getCurrentUser user joiner screen =>
    cases hd : db.getCurrentUser user <;>
      simp [Request.answer, Answer.chain, Request.chain, Action.notifies, hd, List.countP_cons]
  | _ => simp [Request.answer, Answer.chain, Request.chain, Action.notifies]

/-- A handler continues the chain of its answer, or starts one for an acknowledged join. -/
theorem countP_chain_completion (client : Client) (ans : Answer) (k : JoinKey) :
    (ans.completion client).countP (fun r => r.chain = some k) ≤
      (if ans.chain = some k then 1 else 0) +
        if (Action.deliver ans client).acknowledges = some k then 1 else 0 := by
  cases ans with
  | currentUser dbUser joiner screen =>
    simp [Answer.completion, Answer.chain, Request.chain, Action.acknowledges, List.countP_cons]
  | success r =>
    cases r with
    | joinUserToSuShare joiner screen =>
      cases hu : client.currentUser <;>
        simp [Answer.completion, Answer.chain, Request.chain, Action.acknowledges, hu,
          List.countP_cons]
    | updateFlaggedInSuShare copy =>
      cases hu : client.currentUser <;>
        simp [Answer.completion, Answer.chain, Request.chain, Action.acknowledges, hu]
    | _ => simp [Answer.completion, Answer.chain, Request.chain, Action.acknowledges]
  | favoriteDocuments ids =>
    simp [Answer.completion, Answer.chain, Request.chain, Action.acknowledges, List.countP_map,
      Function.comp_def]
  | failure r => simp [Answer.completion, Answer.chain, Action.acknowledges]

/-- A step writes the update of a chain, continues one, or starts one for the join that it
acknowledges. -/
theorem chains_step (h : w.step a = some w') (k : JoinKey) :
    (if a.notifies = some k then 1 else 0) + w'.chains k ≤
      w.chains k + if a.acknowledges = some k then 1 else 0 := by
  unfold chains
  cases steps_of_step h with
  | receive | openDetail => simp [Action.notifies, Action.acknowledges]
  | press hd hrs =>
    have hzero := countP_chain_press hrs k
    simp [Action.notifies, Action.acknowledges, hzero]
  | @serve r db hr hdb =>
    have herase := countP_erase_add (fun r : Request => r.chain = some k) hr
    have hanswer := countP_chain_answer w.db r k
    simp only [served, List.countP_append, Action.acknowledges]
    simp at herase hanswer ⊢
    omega
  | @reject r hr =>
    have herase := countP_erase_add (fun r : Request => r.chain = some k) hr
    simp [Action.notifies, Action.acknowledges, Answer.chain] at herase ⊢
    omega
  | @deliver ans client ha hd =>
    have herase := countP_erase_add (fun ans : Answer => ans.chain = some k) ha
    have hcompletion := countP_chain_completion client ans k
    simp [Action.notifies, List.countP_append] at herase hcompletion ⊢
    omega

/-- The updates written and the chains on their way are no more than the joins acknowledged. -/
theorem counted (h : (app users).Run as w) (k : JoinKey) :
    (as.countP fun a => a.notifies = some k) + w.chains k ≤
      as.countP fun a => a.acknowledges = some k := by
  refine h.invariant (I := fun as w => (as.countP fun a => a.notifies = some k) + w.chains k ≤
    as.countP fun a => a.acknowledges = some k) (fun w h0 => ?_) fun as w a w' _ ih hs => ?_
  · rw [show w = _ from h0]
    simp [chains, initial]
  · have hstep := chains_step hs k
    simp only [List.countP_append, List.countP_singleton]
    simp at hstep ⊢
    omega

/-- Each update that a run writes has an acknowledged join of its own, before it. -/
theorem exists_isMatching (h : (app users).Run as w) :
    ∃ f, Matching.IsMatching Action.acknowledges Action.notifies as f := by
  refine Matching.exists_matching fun bs a cs k he hk => ?_
  subst he
  obtain ⟨w₁, w₂, hbs, hs⟩ := h.exists_step
  have hcounted := counted hbs k
  have hstep := chains_step hs k
  have hack : a.acknowledges ≠ some k := by
    cases a with
    | serve r => simp [Action.acknowledges]
    | _ => simp [Action.notifies] at hk
  rw [if_pos hk, if_neg hack] at hstep
  omega

/-! ## The profile of the joiner -/

/-- The decoded profile is the one that is stored for the user. -/
def ProfileOf (users : Collection String Dictionary) (user : AuthUser) (dbUser : User) : Prop :=
  ∃ profile, users.get? user.uid = some profile ∧ dbUser = User.init profile

/-- The chains read and carry the profile of their joiner. -/
structure Named (users : Collection String Dictionary) (as : List Action) (w : World) : Prop where
  profiles : w.db.users = users
  reading : ∀ user joiner screen, .getCurrentUser user joiner screen ∈ w.requests → user = joiner
  answered : ∀ dbUser joiner screen, .currentUser dbUser joiner screen ∈ w.answers →
    ProfileOf users joiner dbUser
  writing : ∀ dbUser docRef now joiner screen,
    .addUpdate dbUser docRef now joiner screen ∈ w.requests → ProfileOf users joiner dbUser
  written : ∀ dbUser docRef now joiner screen,
    .serve (.addUpdate dbUser docRef now joiner screen) ∈ as → ProfileOf users joiner dbUser

theorem users_step (h : w.step a = some w') : w'.db.users = w.db.users := by
  have update : ∀ {db db' : Store} {id fields}, db.updateSuShare id fields = some db' →
      db'.users = db.users := by
    intro db db' id fields hu
    obtain ⟨_, -, rfl⟩ := Store.updateSuShare_eq_some hu
    rfl
  rcases db_step h with ⟨he, -⟩ | ⟨r, db, -, -, hdb, rfl⟩
  · rw [he]
  · change db.users = w.db.users
    cases r with
    | joinUserToSuShare | updateSuShareURL | updateFlaggedInSuShare => exact update hdb
    | _ =>
      obtain rfl := Option.some.inj hdb
      rfl

/-- The answer to the read of a profile carries it. -/
theorem of_currentUser_mem_answer {db : Store} {r : Request} {dbUser : User} {joiner : AuthUser}
    {screen : Copy} (h : .currentUser dbUser joiner screen ∈ r.answer db) :
    ∃ user, r = .getCurrentUser user joiner screen ∧ db.getCurrentUser user = some dbUser := by
  cases r with
  | getCurrentUser user joiner' screen' =>
    obtain ⟨dbUser', hd, he⟩ := List.mem_map.mp h
    cases he
    exact ⟨user, rfl, Option.mem_toList.mp hd⟩
  | _ => simp [Request.answer] at h

theorem Named.step (h : Named users as w) (hG : SameUser w a) (hs : w.step a = some w') :
    Named users (as ++ [a]) w' := by
  refine ⟨(users_step hs).trans h.profiles, fun user joiner screen hr => ?_,
    fun dbUser joiner screen ha => ?_, fun dbUser docRef now joiner screen hr => ?_,
    fun dbUser docRef now joiner screen hw => ?_⟩
  · rcases requests_step hs hr with hr | ⟨p, client, rs, -, hrs, hr⟩ | ⟨ans, client, rfl, -, hr⟩
    · exact h.reading user joiner screen hr
    · cases Press.isFollowUp_of_requests hrs hr
    · cases Answer.issues_of_completion hr with
      | joinUserToSuShare hu => exact Option.some.inj (hu.symm.trans hG)
  · rcases answers_step hs ha with ha | ⟨r, -, hr, ha⟩ | ⟨r, -, -, ha⟩
    · exact h.answered dbUser joiner screen ha
    · obtain ⟨user, rfl, hd⟩ := of_currentUser_mem_answer ha
      obtain rfl := h.reading user joiner screen hr
      obtain ⟨profile, hp, rfl⟩ := Option.map_eq_some_iff.mp hd
      exact ⟨profile, h.profiles ▸ hp, rfl⟩
    · cases ha
  · rcases requests_step hs hr with hr | ⟨p, client, rs, -, hrs, hr⟩ | ⟨ans, client, -, ha, hr⟩
    · exact h.writing dbUser docRef now joiner screen hr
    · cases Press.isFollowUp_of_requests hrs hr
    · cases Answer.issues_of_completion hr with
      | currentUser => exact h.answered dbUser joiner screen ha
  · rcases List.mem_append.mp hw with hw | hw
    · exact h.written dbUser docRef now joiner screen hw
    · obtain rfl := List.mem_singleton.mp hw
      cases steps_of_step hs with
      | serve hr => exact h.writing dbUser docRef now joiner screen hr

theorem named (h : (app users).RunWhere SameUser as w) : Named users as w := by
  refine h.invariant (I := Named users) (fun w h0 => ?_) fun _ _ _ _ _ ih hG hs => ih.step hG hs
  rw [show w = _ from h0]
  constructor <;> simp [initial]

/-! ## Updates and joins -/

/-- What is in the updates collection was written by the run. -/
theorem exists_update (h : (app users).Run as w) : ∀ id doc, w.db.updates.get? id = some doc →
    ∃ a ∈ as, a.update? = some (id, doc) := by
  refine h.invariant (I := fun as w => ∀ id doc, w.db.updates.get? id = some doc →
    ∃ a ∈ as, a.update? = some (id, doc)) (fun w h0 => ?_) fun as w a w' _ ih hs id doc hd => ?_
  · rw [show w = _ from h0]
    simp [initial]
  · have hold : w.db.updates.get? id = some doc → ∃ b ∈ as ++ [a], b.update? = some (id, doc) := by
      intro hd
      obtain ⟨b, hb, hu⟩ := ih id doc hd
      exact ⟨b, List.mem_append_left _ hb, hu⟩
    rcases db_step hs with ⟨he, -⟩ | ⟨r, db, rfl, -, hdb, rfl⟩
    · exact hold (he ▸ hd)
    · rcases Request.perform_collection hdb .updates with he | ⟨k, d, hc, he⟩ | ⟨hp, -⟩ |
        ⟨k, -, hp, -⟩
      · change db.updates = w.db.updates at he
        exact hold (he ▸ hd)
      · change db.updates = _ at he
        change db.updates.get? id = some doc at hd
        rw [he, Collection.get?_setData] at hd
        split_ifs at hd with hid
        · subst hid
          obtain rfl := Option.some.inj hd
          refine ⟨.serve r, by simp, ?_⟩
          cases r with
          | addUpdate => simpa [Request.creates, Action.update?] using hc
          | _ => simp [Request.creates] at hc
        · exact hold hd
      · cases hp
      · cases hp

theorem eq_of_update? {id : String} {doc : Dictionary} (h : a.update? = some (id, doc)) :
    ∃ dbUser now joiner screen, a = .serve (.addUpdate dbUser id now joiner screen) ∧
      doc = Store.updateDocument dbUser (screen.sushare.appendingUser joiner.uid) id now := by
  cases a with
  | serve r =>
    cases r with
    | addUpdate dbUser docRef now joiner screen =>
      simp only [Action.update?, Option.some.injEq, Prod.mk.injEq] at h
      obtain ⟨rfl, rfl⟩ := h
      exact ⟨dbUser, now, joiner, screen, rfl, rfl⟩
    | _ => cases h
  | _ => cases h

/-- An acknowledged join is a success that was delivered. -/
theorem eq_of_acknowledges {joiner : AuthUser} {screen : Copy}
    (h : a.acknowledges = some (joiner, screen)) :
    ∃ client, a = .deliver (.success (.joinUserToSuShare joiner screen)) client := by
  cases a with
  | deliver ans client =>
    cases ans with
    | success r =>
      cases r with
      | joinUserToSuShare joiner' screen' =>
        simp only [Action.acknowledges, Option.some.injEq, Prod.mk.injEq] at h
        obtain ⟨rfl, rfl⟩ := h
        exact ⟨client, rfl⟩
      | _ => cases h
    | _ => cases h
  | _ => cases h

/-- Every update that was ever written is matched with an acknowledged join of its own : a join
that came before, of a SuShare with its title, by the user whose stored username it carries. -/
theorem updates_matched (h : (app users).RunWhere SameUser as w) :
    (∀ id doc, w.db.updates.get? id = some doc → ∃ a ∈ as, a.update? = some (id, doc)) ∧
    ∃ f : ℕ → ℕ, Set.InjOn f {i | (as[i]?.bind Action.update?).isSome} ∧
      ∀ (i : ℕ) (id : String) (doc : Dictionary), as[i]?.bind Action.update? = some (id, doc) →
        f i < i ∧ ∃ joiner screen client profile,
          as[f i]? = some (.deliver (.success (.joinUserToSuShare joiner screen)) client) ∧
          doc "susuTitle" = some (.string screen.sushare.susuTitle) ∧
          users.get? joiner.uid = some profile ∧
          doc "userJoined" = some (.string (User.init profile).username) := by
  obtain ⟨f, hf⟩ := exists_isMatching h.run
  have hupdate : ∀ {i : ℕ} {id doc}, as[i]?.bind Action.update? = some (id, doc) →
      ∃ dbUser now joiner screen, as[i]? = some (.serve (.addUpdate dbUser id now joiner screen)) ∧
        doc = Store.updateDocument dbUser (screen.sushare.appendingUser joiner.uid) id now ∧
        as[i]?.bind Action.notifies = some (joiner, screen) := by
    intro i id doc hi
    obtain ⟨a, ha, hu⟩ := Option.bind_eq_some_iff.mp hi
    obtain ⟨dbUser, now, joiner, screen, rfl, rfl⟩ := eq_of_update? hu
    exact ⟨dbUser, now, joiner, screen, ha, rfl, by rw [ha]; rfl⟩
  refine ⟨exists_update h.run, f, fun i hi i' hi' he => ?_, fun i id doc hi => ?_⟩
  · obtain ⟨⟨id, doc⟩, hi⟩ := Option.isSome_iff_exists.mp hi
    obtain ⟨⟨id', doc'⟩, hi'⟩ := Option.isSome_iff_exists.mp hi'
    obtain ⟨-, -, joiner, screen, -, -, hk⟩ := hupdate hi
    obtain ⟨-, -, joiner', screen', -, -, hk'⟩ := hupdate hi'
    exact hf.injOn i i' _ _ hk hk' he
  · obtain ⟨dbUser, now, joiner, screen, ha, rfl, hk⟩ := hupdate hi
    obtain ⟨hlt, hack⟩ := hf.earlier i _ hk
    obtain ⟨b, hb, hack⟩ := Option.bind_eq_some_iff.mp hack
    obtain ⟨client, rfl⟩ := eq_of_acknowledges hack
    obtain ⟨profile, hp, rfl⟩ :=
      (named h).written dbUser id now joiner screen (List.mem_of_getElem? ha)
    exact ⟨hlt, joiner, screen, client, profile, hb, rfl, hp, rfl⟩

/-- Bob's profile as it is stored. -/
def bobsProfile : User :=
  .init (.ofList [("username", .string "Bob"), ("userId", .string "bob")])

/-- Bob joins Ann's SuShare, and she is notified. -/
def notifying : List Action :=
  Sample.opening ++ [
    .press (.joinSushareButtonPressed Sample.roofCopy) (Sample.client Sample.bob "d1"),
    .serve (.joinUserToSuShare Sample.bob Sample.roofCopy),
    .deliver (.success (.joinUserToSuShare Sample.bob Sample.roofCopy))
      (Sample.client Sample.bob "d2"),
    .serve (.getCurrentUser Sample.bob Sample.bob Sample.roofCopy),
    .deliver (.currentUser bobsProfile Sample.bob Sample.roofCopy)
      (Sample.client Sample.bob "u1"),
    .serve (.addUpdate bobsProfile "u1" ⟨0, 0⟩ Sample.bob Sample.roofCopy)]

/-- The update has its join. -/
theorem updates_matched_notifying : ∃ w, (app Sample.profiles).RunWhere SameUser notifying w ∧
    ∃ j < 9, ∃ joiner screen client,
      notifying[j]? = some (.deliver (.success (.joinUserToSuShare joiner screen)) client) ∧
      screen.sushare.susuTitle = "Roof" := by
  obtain ⟨w, hrun, -⟩ := TransitionSystem.exists_run_of_exec
    (T := (app Sample.profiles).guarded SameUser) notifying (fun _ => True) rfl
    (by decide +kernel)
  obtain ⟨-, f, -, hf⟩ := updates_matched hrun.runWhere
  obtain ⟨hlt, joiner, screen, client, profile, hack, htitle, -⟩ := hf 9 "u1" _ rfl
  refine ⟨w, hrun.runWhere, f 9, hlt, joiner, screen, client, hack, ?_⟩
  simpa [Store.updateDocument, SuShare.appendingUser, Sample.roofCopy, Sample.roof, eq_comm]
    using htitle

end World

end SuShareApp
