import SuShareApp.Library.Version
import SuShareApp.Integrity

/-!
# Membership

`joinSushareButtonPressed` appends the presser to the member list of its own copy, however
old, and `joinUserToSuShare` writes the whole list back, with no check against the list it
overwrites. The invariant `Members` survives this because it says of each list only that
it is a `Version` : reached from the creator alone by the appends of joins that were
served, each of which somebody pressed. It holds of the lists in documents, in favorites
and in every copy.

From it : members are genuine (`members_genuine`), and a list can only get a member twice
or grow past the number of participants through a press on a copy that already showed it
(`members_bounded`). An acknowledged join lasts in the runs where no join is served from a
list that lacks a stored member (`acknowledged_join`), and a step that serves such a join
loses one that was served before (`served_join_lost`).
-/

namespace SuShareApp

/-! ## Presses of Join -/

/-- The user pressed Join on a screen that showed the SuShare `id`. -/
def PressedJoin (as : List Action) (id : String) (screen : Copy) (uid : String) : Prop :=
  screen.sushare.suShareId = id ∧
    ∃ client user, .press (.joinSushareButtonPressed screen) client ∈ as ∧
      client.currentUser = some user ∧ user.uid = uid

/-- The user's join of the SuShare `id` was served, from a screen that showed these
members. -/
def Joined (as : List Action) (id : String) (members : List String) (uid : String) : Prop :=
  ∃ user screen, .serve (.joinUserToSuShare user screen) ∈ as ∧ user.uid = uid ∧
    screen.sushare.suShareId = id ∧ screen.sushare.usersInTheSuShare = members

theorem PressedJoin.append {as : List Action} {id : String} {screen : Copy} {uid : String}
    (h : PressedJoin as id screen uid) (a : Action) : PressedJoin (as ++ [a]) id screen uid := by
  obtain ⟨hid, client, user, hp, hu⟩ := h
  exact ⟨hid, client, user, List.mem_append_left _ hp, hu⟩

/-- A member list of the SuShare `id`, of any age : a version that starts with its owner. -/
def MembersOf (as : List Action) (db : Store) (id : String) (members : List String) : Prop :=
  ∃ doc uid, db.suShare.get? id = some doc ∧ doc "userId" = some (.string uid) ∧
    Version (Joined as id) uid members

theorem MembersOf.mono {as : List Action} {db db' : Store} {id : String} {members : List String}
    (hdb : db.Extends db') (a : Action) (h : MembersOf as db id members) :
    MembersOf (as ++ [a]) db' id members := by
  obtain ⟨doc, uid, hd, hu, hv⟩ := h
  obtain ⟨doc', hd', hk⟩ := hdb id doc hd
  refine ⟨doc', uid, hd', (hk _ (by decide)).trans hu, hv.mono fun l x hj => ?_⟩
  obtain ⟨user, screen, hs, hx⟩ := hj
  exact ⟨user, screen, List.mem_append_left _ hs, hx⟩

/-- A join makes a member list of the list that the screen showed. -/
theorem MembersOf.join {as : List Action} {db : Store} {user : AuthUser} {screen : Copy}
    (h : MembersOf as db screen.sushare.suShareId screen.sushare.usersInTheSuShare)
    (hs : .serve (.joinUserToSuShare user screen) ∈ as) :
    MembersOf as db screen.sushare.suShareId
      (screen.sushare.usersInTheSuShare ++ [user.uid]) := by
  obtain ⟨doc, creator, hd, hu, hv⟩ := h
  exact ⟨doc, creator, hd, hu, hv.append ⟨user, screen, hs, rfl, rfl, rfl⟩⟩

/-! ## The invariant -/

/-- Every member list is a version, and every join in flight or served was pressed. -/
structure Members (as : List Action) (w : World) : Prop where
  documents : ∀ id doc, w.db.suShare.get? id = some doc → ∃ members,
    doc "usersInTheSuShare" = some (.strings members) ∧ MembersOf as w.db id members
  favorites : ∀ id fav, w.db.favorites.get? id = some fav → ∃ members,
    fav "usersInTheSuShare" = some (.strings members) ∧
      MembersOf as w.db (w.favoriteOrigin id) members
  copies : ∀ c ∈ w.copies, MembersOf as w.db c.origin c.sushare.usersInTheSuShare
  joins : ∀ user screen, .joinUserToSuShare user screen ∈ w.requests →
    PressedJoin as screen.sushare.suShareId screen user.uid
  served : ∀ user screen, .serve (.joinUserToSuShare user screen) ∈ as →
    PressedJoin as screen.sushare.suShareId screen user.uid

namespace Members

variable {as : List Action} {w w' : World} {a : Action}

theorem of_initial (users : Collection String Dictionary) : Members [] (World.initial users) := by
  constructor <;> simp [World.initial, World.copies]

theorem joins_step (h : Members as w) (hs : w.step a = some w') {user : AuthUser}
    {screen : Copy} (hr : .joinUserToSuShare user screen ∈ w'.requests) :
    PressedJoin (as ++ [a]) screen.sushare.suShareId screen user.uid := by
  rcases World.requests_step hs hr with hr | ⟨p, client, rs, rfl, hrs, hr⟩ |
    ⟨ans, client, rfl, -, hr⟩
  · exact (h.joins user screen hr).append a
  · obtain ⟨rfl, hu, -⟩ := Press.of_joinUserToSuShare hrs hr
    exact ⟨rfl, client, user, List.mem_append_right _ List.mem_cons_self, hu, rfl⟩
  · cases Answer.isFollowUp_of_completion hr

theorem documents_step (hw : Intact w) (h : Members as w) (hs : w.step a = some w') {id : String}
    {doc' : Dictionary} (hd : w'.db.suShare.get? id = some doc') : ∃ members,
    doc' "usersInTheSuShare" = some (.strings members) ∧
      MembersOf (as ++ [a]) w'.db id members := by
  have hext := hw.extends_step hs
  rcases World.db_step hs with ⟨he, -⟩ | ⟨r, db, rfl, hr, hdb, rfl⟩
  · obtain ⟨members, hm, hv⟩ := h.documents id doc' (he ▸ hd)
    exact ⟨members, hm, hv.mono hext a⟩
  · rcases Request.get?_suShare_of_perform hdb hd with ⟨user, s, rfl, rfl⟩ | ⟨doc, hdoc, hk⟩
    · -- a new SuShare has its creator as the only member
      refine ⟨[user.uid], ?_, _, user.uid, hd, ?_, .singleton⟩
      · rw [← (hw.posted _ _ _ hr).members]
        simp [Store.suShareDocument]
      · simp [Store.suShareDocument]
    · rcases hk "usersInTheSuShare" with hm | ⟨v, hwr, -, hm⟩
      · obtain ⟨members, hl, hv⟩ := h.documents id doc hdoc
        exact ⟨members, hm.trans hl, hv.mono hext _⟩
      · obtain ⟨user, screen, rfl, hid, rfl⟩ := Request.of_writes_usersInTheSuShare hwr
        -- a join makes a version of the list on the screen, whatever it overwrites
        have hc : screen ∈ w.copies := World.mem_copies_of_request hr rfl
        have hv := h.copies screen hc
        rw [← (hw.copies screen hc).suShareId] at hv
        exact ⟨_, hm, hid ▸ (hv.mono hext _).join (List.mem_append_right _ List.mem_cons_self)⟩

theorem favorites_step (hw : Intact w) (h : Members as w) (hs : w.step a = some w') {id : String}
    {fav : Dictionary} (hf : w'.db.favorites.get? id = some fav) : ∃ members,
    fav "usersInTheSuShare" = some (.strings members) ∧
      MembersOf (as ++ [a]) w'.db (w'.favoriteOrigin id) members := by
  have hext := hw.extends_step hs
  rcases World.db_step hs with ⟨he, ho⟩ | ⟨r, db, rfl, hr, hdb, rfl⟩
  · rw [he] at hf
    rw [ho]
    obtain ⟨members, hm, hv⟩ := h.favorites id fav hf
    exact ⟨members, hm, hv.mono hext a⟩
  · rcases World.get?_favorites_served hdb hf with ⟨user, screen, rfl, rfl, ho⟩ | ⟨hf, ho⟩
    · have hc : screen ∈ w.copies := World.mem_copies_of_request hr rfl
      rw [ho]
      refine ⟨_, ?_, (h.copies screen hc).mono hext _⟩
      simp [Store.favoriteDocument]
    · rw [ho]
      obtain ⟨members, hm, hv⟩ := h.favorites id fav hf
      exact ⟨members, hm, hv.mono hext _⟩

/-- A list decodes the member list of its document. -/
theorem of_read (h : Members as w) {tab : Tab} {id : String} {now : Timestamp} {c : Copy}
    (hc : w.read id now tab = some c) :
    MembersOf as w.db c.origin c.sushare.usersInTheSuShare := by
  obtain ⟨-, doc, hi, ⟨hd, ho, -⟩ | ⟨profile, hd, ho, -, -⟩⟩ := World.read_eq_some hc
  · obtain ⟨members, hm, hv⟩ := h.documents id doc hd
    have hread : c.sushare.usersInTheSuShare = members := hi ▸ Dictionary.read_of_some hm rfl
    rwa [hread, ho]
  · obtain ⟨members, hm, hv⟩ := h.favorites id doc hd
    have hread : c.sushare.usersInTheSuShare = members := hi ▸ Dictionary.read_of_some hm rfl
    rwa [hread, ho]

theorem step (hw : Intact w) (h : Members as w) (hs : w.step a = some w') :
    Members (as ++ [a]) w' where
  documents _ _ hd := h.documents_step hw hs hd
  favorites _ _ hf := h.favorites_step hw hs hf
  copies c hc := by
    refine MembersOf.mono (hw.extends_step hs) a ?_
    rcases World.copies_step hs hc with hc | ⟨tab, id, now, -, hc⟩
    · exact h.copies c hc
    · exact h.of_read hc
  joins _ _ hr := h.joins_step hs hr
  served user screen hsv := by
    rcases List.mem_append.mp hsv with hsv | hsv
    · exact (h.served user screen hsv).append a
    · obtain rfl := List.mem_singleton.mp hsv
      cases World.steps_of_step hs with
      | serve hr _ => exact (h.joins user screen hr).append _

end Members

variable {users : Collection String Dictionary} {as : List Action} {w : World}

/-- Every run keeps the invariant. -/
theorem members (h : (app users).Run as w) : Members as w := by
  refine h.invariant (I := Members) (fun w h0 => ?_) fun _ _ _ _ hr ih hs => ih.step (intact hr) hs
  rw [show w = World.initial users from h0]
  exact .of_initial users

/-- A stored member is the owner of the SuShare, or has joined it. -/
theorem Members.joined (h : Members as w) {id uid : String} (hu : uid ∈ w.db.members id) :
    ∃ doc creator, w.db.suShare.get? id = some doc ∧ doc "userId" = some (.string creator) ∧
      (uid = creator ∨ ∃ user screen, .serve (.joinUserToSuShare user screen) ∈ as ∧
        user.uid = uid ∧ screen.sushare.suShareId = id) := by
  cases hd : w.db.suShare.get? id with
  | none => simp [Store.members, hd] at hu
  | some doc =>
    obtain ⟨l, hl, doc', creator, hd', hcr, hv⟩ := h.documents id doc hd
    obtain rfl : doc = doc' := Option.some.inj (hd.symm.trans hd')
    rw [Store.members_eq hd hl] at hu
    obtain ⟨others, rfl, hothers⟩ := hv.exists_eq_cons
    refine ⟨doc, creator, rfl, hcr, (List.mem_cons.mp hu).imp_right fun hu => ?_⟩
    obtain ⟨_, user, screen, hs, hx, hid, -⟩ := hothers uid hu
    exact ⟨user, screen, hs, hx, hid⟩

/-- A stored member created the SuShare, or has joined it. -/
theorem createdBy_or_joined (h : (app users).Run as w) {id uid : String}
    (hu : uid ∈ w.db.members id) : CreatedBy as id uid ∨
      ∃ user screen, .serve (.joinUserToSuShare user screen) ∈ as ∧ user.uid = uid ∧
        screen.sushare.suShareId = id := by
  have ho := owners h
  obtain ⟨doc, creator, hd, hcr, hj⟩ := (members h).joined hu
  refine hj.imp_left fun he => ?_
  obtain ⟨uid', hc⟩ := ho.documents id doc hd
  obtain ⟨doc', hd', hu'⟩ := ho.created id uid' hc
  obtain rfl : doc = doc' := Option.some.inj (hd.symm.trans hd')
  obtain rfl : creator = uid' := FieldValue.string.inj (Option.some.inj (hcr.symm.trans hu'))
  exact he ▸ hc

/-! ## Members are genuine -/

/-- The first member of a SuShare is its owner, and every other one pressed Join on it. -/
theorem members_genuine (h : (app users).Run as w) {id : String} {doc : Dictionary}
    (hd : w.db.suShare.get? id = some doc) : ∃ creator others,
    doc "userId" = some (.string creator) ∧
      doc "usersInTheSuShare" = some (.strings (creator :: others)) ∧
      ∀ uid ∈ others, ∃ screen client user,
        .press (.joinSushareButtonPressed screen) client ∈ as ∧
          client.currentUser = some user ∧ user.uid = uid ∧ screen.sushare.suShareId = id := by
  have hw := members h
  obtain ⟨members, hm, doc', creator, hd', hu, hv⟩ := hw.documents id doc hd
  obtain rfl : doc = doc' := Option.some.inj (hd.symm.trans hd')
  obtain ⟨others, rfl, hothers⟩ := hv.exists_eq_cons
  refine ⟨creator, others, hu, hm, fun uid huid => ?_⟩
  obtain ⟨_, joiner, screen, hs, hj, hid, -⟩ := hothers uid huid
  obtain ⟨-, client, user, hp, hc, hu⟩ := hw.served joiner screen hs
  exact ⟨screen, client, user, hp, hc, hu.trans hj, hid⟩

/-- Bob's and Cat's detail screens show Ann alone, and both press Join. -/
def Sample.joining : List Action :=
  opening ++ [.receive .explore "s1" ⟨0, 0⟩, .openDetail roofCopy,
    .press (.joinSushareButtonPressed roofCopy) (client bob "d1"),
    .press (.joinSushareButtonPressed roofCopy) (client cat "d2")]

theorem members_genuine_joining :
    ∃ w, (app Sample.profiles).Run (Sample.joining ++ [.serve (.joinUserToSuShare Sample.bob
      Sample.roofCopy)]) w ∧ ∃ doc creator others, w.db.suShare.get? "s1" = some doc ∧
      doc "userId" = some (.string creator) ∧
      doc "usersInTheSuShare" = some (.strings (creator :: others)) := by
  obtain ⟨w, hrun, hw⟩ := Sample.exists_run
    (Sample.joining ++ [.serve (.joinUserToSuShare Sample.bob Sample.roofCopy)])
    (fun w => (w.db.suShare.get? "s1").isSome) (by decide +kernel)
  obtain ⟨doc, hd⟩ := Option.isSome_iff_exists.mp hw
  obtain ⟨creator, others, hu, hm, -⟩ := members_genuine hrun hd
  exact ⟨w, hrun, doc, creator, others, hd, hu, hm⟩

/-! ## Repeated members and full SuShares -/

/-- The screen of a press of Join is still open. -/
theorem mem_screens_of_press (h : (app users).Run as w) {screen : Copy} {client : Client}
    (hp : .press (.joinSushareButtonPressed screen) client ∈ as) : screen ∈ w.screens := by
  revert hp
  refine h.invariant (I := fun as w => .press (.joinSushareButtonPressed screen) client ∈ as →
    screen ∈ w.screens) (fun _ _ hp => absurd hp List.not_mem_nil) fun as w a w' _ ih hs hp => ?_
  refine World.screens_subset hs ?_
  rcases List.mem_append.mp hp with hp | hp
  · exact ih hp
  · obtain rfl := List.mem_singleton.mp hp
    have hs : w.step (.press (.joinSushareButtonPressed screen) client) = some w' := hs
    cases World.steps_of_step hs with
    | press hd hrs => exact (Option.ite_none_right_eq_some.mp hrs).1

/-- The screen of a press of Join shows the number of participants of the document. -/
theorem numOfParticipants_of_pressedJoin (h : (app users).Run as w) {id uid : String}
    {screen : Copy} (hp : PressedJoin as id screen uid) {doc : Dictionary}
    (hd : w.db.suShare.get? id = some doc) :
    doc "numOfParticipants" = some (.int screen.sushare.numOfParticipants) := by
  obtain ⟨rfl, client, user, hp, -⟩ := hp
  have hc : screen ∈ w.copies := World.mem_copies_of_screen (mem_screens_of_press h hp)
  obtain ⟨hid, doc', hd', ht⟩ := (intact h).copies screen hc
  obtain rfl : doc = doc' := Option.some.inj (hd.symm.trans (hid ▸ hd'))
  exact ht ("numOfParticipants", _) (by simp [Terms.fields, SuShare.terms])

/-- A SuShare has a member twice only through a press of Join on a screen that showed the
presser as a member, and more members than participants only through one on a screen that
showed it full. -/
theorem members_bounded (h : (app users).Run as w) {id : String} {doc : Dictionary}
    (hd : w.db.suShare.get? id = some doc) : ∃ members n,
    doc "usersInTheSuShare" = some (.strings members) ∧
      doc "numOfParticipants" = some (.int n) ∧
      (¬members.Nodup → ∃ screen uid, PressedJoin as id screen uid ∧
        uid ∈ screen.sushare.usersInTheSuShare) ∧
      (n < members.length → ∃ screen uid, PressedJoin as id screen uid ∧
        screen.sushare.numOfParticipants ≤ screen.sushare.usersInTheSuShare.length) := by
  have hw := members h
  obtain ⟨members, hm, doc', creator, hd', -, hv⟩ := hw.documents id doc hd
  obtain ⟨t, ht, hn, -⟩ := ((intact h).documents id doc hd).terms
  have hdn : doc "numOfParticipants" = some (.int t.numOfParticipants) :=
    ht ("numOfParticipants", _) (by simp [Terms.fields])
  have pressed : ∀ l uid, Joined as id l uid → ∃ screen, PressedJoin as id screen uid ∧
      screen.sushare.usersInTheSuShare = l := by
    rintro l uid ⟨user, screen, hs, rfl, rfl, hl⟩
    exact ⟨screen, hw.served user screen hs, hl⟩
  refine ⟨members, t.numOfParticipants, hm, hdn, fun hdup => ?_, fun hlt => ?_⟩
  · by_contra hno
    refine hdup (hv.nodup fun l uid hj hmem => ?_)
    obtain ⟨screen, hp, hl⟩ := pressed l uid hj
    exact hno ⟨screen, uid, hp, hl ▸ hmem⟩
  · by_contra hno
    have hlen : members.length ≤ t.numOfParticipants.toNat := by
      refine hv.length_le (by omega) fun l uid hj => ?_
      obtain ⟨screen, hp, hl⟩ := pressed l uid hj
      have hfull : ¬ screen.sushare.numOfParticipants ≤ screen.sushare.usersInTheSuShare.length :=
        fun hle => hno ⟨screen, uid, hp, hle⟩
      have hs := numOfParticipants_of_pressedJoin h hp hd
      have heq : t.numOfParticipants = screen.sushare.numOfParticipants := by
        rw [hdn] at hs
        exact FieldValue.int.inj (Option.some.inj hs)
      rw [← hl]
      omega
    omega

/-- Ann presses Join on her own SuShare. -/
def Sample.rejoining : List Action :=
  opening ++ [.press (.joinSushareButtonPressed roofCopy) (client ann "d1"),
    .serve (.joinUserToSuShare ann roofCopy)]

theorem members_bounded_rejoining : ∃ w, (app Sample.profiles).Run Sample.rejoining w ∧
    ∃ screen uid, PressedJoin Sample.rejoining "s1" screen uid ∧
      uid ∈ screen.sushare.usersInTheSuShare := by
  obtain ⟨w, hrun, hsome, htwice⟩ := Sample.exists_run Sample.rejoining
    (fun w => (w.db.suShare.get? "s1").isSome ∧ w.db.members "s1" = ["ann", "ann"])
    (by decide +kernel)
  obtain ⟨doc, hd⟩ := Option.isSome_iff_exists.mp hsome
  obtain ⟨members, n, hm, -, hdup, -⟩ := members_bounded hrun hd
  have hl : members = ["ann", "ann"] := (Store.members_eq hd hm).symm.trans htwice
  exact ⟨w, hrun, hdup (by rw [hl]; decide)⟩

/-- A SuShare can have a member twice. -/
theorem not_members_nodup : ¬ ∀ (users : Collection String Dictionary) (as : List Action)
    (w : World) (id : String) (doc : Dictionary) (members : List String) (n : ℤ),
    (app users).Run as w → w.db.suShare.get? id = some doc →
    doc "usersInTheSuShare" = some (.strings members) →
    doc "numOfParticipants" = some (.int n) → members.Nodup ∧ members.length ≤ n := by
  intro h
  obtain ⟨w, hrun, hw⟩ := Sample.exists_run Sample.rejoining
    (fun w => (w.db.suShare.get? "s1").map (fun doc =>
      (doc "usersInTheSuShare", doc "numOfParticipants")) =
        some (some (.strings ["ann", "ann"]), some (.int 4))) (by decide +kernel)
  obtain ⟨doc, hd, he⟩ := Option.map_eq_some_iff.mp hw
  obtain ⟨hm, hn⟩ := Prod.mk.inj he
  exact absurd (h _ _ w "s1" doc _ _ hrun hd hm hn).1 (by decide)

/-! ## Acknowledged joins -/

/-- A join that is served keeps every stored member. -/
def KeepsMembers (w : World) : Action → Prop
  | .serve (.joinUserToSuShare user screen) =>
    ∀ uid ∈ w.db.members screen.sushare.suShareId,
      uid ∈ screen.sushare.usersInTheSuShare ∨ uid = user.uid
  | _ => True

instance (w : World) : DecidablePred (KeepsMembers w) := fun a => by
  unfold KeepsMembers
  split <;> infer_instance

/-- The joins that were served stay, and those acknowledged were served. -/
structure Acknowledged (as : List Action) (w : World) : Prop where
  served : ∀ user screen, .serve (.joinUserToSuShare user screen) ∈ as →
    user.uid ∈ w.db.members screen.sushare.suShareId
  answers : ∀ user screen, .success (.joinUserToSuShare user screen) ∈ w.answers →
    .serve (.joinUserToSuShare user screen) ∈ as
  delivered : ∀ user screen client, .deliver (.success (.joinUserToSuShare user screen)) client ∈
    as → .serve (.joinUserToSuShare user screen) ∈ as

namespace Acknowledged

variable {as : List Action} {w w' : World} {a : Action}

/-- A step that keeps the stored members of joins keeps the members of every SuShare. -/
theorem members_step (hw : Intact w) (hm : Members as w) (hG : KeepsMembers w a)
    (hs : w.step a = some w') {id uid : String} (hu : uid ∈ w.db.members id) :
    uid ∈ w'.db.members id := by
  cases hd : w.db.suShare.get? id with
  | none => simp [Store.members, hd] at hu
  | some doc =>
    obtain ⟨l, hl, -⟩ := hm.documents id doc hd
    obtain ⟨doc', hd', -⟩ := hw.extends_step hs id doc hd
    rcases World.db_step hs with ⟨he, -⟩ | ⟨r, db, rfl, hr, hdb, rfl⟩
    · rwa [he]
    · rcases Request.get?_suShare_of_perform hdb hd' with ⟨user, s, rfl, -⟩ | ⟨e, he, hk⟩
      · -- a creation writes under an id that no document has
        rw [(hw.posted _ _ _ hr).absent] at hd
        cases hd
      · obtain rfl : doc = e := Option.some.inj (hd.symm.trans he)
        rcases hk "usersInTheSuShare" with hmem | ⟨v, hwr, -, hmem⟩
        · rwa [Store.members_eq hd' (hmem.trans hl), ← Store.members_eq hd hl]
        · obtain ⟨user, screen, rfl, rfl, rfl⟩ := Request.of_writes_usersInTheSuShare hwr
          rw [Store.members_eq hd' hmem]
          rcases hG uid hu with hin | rfl
          · exact List.mem_append_left _ hin
          · exact List.mem_append_right _ List.mem_cons_self

/-- A join that was just served put the joiner into the list. -/
theorem mem_members_of_serve {user : AuthUser} {screen : Copy}
    (hs : w.step (.serve (.joinUserToSuShare user screen)) = some w') :
    user.uid ∈ w'.db.members screen.sushare.suShareId := by
  cases World.steps_of_step hs with
  | @serve _ db hr hdb =>
    have hl : db.members screen.sushare.suShareId =
        screen.sushare.usersInTheSuShare ++ [user.uid] := Store.members_joinUserToSuShare hdb
    rw [World.served, hl]
    exact List.mem_append_right _ List.mem_cons_self

theorem step (hw : Intact w) (hm : Members as w) (h : Acknowledged as w)
    (hG : KeepsMembers w a) (hs : w.step a = some w') : Acknowledged (as ++ [a]) w' := by
  refine ⟨fun user screen hsv => ?_, fun user screen ha => ?_, fun user screen client hd => ?_⟩
  · rcases List.mem_append.mp hsv with hsv | hsv
    · exact members_step hw hm hG hs (h.served user screen hsv)
    · obtain rfl := List.mem_singleton.mp hsv
      exact mem_members_of_serve hs
  · rcases World.answers_step hs ha with ha | ⟨r, rfl, -, ha⟩ | ⟨r, -, -, ha⟩
    · exact List.mem_append_left _ (h.answers user screen ha)
    · obtain rfl := Request.eq_of_success_mem_answer ha
      exact List.mem_append_right _ List.mem_cons_self
    · cases ha
  · rcases List.mem_append.mp hd with hd | hd
    · exact List.mem_append_left _ (h.delivered user screen client hd)
    · obtain rfl := List.mem_singleton.mp hd
      cases World.steps_of_step hs with
      | deliver ha _ => exact List.mem_append_left _ (h.answers user screen ha)

end Acknowledged

/-- If no join is served from a list that lacks a stored member, a join that was
acknowledged lasts. -/
theorem acknowledged_join (h : (app users).RunWhere KeepsMembers as w) {user : AuthUser}
    {screen : Copy} {client : Client}
    (ha : .deliver (.success (.joinUserToSuShare user screen)) client ∈ as) :
    user.uid ∈ w.db.members screen.sushare.suShareId := by
  have hinv : Acknowledged as w := by
    refine h.invariant (I := Acknowledged) (fun w h0 => ?_) fun _ _ _ _ hr ih hG hs =>
      ih.step (intact hr.run) (members hr.run) hG hs
    obtain rfl : w = World.initial users := h0
    constructor <;> simp [World.initial]
  exact hinv.served user screen (hinv.delivered user screen client ha)

/-- A join that does not keep the stored members loses one that was served before. -/
theorem served_join_lost (h : (app users).Run as w) {a : Action} {w' : World}
    (hs : w.step a = some w') (hG : ¬KeepsMembers w a) : ∃ user screen,
    .serve (.joinUserToSuShare user screen) ∈ as ∧
      user.uid ∉ w'.db.members screen.sushare.suShareId := by
  have hw := members h
  unfold KeepsMembers at hG
  split at hG
  case h_2 => exact absurd trivial hG
  case h_1 user screen =>
    simp only [not_forall, not_or] at hG
    obtain ⟨uid, hu, hnot, hne⟩ := hG
    cases World.steps_of_step hs with
    | @serve _ db hr hdb =>
      have hc : screen ∈ w.copies := World.mem_copies_of_request hr rfl
      have hid := ((intact h).copies screen hc).suShareId
      -- the owner is on every list, so the one that is lost had joined
      obtain ⟨doc, creator, hd, hcr, hv⟩ := hw.copies screen hc
      obtain ⟨doc', creator', hd', hcr', hj⟩ := hw.joined hu
      obtain rfl : doc = doc' := Option.some.inj (hd.symm.trans (hid ▸ hd'))
      obtain rfl : creator = creator' :=
        FieldValue.string.inj (Option.some.inj (hcr.symm.trans hcr'))
      rcases hj with rfl | ⟨joiner, screen', hserve, rfl, hid'⟩
      · exact absurd hv.mem_head hnot
      · refine ⟨joiner, screen', hserve, fun hm => ?_⟩
        have hnew : db.members screen.sushare.suShareId =
            screen.sushare.usersInTheSuShare ++ [user.uid] := Store.members_joinUserToSuShare hdb
        rw [World.served, hid', hnew] at hm
        rcases List.mem_append.mp hm with hm | hm
        · exact hnot hm
        · exact hne (List.mem_singleton.mp hm)

/-- Bob's join is acknowledged, and Cat's keeps him only if her screen shows him. -/
def Sample.acknowledging : List Action :=
  [.serve (.joinUserToSuShare bob roofCopy),
    .deliver (.success (.joinUserToSuShare bob roofCopy)) (client bob "d3")]

/-- Bob's join alone is kept. -/
theorem acknowledged_join_bob : ∃ w, (app Sample.profiles).RunWhere KeepsMembers
    (Sample.joining ++ Sample.acknowledging) w ∧ "bob" ∈ w.db.members "s1" := by
  obtain ⟨w, hrun, -⟩ := TransitionSystem.exists_run_of_exec
    (T := (app Sample.profiles).guarded KeepsMembers) (Sample.joining ++ Sample.acknowledging)
    (fun _ => True) rfl (by decide +kernel)
  have ha : Action.deliver (.success (.joinUserToSuShare Sample.bob Sample.roofCopy))
      (Sample.client Sample.bob "d3") ∈ Sample.joining ++ Sample.acknowledging := by
    simp [Sample.acknowledging]
  exact ⟨w, hrun.runWhere, acknowledged_join hrun.runWhere ha⟩

/-- Cat's join, from the list that both screens showed, loses Bob's. -/
theorem not_acknowledged_join : ¬ ∀ (users : Collection String Dictionary) (as : List Action)
    (w : World) (user : AuthUser) (screen : Copy) (client : Client), (app users).Run as w →
    .deliver (.success (.joinUserToSuShare user screen)) client ∈ as →
    user.uid ∈ w.db.members screen.sushare.suShareId := by
  intro h
  obtain ⟨w, hrun, hw⟩ := Sample.exists_run
    (Sample.joining ++ Sample.acknowledging ++ [.serve (.joinUserToSuShare Sample.cat
      Sample.roofCopy)]) (fun w => w.db.members "s1" = ["ann", "cat"]) (by decide +kernel)
  have hbob : "bob" ∈ w.db.members "s1" := h _ _ w Sample.bob Sample.roofCopy
    (Sample.client Sample.bob "d3") hrun (by simp [Sample.acknowledging])
  rw [hw] at hbob
  exact absurd hbob (by decide)

end SuShareApp
