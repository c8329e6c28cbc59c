import SuShareApp.Participants
import Mathlib.Data.List.Chain
import Mathlib.Tactic.Linarith

/-!
# Funding progress

The cell of the Explore list and the detail screen show how far a SuShare is funded, as the
members divided by the participants. Both divide in whole numbers before they convert to a
fraction, so the bar is at its first hundredth until the last participant joins, and full from
then on. It grows with every join exactly if there is one join (`follows_joins_iff`).
-/

namespace SuShareApp

/-- `Float(quotient) + 0.01` -/
def fundingProgress (quotient : ℤ) : ℚ :=
  quotient + 1 / 100

/-- The progress that `configureCell` sets. -/
def ExploreCell.progress (suShare : SuShare) : Option ℚ :=
  (ExploreCell.configureCell suShare).map fundingProgress

/-- The progress that `loadUI` sets, once there are a SuShare and a user. -/
def DetailViewController.progress (user : User) (sushare : SuShare) : Option ℚ :=
  (DetailViewController.loadUI (some user) (some sushare)).join.map fundingProgress

/-! ## Joins -/

/-- `b` is `a` after somebody joined. -/
def SuShare.GrowsTo (a b : SuShare) : Prop :=
  (∃ uid, b.usersInTheSuShare = a.usersInTheSuShare ++ [uid]) ∧
    b.numOfParticipants = a.numOfParticipants

/-- A SuShare from its first member to its last participant, one join after another. -/
structure JoinRun (n : ℤ) (copies : List SuShare) : Prop where
  chain : copies.IsChain SuShare.GrowsTo
  first : ∃ s ∈ copies.head?, s.usersInTheSuShare.length = 1 ∧ s.numOfParticipants = n
  last : ∃ s ∈ copies.getLast?, (s.usersInTheSuShare.length : ℤ) = n

/-- What is decoded from the document after a join of the copy that was decoded before. -/
theorem Store.growsTo_of_joinUserToSuShare {db db' : Store} {doc doc' : Dictionary}
    {now now' : Timestamp} {uid : String}
    (hd : db.suShare.get? (SuShare.init now doc).suShareId = some doc)
    (h : db.joinUserToSuShare ((SuShare.init now doc).appendingUser uid) = some db')
    (hd' : db'.suShare.get? (SuShare.init now doc).suShareId = some doc') :
    (SuShare.init now doc).GrowsTo (SuShare.init now' doc') := by
  obtain ⟨doc₀, hd₀, hkeys, -⟩ := Store.get?_of_updateSuShare h hd'
  obtain rfl : doc = doc₀ := Option.some.inj (hd.symm.trans hd₀)
  have hlist : (SuShare.init now' doc').usersInTheSuShare =
      (SuShare.init now doc).usersInTheSuShare ++ [uid] := by
    have hmembers := Store.members_joinUserToSuShare h
    have hget : db'.suShare.get? ((SuShare.init now doc).appendingUser uid).suShareId =
        some doc' := hd'
    rw [Store.members, hget] at hmembers
    exact hmembers
  have hcount : (SuShare.init now' doc').numOfParticipants =
      (SuShare.init now doc).numOfParticipants := by
    simp only [SuShare.init, Dictionary.read, hkeys "numOfParticipants" (by decide)]
  exact ⟨⟨uid, hlist⟩, hcount⟩

/-- The progress follows the joins of a run : both screens show the same, more after each join
than before, and a full bar for the last participant and nobody before. -/
structure FollowsJoins (user : User) (n : ℤ) (copies : List SuShare) : Prop where
  agree : ∀ s ∈ copies, (ExploreCell.progress s).isSome ∧
    DetailViewController.progress user s = ExploreCell.progress s
  increasing : copies.IsChain fun a b =>
    ∃ p ∈ ExploreCell.progress a, ∃ q ∈ ExploreCell.progress b, p < q
  full : ∀ s ∈ copies,
    (∃ p ∈ ExploreCell.progress s, 1 ≤ p) ↔ (s.usersInTheSuShare.length : ℤ) = n

/-! ## The bar -/

variable {n : ℤ} {copies : List SuShare} {s : SuShare}

/-- Up to the last participant, both screens show the hundredth, and the whole with him. -/
theorem progress_eq (user : User) (hpos : 0 < s.numOfParticipants)
    (hle : (s.usersInTheSuShare.length : ℤ) ≤ s.numOfParticipants) :
    ExploreCell.progress s =
      some (if (s.usersInTheSuShare.length : ℤ) = s.numOfParticipants then 1 + 1 / 100
        else 1 / 100) ∧
      DetailViewController.progress user s = ExploreCell.progress s := by
  have hno : ¬(s.numOfParticipants = 0 ∨
      (s.usersInTheSuShare.length : ℤ) = -2 ^ 63 ∧ s.numOfParticipants = -1) := by omega
  have hquotient : intDiv? s.usersInTheSuShare.length s.numOfParticipants =
      some (if (s.usersInTheSuShare.length : ℤ) = s.numOfParticipants then 1 else 0) := by
    rw [intDiv?, if_neg hno, Int.tdiv_eq_ediv_of_nonneg (by omega)]
    split_ifs with hfull
    · rw [hfull, Int.ediv_self hpos.ne']
    · rw [Int.ediv_eq_zero_of_lt (by omega) (by omega)]
  constructor
  · rw [ExploreCell.progress, ExploreCell.configureCell, hquotient, Option.map_some]
    split_ifs with hfull <;> simp [fundingProgress]
  · rw [DetailViewController.progress, DetailViewController.loadUI, ExploreCell.progress,
      ExploreCell.configureCell, hquotient]
    rfl

/-- In a run the `i`-th copy has one member more than `i`. -/
theorem JoinRun.length_getElem (h : JoinRun n copies) : ∀ (i : ℕ) (hi : i < copies.length),
    copies[i].usersInTheSuShare.length = i + 1 ∧ copies[i].numOfParticipants = n := by
  intro i
  induction i with
  | zero =>
    intro hi
    obtain ⟨s, hs, hfirst⟩ := h.first
    rw [List.head?_eq_getElem?, List.getElem?_eq_getElem hi] at hs
    obtain rfl := Option.some.inj hs
    exact hfirst
  | succ i ih =>
    intro hi
    obtain ⟨hlength, hcount⟩ := ih (by omega)
    obtain ⟨⟨uid, hlist⟩, hkept⟩ := List.isChain_iff_getElem.mp h.chain i hi
    rw [hlist, hkept, List.length_append, hlength]
    exact ⟨rfl, hcount⟩

/-- It has as many copies as there are participants. -/
theorem JoinRun.length_eq (h : JoinRun n copies) : (copies.length : ℤ) = n := by
  obtain ⟨s, hs, hlast⟩ := h.last
  have hpos : 0 < copies.length := List.length_pos_of_mem (List.mem_of_mem_getLast? hs)
  rw [List.getLast?_eq_getElem?, List.getElem?_eq_getElem (by omega)] at hs
  rw [← Option.some.inj hs, (h.length_getElem _ (by omega)).1] at hlast
  omega

/-- The progress at each step of a run. -/
theorem JoinRun.progress_getElem (h : JoinRun n copies) (user : User) {i : ℕ}
    (hi : i < copies.length) :
    ExploreCell.progress copies[i] =
      some (if i + 1 = copies.length then 1 + 1 / 100 else 1 / 100) ∧
      DetailViewController.progress user copies[i] = ExploreCell.progress copies[i] := by
  obtain ⟨hlength, hcount⟩ := h.length_getElem i hi
  have hn := h.length_eq
  have hprogress := progress_eq (s := copies[i]) user (by omega) (by omega)
  have hfull : (copies[i].usersInTheSuShare.length : ℤ) = copies[i].numOfParticipants ↔
      i + 1 = copies.length := by omega
  simpa only [hfull] using hprogress

theorem JoinRun.agree (h : JoinRun n copies) (user : User) (hs : s ∈ copies) :
    (ExploreCell.progress s).isSome ∧
      DetailViewController.progress user s = ExploreCell.progress s := by
  obtain ⟨i, hi, rfl⟩ := List.mem_iff_getElem.mp hs
  obtain ⟨hcell, hdetail⟩ := h.progress_getElem user hi
  exact ⟨by rw [hcell, Option.isSome_some], hdetail⟩

theorem JoinRun.full_iff (h : JoinRun n copies) (user : User) (hs : s ∈ copies) :
    (∃ p ∈ ExploreCell.progress s, 1 ≤ p) ↔ (s.usersInTheSuShare.length : ℤ) = n := by
  obtain ⟨i, hi, rfl⟩ := List.mem_iff_getElem.mp hs
  have hn := h.length_eq
  rw [(h.progress_getElem user hi).1, (h.length_getElem i hi).1]
  have hfull : ((i + 1 : ℕ) : ℤ) = n ↔ i + 1 = copies.length := by omega
  rw [hfull]
  split_ifs with hlast <;> norm_num [hlast]

/-- The joins before the last leave the bar as it was. -/
theorem JoinRun.increasing_iff (h : JoinRun n copies) (user : User) (hn : 2 ≤ n) :
    (copies.IsChain fun a b =>
      ∃ p ∈ ExploreCell.progress a, ∃ q ∈ ExploreCell.progress b, p < q) ↔ n = 2 := by
  have hlength := h.length_eq
  rw [List.isChain_iff_getElem]
  constructor
  · intro hincreasing
    by_contra hne
    obtain ⟨p, hp, q, hq, hlt⟩ := hincreasing 0 (by omega)
    rw [(h.progress_getElem user (by omega)).1, if_neg (by omega)] at hp hq
    obtain rfl := Option.some.inj hp
    obtain rfl := Option.some.inj hq
    exact lt_irrefl _ hlt
  · rintro rfl i hi
    refine ⟨1 / 100, ?_, 1 + 1 / 100, ?_, by norm_num⟩
    · rw [(h.progress_getElem user (by omega)).1, if_neg (by omega)]
      rfl
    · rw [(h.progress_getElem user hi).1, if_pos (by omega)]
      rfl

/-- In every run both screens agree, and the bar is full for the last participant only. It grows
with every join exactly if there are two participants. -/
theorem follows_joins_iff (user : User) (h : JoinRun n copies) (hn : 2 ≤ n) :
    FollowsJoins user n copies ↔ n = 2 := by
  rw [← h.increasing_iff user hn]
  exact ⟨FollowsJoins.increasing, fun hincreasing =>
    ⟨fun _ hs => h.agree user hs, hincreasing, fun _ hs => h.full_iff user hs⟩⟩

/-- Ann's SuShare for the number of participants, with these users joining her. -/
def roofFor (participants : ℤ) (uids : List String) : SuShare :=
  uids.foldl .appendingUser { Sample.roof with numOfParticipants := participants }

/-- Ann, as her profile is decoded. -/
def roofOwner : User :=
  User.init (.ofList [("username", .string "Ann"), ("userId", .string "ann")])

/-- Bob's join fills Ann's SuShare for two. -/
theorem follows_joins_iff_two :
    FollowsJoins roofOwner 2 [roofFor 2 [], roofFor 2 ["bob"]] := by
  have hrun : JoinRun 2 [roofFor 2 [], roofFor 2 ["bob"]] :=
    ⟨List.isChain_pair.mpr ⟨⟨"bob", rfl⟩, rfl⟩, ⟨_, rfl, rfl, rfl⟩, ⟨_, rfl, rfl⟩⟩
  exact (follows_joins_iff roofOwner hrun le_rfl).mpr rfl

/-- Of three participants, the second does not move the bar. -/
theorem not_follows_joins : ¬ ∀ (user : User) (n : ℤ) (copies : List SuShare),
    JoinRun n copies → 2 ≤ n → FollowsJoins user n copies := by
  intro h
  have hrun : JoinRun 3 [roofFor 3 [], roofFor 3 ["bob"], roofFor 3 ["bob", "cat"]] := by
    refine ⟨?_, ⟨_, rfl, rfl, rfl⟩, ⟨_, rfl, rfl⟩⟩
    exact List.isChain_cons_cons.mpr ⟨⟨⟨"bob", rfl⟩, rfl⟩,
      List.isChain_pair.mpr ⟨⟨"cat", rfl⟩, rfl⟩⟩
  obtain ⟨p, hp, q, hq, hlt⟩ :=
    (List.isChain_cons_cons.mp (h roofOwner 3 _ hrun (by norm_num)).increasing).1
  have heq : ExploreCell.progress (roofFor 3 []) = ExploreCell.progress (roofFor 3 ["bob"]) := by
    decide +kernel
  rw [heq] at hp
  exact absurd (Option.some.inj (hp.symm.trans hq)) hlt.ne

end SuShareApp
