import SuShareApp.Library.StableSort
import SuShareApp.PersonalScreen

/-!
# The Created tab

The list of the Created tab is loaded in two ways. `configureSuShares` asks the database service
for the SuShares that the profile's user created, once, and the service sorts them by title. The
listener of `configureSuShares2` asks for the same documents at each snapshot, and takes them in
the order of the query.

So the two bring the same SuShares, and the same list exactly if the documents are found in the
order of their titles (`created_loaders_agree_iff`). A document without a creation date is decoded
with the time of its loading, which differs from one to the other.
-/

namespace SuShareApp

/-- The call of `configureSuShares`, for the user of a profile that was opened from a search or
for the signed-in user. -/
def PersonalViewController.configureSuShares (p : Profile) :
    Invocation (List Document) (List SuShare) :=
  match p.user with
  | some selectedUser => DatabaseService.getCreatedSuShares p.order p.now selectedUser
  | none => DatabaseService.getCreatedSuSharesForCurrentUser p.order (some p.currentUser) p.now

/-- Both calls complete with what the screen's first query brings. -/
theorem PersonalViewController.run_configureSuShares (p : Profile) (db : Store)
    (friends : Collection String Dictionary) :
    (configureSuShares p).run (db.collections friends) =
      some ([.ok (p.result db .getCreatedSuShares)], db.collections friends) := by
  unfold configureSuShares Profile.result Profile.documents Profile.userId
  cases p.user with
  | none => exact DatabaseService.run_getDocuments
  | some selectedUser => exact DatabaseService.run_getDocuments

/-- Of two defaults, the one brings as many of itself as there are elements without a value more
than the other does. -/
theorem count_getD {α β : Type*} [DecidableEq β] {b b' : β} (hne : b' ≠ b) (f : α → Option β) :
    ∀ l : List α, (l.map fun a => (f a).getD b').count b' =
      (l.map fun a => (f a).getD b).count b' + l.countP fun a => (f a).isNone
  | [] => rfl
  | a :: l => by
    have ih := count_getD hne f l
    rw [List.map_cons, List.map_cons, List.count_cons, List.count_cons, List.countP_cons, ih]
    cases f a with
    | none => simp [Ne.symm hne]; omega
    | some c => simp; omega

namespace Profile

/-- The creation date of the document, if it has one. -/
def date? (e : Document) : Option Timestamp :=
  (e.2 "createdDate").bind FieldValue.asTimestamp

variable (p : Profile)

/-- The title in lower case, as the service sorts by it. -/
def sortTitle (e : Document) : String :=
  p.order.lowercased (e.2.read "susuTitle" FieldValue.asString "No Title")

/-- No document that is found has a title before that of the document it follows. -/
def InTitleOrder (db : Store) : Prop :=
  (p.documents db .suShare).IsChain fun d e => p.order.less (p.sortTitle e) (p.sortTitle d) = false

/-- Every document that is found has a creation date. -/
def Dated (db : Store) : Prop :=
  ∀ e ∈ p.documents db .suShare, (date? e).isSome

/-- The profile at another time. -/
def atTime (now : Timestamp) : Profile :=
  { p with now }

variable {p}

/-- The service leaves the documents in their order exactly if it is that of their titles. -/
theorem sortedByTitle_eq_iff (hless : ∀ title, p.order.less title title = false) (db : Store)
    (now : Timestamp) :
    DatabaseService.sortedByTitle p.order now (p.documents db .suShare) =
        (p.documents db .suShare).map (fun e => SuShare.init now e.2) ↔ p.InTitleOrder db := by
  have hrefl : Std.Refl fun a b : SuShare =>
      p.order.less (p.order.lowercased b.susuTitle) (p.order.lowercased a.susuTitle) = false :=
    ⟨fun _ => hless _⟩
  rw [DatabaseService.sortedByTitle, TextOrder.sorted, List.insertionSort_eq_self_iff,
    List.isChain_map]
  rfl

theorem sortedByTitle_perm (db : Store) (now : Timestamp) :
    (DatabaseService.sortedByTitle p.order now (p.documents db .suShare)).Perm
      ((p.documents db .suShare).map fun e => SuShare.init now e.2) :=
  List.perm_insertionSort _ _

/-- Decoded at two times, the documents give the same SuShares only if all of them have dates. -/
theorem dated_of_perm {db : Store} {now now' : Timestamp} (hne : now' ≠ now)
    (h : ((p.documents db .suShare).map fun e => SuShare.init now e.2).Perm
      ((p.documents db .suShare).map fun e => SuShare.init now' e.2)) : p.Dated db := by
  have hdates : ((p.documents db .suShare).map fun e => (date? e).getD now).Perm
      ((p.documents db .suShare).map fun e => (date? e).getD now') := by
    have hmap := h.map SuShare.createdDate
    rw [List.map_map, List.map_map] at hmap
    exact hmap
  have hcount := count_getD hne date? (p.documents db .suShare)
  rw [hdates.count_eq, Nat.left_eq_add, List.countP_eq_zero] at hcount
  exact fun e he => Option.isSome_iff_ne_none.mpr (by simpa using hcount e he)

/-- With dates, or without time between, the decoding does not differ. -/
theorem map_init_congr {db : Store} {now now' : Timestamp} (h : now' = now ∨ p.Dated db) :
    ((p.documents db .suShare).map fun e => SuShare.init now' e.2) =
      (p.documents db .suShare).map fun e => SuShare.init now e.2 := by
  rcases h with rfl | hdated
  · rfl
  · refine List.map_congr_left fun e he => ?_
    obtain ⟨date, hdate⟩ := Option.isSome_iff_exists.mp (hdated e he)
    have hread : (e.2 "createdDate").bind FieldValue.asTimestamp = some date := hdate
    simp [SuShare.init, Dictionary.read, hread]

/-- The two queries bring the same list exactly if the documents are found in the order of their
titles, and have dates unless no time passed. -/
theorem result_eq_iff (hless : ∀ title, p.order.less title title = false) (db : Store)
    (now' : Timestamp) :
    p.result db .getCreatedSuShares = (p.atTime now').result db (.getDocuments .suShare) ↔
      p.InTitleOrder db ∧ (now' = p.now ∨ p.Dated db) := by
  change DatabaseService.sortedByTitle p.order p.now (p.documents db .suShare) =
    (p.documents db .suShare).map (fun e => SuShare.init now' e.2) ↔ _
  rw [← sortedByTitle_eq_iff hless db p.now]
  constructor
  · intro heq
    have hdated : now' = p.now ∨ p.Dated db := by
      by_cases hnow : now' = p.now
      · exact Or.inl hnow
      · exact Or.inr (dated_of_perm hnow (heq ▸ (sortedByTitle_perm db p.now).symm))
    rw [map_init_congr hdated] at heq
    exact ⟨heq, hdated⟩
  · rintro ⟨heq, hdated⟩
    rw [map_init_congr hdated, heq]

end Profile

namespace PersonalScreen

/-- `viewDidLoad` calls `configureSuShares`, and the call is answered. -/
def configuring (p : Profile) (s : PersonalScreen) : List PersonalAction :=
  [.viewDidLoad, .serve .getCreatedSuShares, .deliver (p.result s.db .getCreatedSuShares)]

/-- `viewDidAppear` calls `configureSuShares2`, whose listener gets its first snapshot, and the
query of the snapshot is answered. -/
def configuring2 (p : Profile) (s : PersonalScreen) : List PersonalAction :=
  [.viewDidAppear, .snapshot .suShare s.vc.createListner.issued,
    .serve (.getDocuments .suShare), .deliver (p.result s.db (.getDocuments .suShare))]

variable {p : Profile}

theorem exec_configuring (s : PersonalScreen) :
    (personalScreen p).exec s (configuring p s) = some { s with
      vc := s.vc.viewDidLoad
      suShares := p.result s.db .getCreatedSuShares } := by
  simp [TransitionSystem.exec, configuring, personalScreen, step]

theorem exec_configuring2 (s : PersonalScreen) (htag : s.vc.headerTag = .created) :
    (personalScreen p).exec s (configuring2 p s) = some { s with
      vc := s.vc.viewDidAppear
      suShares := p.result s.db (.getDocuments .suShare) } := by
  simp [TransitionSystem.exec, configuring2, personalScreen, step, htag, configureSuShares2,
    HeaderTag.listened?, PersonalViewController.slot]

/-- On a screen that is loaded and then shows the Created tab, the list of the first loader and
that of the second are the same exactly if the documents are found in the order of their titles,
and each has a creation date or the clock did not move. -/
theorem created_loaders_agree_iff (p : Profile)
    (hless : ∀ title, p.order.less title title = false) (now' : Timestamp) (s : PersonalScreen) :
    ∃ s₁ s₂, (personalScreen p).exec s (configuring p s) = some s₁ ∧
      (personalScreen (p.atTime now')).exec s₁ (configuring2 (p.atTime now') s₁) = some s₂ ∧
      (s₁.suShares = s₂.suShares ↔ p.InTitleOrder s.db ∧ (now' = p.now ∨ p.Dated s.db)) :=
  ⟨_, _, exec_configuring s, exec_configuring2 _ rfl, Profile.result_eq_iff hless s.db now'⟩

/-- Ann's screen before it is loaded, with a SuShare of hers under each of these titles. -/
def opening (titles : List (String × String)) : PersonalScreen :=
  { loading with
    db := loading.db.write (titles.foldl (fun documents e => documents.setData e.1 (.ofList
      [("userId", .string "ann"), ("susuTitle", .string e.2)])) .empty) .suShare }

/-- Attic is found before Roof. -/
theorem created_loaders_agree_iff_attic : ∃ s₁ s₂,
    (personalScreen own).exec (opening [("s1", "Attic"), ("s2", "Roof")])
      (configuring own (opening [("s1", "Attic"), ("s2", "Roof")])) = some s₁ ∧
    (personalScreen own).exec s₁ (configuring2 own s₁) = some s₂ ∧
    s₁.suShares = s₂.suShares := by
  obtain ⟨s₁, s₂, h₁, h₂, hagree⟩ := created_loaders_agree_iff own
    (fun title => decide_eq_false (lt_irrefl title)) own.now
    (opening [("s1", "Attic"), ("s2", "Roof")])
  refine ⟨s₁, s₂, h₁, h₂, hagree.mpr ⟨?_, Or.inl rfl⟩⟩
  unfold Profile.InTitleOrder
  decide +kernel

/-- Roof is found before Attic, and shown after it at first. -/
theorem not_created_loaders_agree : ¬ ∀ (p : Profile) (s s₁ s₂ : PersonalScreen),
    (∀ title, p.order.less title title = false) →
    (personalScreen p).exec s (configuring p s) = some s₁ →
    (personalScreen p).exec s₁ (configuring2 p s₁) = some s₂ → s₁.suShares = s₂.suShares := by
  intro h
  have heq := h own (opening [("s1", "Roof"), ("s2", "Attic")]) _ _
    (fun title => decide_eq_false (lt_irrefl title)) (exec_configuring _)
    (exec_configuring2 _ rfl)
  exact absurd heq (by decide +kernel)

end PersonalScreen

end SuShareApp
