import SuShareApp.Fresh
import SuShareApp.Integrity

/-!
# Reports and flags

Reporting a SuShare is a chain of two writes, the same on the Explore list and on the
detail screen : the flag on the suShare document, and in its completion handler the report
in the collection of flagged SuShares. Nothing ever resets the flag, and a report is issued
only after the flag was acknowledged, so every report names a flagged SuShare
(`reports_sound`).

Nothing takes the flag back either when the chain stops in between. A SuShare that is
flagged without a report is one where the write of a report failed, or where nobody was
signed in when the flag was acknowledged (`reported_or_failed`).
-/

namespace SuShareApp

namespace Store

/-- The suShare document `id` is flagged. -/
def Flagged (db : Store) (id : String) : Prop :=
  db.field id "isTheSuShareFlagged" = some (.bool true)

instance (db : Store) (id : String) : Decidable (db.Flagged id) :=
  inferInstanceAs (Decidable (_ = _))

/-- The reports on the SuShare `id`. -/
def reports (db : Store) (id : String) : List (String × Dictionary) :=
  db.flagged.query fun rep => rep "suShareId" = some (.string id)

theorem mem_reports {db : Store} {id docRef : String} {rep : Dictionary} :
    (docRef, rep) ∈ db.reports id ↔
      db.flagged.get? docRef = some rep ∧ rep "suShareId" = some (.string id) := by
  simp [reports, Collection.mem_query]

end Store

variable {users : Collection String Dictionary} {as : List Action} {w w' : World} {a : Action}

/-! ## Flags are permanent -/

/-- A flag stays. -/
theorem Intact.flagged_step (h : Intact w) (hs : w.step a = some w') {id : String}
    (hf : w.db.Flagged id) : w'.db.Flagged id := by
  obtain ⟨v, hv, rfl | ⟨r, -, hw⟩⟩ := h.field_step hs hf
  · exact hv
  · obtain ⟨copy, -, -, rfl⟩ := Request.of_writes_isTheSuShareFlagged hw
    exact hv

/-- Where a flag comes from : it was there, or was just written. -/
theorem flagged_of_step (hs : w.step a = some w') {id : String} (hf : w'.db.Flagged id) :
    w.db.Flagged id ∨ ∃ copy, a = .serve (.updateFlaggedInSuShare copy) ∧
      copy.sushare.suShareId = id ∧ .success (.updateFlaggedInSuShare copy) ∈ w'.answers := by
  rcases World.field_of_step hs hf with hf | ⟨user, s, -, hf⟩ | ⟨r, rfl, -, hw⟩
  · exact Or.inl hf
  · -- a new document has no such field
    simp [Store.suShareDocument] at hf
  · obtain ⟨copy, rfl, hid, -⟩ := Request.of_writes_isTheSuShareFlagged hw
    cases World.steps_of_step hs with
    | serve => exact Or.inr ⟨copy, rfl, hid, List.mem_append_left _ (List.mem_singleton.mpr rfl)⟩

/-! ## Reports are sound -/

/-- A press does not report before the flag is set. -/
theorem Press.flagASuShare_not_mem_requests {client : Client} {p : Press} {rs : List Request}
    (h : p.requests w client = some rs) (user : AuthUser) (docRef : String) (copy : Copy) :
    .flagASuShare user docRef copy ∉ rs := fun hr => by
  cases Press.isFollowUp_of_requests h hr

/-- A completion handler reports the SuShare whose flag was acknowledged, for the user who
is signed in. -/
theorem Answer.of_flagASuShare_mem_completion {client : Client} {ans : Answer} {user : AuthUser}
    {docRef : String} {copy : Copy} (h : .flagASuShare user docRef copy ∈ ans.completion client) :
    ans = .success (.updateFlaggedInSuShare copy) ∧ client.currentUser = some user := by
  cases Answer.issues_of_completion h with
  | updateFlaggedInSuShare hu => exact ⟨rfl, hu⟩

/-- The only request that writes a report. -/
theorem Request.of_creates_flagged {r : Request} {docRef : String} {rep : Dictionary}
    (h : r.creates = some (.flagged, docRef, rep)) : ∃ user copy,
    r = .flagASuShare user docRef copy ∧ rep = Store.reportDocument user copy.sushare := by
  cases r with
  | flagASuShare user k copy =>
    simp only [Request.creates, Option.some.injEq, Prod.mk.injEq, true_and] at h
    obtain ⟨rfl, rfl⟩ := h
    exact ⟨user, copy, rfl, rfl⟩
  | _ => simp [Request.creates] at h

/-- Where a report comes from : it was there, or was just written. -/
theorem of_get?_flagged (hs : w.step a = some w') {docRef : String} {rep : Dictionary}
    (h : w'.db.flagged.get? docRef = some rep) :
    w.db.flagged.get? docRef = some rep ∨ ∃ user copy, a = .serve (.flagASuShare user docRef copy) ∧
      .flagASuShare user docRef copy ∈ w.requests ∧
      rep = Store.reportDocument user copy.sushare := by
  rcases World.db_step hs with ⟨he, -⟩ | ⟨r, db, rfl, hr, hdb, rfl⟩
  · exact Or.inl (he ▸ h)
  · replace h : (db.collection .flagged).get? docRef = some rep := h
    rcases Request.perform_collection hdb .flagged with he | ⟨k, d, hc, he⟩ | ⟨hp, -⟩ |
      ⟨k, -, hp, -⟩
    · rw [he] at h
      exact Or.inl h
    · obtain ⟨user, copy, rfl, rfl⟩ := Request.of_creates_flagged hc
      rw [he, Collection.get?_setData] at h
      split_ifs at h with hk
      · subst hk
        exact Or.inr ⟨user, copy, rfl, hr, (Option.some.inj h).symm⟩
      · exact Or.inl h
    · cases hp
    · cases hp

/-- Behind every report, written or on its way, is a flag. -/
structure Flags (w : World) : Prop where
  acknowledged : ∀ copy, .success (.updateFlaggedInSuShare copy) ∈ w.answers →
    w.db.Flagged copy.sushare.suShareId
  reporting : ∀ user docRef copy, .flagASuShare user docRef copy ∈ w.requests →
    w.db.Flagged copy.sushare.suShareId
  reports : ∀ docRef rep, w.db.flagged.get? docRef = some rep →
    ∃ id, rep "suShareId" = some (.string id) ∧ w.db.Flagged id

theorem Flags.step (hw : Intact w) (h : Flags w) (hs : w.step a = some w') : Flags w' := by
  refine ⟨fun copy ha => ?_, fun user docRef copy hr => ?_, fun docRef rep hd => ?_⟩
  · rcases World.answers_step hs ha with ha | ⟨r, rfl, -, ha⟩ | ⟨r, -, -, ha⟩
    · exact hw.flagged_step hs (h.acknowledged copy ha)
    · obtain rfl := Request.eq_of_success_mem_answer ha
      cases World.steps_of_step hs with
      | serve _ hdb => exact Store.field_updateSuShare hdb
    · cases ha
  · refine hw.flagged_step hs ?_
    rcases World.requests_step hs hr with hr | ⟨p, client, rs, -, hrs, hr⟩ |
      ⟨ans, client, -, ha, hr⟩
    · exact h.reporting user docRef copy hr
    · exact absurd hr (Press.flagASuShare_not_mem_requests hrs user docRef copy)
    · obtain ⟨rfl, -⟩ := Answer.of_flagASuShare_mem_completion hr
      exact h.acknowledged copy ha
  · rcases of_get?_flagged hs hd with hd | ⟨user, copy, rfl, hr, rfl⟩
    · obtain ⟨id, hid, hf⟩ := h.reports docRef rep hd
      exact ⟨id, hid, hw.flagged_step hs hf⟩
    · exact ⟨_, by simp [Store.reportDocument],
        hw.flagged_step hs (h.reporting user docRef copy hr)⟩

theorem flags (h : (app users).Run as w) : Flags w := by
  refine h.invariant (I := fun _ w => Flags w) (fun w h0 => ?_)
    fun _ _ _ _ hr ih hs => ih.step (intact hr) hs
  rw [show w = World.initial users from h0]
  constructor <;> simp [World.initial]

/-- Every report names a flagged SuShare, and a flagged SuShare is flagged ever after. -/
theorem reports_sound (h : (app users).Run as w) :
    (∀ docRef rep, w.db.flagged.get? docRef = some rep →
      ∃ id, rep "suShareId" = some (.string id) ∧ w.db.Flagged id) ∧
    ∀ id, w.db.Flagged id → ∀ bs w', (app users).exec w bs = some w' → w'.db.Flagged id := by
  refine ⟨(flags h).reports, fun id hf bs w' hw' => ?_⟩
  exact h.stable (P := fun w => w.db.Flagged id)
    (fun _ _ _ _ hr hf hs => (intact hr).flagged_step hs hf) hf hw'

namespace Sample

/-- Bob reports it from the list, and the flag is set and acknowledged. -/
def flagging : List Action :=
  showing ++ [.press (.report roofCopy) (client bob "d3"),
    .serve (.updateFlaggedInSuShare roofCopy),
    .deliver (.success (.updateFlaggedInSuShare roofCopy)) (client bob "r1")]

/-- Then the report is stored. -/
def reporting : List Action :=
  flagging ++ [.serve (.flagASuShare bob "r1" roofCopy),
    .deliver (.success (.flagASuShare bob "r1" roofCopy)) (client bob "d4")]

end Sample

/-- Bob's report names a flagged SuShare. -/
theorem reports_sound_reporting : ∃ w, (app Sample.profiles).Run Sample.reporting w ∧
    ∃ rep id, w.db.flagged.get? "r1" = some rep ∧ rep "suShareId" = some (.string id) ∧
      w.db.Flagged id := by
  obtain ⟨w, hrun, hsome⟩ := Sample.exists_run Sample.reporting
    (fun w => (w.db.flagged.get? "r1").isSome) (by decide +kernel)
  obtain ⟨rep, hrep⟩ := Option.isSome_iff_exists.mp hsome
  obtain ⟨id, hid, hf⟩ := (reports_sound hrun).1 "r1" rep hrep
  exact ⟨w, hrun, rep, id, hrep, hid, hf⟩

/-! ## Flags without a report -/

/-- The write of a report on the SuShare failed. -/
def ReportFailed (as : List Action) (id : String) : Prop :=
  ∃ user docRef copy, copy.sushare.suShareId = id ∧ .reject (.flagASuShare user docRef copy) ∈ as

/-- Nobody was signed in when the flag of the SuShare was acknowledged. -/
def ReportSkipped (as : List Action) (id : String) : Prop :=
  ∃ copy client, copy.sushare.suShareId = id ∧ client.currentUser = none ∧
    .deliver (.success (.updateFlaggedInSuShare copy)) client ∈ as

/-- Where the report on a flagged SuShare is : the points at which the chain can be, and
those at which it can have stopped. -/
inductive Traced (as : List Action) (w : World) (id : String) : Prop
  | reported (h : w.db.reports id ≠ [])
  | acknowledged {copy : Copy} (hid : copy.sushare.suShareId = id)
    (h : .success (.updateFlaggedInSuShare copy) ∈ w.answers)
  | reporting {user : AuthUser} {docRef : String} {copy : Copy}
    (hid : copy.sushare.suShareId = id) (h : .flagASuShare user docRef copy ∈ w.requests)
  | failed (h : ReportFailed as id)
  | skipped (h : ReportSkipped as id)

/-- A report on the SuShare stays. -/
theorem Fresh.reports_step (h : Fresh w) (hs : w.step a = some w') {id : String}
    (hr : w.db.reports id ≠ []) : w'.db.reports id ≠ [] := by
  obtain ⟨⟨docRef, rep⟩, hmem⟩ := List.exists_mem_of_ne_nil _ hr
  obtain ⟨hd, hid⟩ := Store.mem_reports.mp hmem
  have hd' : w'.db.flagged.get? docRef = some rep :=
    h.get?_collection_step hs .flagged (by decide) (by decide) hd
  exact List.ne_nil_of_mem (Store.mem_reports.mpr ⟨hd', hid⟩)

/-- A report that is served names its SuShare. -/
theorem Store.reports_flagASuShare (db : Store) (user : AuthUser) (docRef : String)
    (s : SuShare) : (db.flagASuShare user docRef s).reports s.suShareId ≠ [] := by
  refine List.ne_nil_of_mem (a := (docRef, reportDocument user s)) (mem_reports.mpr ⟨?_, ?_⟩)
  · exact Collection.get?_setData_self _ _ _
  · simp [reportDocument]

/-- The chain of a report goes on, or it stops for one of the two reasons. -/
theorem Traced.step (hf : Fresh w) (hs : w.step a = some w') {id : String}
    (h : Traced as w id) : Traced (as ++ [a]) w' id := by
  cases h with
  | reported h => exact .reported (hf.reports_step hs h)
  | @acknowledged copy hid h =>
    rcases World.answers_kept hs h with h | ⟨client, rfl, hrs⟩
    · exact .acknowledged hid h
    · cases hu : client.currentUser with
      | none =>
        exact .skipped ⟨copy, client, hid, hu, List.mem_append_right _ List.mem_cons_self⟩
      | some user =>
        have hr : .flagASuShare user client.docRef copy ∈ w'.requests :=
          hrs _ (by simp [Answer.completion, hu])
        exact .reporting hid hr
  | @reporting user docRef copy hid h =>
    rcases World.requests_kept hs h with h | ⟨db, -, hdb, rfl⟩ | rfl
    · exact .reporting hid h
    · obtain rfl := Option.some.inj hdb
      exact .reported (hid ▸ Store.reports_flagASuShare w.db user docRef copy.sushare)
    · exact .failed ⟨user, docRef, copy, hid, List.mem_append_right _ List.mem_cons_self⟩
  | failed h =>
    obtain ⟨user, docRef, copy, hid, h⟩ := h
    exact .failed ⟨user, docRef, copy, hid, List.mem_append_left _ h⟩
  | skipped h =>
    obtain ⟨copy, client, hid, hu, h⟩ := h
    exact .skipped ⟨copy, client, hid, hu, List.mem_append_left _ h⟩

/-- The report on every flagged SuShare can be traced. -/
theorem traced (h : (app users).Run as w) {id : String} (hf : w.db.Flagged id) :
    Traced as w id := by
  revert id
  refine h.invariant (I := fun as w => ∀ {id}, w.db.Flagged id → Traced as w id)
    (fun w h0 id hf => ?_) fun as w a w' hr ih hs id hf => ?_
  · rw [show w = World.initial users from h0] at hf
    cases hf
  · rcases flagged_of_step hs hf with hf | ⟨copy, rfl, hid, ha⟩
    · exact (ih hf).step (fresh hr) hs
    · exact .acknowledged hid ha

/-- With nothing in flight, a flagged SuShare has a report, unless the write of a report on
it failed, or nobody was signed in when its flag was acknowledged. -/
theorem reported_or_failed (h : (app users).Run as w) (hrequests : w.requests = [])
    (hanswers : w.answers = []) {id : String} (hf : w.db.Flagged id) :
    w.db.reports id ≠ [] ∨ ReportFailed as id ∨ ReportSkipped as id := by
  cases traced h hf with
  | reported h => exact Or.inl h
  | acknowledged hid h => simp [hanswers] at h
  | reporting hid h => simp [hrequests] at h
  | failed h => exact Or.inr (Or.inl h)
  | skipped h => exact Or.inr (Or.inr h)

/-- Ann's SuShare, which Bob reported. -/
theorem reported_or_failed_reporting : ∃ w, (app Sample.profiles).Run Sample.reporting w ∧
    (w.db.reports "s1" ≠ [] ∨ ReportFailed Sample.reporting "s1" ∨
      ReportSkipped Sample.reporting "s1") := by
  obtain ⟨w, hrun, hrequests, hanswers, hf⟩ := Sample.exists_run Sample.reporting
    (fun w => w.requests = [] ∧ w.answers = [] ∧ w.db.Flagged "s1") (by decide +kernel)
  exact ⟨w, hrun, reported_or_failed hrun hrequests hanswers hf⟩

/-- Bob's report fails : Ann's SuShare is hidden, and nobody reported it. -/
theorem not_reported : ¬ ∀ (users : Collection String Dictionary) (as : List Action) (w : World)
    (id : String), (app users).Run as w → w.requests = [] → w.answers = [] → w.db.Flagged id →
    w.db.reports id ≠ [] := by
  intro h
  obtain ⟨w, hrun, hrequests, hanswers, hf, hnone⟩ := Sample.exists_run
    (Sample.flagging ++ [.reject (.flagASuShare Sample.bob "r1" Sample.roofCopy),
      .deliver (.failure (.flagASuShare Sample.bob "r1" Sample.roofCopy))
        (Sample.client Sample.bob "d4")])
    (fun w => w.requests = [] ∧ w.answers = [] ∧ w.db.Flagged "s1" ∧
      (w.db.reports "s1").isEmpty) (by decide +kernel)
  exact h _ _ w "s1" hrun hrequests hanswers hf (List.isEmpty_iff.mp hnone)

end SuShareApp
