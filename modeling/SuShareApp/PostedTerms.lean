import SuShareApp.CreateFlow
import SuShareApp.CreateScreen

/-!
# What the terms of a SuShare can be

Only the create screen submits forms. It posts a title that is not empty, a pot that was parsed,
2 to 10 participants, the schedule of one of its three buttons, and categories without repetition
(`CreateScreen.posted_as_shown`), and nothing rewrites the terms of a document or of its copies
(`Intact`).

So these are the terms that are found wherever a SuShare is kept : in the documents of both
collections, in the lists and on the detail screens, whoever created, copied, joined or flagged
what and in whichever order (`terms_from_screen`).
-/

namespace SuShareApp

variable {Image : Type} {parse : String → Option Double} {resizeImage : Image → Image}

/-- A create screen holds the form, after some touches. -/
def FromScreen (parse : String → Option Double) (resizeImage : Image → Image)
    (form : CreateForm) : Prop :=
  ∃ es s, (CreateScreen.system parse resizeImage).Run es s ∧ s.form parse = form

/-- The terms that a create screen can post. -/
structure Terms.FromScreen (parse : String → Option Double) (t : Terms) : Prop where
  susuTitle : t.susuTitle ≠ ""
  potAmount : ∃ text ≠ "", parse text = some t.potAmount
  numOfParticipants : 2 ≤ t.numOfParticipants ∧ t.numOfParticipants ≤ 10
  paymentSchedule : ∃ b : ScheduleButton, t.paymentSchedule = b.restorationIdentifier
  category : ∃ cs : List Category, cs.Nodup ∧ t.category = cs.map Category.rawValue

theorem ne_empty_of_nonEmpty {text t : String} (h : nonEmpty text = some t) : t ≠ "" := by
  rw [← eq_of_nonEmpty h]
  exact (Option.ite_none_left_eq_some.mp h).1

variable {form : CreateForm} {currentUser : Option AuthUser} {now : Timestamp} {v : SuShare}

theorem FromScreen.terms (h : FromScreen parse resizeImage form)
    (hv : form.addSusu currentUser now = some v) : v.terms.truncate.FromScreen parse := by
  obtain ⟨es, s, hrun, rfl⟩ := h
  have hentered := CreateScreen.entered hrun
  have hposts := CreateForm.posts_of_addSusu hv
  obtain ⟨pot, hpot, hparse⟩ := Option.bind_eq_some_iff.mp hposts.potAmount
  have hschedule := hposts.paymentSchedule
  rw [show (s.form parse).schedule = s.schedule from rfl, hentered.schedule] at hschedule
  obtain ⟨b, -, hb⟩ := Option.map_eq_some_iff.mp hschedule
  exact {
    susuTitle := ne_empty_of_nonEmpty hposts.susuTitle
    potAmount := ⟨pot, ne_empty_of_nonEmpty hpot, hparse⟩
    numOfParticipants := by
      rw [show v.terms.truncate.numOfParticipants = _ from hposts.numOfParticipants]
      exact ParticipantControls.amount_mem _
    paymentSchedule := ⟨b, hb.symm⟩
    category := by
      refine ⟨_, ?_, hposts.category⟩
      rw [show (s.form parse).selectedCategories = s.table.selectedCategories from rfl,
        hentered.selectedCategories]
      exact List.nodup_nil.foldl_toggle _ }

/-- Neither the privacy setting nor the description is a default of the decoder. -/
theorem CreateForm.securityState_of_addSusu (hv : form.addSusu currentUser now = some v) :
    (∃ security : Security, v.securityState = security.rawValue) ∧ v.suShareDescription ≠ "" := by
  have hposts := CreateForm.posts_of_addSusu hv
  obtain ⟨security, -, hs⟩ := Option.map_eq_some_iff.mp hposts.securityState
  obtain ⟨text, -, hd⟩ := Option.bind_eq_some_iff.mp hposts.suShareDescription
  exact ⟨⟨security, hs.symm⟩, ne_empty_of_nonEmpty hd⟩

variable {users : Collection String Dictionary} {as : List Action} {w : World}

/-- The forms that are submitted are those of create screens. -/
def SubmitsScreens (parse : String → Option Double) (resizeImage : Image → Image)
    (as : List Action) : Prop :=
  ∀ form client, .press (.addSusu form) client ∈ as → FromScreen parse resizeImage form

/-- A suShare document was posted from a screen. -/
theorem exists_posted (h : (app users).Run as w) (hforms : SubmitsScreens parse resizeImage as)
    {id : String} {doc : Dictionary} (hd : w.db.suShare.get? id = some doc) :
    ∃ form user now v, FromScreen parse resizeImage form ∧
      form.addSusu (some user) now = some v ∧ v.terms.truncate.In doc ∧
      ∀ key, key ∉ Store.writableFields → doc key = Store.suShareDocument user id v key := by
  obtain ⟨form, client, user, v, ⟨hpress, -, hv⟩, -, hk⟩ := (attempts h).documents id doc hd
  exact ⟨form, user, client.now, v, hforms form client hpress, hv,
    (v.terms_in_suShareDocument user id).congr hk, hk⟩

/-- Terms that a suShare document has are those of a screen. -/
theorem fromScreen_of_in (h : (app users).Run as w)
    (hforms : SubmitsScreens parse resizeImage as) {id : String} {doc : Dictionary}
    (hd : w.db.suShare.get? id = some doc) {t : Terms} (ht : t.In doc) : t.FromScreen parse := by
  obtain ⟨form, user, now, v, hform, hv, hin, -⟩ := exists_posted h hforms hd
  have heq : t = v.terms.truncate := (ht.terms_init now).symm.trans (hin.terms_init now)
  exact heq ▸ hform.terms hv

/-- Wherever a SuShare is kept, its terms are those that a screen posted. -/
theorem terms_from_screen (h : (app users).Run as w)
    (hforms : SubmitsScreens parse resizeImage as) :
    (∀ id doc now, w.db.suShare.get? id = some doc →
      (SuShare.init now doc).terms.FromScreen parse ∧
      (∃ security : Security, (SuShare.init now doc).securityState = security.rawValue) ∧
      (SuShare.init now doc).suShareDescription ≠ "") ∧
    (∀ id fav now, w.db.favorites.get? id = some fav →
      (SuShare.init now fav).terms.FromScreen parse) ∧
    ∀ c ∈ w.copies, c.sushare.terms.FromScreen parse := by
  have hw := intact h
  refine ⟨fun id doc now hd => ?_, fun id fav now hf => ?_, fun c hc => ?_⟩
  · obtain ⟨form, user, posted, v, hform, hv, hin, hk⟩ := exists_posted h hforms hd
    obtain ⟨⟨security, hs⟩, hdes⟩ := CreateForm.securityState_of_addSusu hv
    have hstate : (SuShare.init now doc).securityState = v.securityState :=
      Dictionary.read_of_some (hk "securityState" (by decide)) rfl
    have hdescription : (SuShare.init now doc).suShareDescription = v.suShareDescription :=
      Dictionary.read_of_some (hk "suShareDescription" (by decide)) rfl
    rw [hin.terms_init, hdescription]
    exact ⟨hform.terms hv, ⟨security, hstate.trans hs⟩, hdes⟩
  · obtain ⟨-, -, t, doc, hd, ht, htf⟩ := hw.favorites id fav hf
    rw [htf.terms_init]
    exact fromScreen_of_in h hforms hd ht
  · obtain ⟨-, doc, hd, ht⟩ := hw.copies c hc
    exact fromScreen_of_in h hforms hd ht

/-- The touches that lead to Ann's form. -/
def CreateScreen.entering : List (Event String) :=
  [.titleTextField "Roof", .descriptionTextView "A new roof", .potAmount "100",
    .paymentSchedule .weekly, .didFinishPickingMedia "roof"]

/-- Bob's favorite of Ann's SuShare has her schedule. -/
theorem terms_from_screen_favoriting : ∃ w, (app Sample.profiles).Run Sample.favoriting w ∧
    (∃ b : ScheduleButton,
      Sample.favoriteCopy.sushare.paymentSchedule = b.restorationIdentifier) := by
  obtain ⟨w, hrun, hc⟩ := Sample.exists_run Sample.favoriting
    (fun w => Sample.favoriteCopy ∈ w.copies) (by decide +kernel)
  obtain ⟨s, hs, -⟩ := TransitionSystem.exists_run_of_exec
    (T := CreateScreen.system CreateScreen.parsing (id : String → String)) CreateScreen.entering
    (fun _ => True) rfl (by decide +kernel)
  have hform : s.form CreateScreen.parsing = Sample.form :=
    (CreateScreen.entered hs).form_eq CreateScreen.parsing
  have hforms : SubmitsScreens CreateScreen.parsing (id : String → String) Sample.favoriting := by
    intro form client hpress
    have hpress : form = Sample.form ∧ client = Sample.client Sample.ann "s1" := by
      simpa [Sample.favoriting, Sample.opening] using hpress
    exact hpress.1 ▸ ⟨_, s, hs, hform⟩
  obtain ⟨-, -, hcopies⟩ := terms_from_screen hrun hforms
  exact ⟨w, hrun, (hcopies _ hc).paymentSchedule⟩

end SuShareApp
