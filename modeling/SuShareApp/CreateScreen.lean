import Mathlib.Data.Finset.Insert
import SuShareApp.CategoryTable
import SuShareApp.CreateForm

/-!
# The create screen

`CreateSusuViewController` from the moment it is loaded : the texts, the privacy switch, the
schedule buttons, the photo, the controls of the participants and the table of categories, each
with the variables that its handlers set, and the button that posts what they hold.

What a press of the button posts can be read off the touches before it : the last text of each
field, the last schedule button, the last photo, the parity of the switch and of the taps on each
category (`draft`). So the calls of `createASusu` are those of the presses at which the draft was
complete and somebody was signed in, one each, and the alerts those of the others (`posts_eq`).

A schedule button that was tapped stays grey. What is posted is what the screen shows, up to the
schedule, which is the only grey one exactly if no two were tapped (`posted_as_shown`).
-/

namespace SuShareApp

theorem Category.rawValue_injective : Function.Injective rawValue := by
  intro c d h
  cases c <;> cases d <;> first | rfl | exact absurd h (by decide)

/-! ## The screen -/

/-- The three buttons whose taps call `paymentSchedule`. -/
inductive ScheduleButton
  | weekly
  | biWeekly
  | monthly
deriving DecidableEq, Repr

def ScheduleButton.restorationIdentifier : ScheduleButton → String
  | .weekly => "Weekly"
  | .biWeekly => "Bi-Weekly"
  | .monthly => "Monthly"

/-- The outlets and the variables of the screen. -/
structure CreateScreen (Image : Type) where
  titleTextField : String
  descriptionTextView : String
  potAmount : String
  controls : ParticipantControls
  schedule : Option String
  /-- The schedule buttons whose background is grey. -/
  systemGray : Finset ScheduleButton
  /-- The privacy switch. -/
  isOn : Bool
  isItPrivate : Option Security
  privacySettingsLabel : String
  selectedImage : Option Image
  /-- `SusuImage.image`, where it is not the placeholder. -/
  susuImage : Option Image
  table : CategoryTable
  /-- The calls of `createASusu`, with the photos that their handlers captured. -/
  posts : List (SuShare × Image)
  alerts : List (String × String)

namespace CreateScreen

variable {Image : Type}

/-- The screen of the storyboard after `configureController`. -/
def viewDidLoad : CreateScreen Image where
  titleTextField := ""
  descriptionTextView := ""
  potAmount := ""
  controls := .configureController
  schedule := none
  systemGray := ∅
  isOn := false
  isItPrivate := some .publicState
  privacySettingsLabel := "Private SuShare: OFF"
  selectedImage := none
  susuImage := none
  table := .viewDidLoad
  posts := []
  alerts := []

def privacySwitch (s : CreateScreen Image) (isOn : Bool) : CreateScreen Image :=
  if isOn then
    { s with
      isOn
      isItPrivate := some .privateState
      privacySettingsLabel := "Privacy Setting: ON" }
  else
    { s with
      isOn
      isItPrivate := some .publicState
      privacySettingsLabel := "Privacy Setting: OFF" }

def paymentSchedule (s : CreateScreen Image) (sender : ScheduleButton) : CreateScreen Image :=
  match sender.restorationIdentifier with
  | "Weekly" | "Bi-Weekly" | "Monthly" =>
    { s with
      systemGray := insert sender s.systemGray
      schedule := some sender.restorationIdentifier }
  | _ => s

/-- `selectedImage` is set, and its `didSet` shows it. -/
def setSelectedImage (s : CreateScreen Image) (image : Image) : CreateScreen Image :=
  { s with selectedImage := some image, susuImage := some image }

def showAlert (s : CreateScreen Image) (title message : String) : CreateScreen Image :=
  { s with alerts := s.alerts ++ [(title, message)] }

section AddSusu

/- `Double(_:)` on a text, and `UIImage.resizeImage` to the bounds of the image view. -/
variable (parse : String → Option Double) (resizeImage : Image → Image)

/-- What the guard of `addSusu` unwraps. -/
structure Required (Image : Type) where
  susuTitle : String
  susuDes : String
  num : Double
  participants : ℤ
  paymentSchedule : String
  selectedImage : Image
  securitySetting : Security

def required (s : CreateScreen Image) : Option (Required Image) := do
  let susuTitle ← nonEmpty s.titleTextField
  let susuDes ← nonEmpty s.descriptionTextView
  let num ← (nonEmpty s.potAmount).bind parse
  let participants := s.controls.amountOfParticipants
  let paymentSchedule ← s.schedule
  let selectedImage ← s.selectedImage
  let securitySetting ← s.isItPrivate
  return { susuTitle, susuDes, num, participants, paymentSchedule, selectedImage, securitySetting }

/-- `addSusu` up to the call of `createASusu`. -/
def addSusu (s : CreateScreen Image) (currentUser : Option AuthUser) (now : Timestamp) :
    CreateScreen Image :=
  match s.required parse with
  | none => s.showAlert "Missing Fields" "All fields are required, "
  | some r =>
    match currentUser with
    | none => s
    | some user =>
      let suShare : SuShare := {
        securityState := r.securitySetting.rawValue
        susuTitle := r.susuTitle
        imageURL := "should be accessed from storage"
        suShareDescription := r.susuDes
        potAmount := r.num
        numOfParticipants := r.participants
        paymentSchedule := r.paymentSchedule
        userId := "nil"
        category := s.table.selectedCategories.map Category.rawValue
        createdDate := now
        suShareId := "nil"
        usersInTheSuShare := [user.uid]
        isTheSuShareFlagged := false
        favId := "" }
      { s with posts := s.posts ++ [(suShare, resizeImage r.selectedImage)] }

/-- A touch of the screen. -/
inductive Event (Image : Type)
  | titleTextField (text : String)
  | descriptionTextView (text : String)
  | potAmount (text : String)
  | controls (e : ParticipantControls.Event)
  | paymentSchedule (sender : ScheduleButton)
  /-- A tap on the switch. -/
  | privacySwitch
  | didFinishPickingMedia (image : Image)
  | table (e : CategoryTable.Event)
  | addSusu (currentUser : Option AuthUser) (now : Timestamp)

/-- The create screen. -/
def system : TransitionSystem (CreateScreen Image) (Event Image) where
  init s := s = viewDidLoad
  step
    | s, .titleTextField text => some { s with titleTextField := text }
    | s, .descriptionTextView text => some { s with descriptionTextView := text }
    | s, .potAmount text => some { s with potAmount := text }
    | s, .controls e => some { s with controls := s.controls.handle e }
    | s, .paymentSchedule sender => some (s.paymentSchedule sender)
    | s, .privacySwitch => some (s.privacySwitch !s.isOn)
    | s, .didFinishPickingMedia image => some (s.setSelectedImage image)
    | s, .table e => (CategoryTable.system.step s.table e).map fun table => { s with table }
    | s, .addSusu currentUser now => some (s.addSusu parse resizeImage currentUser now)

end AddSusu

/-! ## The form -/

end CreateScreen

/-- The guard of `addSusu` passes. -/
def CreateForm.Complete (form : CreateForm) : Prop :=
  (form.susuTitle.bind nonEmpty).isSome ∧ (form.susuDes.bind nonEmpty).isSome ∧
    form.num.isSome ∧ form.schedule.isSome ∧ form.selectedImage ∧ form.isItPrivate.isSome

instance (form : CreateForm) : Decidable form.Complete := by
  unfold CreateForm.Complete
  infer_instance

theorem CreateForm.isSome_addSusu_iff (form : CreateForm) (currentUser : Option AuthUser)
    (now : Timestamp) :
    (form.addSusu currentUser now).isSome ↔ form.Complete ∧ currentUser.isSome := by
  unfold addSusu Complete
  cases form.susuTitle.bind nonEmpty <;> cases form.susuDes.bind nonEmpty <;>
    cases form.num <;> cases form.schedule <;> cases form.selectedImage <;>
    cases form.isItPrivate <;> cases currentUser <;> simp [guard]

/-- What is posted of the form. -/
structure CreateForm.Posts (form : CreateForm) (now : Timestamp) (v : SuShare) : Prop where
  susuTitle : form.susuTitle.bind nonEmpty = some v.susuTitle
  suShareDescription : form.susuDes.bind nonEmpty = some v.suShareDescription
  potAmount : form.num = some v.potAmount
  numOfParticipants : v.numOfParticipants = form.controls.amountOfParticipants
  paymentSchedule : form.schedule = some v.paymentSchedule
  securityState : form.isItPrivate.map Security.rawValue = some v.securityState
  category : v.category = form.selectedCategories.map Category.rawValue
  createdDate : v.createdDate = now

theorem CreateForm.posts_of_addSusu {form : CreateForm} {currentUser : Option AuthUser}
    {now : Timestamp} {v : SuShare} (h : form.addSusu currentUser now = some v) :
    form.Posts now v := by
  simp only [addSusu, bind, Option.bind_eq_some_iff] at h
  obtain ⟨title, ht, des, hd, num, hn, schedule, hs, -, -, security, hp, user, -, h⟩ := h
  cases h
  exact {
    susuTitle := Option.bind_eq_some_iff.mpr ht
    suShareDescription := Option.bind_eq_some_iff.mpr hd
    potAmount := hn
    numOfParticipants := rfl
    paymentSchedule := hs
    securityState := by rw [hp]; rfl
    category := rfl
    createdDate := rfl }

namespace CreateScreen

variable {Image : Type} {parse : String → Option Double} {resizeImage : Image → Image}
  {es : List (Event Image)} {s s' : CreateScreen Image} {e : Event Image}

/-- What the screen holds, as a form. -/
def form (parse : String → Option Double) (s : CreateScreen Image) : CreateForm where
  susuTitle := some s.titleTextField
  susuDes := some s.descriptionTextView
  num := (nonEmpty s.potAmount).bind parse
  controls := s.controls
  schedule := s.schedule
  selectedImage := s.selectedImage.isSome
  isItPrivate := s.isItPrivate
  selectedCategories := s.table.selectedCategories

theorem required_eq_some {r : Required Image} : s.required parse = some r ↔
    nonEmpty s.titleTextField = some r.susuTitle ∧
    nonEmpty s.descriptionTextView = some r.susuDes ∧
    (nonEmpty s.potAmount).bind parse = some r.num ∧
    s.controls.amountOfParticipants = r.participants ∧ s.schedule = some r.paymentSchedule ∧
    s.selectedImage = some r.selectedImage ∧ s.isItPrivate = some r.securitySetting := by
  unfold required
  constructor
  · intro h
    simp only [bind, pure, Option.bind_eq_some_iff] at h
    obtain ⟨title, ht, des, hd, num, hn, schedule, hs, image, hi, security, hp, h⟩ := h
    cases h
    exact ⟨ht, hd, Option.bind_eq_some_iff.mpr hn, rfl, hs, hi, hp⟩
  · rintro ⟨ht, hd, hn, hc, hs, hi, hp⟩
    simp [ht, hd, hn, hc, hs, hi, hp]

/-- The guard of the screen is the guard of the form. -/
theorem isSome_required_iff : (s.required parse).isSome ↔ (s.form parse).Complete := by
  unfold CreateForm.Complete form
  simp only [Option.isSome_iff_exists, required_eq_some, Option.bind_some]
  constructor
  · rintro ⟨r, ht, hd, hn, -, hs, hi, hp⟩
    exact ⟨⟨_, ht⟩, ⟨_, hd⟩, ⟨_, hn⟩, ⟨_, hs⟩, ⟨_, hi⟩, ⟨_, hp⟩⟩
  · rintro ⟨⟨title, ht⟩, ⟨des, hd⟩, ⟨num, hn⟩, ⟨schedule, hs⟩, ⟨image, hi⟩, ⟨security, hp⟩⟩
    exact ⟨⟨title, des, num, _, schedule, image, security⟩, ht, hd, hn, rfl, hs, hi, hp⟩

/-- The submission of the form, with the photo that is captured. -/
def post (parse : String → Option Double) (resizeImage : Image → Image) (s : CreateScreen Image)
    (currentUser : Option AuthUser) (now : Timestamp) : Option (SuShare × Image) := do
  let suShare ← (s.form parse).addSusu currentUser now
  let image ← s.selectedImage
  return (suShare, resizeImage image)

/-- The screen submits its form, or shows the alert. -/
theorem addSusu_eq (currentUser : Option AuthUser) (now : Timestamp) :
    s.addSusu parse resizeImage currentUser now =
      if (s.form parse).Complete then
        { s with posts := s.posts ++ (s.post parse resizeImage currentUser now).toList }
      else s.showAlert "Missing Fields" "All fields are required, " := by
  unfold addSusu
  cases hr : s.required parse with
  | none => rw [if_neg (by simp [← isSome_required_iff, hr])]
  | some r =>
    rw [if_pos (by simp [← isSome_required_iff, hr])]
    obtain ⟨ht, hd, hn, hc, hs, hi, hp⟩ := required_eq_some.mp hr
    cases currentUser with
    | none =>
      have hform := (s.form parse).isSome_addSusu_iff none now
      have hpost : s.post parse resizeImage none now = none := by simp_all [post]
      simp [hpost]
    | some user => simp [post, CreateForm.addSusu, form, ht, hd, hn, hc, hs, hi, hp, guard]

/-! ## What was entered -/

namespace Event

def title? : Event Image → Option String
  | .titleTextField text => some text
  | _ => none

def description? : Event Image → Option String
  | .descriptionTextView text => some text
  | _ => none

def pot? : Event Image → Option String
  | .potAmount text => some text
  | _ => none

def control? : Event Image → Option ParticipantControls.Event
  | .controls e => some e
  | _ => none

def schedule? : Event Image → Option ScheduleButton
  | .paymentSchedule sender => some sender
  | _ => none

def switch? : Event Image → Option Unit
  | .privacySwitch => some ()
  | _ => none

def image? : Event Image → Option Image
  | .didFinishPickingMedia image => some image
  | _ => none

/-- The category whose row among all categories is tapped. -/
def category? : Event Image → Option Category
  | .table (.didSelectRowAt row) => Category.allCases[row]?
  | _ => none

end Event

/-- The last of the events that has one. -/
def latest {α : Type} (f : Event Image → Option α) (es : List (Event Image)) : Option α :=
  (es.filterMap f).getLast?

theorem filterMap_concat {α β : Type} (f : α → Option β) (l : List α) (a : α) :
    (l ++ [a]).filterMap f = l.filterMap f ++ (f a).toList := by
  rw [List.filterMap_append]
  cases h : f a <;> simp [h]

theorem latest_concat {α : Type} (f : Event Image → Option α) (es : List (Event Image))
    (e : Event Image) : latest f (es ++ [e]) = (f e).or (latest f es) := by
  unfold latest
  rw [filterMap_concat, List.getLast?_append]
  cases f e <;> rfl

/-- What the touches entered. -/
def draft (parse : String → Option Double) (es : List (Event Image)) : CreateForm where
  susuTitle := some ((latest Event.title? es).getD "")
  susuDes := some ((latest Event.description? es).getD "")
  num := (nonEmpty ((latest Event.pot? es).getD "")).bind parse
  controls := .after (es.filterMap Event.control?)
  schedule := (latest Event.schedule? es).map ScheduleButton.restorationIdentifier
  selectedImage := (latest Event.image? es).isSome
  isItPrivate := some (if Odd (es.filterMap Event.switch?).length then .privateState
    else .publicState)
  selectedCategories := (es.filterMap Event.category?).foldl List.toggle []

/-- The screen holds what was entered. -/
structure Entered (es : List (Event Image)) (s : CreateScreen Image) : Prop where
  titleTextField : s.titleTextField = (latest Event.title? es).getD ""
  descriptionTextView : s.descriptionTextView = (latest Event.description? es).getD ""
  potAmount : s.potAmount = (latest Event.pot? es).getD ""
  controls : s.controls = .after (es.filterMap Event.control?)
  schedule : s.schedule = (latest Event.schedule? es).map ScheduleButton.restorationIdentifier
  isOn : s.isOn = decide (Odd (es.filterMap Event.switch?).length)
  isItPrivate : s.isItPrivate = some (if s.isOn then .privateState else .publicState)
  selectedImage : s.selectedImage = latest Event.image? es
  selectedCategories :
    s.table.selectedCategories = (es.filterMap Event.category?).foldl List.toggle []

theorem Entered.form_eq (h : Entered es s) (parse : String → Option Double) :
    s.form parse = draft parse es := by
  unfold form draft
  rw [h.titleTextField, h.descriptionTextView, h.potAmount, h.controls, h.schedule,
    h.isItPrivate, h.isOn, h.selectedImage, h.selectedCategories]
  simp

theorem paymentSchedule_eq (s : CreateScreen Image) (sender : ScheduleButton) :
    s.paymentSchedule sender =
      { s with
        systemGray := insert sender s.systemGray
        schedule := some sender.restorationIdentifier } := by
  cases sender <;> rfl

theorem step_table_eq_some {e : CategoryTable.Event} :
    (system parse resizeImage).step s (.table e) = some s' ↔
      ∃ table, CategoryTable.system.step s.table e = some table ∧ s' = { s with table } := by
  have heq : (system parse resizeImage).step s (.table e) =
    (CategoryTable.system.step s.table e).map fun table => { s with table } := rfl
  rw [heq, Option.map_eq_some_iff]
  simp only [eq_comm]

/-- A step of the table toggles the category of a tapped row. -/
theorem selectedCategories_step {t t' : CategoryTable} {e : CategoryTable.Event}
    (hs : CategoryTable.system.step t e = some t') : t'.selectedCategories =
      ((Event.category? (.table e : Event Image)).toList).foldl List.toggle
        t.selectedCategories := by
  cases e with
  | whenClickedDropDownButton =>
    obtain rfl : t.whenClickedDropDownButton = t' := Option.some.inj hs
    rw [CategoryTable.whenClickedDropDownButton_eq]
    rfl
  | didSelectRowAt row =>
    obtain ⟨-, item, hitem, rfl⟩ := CategoryTable.step_didSelectRowAt_eq_some.mp hs
    simp [Event.category?, hitem]

section Step

attribute [local simp] latest_concat List.filterMap_cons Event.title? Event.description? Event.pot?
  Event.control? Event.schedule? Event.switch? Event.image? Event.category?

theorem Entered.step (h : Entered es s) (hs : (system parse resizeImage).step s e = some s') :
    Entered (es ++ [e]) s' := by
  obtain ⟨h1, h2, h3, h4, h5, h6, h7, h8, h9⟩ := h
  cases e with
  | titleTextField text => cases hs; constructor <;> simp [*]
  | descriptionTextView text => cases hs; constructor <;> simp [*]
  | potAmount text => cases hs; constructor <;> simp [*]
  | controls e => cases hs; constructor <;> simp [*, ParticipantControls.after]
  | paymentSchedule sender =>
    cases hs
    rw [paymentSchedule_eq]
    constructor <;> simp [*]
  | privacySwitch =>
    cases hs
    cases hOn : s.isOn <;> constructor <;> simp_all [privacySwitch, Nat.odd_add_one]
  | didFinishPickingMedia image => cases hs; constructor <;> simp [*, setSelectedImage]
  | table e =>
    obtain ⟨table, ht, rfl⟩ := step_table_eq_some.mp hs
    have htoggle : table.selectedCategories =
        (Event.category? (.table e : Event Image)).toList.foldl List.toggle
          s.table.selectedCategories := selectedCategories_step ht
    constructor
    case selectedCategories => rw [htoggle, h9, filterMap_concat, List.foldl_append]
    all_goals simp [*]
  | addSusu currentUser now =>
    cases hs
    rw [addSusu_eq]
    split <;> constructor <;> simp [*, showAlert]

end Step

theorem entered (h : (system parse resizeImage).Run es s) : Entered es s := by
  refine h.invariant (I := Entered) ?_ ?_
  · rintro _ rfl
    constructor <;> rfl
  · intro _ _ _ _ _ ih hs
    exact ih.step hs

/-! ## What was posted -/

/-- A press of the button, after the events `before`. -/
structure Submission (Image : Type) where
  before : List (Event Image)
  currentUser : Option AuthUser
  now : Timestamp

def Event.submission? (before : List (Event Image)) : Event Image → Option (Submission Image)
  | .addSusu currentUser now => some ⟨before, currentUser, now⟩
  | _ => none

/-- The presses of the button among the events, in order. -/
def submissions (es : List (Event Image)) : List (Submission Image) :=
  (List.range es.length).filterMap fun i => es[i]?.bind (Event.submission? (es.take i))

theorem submissions_concat (es : List (Event Image)) (e : Event Image) :
    submissions (es ++ [e]) = submissions es ++ (e.submission? es).toList := by
  unfold submissions
  rw [List.length_append, List.length_singleton, List.range_succ, List.filterMap_append]
  congr 1
  · refine List.filterMap_congr fun i hi => ?_
    have hlt := List.mem_range.mp hi
    rw [List.getElem?_append_left hlt, List.take_append_of_le_length hlt.le]
  · cases h : e.submission? es <;> simp [h]

namespace Submission

/-- What the press posts : the draft, with the last photo. -/
def post? (parse : String → Option Double) (resizeImage : Image → Image) (p : Submission Image) :
    Option (SuShare × Image) := do
  let suShare ← (draft parse p.before).addSusu p.currentUser p.now
  let image ← latest Event.image? p.before
  return (suShare, resizeImage image)

def alert? (parse : String → Option Double) (p : Submission Image) : Option (String × String) :=
  if (draft parse p.before).Complete then none
  else some ("Missing Fields", "All fields are required, ")

theorem post?_eq_none {p : Submission Image} (h : ¬ (draft parse p.before).Complete) :
    p.post? parse resizeImage = none := by
  have hform := (draft parse p.before).isSome_addSusu_iff p.currentUser p.now
  simp_all [post?]

end Submission

theorem Entered.post_eq (h : Entered es s) (currentUser : Option AuthUser) (now : Timestamp) :
    s.post parse resizeImage currentUser now =
      Submission.post? parse resizeImage ⟨es, currentUser, now⟩ := by
  unfold post Submission.post?
  rw [h.form_eq parse, h.selectedImage]

/-- Only the button posts, or shows an alert. -/
theorem posts_step_of_submission?_eq_none (hs : (system parse resizeImage).step s e = some s')
    (he : e.submission? es = none) : s'.posts = s.posts ∧ s'.alerts = s.alerts := by
  cases e with
  | paymentSchedule sender =>
    cases hs
    rw [paymentSchedule_eq]
    exact ⟨rfl, rfl⟩
  | privacySwitch =>
    cases hs
    unfold privacySwitch
    split <;> exact ⟨rfl, rfl⟩
  | table e =>
    obtain ⟨table, -, rfl⟩ := step_table_eq_some.mp hs
    exact ⟨rfl, rfl⟩
  | addSusu currentUser now => cases he
  | titleTextField | descriptionTextView | potAmount | controls | didFinishPickingMedia =>
    cases hs
    exact ⟨rfl, rfl⟩

theorem Entered.posts_addSusu (h : Entered es s) (currentUser : Option AuthUser)
    (now : Timestamp) :
    (s.addSusu parse resizeImage currentUser now).posts = s.posts ++
        (Submission.post? parse resizeImage ⟨es, currentUser, now⟩).toList ∧
      (s.addSusu parse resizeImage currentUser now).alerts = s.alerts ++
        (Submission.alert? parse ⟨es, currentUser, now⟩).toList := by
  rw [addSusu_eq, h.form_eq parse, h.post_eq]
  unfold Submission.alert?
  split_ifs with hcomplete
  · exact ⟨rfl, (List.append_nil _).symm⟩
  · rw [Submission.post?_eq_none hcomplete]
    exact ⟨(List.append_nil _).symm, rfl⟩

/-- The presses post their drafts, and those without a complete draft show the alert. -/
theorem posts_eq (h : (system parse resizeImage).Run es s) :
    s.posts = (submissions es).filterMap (Submission.post? parse resizeImage) ∧
      s.alerts = (submissions es).filterMap (Submission.alert? parse) := by
  refine h.invariant (I := fun es s =>
    s.posts = (submissions es).filterMap (Submission.post? parse resizeImage) ∧
      s.alerts = (submissions es).filterMap (Submission.alert? parse)) ?_ ?_
  · rintro _ rfl
    exact ⟨rfl, rfl⟩
  · rintro es s e s' hrun ⟨hposts, halerts⟩ hs
    rw [submissions_concat]
    cases he : e.submission? es with
    | none =>
      obtain ⟨hp, ha⟩ := posts_step_of_submission?_eq_none hs he
      simp [hp, ha, hposts, halerts]
    | some p =>
      cases e with
      | addSusu currentUser now =>
        obtain rfl := Option.some.inj he
        obtain rfl := Option.some.inj hs
        have hpress : (s.addSusu parse resizeImage currentUser now).posts = _ ∧ _ :=
          (entered hrun).posts_addSusu currentUser now
        rw [hpress.1, hpress.2, hposts, halerts, Option.toList_some, filterMap_concat,
          filterMap_concat]
        exact ⟨rfl, rfl⟩
      | _ => cases he

/-- Ann posts her SuShare, at the third press. -/
def posting : List (Event String) :=
  [.titleTextField "Roof", .descriptionTextView "A new roof", .potAmount "100",
    .paymentSchedule .monthly, .addSusu (some ⟨"ann", none, none⟩) ⟨0, 0⟩,
    .didFinishPickingMedia "roof", .addSusu none ⟨1, 0⟩, .paymentSchedule .weekly,
    .table .whenClickedDropDownButton, .table (.didSelectRowAt 2), .privacySwitch,
    .addSusu (some ⟨"ann", none, none⟩) ⟨2, 0⟩]

/-- `Double(_:)` on the text that Ann enters. -/
def parsing (text : String) : Option Double :=
  if text = "100" then some (.finite 100) else none

/-- The first press finds no photo, the second nobody signed in. -/
theorem posts_eq_posting : ∃ s, (system parsing id).Run posting s ∧
    s.posts.map (fun post => (post.1.susuTitle, post.1.securityState, post.1.paymentSchedule,
      post.1.category, post.2)) = [("Roof", "privateState", "Weekly", [2], "roof")] ∧
    s.alerts = [("Missing Fields", "All fields are required, ")] := by
  obtain ⟨s, hrun, -⟩ := TransitionSystem.exists_run_of_exec (T := system parsing id) posting
    (fun _ => True) rfl (by decide +kernel)
  obtain ⟨hposts, halerts⟩ := posts_eq hrun
  exact ⟨s, hrun, hposts ▸ by decide +kernel, halerts.trans (by decide +kernel)⟩

/-! ## What is shown -/

/-- The label, the schedule buttons and the image view show what was entered. -/
structure Shown (es : List (Event Image)) (s : CreateScreen Image) : Prop where
  privacySettingsLabel : s.privacySettingsLabel = "Privacy Setting: ON" ↔ s.isOn
  systemGray : s.systemGray = (es.filterMap Event.schedule?).toFinset
  susuImage : s.susuImage = s.selectedImage

theorem Shown.of_eq (h : Shown es s) (he : e.schedule? = none)
    (hlabel : s'.privacySettingsLabel = "Privacy Setting: ON" ↔ s'.isOn)
    (hgray : s'.systemGray = s.systemGray) (himage : s'.susuImage = s'.selectedImage) :
    Shown (es ++ [e]) s' where
  privacySettingsLabel := hlabel
  systemGray := by
    rw [hgray, h.systemGray, filterMap_concat, he, Option.toList_none, List.append_nil]
  susuImage := himage

theorem Shown.step (h : Shown es s) (hs : (system parse resizeImage).step s e = some s') :
    Shown (es ++ [e]) s' := by
  have ⟨hlabel, hgray, himage⟩ := h
  cases e with
  | paymentSchedule sender =>
    cases hs
    rw [paymentSchedule_eq]
    refine ⟨hlabel, ?_, himage⟩
    ext b
    simp [hgray, Event.schedule?]
  | privacySwitch =>
    cases hs
    unfold privacySwitch
    split
    · exact h.of_eq rfl (iff_of_true rfl ‹_›) rfl himage
    · exact h.of_eq rfl (iff_of_false (by simp) ‹_›) rfl himage
  | didFinishPickingMedia image =>
    cases hs
    exact h.of_eq rfl hlabel rfl rfl
  | table e =>
    obtain ⟨table, -, rfl⟩ := step_table_eq_some.mp hs
    exact h.of_eq rfl hlabel rfl himage
  | addSusu currentUser now =>
    cases hs
    rw [addSusu_eq]
    split <;> exact h.of_eq rfl hlabel rfl himage
  | titleTextField | descriptionTextView | potAmount | controls =>
    cases hs
    exact h.of_eq rfl hlabel rfl himage

theorem shown (h : (system parse resizeImage).Run es s) : Shown es s := by
  refine h.invariant (I := Shown) ?_ ?_
  · rintro _ rfl
    exact ⟨by simp [viewDidLoad], rfl, rfl⟩
  · intro _ _ _ _ _ ih hs
    exact ih.step hs

/-- The last button that was tapped is grey, and it is the only one if no other was tapped. -/
theorem Shown.systemGray_eq_singleton_iff (h : Shown es s) {b : ScheduleButton}
    (hb : latest Event.schedule? es = some b) :
    b ∈ s.systemGray ∧ (s.systemGray = {b} ↔
      ∀ c ∈ es.filterMap Event.schedule?, ∀ d ∈ es.filterMap Event.schedule?, c = d) := by
  have hmem := List.mem_of_getLast? hb
  rw [h.systemGray]
  refine ⟨List.mem_toFinset.mpr hmem, ?_⟩
  simp only [Finset.eq_singleton_iff_unique_mem, List.mem_toFinset]
  constructor
  · rintro ⟨-, hall⟩ c hc d hd
    rw [hall c hc, hall d hd]
  · intro hall
    exact ⟨hmem, fun c hc => hall c hc b hmem⟩

/-- What a press posts is what the screen shows, and the schedule is that of the only grey button
exactly if no two were tapped. -/
theorem posted_as_shown (h : (system parse resizeImage).Run es s) {currentUser : Option AuthUser}
    {now : Timestamp} {v : SuShare} {image : Image}
    (hpost : s.post parse resizeImage currentUser now = some (v, image)) :
    v.susuTitle = s.titleTextField ∧ v.suShareDescription = s.descriptionTextView ∧
    parse s.potAmount = some v.potAmount ∧
    (v.securityState = Security.privateState.rawValue ↔
      s.privacySettingsLabel = "Privacy Setting: ON") ∧
    (∃ photo, s.susuImage = some photo ∧ image = resizeImage photo) ∧
    (∀ category : Category, category.rawValue ∈ v.category ↔
      Odd ((es.filterMap Event.category?).count category)) ∧
    ∃ b ∈ s.systemGray, v.paymentSchedule = b.restorationIdentifier ∧ (s.systemGray = {b} ↔
      ∀ c ∈ es.filterMap Event.schedule?, ∀ d ∈ es.filterMap Event.schedule?, c = d) := by
  have hentered := entered h
  have hshown := shown h
  obtain ⟨v', hv, photo, hphoto, he⟩ : ∃ v', (s.form parse).addSusu currentUser now = some v' ∧
      ∃ photo, s.selectedImage = some photo ∧ (v', resizeImage photo) = (v, image) := by
    simpa only [post, bind, pure, Option.bind_eq_some_iff, Option.some.injEq] using hpost
  cases he
  have hposts := CreateForm.posts_of_addSusu hv
  refine ⟨(eq_of_nonEmpty hposts.susuTitle).symm, (eq_of_nonEmpty hposts.suShareDescription).symm,
    ?_, ?_, ⟨photo, hshown.susuImage.trans hphoto, rfl⟩, ?_, ?_⟩
  · obtain ⟨text, ht, hp⟩ := Option.bind_eq_some_iff.mp hposts.potAmount
    rw [eq_of_nonEmpty ht, hp]
  · have hsecurity := hposts.securityState
    have hprivate := hentered.isItPrivate
    rw [hshown.privacySettingsLabel]
    simp only [form, hprivate, Option.map_some, Option.some.injEq] at hsecurity
    rw [← hsecurity]
    cases s.isOn <;> decide
  · intro category
    rw [hposts.category, ← List.mem_foldl_toggle_nil, ← hentered.selectedCategories]
    exact List.mem_map_of_injective Category.rawValue_injective
  · have hschedule := hposts.paymentSchedule
    rw [show (s.form parse).schedule = s.schedule from rfl, hentered.schedule] at hschedule
    obtain ⟨b, hb, hv⟩ := Option.map_eq_some_iff.mp hschedule
    obtain ⟨hmem, hiff⟩ := hshown.systemGray_eq_singleton_iff hb
    exact ⟨b, hmem, hv.symm, hiff⟩

/-- A fourth press would post what Ann sees, of whose two grey buttons one is posted. -/
theorem posted_as_shown_posting : ∃ s v image, (system parsing id).Run posting s ∧
    s.post parsing id (some ⟨"ann", none, none⟩) ⟨3, 0⟩ = some (v, image) ∧
    v.susuTitle = s.titleTextField ∧ s.susuImage = some image ∧
    ∃ b ∈ s.systemGray, v.paymentSchedule = b.restorationIdentifier ∧ s.systemGray ≠ {b} := by
  obtain ⟨s, hrun, hsome⟩ := TransitionSystem.exists_run_of_exec (T := system parsing id) posting
    (fun s => (s.post parsing id (some ⟨"ann", none, none⟩) ⟨3, 0⟩).isSome) rfl (by decide +kernel)
  obtain ⟨⟨v, image⟩, hpost⟩ := Option.isSome_iff_exists.mp hsome
  obtain ⟨htitle, -, -, -, ⟨photo, hphoto, himage⟩, -, b, hb, hschedule, hiff⟩ :=
    posted_as_shown hrun hpost
  have htwo : ¬ ∀ c ∈ posting.filterMap Event.schedule?,
      ∀ d ∈ posting.filterMap Event.schedule?, c = d := by decide
  exact ⟨s, v, image, hrun, hpost, htitle, hphoto.trans (congrArg some himage.symm), b, hb,
    hschedule, fun hone => htwo (hiff.mp hone)⟩

end CreateScreen

end SuShareApp
