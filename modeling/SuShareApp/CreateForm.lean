import SuShareApp.Models
import Mathlib.Order.Interval.Set.Defs

/-!
# The create form

`CreateSusuViewController` : the two linked participant controls and `addSusu`, which
checks that the fields are filled in and builds the `SuShare` that `createASusu` posts.

UIKit confines the slider and the stepper to the range `configureController` sets, 2 to
10, so the controls carry their range, and `amountOfParticipants` is the truncation of
the stepper's value in every state of the form. The label rounds that value instead, so it
shows another number than the form posts from the middle between two numbers on
(`label_shows_amount_iff`).
-/

namespace SuShareApp

/-! ## The participant controls -/

/-- `sliderForParticipaints`, `stepperForparticipaints`, the count that `addSusu` posts,
and the number that the label shows. -/
structure ParticipantControls where
  slider : ℚ
  stepper : ℚ
  amountOfParticipants : ℤ
  /-- The outlets `numberLabel` and `numberOfParticipaintLabel` are one label. -/
  numberLabel : ℤ
  slider_mem : slider ∈ Set.Icc (2 : ℚ) 10
  stepper_mem : stepper ∈ Set.Icc (2 : ℚ) 10
  amount_eq : amountOfParticipants = truncate stepper

namespace ParticipantControls

/-- The controls after `configureController`. -/
def configureController : ParticipantControls where
  slider := 4
  stepper := 4
  amountOfParticipants := 4
  numberLabel := 4
  slider_mem := by constructor <;> norm_num
  stepper_mem := by constructor <;> norm_num
  amount_eq := by decide +kernel

/-- `participantSlider`, when the slider was moved to `amount`. -/
def participantSlider (c : ParticipantControls) (amount : Set.Icc (2 : ℚ) 10) :
    ParticipantControls :=
  { c with
    slider := amount
    stepper := amount
    amountOfParticipants := truncate amount
    numberLabel := roundHalfEven amount
    slider_mem := amount.2
    stepper_mem := amount.2
    amount_eq := rfl }

/-- The stepper's value after a tap on plus or minus : UIKit moves it by the step value,
within the range. -/
def tapped (c : ParticipantControls) (plus : Bool) : ℚ :=
  max 2 (min 10 (c.stepper + if plus then 1 else -1))

theorem tapped_mem (c : ParticipantControls) (plus : Bool) : c.tapped plus ∈ Set.Icc (2 : ℚ) 10 :=
  ⟨le_max_left _ _, max_le (by norm_num) (min_le_left _ _)⟩

/-- `participantStepper`, after a tap on plus or minus. -/
def participantStepper (c : ParticipantControls) (plus : Bool) : ParticipantControls :=
  { c with
    slider := c.tapped plus
    stepper := c.tapped plus
    amountOfParticipants := truncate (c.tapped plus)
    numberLabel := roundHalfEven (c.tapped plus)
    slider_mem := c.tapped_mem plus
    stepper_mem := c.tapped_mem plus
    amount_eq := rfl }

/-- The count the form posts is between 2 and 10. -/
theorem amount_mem (c : ParticipantControls) :
    2 ≤ c.amountOfParticipants ∧ c.amountOfParticipants ≤ 10 := by
  obtain ⟨h2, h10⟩ := c.stepper_mem
  rw [c.amount_eq, truncate_of_nonneg (by linarith)]
  exact ⟨Int.le_floor.mpr (by exact_mod_cast h2), by
    have := Int.floor_le_floor h10
    simpa using this⟩

/-! ### The label -/

/-- A touch of one of the controls. -/
inductive Event
  | participantSlider (amount : Set.Icc (2 : ℚ) 10)
  | participantStepper (plus : Bool)

def handle (c : ParticipantControls) : Event → ParticipantControls
  | .participantSlider amount => c.participantSlider amount
  | .participantStepper plus => c.participantStepper plus

/-- The controls after the touches. -/
def after (es : List Event) : ParticipantControls :=
  es.foldl handle configureController

/-- `sender.value`, as the handler of the touch finds it. -/
def senderValue (c : ParticipantControls) : Event → ℚ
  | .participantSlider amount => amount
  | .participantStepper plus => c.tapped plus

theorem senderValue_mem (c : ParticipantControls) (e : Event) :
    c.senderValue e ∈ Set.Icc (2 : ℚ) 10 := by
  cases e with
  | participantSlider amount => exact amount.2
  | participantStepper plus => exact c.tapped_mem plus

/-- Both handlers truncate the value for the count, and round it for the label. -/
theorem handle_eq (c : ParticipantControls) (e : Event) :
    (c.handle e).amountOfParticipants = truncate (c.senderValue e) ∧
      (c.handle e).numberLabel = roundHalfEven (c.senderValue e) := by
  cases e with
  | participantSlider amount => exact ⟨rfl, rfl⟩
  | participantStepper plus => exact ⟨rfl, rfl⟩

theorem numberLabel_handle_iff (c : ParticipantControls) (e : Event) :
    (c.handle e).numberLabel = (c.handle e).amountOfParticipants ↔
      RoundsDown (c.senderValue e) := by
  obtain ⟨hamount, hlabel⟩ := c.handle_eq e
  have hnonneg : 0 ≤ c.senderValue e := by linarith [(c.senderValue_mem e).1]
  rw [hlabel, hamount, truncate_of_nonneg hnonneg, roundHalfEven_eq_floor_iff]

/-- After each touch of a run the label shows the count that will be posted, exactly if the value
of each touch is below the middle between two numbers, or in the middle above an even one. -/
theorem label_shows_amount_iff (es : List Event) :
    (∀ pre e, pre ++ [e] <+: es →
      (after (pre ++ [e])).numberLabel = (after (pre ++ [e])).amountOfParticipants) ↔
      ∀ pre e, pre ++ [e] <+: es → RoundsDown ((after pre).senderValue e) := by
  refine forall₂_congr fun pre e => imp_congr_right fun _ => ?_
  have hafter : after (pre ++ [e]) = (after pre).handle e := by
    rw [after, List.foldl_append]
    rfl
  rw [hafter]
  exact numberLabel_handle_iff _ e

/-- The slider at 2.7 shows 3 and posts 2. -/
theorem not_label_shows_amount : ¬ ∀ (es pre : List Event) (e : Event), pre ++ [e] <+: es →
    (after (pre ++ [e])).numberLabel = (after (pre ++ [e])).amountOfParticipants := by
  intro h
  have hlabel := h _ [] (.participantSlider ⟨27 / 10, by constructor <;> norm_num⟩)
    (List.prefix_refl _)
  exact absurd hlabel (by decide +kernel)

end ParticipantControls

/-! ## Submitting -/

/-- What the user entered. A field of the form that is still empty is `none`;
`amountOfParticipants` never is, since `configureController` sets it. -/
structure CreateForm where
  susuTitle : Option String
  susuDes : Option String
  /-- `Double(potAmount.text)` -/
  num : Option Double
  controls : ParticipantControls
  schedule : Option String
  selectedImage : Bool
  isItPrivate : Option Security
  selectedCategories : List Category

/-- `!text.isEmpty` -/
def nonEmpty (text : String) : Option String :=
  if text = "" then none else some text

theorem eq_of_nonEmpty {text t : String} (h : nonEmpty text = some t) : text = t :=
  Option.some.inj (Option.ite_none_left_eq_some.mp h).2

/-- `addSusu` : the value handed to `createASusu`, if every field is filled in and a user
is signed in. `now` is the clock. -/
def CreateForm.addSusu (form : CreateForm) (currentUser : Option AuthUser) (now : Timestamp) :
    Option SuShare := do
  let susuTitle ← form.susuTitle.bind nonEmpty
  let susuDes ← form.susuDes.bind nonEmpty
  let num ← form.num
  let paymentSchedule ← form.schedule
  let _ ← guard form.selectedImage
  let securitySetting ← form.isItPrivate
  let user ← currentUser
  return {
    securityState := securitySetting.rawValue
    susuTitle
    imageURL := "should be accessed from storage"
    suShareDescription := susuDes
    potAmount := num
    numOfParticipants := form.controls.amountOfParticipants
    paymentSchedule
    userId := "nil"
    category := form.selectedCategories.map Category.rawValue
    createdDate := now
    suShareId := "nil"
    usersInTheSuShare := [user.uid]
    isTheSuShareFlagged := false
    favId := "" }

/-- A SuShare is posted by a signed-in user, as its only member, for the participants the
controls show. -/
theorem CreateForm.of_addSusu {form : CreateForm} {currentUser : Option AuthUser}
    {now : Timestamp} {s : SuShare} (h : form.addSusu currentUser now = some s) :
    ∃ user, currentUser = some user ∧ s.usersInTheSuShare = [user.uid] ∧
      s.numOfParticipants = form.controls.amountOfParticipants := by
  simp only [addSusu, bind, Option.bind_eq_some_iff] at h
  obtain ⟨_, -, _, -, _, -, _, -, _, -, _, -, user, hu, h⟩ := h
  cases h
  exact ⟨user, hu, rfl, rfl⟩

end SuShareApp
