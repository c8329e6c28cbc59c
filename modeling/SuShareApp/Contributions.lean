import SuShareApp.CreateForm
import SuShareApp.DatabaseService
import SuShareApp.Participants
import SuShareApp.Payment

/-!
# The contribution of a participant

The checkout screen computes a participant's share of the pot twice : `viewDidLoad` truncates
it to the cents that are charged, and the cell above the button prints it with two decimals.
In exact arithmetic both are the share in cents (`shareInCents`), cut or rounded to a whole
number.

So the participants together pay what is left of the pot after its remainder by their number
(`contributions_add_up`), and the cell shows a cent more than is charged from the middle
between two cents on (`shown_iff_charged`). Nothing but the form of its text is checked of a
pot, and a share that is no number of cents in 64 bits traps when the screen is opened, while
a small one is charged as nothing, or less (`pot_payable_iff`).
-/

namespace SuShareApp

/-! ## Cents -/

/-- A participant's share of the pot, in cents. -/
def shareInCents (pot : ℚ) (participants : ℤ) : ℚ :=
  pot / participants * 100

namespace Double

theorem toInt?_of_nonneg {q : ℚ} (hq : 0 ≤ q) :
    toInt? (.finite q) = if q < 2 ^ 63 then some ⌊q⌋ else none := by
  have hlow : -2 ^ 63 ≤ ⌊q⌋ := by linarith [Int.floor_nonneg.mpr hq]
  have hhigh : ⌊q⌋ < 2 ^ 63 ↔ q < 2 ^ 63 := by
    rw [Int.floor_lt]
    norm_num
  simp only [toInt?, truncate_of_nonneg hq, hlow, hhigh, true_and]

/-- `Int(_:)` gives a positive number exactly if there is one in range. -/
theorem exists_toInt?_pos_iff {q : ℚ} :
    (∃ n, toInt? (.finite q) = some n ∧ 1 ≤ n) ↔ 1 ≤ q ∧ q < 2 ^ 63 := by
  rcases le_or_gt 0 q with hq | hq
  · rw [toInt?_of_nonneg hq]
    constructor
    · rintro ⟨n, h, hn⟩
      obtain ⟨hlt, h⟩ := Option.ite_none_right_eq_some.mp h
      obtain rfl := Option.some.inj h
      exact ⟨by exact_mod_cast Int.le_floor.mp hn, hlt⟩
    · rintro ⟨h1, hlt⟩
      exact ⟨⌊q⌋, if_pos hlt, Int.le_floor.mpr (by exact_mod_cast h1)⟩
  · refine iff_of_false ?_ fun h => by linarith [h.1]
    rintro ⟨n, h, hn⟩
    obtain ⟨-, h⟩ := Option.ite_none_right_eq_some.mp h
    obtain rfl := Option.some.inj h
    rw [truncate, if_neg hq.not_ge] at hn
    have hceil : ⌈q⌉ ≤ 0 := Int.ceil_le.mpr (by exact_mod_cast hq.le)
    omega

/-- The hundredths that `String(format: "%.2f", d)` prints. Of a value that is infinite or not
a number it prints no digits. -/
def hundredths : Double → Option ℤ
  | .finite q => some (roundHalfEven (q * 100))
  | _ => none

end Double

variable {s : SuShare} {pot : ℚ}

theorem paymentAmount_exact (hpot : s.potAmount = .finite pot) (hn : 0 < s.numOfParticipants) :
    paymentAmount .finite s = .finite (pot / s.numOfParticipants) := by
  have hne : (s.numOfParticipants : ℚ) ≠ 0 := by exact_mod_cast hn.ne'
  rw [paymentAmount, hpot, Double.ofInt, Double.div, if_neg hne]

theorem paymentInt_exact (hpot : s.potAmount = .finite pot) (hn : 0 < s.numOfParticipants) :
    paymentInt .finite s = (Double.finite (shareInCents pot s.numOfParticipants)).toInt? := by
  rw [paymentInt_eq, paymentAmount_exact hpot hn]
  rfl

theorem shareInCents_nonneg (hpot : 0 ≤ pot) {n : ℤ} (hn : 0 < n) : 0 ≤ shareInCents pot n := by
  have hpos : (0 : ℚ) < n := by exact_mod_cast hn
  unfold shareInCents
  positivity

theorem shareInCents_lt_iff {n : ℤ} (hn : 0 < n) {bound : ℚ} :
    shareInCents pot n < bound ↔ 100 * pot < bound * n := by
  have hpos : (0 : ℚ) < n := by exact_mod_cast hn
  rw [shareInCents, div_mul_eq_mul_div, div_lt_iff₀ hpos, mul_comm pot]

theorem le_shareInCents_iff {n : ℤ} (hn : 0 < n) {bound : ℚ} :
    bound ≤ shareInCents pot n ↔ bound * n ≤ 100 * pot := by
  rw [← not_lt, shareInCents_lt_iff hn, not_lt]

/-! ## The contributions together -/

/-- The share of a pot in whole cents, cut to whole cents. -/
theorem floor_shareInCents (cents : ℤ) {n : ℤ} (hn : 0 < n) :
    ⌊shareInCents (cents / 100) n⌋ = cents / n := by
  have hshare : shareInCents (cents / 100) n = (cents : ℚ) / n := by
    unfold shareInCents
    ring
  obtain ⟨k, rfl⟩ := Int.eq_ofNat_of_zero_le hn.le
  rw [hshare]
  exact Rat.floor_intCast_div_natCast cents k

/-- Of a pot in whole cents the participants pay all but the remainder by their number, and
all of it exactly if it can be divided by their number. -/
theorem contributions_add_up {cents : ℤ} (hpot : s.potAmount = .finite (cents / 100))
    (hcents : 0 < cents) (hn : 2 ≤ s.numOfParticipants)
    (hlt : cents < 2 ^ 63 * s.numOfParticipants) :
    ∃ charge, paymentInt .finite s = some charge ∧
      s.numOfParticipants * charge = cents - cents % s.numOfParticipants ∧
      (s.numOfParticipants * charge = cents ↔ s.numOfParticipants ∣ cents) := by
  have hpos : 0 < s.numOfParticipants := by omega
  have hnonneg : 0 ≤ shareInCents (cents / 100) s.numOfParticipants :=
    shareInCents_nonneg (div_nonneg (by exact_mod_cast hcents.le) (by norm_num)) hpos
  have hshare : shareInCents (cents / 100) s.numOfParticipants < 2 ^ 63 := by
    rw [shareInCents_lt_iff hpos, mul_div_cancel₀ _ (by norm_num)]
    exact_mod_cast hlt
  refine ⟨cents / s.numOfParticipants, ?_, ?_, ?_⟩
  · rw [paymentInt_exact hpot hpos, Double.toInt?_of_nonneg hnonneg, if_pos hshare,
      floor_shareInCents cents hpos]
  · linarith [Int.mul_ediv_add_emod cents s.numOfParticipants]
  · exact ⟨fun h => ⟨_, h.symm⟩, Int.mul_ediv_cancel'⟩

/-- A SuShare with a pot among the participants. -/
def sharing (pot : Double) (participants : ℤ) : SuShare :=
  { Sample.roof with potAmount := pot, numOfParticipants := participants }

/-- Of ten dollars among three, a cent is paid by nobody. -/
theorem contributions_add_up_ten : ∃ charge,
    paymentInt .finite (sharing (.finite ((1000 : ℤ) / 100)) 3) = some charge ∧
      3 * charge = 999 := by
  have hpot : (sharing (.finite ((1000 : ℤ) / 100)) 3).potAmount = .finite ((1000 : ℤ) / 100) := rfl
  obtain ⟨charge, hcharge, hsum, -⟩ := contributions_add_up hpot (by norm_num) (by decide)
    (by decide)
  exact ⟨charge, hcharge, hsum⟩

theorem not_contributions_add_up : ¬ ∀ (s : SuShare) (cents : ℤ),
    s.potAmount = .finite (cents / 100) → 0 < cents → 2 ≤ s.numOfParticipants →
      ∃ charge, paymentInt .finite s = some charge ∧ s.numOfParticipants * charge = cents := by
  intro h
  obtain ⟨charge, -, hsum⟩ := h (sharing (.finite ((1000 : ℤ) / 100)) 3) 1000 rfl (by norm_num)
    (by decide)
  change 3 * charge = 1000 at hsum
  omega

/-! ## What the checkout screen shows -/

/-- The labels of the cell, of the total the number of cents that it shows. -/
structure SubscribeCell where
  paymentFreqLabel : String
  totalLabel : Option ℤ

def SubscribeCell.configureCell (rnd : ℚ → Double) (suShare : SuShare) : SubscribeCell where
  paymentFreqLabel := suShare.paymentSchedule ++ ":"
  totalLabel := (paymentAmount rnd suShare).hundredths

/-- The amount that the screen, once opened, sends to `createChargeFunction`. -/
def Checkout.amountSent (rnd : ℚ → Double) (suShare : SuShare) : Option ℤ := do
  let st ← Checkout.viewDidLoad rnd suShare
  let st ← st.step .paymentContextDidChange
  st.calls.head?

/-- Every call of the screen is for the amount of `viewDidLoad`. -/
theorem Checkout.amountSent_eq (rnd : ℚ → Double) (suShare : SuShare) :
    Checkout.amountSent rnd suShare = paymentInt rnd suShare := by
  unfold amountSent viewDidLoad
  cases paymentInt rnd suShare with
  | none => rfl
  | some amount => rfl

/-- The cell shows the amount that is charged exactly if the share, in cents, is in range and
nearest to the whole number below it. -/
theorem shown_iff_charged (hpot : s.potAmount = .finite pot) (hpos : 0 < pot)
    (hn : 2 ≤ s.numOfParticipants) :
    (∃ cents, (SubscribeCell.configureCell .finite s).totalLabel = some cents ∧
      Checkout.amountSent .finite s = some cents) ↔
      shareInCents pot s.numOfParticipants < 2 ^ 63 ∧
        RoundsDown (shareInCents pot s.numOfParticipants) := by
  have hparticipants : 0 < s.numOfParticipants := by omega
  have hnonneg := shareInCents_nonneg hpos.le hparticipants
  have hshown : (SubscribeCell.configureCell .finite s).totalLabel =
      some (roundHalfEven (shareInCents pot s.numOfParticipants)) := by
    rw [SubscribeCell.configureCell, paymentAmount_exact hpot hparticipants]
    rfl
  rw [hshown, Checkout.amountSent_eq, paymentInt_exact hpot hparticipants,
    Double.toInt?_of_nonneg hnonneg, ← roundHalfEven_eq_floor_iff]
  constructor
  · rintro ⟨cents, hcents, hcharge⟩
    obtain ⟨hlt, hcharge⟩ := Option.ite_none_right_eq_some.mp hcharge
    exact ⟨hlt, Option.some.inj (hcents.trans hcharge.symm)⟩
  · rintro ⟨hlt, heq⟩
    exact ⟨_, rfl, by rw [if_pos hlt, heq]⟩

/-- A hundred dollars among three are 33.33 for each, in the cell and on the card. -/
theorem shown_iff_charged_hundred : ∃ cents,
    (SubscribeCell.configureCell .finite (sharing (.finite 100) 3)).totalLabel = some cents ∧
      Checkout.amountSent .finite (sharing (.finite 100) 3) = some cents := by
  refine (shown_iff_charged (s := sharing (.finite 100) 3) rfl (by norm_num) (by decide)).mpr ?_
  unfold RoundsDown shareInCents
  decide +kernel

/-- Of two hundred dollars among three, the cell shows 66.67 and 66.66 are charged. -/
theorem not_shown_charged : ¬ ∀ (s : SuShare) (pot : ℚ), s.potAmount = .finite pot → 0 < pot →
    2 ≤ s.numOfParticipants →
      ∃ cents, (SubscribeCell.configureCell .finite s).totalLabel = some cents ∧
        Checkout.amountSent .finite s = some cents := by
  intro h
  obtain ⟨cents, hshown, hcharged⟩ := h (sharing (.finite 200) 3) 200 rfl (by norm_num) (by decide)
  have hne : (SubscribeCell.configureCell .finite (sharing (.finite 200) 3)).totalLabel ≠
      Checkout.amountSent .finite (sharing (.finite 200) 3) := by decide +kernel
  exact hne (hshown.trans hcharged.symm)

/-! ## What the form accepts -/

/-- The payment screen of the SuShare opens, and charges a cent or more. -/
def Payable (suShare : SuShare) : Prop :=
  ∃ st, Checkout.viewDidLoad .finite suShare = some st ∧ 1 ≤ st.paymentAmount

theorem payable_iff : Payable s ↔ ∃ charge, paymentInt .finite s = some charge ∧ 1 ≤ charge := by
  unfold Payable Checkout.viewDidLoad
  cases paymentInt .finite s with
  | none => simp
  | some charge => simp

/-- A pot that is infinite or not a number is not paid. -/
theorem payable_iff_pot (hn : 0 < s.numOfParticipants) : Payable s ↔
    ∃ pot, s.potAmount = .finite pot ∧ s.numOfParticipants ≤ 100 * pot ∧
      100 * pot < 2 ^ 63 * s.numOfParticipants := by
  rw [payable_iff]
  cases hpot : s.potAmount with
  | finite pot =>
    rw [paymentInt_exact hpot hn, Double.exists_toInt?_pos_iff, le_shareInCents_iff hn,
      shareInCents_lt_iff hn, one_mul]
    simp
  | infinity negative =>
    refine iff_of_false ?_ (by simp)
    rintro ⟨charge, hcharge, -⟩
    rw [paymentInt, hpot] at hcharge
    simp [Double.ofInt, Double.div, Double.mul, Double.toInt?] at hcharge
  | nan =>
    refine iff_of_false ?_ (by simp)
    rintro ⟨charge, hcharge, -⟩
    rw [paymentInt, hpot] at hcharge
    simp [Double.div, Double.mul, Double.toInt?] at hcharge

/-- The pot of the form, and its number of participants, are those that are read back from the
document, whatever is written to it later. -/
theorem CreateForm.of_extends {form : CreateForm} {user : AuthUser} {now : Timestamp}
    (h : form.addSusu (some user) now = some s) {db db' : Store} {docRef : String}
    (hext : (db.createASusu user docRef s).Extends db') (clock : Timestamp) :
    ∃ doc, db'.suShare.get? docRef = some doc ∧
      form.num = some (SuShare.init clock doc).potAmount ∧
      (SuShare.init clock doc).numOfParticipants = form.controls.amountOfParticipants := by
  obtain ⟨-, -, -, hparticipants⟩ := CreateForm.of_addSusu h
  have hnum : form.num = some s.potAmount := by
    simp only [addSusu, bind, Option.bind_eq_some_iff] at h
    obtain ⟨_, -, _, -, num, hnum, _, -, _, -, _, -, _, -, h⟩ := h
    cases h
    exact hnum
  obtain ⟨doc, hdoc, hkeys⟩ := hext docRef _ (Collection.get?_setData_self _ _ _)
  have hpot : doc "potAmount" = some (.double s.potAmount) := hkeys _ (by decide)
  have hcount : doc "numOfParticipants" = some (.int s.numOfParticipants) := hkeys _ (by decide)
  refine ⟨doc, hdoc, ?_, ?_⟩
  · have hread : (SuShare.init clock doc).potAmount = s.potAmount :=
      Dictionary.read_of_some hpot rfl
    rw [hnum, hread]
  · rw [← hparticipants]
    exact Dictionary.read_of_some hcount rfl

/-- A SuShare that was created with the form can be paid, at any time later, exactly if the pot
is a number that leaves every participant with a share of a cent or more, and of less than
`2 ^ 63` cents. -/
theorem pot_payable_iff {form : CreateForm} {user : AuthUser} {now : Timestamp}
    (h : form.addSusu (some user) now = some s) {db db' : Store} {docRef : String}
    (hext : (db.createASusu user docRef s).Extends db') (clock : Timestamp) :
    ∃ doc, db'.suShare.get? docRef = some doc ∧
      (Payable (SuShare.init clock doc) ↔
        ∃ pot, form.num = some (.finite pot) ∧
          form.controls.amountOfParticipants ≤ 100 * pot ∧
          100 * pot < 2 ^ 63 * form.controls.amountOfParticipants) := by
  obtain ⟨doc, hdoc, hnum, hparticipants⟩ := CreateForm.of_extends h hext clock
  have hpos := form.controls.amount_mem.1
  refine ⟨doc, hdoc, ?_⟩
  rw [payable_iff_pot (by omega), hnum, hparticipants]
  simp only [Option.some.injEq]

/-- The create form with the pot, and what it posts. -/
def potForm (pot : Double) : CreateForm :=
  { Sample.form with num := some pot }

def potPosted (pot : Double) : SuShare :=
  { Sample.posted with potAmount := pot }

theorem addSusu_potForm (pot : Double) :
    (potForm pot).addSusu (some Sample.ann) ⟨0, 0⟩ = some (potPosted pot) :=
  rfl

/-- A hundred dollars among four can be paid. -/
theorem pot_payable_hundred : ∃ doc, ((World.initial .empty).db.createASusu Sample.ann "d1"
    (potPosted (.finite 100))).suShare.get? "d1" = some doc ∧
      Payable (SuShare.init ⟨0, 0⟩ doc) := by
  obtain ⟨doc, hdoc, hpayable⟩ := pot_payable_iff (addSusu_potForm (.finite 100))
    (Store.Extends.refl ((World.initial .empty).db.createASusu Sample.ann "d1" _)) ⟨0, 0⟩
  refine ⟨doc, hdoc, hpayable.mpr ⟨100, rfl, ?_, ?_⟩⟩
  · decide +kernel
  · decide +kernel

/-- `1e30` is accepted, and opening the payment screen traps. -/
theorem not_pot_payable : ¬ ∀ (form : CreateForm) (user : AuthUser) (now : Timestamp) (s : SuShare)
    (db : Store) (docRef : String) (clock : Timestamp), form.addSusu (some user) now = some s →
      ∃ doc, (db.createASusu user docRef s).suShare.get? docRef = some doc ∧
        Payable (SuShare.init clock doc) := by
  intro h
  obtain ⟨doc, hdoc, hpayable⟩ := h (potForm (.finite (10 ^ 30))) Sample.ann ⟨0, 0⟩ _
    (World.initial .empty).db "d1" ⟨0, 0⟩ (addSusu_potForm _)
  obtain rfl := Option.some.inj ((Collection.get?_setData_self _ _ _).symm.trans hdoc)
  obtain ⟨st, hst, -⟩ := hpayable
  -- the share in cents is out of range
  have htrap : Checkout.viewDidLoad .finite (SuShare.init ⟨0, 0⟩ (Store.suShareDocument Sample.ann
      "d1" (potPosted (.finite (10 ^ 30))))) = none := by
    rw [Checkout.viewDidLoad, Option.map_eq_none_iff]
    decide +kernel
  rw [htrap] at hst
  cases hst

end SuShareApp
