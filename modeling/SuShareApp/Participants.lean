import SuShareApp.Integrity

/-!
# The number of participants

Two screens divide the members of a SuShare by its participants in whole numbers, which traps
on zero, and zero is what the decoder falls back to. The payment screen divides the pot.

The number comes from the controls of a create form, which keep it between 2 and 10 whatever
the slider and the stepper do (`ParticipantControls.amount_mem`). Both encoders write it, and
it is among the terms that no update changes, so every document has it, and every copy that
was decoded from one.
-/

namespace SuShareApp

/-- `a / b` for `Int`s, or `none` where it traps. -/
def intDiv? (a b : ℤ) : Option ℤ :=
  if b = 0 ∨ a = -2 ^ 63 ∧ b = -1 then none else some (a.tdiv b)

/-- The quotient of `configureCell`, which the progress of the cell is made from. -/
def ExploreCell.configureCell (suShare : SuShare) : Option ℤ :=
  intDiv? suShare.usersInTheSuShare.length suShare.numOfParticipants

/-- The quotient of `loadUI`. Without a SuShare or the user's photo it returns before. -/
def DetailViewController.loadUI (user : Option User) (sushare : Option SuShare) :
    Option (Option ℤ) :=
  match sushare, user with
  | some sushare, some _ =>
    (intDiv? sushare.usersInTheSuShare.length sushare.numOfParticipants).map some
  | _, _ => some none

/-- The share of `PaymentViewController.viewDidLoad`. -/
def paymentAmount (rnd : ℚ → Double) (suShare : SuShare) : Double :=
  suShare.potAmount.div rnd (.ofInt rnd suShare.numOfParticipants)

theorem paymentInt_eq (rnd : ℚ → Double) (suShare : SuShare) :
    paymentInt rnd suShare = ((paymentAmount rnd suShare).mul rnd (.finite 100)).toInt? :=
  rfl

theorem isSome_intDiv? {a b : ℤ} (hb : 0 < b) : (intDiv? a b).isSome := by
  have hno : ¬(b = 0 ∨ a = -2 ^ 63 ∧ b = -1) := by omega
  rw [intDiv?, if_neg hno, Option.isSome_some]

/-- A SuShare as the create form allows it. -/
def SuShare.Divisible (s : SuShare) : Prop :=
  2 ≤ s.numOfParticipants ∧ s.numOfParticipants ≤ 10

namespace SuShare.Divisible

variable {s : SuShare} (h : s.Divisible)
include h

theorem isSome_configureCell : (ExploreCell.configureCell s).isSome :=
  isSome_intDiv? (two_pos.trans_le h.1)

theorem isSome_loadUI (user : Option User) :
    (DetailViewController.loadUI user (some s)).isSome := by
  cases user with
  | none => rfl
  | some user =>
    rw [DetailViewController.loadUI, Option.isSome_map]
    exact isSome_intDiv? (two_pos.trans_le h.1)

/-- The share of a finite pot is finite. -/
theorem exists_paymentAmount_eq_finite {pot : ℚ} (hpot : s.potAmount = .finite pot)
    (hdouble : Double.round pot = .finite pot) :
    ∃ share, paymentAmount Double.round s = .finite share := by
  obtain ⟨h2, h10⟩ := h
  rw [paymentAmount, hpot]
  exact Double.exists_div_ofInt_eq_finite hdouble h2 (by omega)

end SuShare.Divisible

variable {users : Collection String Dictionary} {as : List Action} {w : World} {doc : Dictionary}

/-- What is decoded from a document with the terms of a suShare document can be divided. -/
theorem Terms.In.divisible {t : Terms} (ht : t.In doc)
    (hn : 2 ≤ t.numOfParticipants ∧ t.numOfParticipants ≤ 10) (now : Timestamp) :
    (SuShare.init now doc).Divisible := by
  have hterms : (SuShare.init now doc).numOfParticipants = t.numOfParticipants :=
    congrArg Terms.numOfParticipants (ht.terms_init now)
  rwa [SuShare.Divisible, hterms]

namespace Intact

variable (h : Intact w)
include h

theorem divisible_suShare {id : String} (hd : w.db.suShare.get? id = some doc)
    (now : Timestamp) : (SuShare.init now doc).Divisible := by
  obtain ⟨t, ht, hn⟩ := (h.documents id doc hd).terms
  exact ht.divisible hn now

/-- A favorite has the number of the SuShare that it points to. -/
theorem divisible_favorite {id : String} {fav : Dictionary}
    (hf : w.db.favorites.get? id = some fav) (now : Timestamp) :
    (SuShare.init now fav).Divisible := by
  obtain ⟨-, -, t, doc, hd, ht, htf⟩ := h.favorites id fav hf
  have heq : (SuShare.init now fav).terms = (SuShare.init now doc).terms := by
    rw [ht.terms_init, htf.terms_init]
  have hn := congrArg Terms.numOfParticipants heq
  have hdiv := h.divisible_suShare hd now
  unfold SuShare.Divisible at hdiv ⊢
  rwa [show (SuShare.init now fav).numOfParticipants = _ from hn]

theorem divisible_copy {c : Copy} (hc : c ∈ w.copies) : c.sushare.Divisible := by
  obtain ⟨-, doc, hd, ht⟩ := h.copies c hc
  have hn := congrArg Terms.numOfParticipants (ht.terms_init c.sushare.createdDate)
  have hdiv := h.divisible_suShare hd c.sushare.createdDate
  unfold SuShare.Divisible at hdiv ⊢
  rwa [show c.sushare.numOfParticipants = _ from hn.symm]

end Intact

/-- Every stored SuShare and favorite decodes to one with 2 to 10 participants, and no screen
that shows one traps on a division or pays an infinite share of a finite pot. -/
theorem participants_divide (h : (app users).Run as w) :
    (∀ id doc now, w.db.suShare.get? id = some doc → (SuShare.init now doc).Divisible) ∧
    (∀ id fav now, w.db.favorites.get? id = some fav → (SuShare.init now fav).Divisible) ∧
    ∀ c ∈ w.copies, (ExploreCell.configureCell c.sushare).isSome ∧
      (∀ user, (DetailViewController.loadUI user (some c.sushare)).isSome) ∧
      ∀ pot, c.sushare.potAmount = .finite pot → Double.round pot = .finite pot →
        ∃ share, paymentAmount Double.round c.sushare = .finite share := by
  have hw := intact h
  refine ⟨fun id doc now hd => hw.divisible_suShare hd now,
    fun id fav now hf => hw.divisible_favorite hf now, fun c hc => ?_⟩
  have hdiv := hw.divisible_copy hc
  exact ⟨hdiv.isSome_configureCell, hdiv.isSome_loadUI,
    fun pot hpot hdouble => hdiv.exists_paymentAmount_eq_finite hpot hdouble⟩

/-- Bob's favorite of Ann's SuShare has a share. -/
theorem participants_divide_favoriting : ∃ w, (app Sample.profiles).Run Sample.favoriting w ∧
    (ExploreCell.configureCell Sample.favoriteCopy.sushare).isSome ∧
    ∃ share, paymentAmount Double.round Sample.favoriteCopy.sushare = .finite share := by
  obtain ⟨w, hrun, hc⟩ := Sample.exists_run Sample.favoriting
    (fun w => Sample.favoriteCopy ∈ w.copies) (by decide +kernel)
  obtain ⟨-, -, hcopies⟩ := participants_divide hrun
  obtain ⟨hcell, -, hshare⟩ := hcopies _ hc
  have hdouble : Double.round (100 : ℤ) = .finite (100 : ℤ) := Double.round_intCast (by norm_num)
  exact ⟨w, hrun, hcell, hshare 100 rfl (by exact_mod_cast hdouble)⟩

end SuShareApp
