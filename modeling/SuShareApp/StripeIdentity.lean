import SuShareApp.Library.TransitionSystem
import SuShareApp.Library.Collection
import SuShareApp.Models

/-!
# Stripe customers

Sign-up creates a Stripe customer (`createDummyUser`, which asks for one under a fixed name
and email) and stores its id in the user's document. Stripe never gives an id twice, so no
two users store the same one (`stripeCustomerId_injective`).

Nothing reads the stored id. `createCustomerKey` and `createChargeFunction` act on two
customers written into the code, and `addPaymentSource` and `cleanupUser` look the customer
up under `/stripe_customers/{uid}` in the Realtime Database, where nothing ever puts a
`customer_id` : Stripe is not reached (`one_identity_iff`).
-/

namespace SuShareApp

/-- The operations that reach Stripe on behalf of a user. -/
inductive StripeOperation
  | createCustomerKey
  | createChargeFunction
  | addPaymentSource
  | cleanupUser
deriving DecidableEq, Repr

/-- The users' documents, Stripe's customers, and the Realtime Database. -/
structure Accounts where
  users : Collection String Dictionary
  /-- The customer ids that Stripe has given out. -/
  customers : List String
  /-- Answers of `createStripeCustomer` in flight, with the name that their handler stores. -/
  responses : List (String × String)
  /-- `/stripe_customers/{uid}/customer_id` -/
  customerId : String → Option String

namespace Accounts

inductive Event
  | createDatabaseUser (user : AuthUser)
  | updateDatabaseUser (uid username : String)
  | updateDatabaseUserImage (uid photoURL : String)
  | createStripeCustomer (fullName customer : String)
  | updateFireBaseUserWithStripeStuff (uid fullName customer : String)
  | perform (uid : String) (op : StripeOperation)

/-- The id stored at sign-up. -/
def stripeCustomerId (s : Accounts) (uid : String) : Option String :=
  (s.users.get? uid).bind fun doc => (doc "stripeCustomerId").bind FieldValue.asString

/-- The customer that an operation of the user acts on, if it reaches Stripe. -/
def customer (s : Accounts) (uid : String) : StripeOperation → Option String
  | .createCustomerKey => some "cus_HZHr6xok84h97G"
  | .createChargeFunction => some "cus_HX9HpktQ2oKuNs"
  -- without an id, `createSource` and `del` throw before they call Stripe
  | .addPaymentSource => s.customerId uid
  | .cleanupUser => s.customerId uid

/-- `document(uid).updateData(fields)` on the users collection. -/
def updateUser (s : Accounts) (uid : String) (fields : List (String × FieldValue)) :
    Option Accounts :=
  (s.users.updateData uid fun d => d.updating (.ofList fields)).map fun users => { s with users }

def step (s : Accounts) : Event → Option Accounts
  | .createDatabaseUser user =>
    some { s with users := s.users.setData user.uid <| .ofList [
      ("email", .string (user.email.getD "")),
      ("userId", .string user.uid),
      ("username", .string (user.displayName.getD ""))] }
  | .updateDatabaseUser uid username => s.updateUser uid [("username", .string username)]
  | .updateDatabaseUserImage uid photoURL => s.updateUser uid [("photoURL", .string photoURL)]
  | .createStripeCustomer fullName customer =>
    if customer ∈ s.customers then none
    else some { s with
      customers := customer :: s.customers
      responses := (fullName, customer) :: s.responses }
  | .updateFireBaseUserWithStripeStuff uid fullName customer =>
    if (fullName, customer) ∈ s.responses then
      { s with responses := s.responses.erase (fullName, customer) }.updateUser uid
        [("fullName", .string fullName), ("stripeCustomerId", .string customer)]
    else none
  | .perform uid .cleanupUser =>
    -- the node is removed after the customer was deleted
    some { s with customerId := fun u =>
      if u = uid ∧ (s.customer uid .cleanupUser).isSome then none else s.customerId u }
  | .perform _ _ => some s

end Accounts

/-- Accounts, from a deployment without any. -/
def accounts : TransitionSystem Accounts Accounts.Event where
  init s := s = ⟨.empty, [], [], fun _ => none⟩
  step := Accounts.step

namespace Accounts

/-! ## Stored ids -/

/-- The users' documents after a successful update. -/
theorem get?_of_updateUser {s s' : Accounts} {uid : String} {fields : List (String × FieldValue)}
    (h : s.updateUser uid fields = some s') : ∃ doc, s.users.get? uid = some doc ∧
      s' = { s with users := s.users.setData uid (doc.updating (.ofList fields)) } := by
  obtain ⟨users, hu, rfl⟩ := Option.map_eq_some_iff.mp h
  obtain ⟨doc, hd, rfl⟩ := Collection.updateData_eq_some hu
  exact ⟨doc, hd, rfl⟩

/-- An update of other fields keeps the stored ids. -/
theorem stripeCustomerId_of_updateUser {s s' : Accounts} {uid : String}
    {fields : List (String × FieldValue)} (h : s.updateUser uid fields = some s')
    (hf : Dictionary.ofList fields "stripeCustomerId" = none) (u : String) :
    s'.stripeCustomerId u = s.stripeCustomerId u := by
  obtain ⟨doc, hd, rfl⟩ := get?_of_updateUser h
  by_cases hu : u = uid
  · subst hu
    simp [stripeCustomerId, hd, Dictionary.updating_of_none hf]
  · simp [stripeCustomerId, Collection.get?_setData_of_ne _ hu]

/-- No customer is stored twice, or stored and on its way as well, and the Realtime Database
has none. -/
structure Distinct (s : Accounts) : Prop where
  known : ∀ id ∈ s.responses.map Prod.snd, id ∈ s.customers
  nodup : (s.responses.map Prod.snd).Nodup
  stored : ∀ uid id, s.stripeCustomerId uid = some id →
    id ∈ s.customers ∧ id ∉ s.responses.map Prod.snd
  injective : ∀ u v id, s.stripeCustomerId u = some id → s.stripeCustomerId v = some id → u = v
  customerId : ∀ uid, s.customerId uid = none

/-- A change of the documents that stores no new id. -/
theorem Distinct.of_users {s : Accounts} {users : Collection String Dictionary}
    (h : s.Distinct) (hu : ∀ uid id, stripeCustomerId { s with users } uid = some id →
      s.stripeCustomerId uid = some id) : Distinct { s with users } where
  known := h.known
  nodup := h.nodup
  stored uid id hid := h.stored uid id (hu uid id hid)
  injective u v id hu' hv' := h.injective u v id (hu u id hu') (hu v id hv')
  customerId := h.customerId

/-- An update of one field that is not the stored id. -/
theorem Distinct.of_updateUser {s s' : Accounts} {uid field : String} {v : FieldValue}
    (h : s.Distinct) (hf : field ≠ "stripeCustomerId")
    (hs : s.updateUser uid [(field, v)] = some s') : s'.Distinct := by
  have hkept : Dictionary.ofList [(field, v)] "stripeCustomerId" = none := by
    simp [Ne.symm hf]
  have hid := stripeCustomerId_of_updateUser hs hkept
  obtain ⟨doc, -, rfl⟩ := get?_of_updateUser hs
  exact h.of_users fun u id hu => (hid u).symm.trans hu

/-- Storing the customer of an answer consumes the answer and changes the id stored for one
user. -/
theorem eq_some_of_updateFireBaseUserWithStripeStuff {s s' : Accounts}
    {uid fullName customer : String}
    (hs : s.step (.updateFireBaseUserWithStripeStuff uid fullName customer) = some s') :
    (fullName, customer) ∈ s.responses ∧
      s' = { s with
        users := s'.users
        responses := s.responses.erase (fullName, customer) } ∧
      ∀ u, s'.stripeCustomerId u = if u = uid then some customer else s.stripeCustomerId u := by
  obtain ⟨hr, hs⟩ := Option.ite_none_right_eq_some.mp hs
  obtain ⟨doc, -, rfl⟩ := get?_of_updateUser hs
  refine ⟨hr, rfl, fun u => ?_⟩
  have hfields : (doc.updating (.ofList [("fullName", .string fullName),
      ("stripeCustomerId", .string customer)])) "stripeCustomerId" = some (.string customer) :=
    Dictionary.updating_of_some (by simp)
  split_ifs with hu
  · subst hu
    simp [stripeCustomerId, hfields, FieldValue.asString]
  · simp [stripeCustomerId, Collection.get?_setData_of_ne _ hu]

theorem Distinct.of_updateFireBaseUserWithStripeStuff {s s' : Accounts}
    {uid fullName customer : String} (h : s.Distinct)
    (hs : s.step (.updateFireBaseUserWithStripeStuff uid fullName customer) = some s') :
    s'.Distinct := by
  obtain ⟨hr, he, hid⟩ := eq_some_of_updateFireBaseUserWithStripeStuff hs
  have hperm := (List.perm_cons_erase hr).map Prod.snd
  have hnodup := List.nodup_cons.mp (hperm.nodup_iff.mp h.nodup)
  have hcustomer : customer ∈ s.responses.map Prod.snd := List.mem_map_of_mem hr
  have hmem : ∀ id, id ∈ (s.responses.erase (fullName, customer)).map Prod.snd →
      id ∈ s.responses.map Prod.snd := fun id hm => hperm.mem_iff.mpr (List.mem_cons_of_mem _ hm)
  rw [he] at hid ⊢
  refine ⟨fun id hm => h.known id (hmem id hm), hnodup.2, fun u id hu => ?_,
    fun u v id hu hv => ?_, h.customerId⟩
  · rw [hid] at hu
    split_ifs at hu
    · obtain rfl := Option.some.inj hu
      exact ⟨h.known _ hcustomer, hnodup.1⟩
    · exact ⟨(h.stored u id hu).1, fun hm => (h.stored u id hu).2 (hmem id hm)⟩
  · -- the customer just stored was still on its way, so no other user has it
    rw [hid] at hu hv
    split_ifs at hu hv with he he'
    · rw [he, he']
    · obtain rfl := Option.some.inj hu
      exact absurd hcustomer (h.stored v _ hv).2
    · obtain rfl := Option.some.inj hv
      exact absurd hcustomer (h.stored u _ hu).2
    · exact h.injective u v id hu hv

theorem Distinct.step {s s' : Accounts} {e : Event} (h : s.Distinct) (hs : s.step e = some s') :
    s'.Distinct := by
  cases e with
  | createDatabaseUser user =>
    obtain rfl := Option.some.inj hs
    refine h.of_users fun u id hu => ?_
    by_cases he : u = user.uid
    · subst he
      simp [stripeCustomerId] at hu
    · simpa [stripeCustomerId, Collection.get?_setData_of_ne _ he] using hu
  | updateDatabaseUser uid username => exact h.of_updateUser (by decide) hs
  | updateDatabaseUserImage uid photoURL => exact h.of_updateUser (by decide) hs
  | createStripeCustomer fullName customer =>
    obtain ⟨hc, hs⟩ := Option.ite_none_left_eq_some.mp hs
    obtain rfl := Option.some.inj hs
    refine ⟨fun id hm => ?_, List.nodup_cons.mpr ⟨fun hm => hc (h.known _ hm), h.nodup⟩,
      fun u id hu => ⟨List.mem_cons_of_mem _ (h.stored u id hu).1, fun hm => ?_⟩,
      h.injective, h.customerId⟩
    · rcases List.mem_cons.mp hm with rfl | hm
      · exact List.mem_cons_self
      · exact List.mem_cons_of_mem _ (h.known id hm)
    · rcases List.mem_cons.mp hm with rfl | hm
      · exact hc (h.stored u _ hu).1
      · exact (h.stored u id hu).2 hm
  | updateFireBaseUserWithStripeStuff uid fullName customer =>
    exact h.of_updateFireBaseUserWithStripeStuff hs
  | perform uid op =>
    cases op with
    | cleanupUser =>
      obtain rfl := Option.some.inj hs
      refine ⟨h.known, h.nodup, h.stored, h.injective, fun u => ?_⟩
      simp [h.customerId u]
    | _ =>
      obtain rfl := Option.some.inj hs
      exact h

theorem distinct {es : List Event} {s : Accounts} (h : accounts.Run es s) : s.Distinct := by
  refine h.invariant (I := fun _ s => s.Distinct) (fun s h0 => ?_) fun _ _ _ _ _ ih hs => ih.step hs
  rw [show s = ⟨.empty, [], [], fun _ => none⟩ from h0]
  constructor <;> simp [stripeCustomerId]

/-- No two users store the same customer. -/
theorem stripeCustomerId_injective {es : List Event} {s : Accounts} (h : accounts.Run es s)
    {u v id : String} (hu : s.stripeCustomerId u = some id) (hv : s.stripeCustomerId v = some id) :
    u = v :=
  (distinct h).injective u v id hu hv

/-! ## Customers acted on -/

/-- A user's operations act on the customer stored at sign-up, and no two users' on the
same one. -/
structure OneIdentity (s : Accounts) : Prop where
  stored : ∀ uid id, s.stripeCustomerId uid = some id →
    ∀ op c, s.customer uid op = some c → c = id
  separate : ∀ u v, u ≠ v → (s.stripeCustomerId u).isSome → (s.stripeCustomerId v).isSome →
    ∀ op op' c, s.customer u op = some c → s.customer v op' ≠ some c

/-- The customers written into the code are those of users who happen to have them : an
operation acts on the user's own customer exactly when it does not reach Stripe, or the
stored id is the one in the code. Both at once is impossible, so the law holds exactly as
long as nobody has signed up. -/
theorem one_identity_iff {es : List Event} {s : Accounts} (h : accounts.Run es s) :
    (∀ uid id, s.stripeCustomerId uid = some id → ∀ op,
      (∀ c, s.customer uid op = some c → c = id) ↔
        (op = .createCustomerKey → id = "cus_HZHr6xok84h97G") ∧
        (op = .createChargeFunction → id = "cus_HX9HpktQ2oKuNs")) ∧
    (s.OneIdentity ↔ ∀ uid, s.stripeCustomerId uid = none) := by
  constructor
  · intro uid id _ op
    cases op with
    | createCustomerKey | createChargeFunction => simp [customer, eq_comm]
    | addPaymentSource | cleanupUser => simp [customer, (distinct h).customerId uid]
  · constructor
    · intro hone uid
      refine Option.eq_none_iff_forall_ne_some.mpr fun id hid => ?_
      have hkey := hone.stored uid id hid .createCustomerKey _ rfl
      have hcharge := hone.stored uid id hid .createChargeFunction _ rfl
      exact absurd (hkey.trans hcharge.symm) (by decide)
    · intro hnone
      refine ⟨fun uid id hid => ?_, fun u v _ hu => ?_⟩
      · rw [hnone uid] at hid
        cases hid
      · rw [hnone u] at hu
        cases hu

/-- Ann completes sign-up. -/
def signingUp : List Event :=
  [.createDatabaseUser ⟨"ann", some "Ann", none⟩, .updateDatabaseUser "ann" "Ann",
    .createStripeCustomer "Ann Lee " "cus_1",
    .updateFireBaseUserWithStripeStuff "ann" "Ann Lee " "cus_1"]

theorem exists_run_signingUp :
    ∃ s, accounts.Run signingUp s ∧ s.stripeCustomerId "ann" = some "cus_1" :=
  TransitionSystem.exists_run_of_exec (T := accounts) signingUp _ rfl (by decide +kernel)

theorem one_identity_iff_signingUp :
    ∃ s, accounts.Run signingUp s ∧ (s.OneIdentity ↔ ∀ uid, s.stripeCustomerId uid = none) := by
  obtain ⟨s, hrun, -⟩ := exists_run_signingUp
  exact ⟨s, hrun, (one_identity_iff hrun).2⟩

/-- Ann's payments are charged to somebody else. -/
theorem not_one_identity : ¬ ∀ (es : List Event) (s : Accounts), accounts.Run es s →
    s.OneIdentity := by
  intro h
  obtain ⟨s, hrun, hann⟩ := exists_run_signingUp
  have hc := (h _ s hrun).stored "ann" "cus_1" hann .createChargeFunction _ rfl
  exact absurd hc (by decide)

end Accounts

end SuShareApp
