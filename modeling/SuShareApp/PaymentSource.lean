import SuShareApp.Library.DataTree
import SuShareApp.Library.Promise
import Mathlib.Data.Rat.Defs

/-!
# Adding a payment source

The cloud function `addPaymentSource` runs when a card's token is written under
`/stripe_customers/{userId}/sources/{pushId}`. It looks the user's customer up, has Stripe create
the source, writes what Stripe answered over the token's node, or the message of an error beside
the token, and then reports "the error".

But the handler that reports is not the one that was given the error : no variable `error` is in
its scope, and evaluating the name throws. So nothing is ever reported, and the promise of a token
never resolves (`settlement_addPaymentSource`), even when every call succeeded.
-/

namespace SuShareApp

open Promise

/-! ## The services -/

/-- A value of the Realtime Database that is not an object. -/
inductive Primitive
  | boolean (b : Bool)
  | number (n : ℚ)
  | string (s : String)
deriving DecidableEq, Repr

/-- What `val()` reads from the Realtime Database, and `set` writes. -/
abbrev Json := DataTree String Primitive

/-- An `Error`, or one of Stripe's, which have a `type`. -/
structure JsError where
  type : Option String
  message : String
  stack : String
deriving DecidableEq, Repr

/-- What evaluating a name throws that is not in scope. The stack begins like this. -/
def referenceError (identifier : String) : JsError where
  type := none
  message := identifier ++ " is not defined"
  stack := "ReferenceError: " ++ identifier ++ " is not defined"

/-- The value of a variable, if one of this name is in scope. -/
def evaluate (scope : List (String × JsError)) (identifier : String) : Except JsError JsError :=
  match scope.lookup identifier with
  | some value => .ok value
  | none => .error (referenceError identifier)

/-- An entry of the error log : `metadata.resource`, and the fields of `errorEvent`. -/
structure LogEntry where
  type : String
  functionName : String
  message : String
  service : String
  resourceType : String
  context : List (String × String)
deriving DecidableEq, Repr

/-- The calls of the cloud function. -/
inductive CloudOperation
  /-- `admin.database().ref(path).once('value')` -/
  | once (path : List String)
  /-- `stripe.customers.createSource(customer, {source})` -/
  | createSource (customer source : Json)
  /-- `ref.set(value)` -/
  | set (path : List String) (value : Json)
  /-- `log.write(log.entry(metadata, errorEvent))`, in the log `logName` -/
  | write (logName : String) (entry : LogEntry)
deriving DecidableEq, Repr

/-- The calls settle with the data that they return. -/
abbrev CloudPromise := Promise CloudOperation Json JsError Json

/-! ## The function -/

/-- A string is falsy if it is empty, and so is a property that is not there. -/
def userFacingMessage (error : JsError) : String :=
  if error.type.getD "" ≠ "" then error.message
  else "An error occurred, developers have been alerted"

/-- `log.entry(metadata, errorEvent)`, where `functionName` is `process.env.FUNCTION_NAME`. -/
def errorEntry (functionName : String) (err : JsError) (context : List (String × String)) :
    LogEntry where
  type := "cloud_function"
  functionName := functionName
  message := err.stack
  service := functionName
  resourceType := "cloud_function"
  context := context

def reportError (functionName : String) (err : JsError) (context : List (String × String)) :
    CloudPromise :=
  .call (.write "errors" (errorEntry functionName err context))

/-- A write of a token, as `change` and `context` have it. -/
structure TokenWrite where
  userId : String
  pushId : String
  /-- `change.after.val()` -/
  after : Json
deriving DecidableEq, Repr

namespace TokenWrite

/-- `change.after.ref` -/
def ref (change : TokenWrite) : List String :=
  ["stripe_customers", change.userId, "sources", change.pushId, "token"]

/-- `change.after.ref.parent` -/
def parent (change : TokenWrite) : List String := change.ref.dropLast

/-- Where the user's customer is stored. -/
def customerId (change : TokenWrite) : List String :=
  ["stripe_customers", change.userId, "customer_id"]

end TokenWrite

/-- The chain up to `createSource`. -/
def createSource (change : TokenWrite) : CloudPromise :=
  ((Promise.call (.once change.customerId)).chain fun snapshot =>
    .resolve snapshot).chain fun customer =>
      .call (.createSource customer change.after)

def addPaymentSource (functionName : String) (change : TokenWrite) : CloudPromise :=
  if change.after = .null then .resolve .null
  else
    ((createSource change).andThen
      (fun response => .call (.set change.parent response))
      fun error =>
        .call (.set (change.parent ++ ["error"]) (.leaf (.string (userFacingMessage error))))).chain
      fun _ =>
        -- no variable of this name is in scope : the parameter belongs to the handler before
        match evaluate [] "error" with
        | .ok error => reportError functionName error [("user", change.userId)]
        | .error e => .reject e

/-! ## What it reports -/

namespace TokenWrite

variable (change : TokenWrite) (outcomes : CloudOperation → Except JsError Json)

/-- How the lookup and `createSource` come out : what Stripe answers, or the error of the one that
failed. -/
def created : Except JsError Json :=
  (outcomes (.once change.customerId)).handle
    (fun customer => outcomes (.createSource customer change.after)) .error

/-- The failure of the lookup or of `createSource`. -/
def failure : Option JsError :=
  (change.created outcomes).handle (fun _ => none) some

/-- The write that follows. -/
def followUp : CloudOperation :=
  (change.created outcomes).handle (fun response => .set change.parent response)
    fun error => .set (change.parent ++ ["error"]) (.leaf (.string (userFacingMessage error)))

end TokenWrite

/-- The entry that the call writes to the error log. -/
def CloudOperation.entry? : CloudOperation → Option LogEntry
  | .write _ entry => some entry
  | _ => none

section Outcomes

variable (functionName : String) {change : TokenWrite}
  (outcomes : CloudOperation → Except JsError Json)

theorem settlement_createSource :
    (createSource change).settlement outcomes = change.created outcomes := by
  unfold createSource TokenWrite.created
  rw [settlement_chain, settlement_chain, settlement_call]
  cases outcomes (.once change.customerId) with
  | error e => rfl
  | ok customer => rfl

/-- The follow-up write passes its error on, and otherwise the last handler throws. -/
theorem settlement_addPaymentSource (h : change.after ≠ .null) :
    (addPaymentSource functionName change).settlement outcomes =
      (outcomes (change.followUp outcomes)).handle
        (fun _ => .error (referenceError "error")) .error := by
  unfold addPaymentSource TokenWrite.followUp
  rw [if_neg h, settlement_chain, settlement_andThen, settlement_createSource, handle_call,
    settlement_call]
  cases outcomes _ <;> rfl

theorem calls_addPaymentSource (h : change.after ≠ .null) :
    (addPaymentSource functionName change).calls outcomes =
      (createSource change).calls outcomes ++ [change.followUp outcomes] := by
  unfold addPaymentSource TokenWrite.followUp
  rw [if_neg h, calls_chain, calls_andThen, settlement_andThen, settlement_createSource,
    handle_call, calls_call, settlement_call]
  cases outcomes _ <;> exact List.append_nil _

theorem filterMap_entry?_createSource :
    ((createSource change).calls outcomes).filterMap CloudOperation.entry? = [] := by
  unfold createSource
  rw [calls_chain, calls_chain, settlement_chain, settlement_call, calls_call]
  cases outcomes (.once change.customerId) with
  | error e => rfl
  | ok customer => rfl

/-- The log entries that the function writes. -/
def reported (functionName : String) (change : TokenWrite)
    (outcomes : CloudOperation → Except JsError Json) : List LogEntry :=
  ((addPaymentSource functionName change).calls outcomes).filterMap CloudOperation.entry?

/-- Nothing is ever reported. -/
theorem reported_eq_nil (h : change.after ≠ .null) :
    reported functionName change outcomes = [] := by
  unfold reported
  rw [calls_addPaymentSource functionName outcomes h, List.filterMap_append,
    filterMap_entry?_createSource, List.nil_append]
  unfold TokenWrite.followUp
  cases change.created outcomes <;> rfl

/-- The error log can be written. -/
def LogWritable : Prop :=
  ∀ logName entry, ∃ r, outcomes (.write logName entry) = .ok r

/-- Errors are reported, and only errors : the promise resolves if the log can be written, and the
log gets the failure of the lookup or of `createSource`. -/
structure ReportsErrors (functionName : String) (change : TokenWrite)
    (outcomes : CloudOperation → Except JsError Json) : Prop where
  resolves : LogWritable outcomes →
    ∃ r, (addPaymentSource functionName change).settlement outcomes = .ok r
  reported_eq : reported functionName change outcomes =
    (change.failure outcomes).toList.map fun error =>
      errorEntry functionName error [("user", change.userId)]

/-- Only what cannot be reported is reported right : the log cannot be written, and there is no
error. -/
theorem reportsErrors_iff (h : change.after ≠ .null) :
    ReportsErrors functionName change outcomes ↔
      ¬ LogWritable outcomes ∧ change.failure outcomes = none := by
  constructor
  · rintro ⟨hresolves, hreported⟩
    constructor
    · intro hlog
      obtain ⟨r, hr⟩ := hresolves hlog
      rw [settlement_addPaymentSource functionName outcomes h] at hr
      cases hset : outcomes (change.followUp outcomes) <;> simp [hset] at hr
    · rw [reported_eq_nil functionName outcomes h] at hreported
      simpa using hreported.symm
  · rintro ⟨hlog, hfailure⟩
    refine ⟨fun hw => absurd hw hlog, ?_⟩
    rw [reported_eq_nil functionName outcomes h, hfailure]
    rfl

end Outcomes

/-- Ann's card. -/
def visa : TokenWrite where
  userId := "ann"
  pushId := "-MCard"
  after := .leaf (.string "tok_visa")

theorem reportsErrors_iff_visa :
    ReportsErrors "addPaymentSource" visa (fun _ => .ok .null) ↔
      ¬ LogWritable (fun _ => .ok .null) ∧ visa.failure (fun _ => .ok .null) = none :=
  reportsErrors_iff "addPaymentSource" _ (by decide)

/-- Every call succeeds, and the promise rejects. -/
theorem not_reportsErrors :
    visa.after ≠ .null ∧ ¬ ReportsErrors "addPaymentSource" visa (fun _ => .ok .null) := by
  refine ⟨by decide, fun h => ?_⟩
  obtain ⟨r, hr⟩ := h.resolves fun _ _ => ⟨_, rfl⟩
  rw [settlement_addPaymentSource _ _ (by decide)] at hr
  cases hr

end SuShareApp
