import SuShareApp.Library.Collection
import Mathlib.Logic.Function.Basic

/-!
# Asynchronous operations on a document store

A document store keeps collections under paths. Its client issues a request together with a
handler, and the handler is called once, with what the request returned or with an error.

An operation of the client is such a request, made on behalf of a caller who passed a
completion closure. The handler may call the closure any number of times, issue further
requests that nobody waits for, or crash. An operation answers once for an outcome of its
request if the handler calls the closure exactly once, and with a failure exactly if the
request failed (`AnswersOnce`). A handler that forwards the error and one result does
(`answersOnce_complete`) ; one that calls the closure in a loop does for one element only
(`answersOnce_flatMap`).

`run` is an operation on its own : the request is served, the handler runs, and what it
issues is served, before anything else happens.
-/

/-- A request, by the type of what it returns. -/
inductive DocumentRequest (κ ι δ : Type) : Type → Type
  | setData (path : κ) (id : ι) (data : δ) : DocumentRequest κ ι δ Unit
  | updateData (path : κ) (id : ι) (change : δ → δ) : DocumentRequest κ ι δ Unit
  | delete (path : κ) (id : ι) : DocumentRequest κ ι δ Unit
  | getDocuments (path : κ) (filter : δ → Bool) : DocumentRequest κ ι δ (List (ι × δ))
  | getDocument (path : κ) (id : ι) : DocumentRequest κ ι δ (Option δ)

/-- What the request returns, and the collections after it. An update fails where there is no
document. -/
def DocumentRequest.perform {κ ι δ : Type} [DecidableEq κ] [LinearOrder ι]
    (cs : κ → Collection ι δ) :
    {σ : Type} → DocumentRequest κ ι δ σ → Option (σ × (κ → Collection ι δ))
  | _, .setData path id data => some ((), Function.update cs path ((cs path).setData id data))
  | _, .updateData path id change =>
    ((cs path).updateData id change).map fun c => ((), Function.update cs path c)
  | _, .delete path id => some ((), Function.update cs path ((cs path).delete id))
  | _, .getDocuments path filter => some ((cs path).query filter, cs)
  | _, .getDocument path id => some ((cs path).get? id, cs)

/-- One thing that a handler does. -/
inductive HandlerStep (κ ι δ ε α : Type)
  /-- It calls the completion closure. -/
  | complete (result : Except ε α)
  | issue (request : DocumentRequest κ ι δ Unit)
  | trap

/-- A request with its handler, which is called with what was returned or with an error. -/
structure DocumentOperation (κ ι δ ε σ α : Type) where
  request : DocumentRequest κ ι δ σ
  handler : Option σ → Option ε → List (HandlerStep κ ι δ ε α)

namespace HandlerStep

variable {κ ι δ ε σ α β : Type}

/-- The calls of the completion closure. -/
def completions (steps : List (HandlerStep κ ι δ ε α)) : List (Except ε α) :=
  steps.filterMap fun step => match step with
    | .complete result => some result
    | _ => none

/-- The requests that the handler issues. -/
def issued (steps : List (HandlerStep κ ι δ ε α)) : List (DocumentRequest κ ι δ Unit) :=
  steps.filterMap fun step => match step with
    | .issue request => some request
    | _ => none

/-- The handler runs to its end. -/
def finishes (steps : List (HandlerStep κ ι δ ε α)) : Bool :=
  steps.all fun step => match step with
    | .trap => false
    | _ => true

/-- The completion closure is called exactly once, with a failure exactly if the request
failed. -/
def AnswersOnce (steps : List (HandlerStep κ ι δ ε α)) (outcome : Except ε σ) : Prop :=
  ∃ result, completions steps = [result] ∧ result.isOk = outcome.isOk

theorem answersOnce_complete {result : Except ε α} {outcome : Except ε σ} :
    AnswersOnce (κ := κ) (ι := ι) (δ := δ) [.complete result] outcome ↔
      result.isOk = outcome.isOk := by
  simp [AnswersOnce, completions]

theorem not_answersOnce_nil {outcome : Except ε σ} :
    ¬AnswersOnce (κ := κ) (ι := ι) (δ := δ) (α := α) [] outcome := by
  simp [AnswersOnce, completions]

theorem not_answersOnce_trap {outcome : Except ε σ} :
    ¬AnswersOnce (κ := κ) (ι := ι) (δ := δ) (α := α) [.trap] outcome := by
  simp [AnswersOnce, completions]

/-- A handler that goes through a list, and for each element issues a request and completes,
answers as often as the list is long. -/
theorem completions_flatMap (request : β → DocumentRequest κ ι δ Unit) (result : Except ε α) :
    ∀ l : List β, completions (l.flatMap fun x => [.issue (request x), .complete result]) =
      List.replicate l.length result
  | [] => rfl
  | x :: l => by
    have ih := completions_flatMap request result l
    rw [List.flatMap_cons, completions, List.filterMap_append, ← completions, ← completions, ih]
    rfl

theorem answersOnce_flatMap {request : β → DocumentRequest κ ι δ Unit} {result : Except ε α}
    {outcome : Except ε σ} (hr : result.isOk = outcome.isOk) {l : List β} :
    AnswersOnce (l.flatMap fun x => [.issue (request x), .complete result]) outcome ↔
      l.length = 1 := by
  rw [AnswersOnce, completions_flatMap]
  constructor
  · rintro ⟨r, hl, -⟩
    simpa using congrArg List.length hl
  · intro hl
    exact ⟨result, by rw [hl]; rfl, hr⟩

theorem issued_flatMap (request : β → DocumentRequest κ ι δ Unit) (result : Except ε α) :
    ∀ l : List β, issued (l.flatMap fun x => [.issue (request x), .complete result]) =
      l.map request
  | [] => rfl
  | x :: l => by
    have ih := issued_flatMap request result l
    rw [List.flatMap_cons, issued, List.filterMap_append, ← issued, ← issued, ih]
    rfl

theorem finishes_flatMap (request : β → DocumentRequest κ ι δ Unit) (result : Except ε α)
    (l : List β) : finishes (l.flatMap fun x => [.issue (request x), .complete result]) = true := by
  simp [finishes, List.all_flatMap]

end HandlerStep

namespace DocumentRequest

variable {κ ι δ : Type} [DecidableEq κ] [LinearOrder ι]

/-- The requests are served one after another. -/
def performAll (rs : List (DocumentRequest κ ι δ Unit)) (cs : κ → Collection ι δ) :
    Option (κ → Collection ι δ) :=
  rs.foldlM (fun cs r => (r.perform cs).map Prod.snd) cs

theorem performAll_delete (path : κ) : ∀ (ids : List ι) (cs : κ → Collection ι δ),
    performAll (ids.map (.delete path)) cs =
      some (Function.update cs path (ids.foldl Collection.delete (cs path)))
  | [], cs => by simp [performAll]
  | id :: ids, cs => by
    have ih := performAll_delete path ids (Function.update cs path ((cs path).delete id))
    rw [Function.update_self, Function.update_idem] at ih
    exact ih

end DocumentRequest

namespace DocumentOperation

variable {κ ι δ ε σ α : Type}

/-- What the handler does when the request is answered. -/
def answer (op : DocumentOperation κ ι δ ε σ α) :
    Except ε σ → List (HandlerStep κ ι δ ε α)
  | .error error => op.handler none (some error)
  | .ok snapshot => op.handler (some snapshot) none

/-- The operation on its own, without failures : how it completes, and the collections after
it. -/
def run [DecidableEq κ] [LinearOrder ι] (op : DocumentOperation κ ι δ ε σ α)
    (cs : κ → Collection ι δ) : Option (List (Except ε α) × (κ → Collection ι δ)) := do
  let (snapshot, cs) ← op.request.perform cs
  let steps := op.answer (.ok snapshot)
  if HandlerStep.finishes steps then
    let cs ← DocumentRequest.performAll (HandlerStep.issued steps) cs
    return (HandlerStep.completions steps, cs)
  else none

/-- An operation whose handler issues nothing. -/
theorem run_of_answer [DecidableEq κ] [LinearOrder ι] {op : DocumentOperation κ ι δ ε σ α}
    {cs cs' : κ → Collection ι δ} {snapshot : σ} {results : List (Except ε α)}
    (h : op.request.perform cs = some (snapshot, cs'))
    (hr : op.answer (.ok snapshot) = results.map .complete) : op.run cs = some (results, cs') := by
  have hcompletions : HandlerStep.completions (κ := κ) (ι := ι) (δ := δ)
      (results.map .complete) = results := by
    simp [HandlerStep.completions, List.filterMap_map]
  have hissued : HandlerStep.issued (κ := κ) (ι := ι) (δ := δ) (results.map .complete) = [] := by
    simp [HandlerStep.issued]
  have hfinishes : HandlerStep.finishes (κ := κ) (ι := ι) (δ := δ)
      (results.map .complete) = true := by
    simp [HandlerStep.finishes]
  simp [run, h, hr, hcompletions, hissued, hfinishes, DocumentRequest.performAll]

/-- An operation that deletes each document that its query found, and completes at each. -/
theorem run_of_deletingEach [DecidableEq κ] [LinearOrder ι]
    {op : DocumentOperation κ ι δ ε (List (ι × δ)) α} {cs : κ → Collection ι δ} {path : κ}
    {documents : List (ι × δ)} {result : Except ε α}
    (h : op.request.perform cs = some (documents, cs))
    (hr : op.answer (.ok documents) = documents.flatMap fun document =>
      [.issue (.delete path document.1), .complete result]) :
    op.run cs = some (List.replicate documents.length result,
      Function.update cs path ((documents.map Prod.fst).foldl Collection.delete (cs path))) := by
  have hall := DocumentRequest.performAll_delete path (documents.map Prod.fst) cs
  rw [List.map_map] at hall
  simp [run, h, hr, HandlerStep.finishes_flatMap, HandlerStep.issued_flatMap,
    HandlerStep.completions_flatMap, Function.comp_def] at hall ⊢
  simp [hall]

end DocumentOperation
