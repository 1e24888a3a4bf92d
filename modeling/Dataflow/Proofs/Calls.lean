import Dataflow.Service

/-!
# Runs of calls

Calls of the services as data, so that a run of them is a list.  A run leaves a trace: of each
step the state before it, its answer and the state behind it.  What holds of every step of a run is
proved of one step and carried over by `forall_mem_trace`, or by `forall_mem_trace_of_invariant` if
it takes an invariant.

What a call comes to is settled before the store is asked: it has its answer, or it looks at a
definition, or it edits one.  This is the plan of a call, and `run_eq_carryOut` says that a call is
carried out as planned in every store, and `edits_of_plan` what the edits are.  So whoever compares
two stores, or asks what an edit may write, looks at plans and never at the services again.
-/

set_option autoImplicit false

namespace Dataflow

/-! ## Calls -/

/-- A call of a service with all its arguments. -/
inductive ServiceCall where
  /-- Decode a definition. -/
  | view (workspace dataflow : Text)
  /-- Write a query. -/
  | addQuery (workspace dataflow : Text) (name code : WideText)
      (attr sectionAttr : Option WideText) (defaults : Defaults)
  /-- List connections. -/
  | addConnections (workspace dataflow : Text) (requests : List ConnectionRequest)
      (lookup : Option ClusterLookup) (defaults : Defaults)
  /-- Check a document and save it. -/
  | saveDocument (workspace dataflow : Text) (document : WideText) (validateOnly : Bool)
      (defaults : Defaults)
  /-- Patch the entry of a query. -/
  | patchQuery (workspace dataflow : Text) (name : WideText) (patch : Patch)

/-- What a service answers when it does not fail. -/
inductive ServiceAnswer where
  | view (v : View)
  | definition (d : Definition)
  | bindings (bindings : List Binding)
  | save (result : SaveResult)

namespace ServiceCall

/-- The workspace and the dataflow that a call is about. -/
def key : ServiceCall → Text × Text
  | view workspace dataflow => (workspace, dataflow)
  | addQuery workspace dataflow _ _ _ _ _ => (workspace, dataflow)
  | addConnections workspace dataflow _ _ _ => (workspace, dataflow)
  | saveDocument workspace dataflow _ _ _ => (workspace, dataflow)
  | patchQuery workspace dataflow _ _ => (workspace, dataflow)

/-- The answer of a service, and the desk afterwards. -/
def run {σ : Type} [DefinitionStore σ] (desk : Desk σ) :
    ServiceCall → Except Failure ServiceAnswer × Desk σ
  | view workspace dataflow => ((desk.view workspace dataflow).map .view, desk)
  | addQuery workspace dataflow name code attr sectionAttr defaults =>
    (desk.addQuery workspace dataflow name code attr sectionAttr defaults).map
      (Except.map .definition) id
  | addConnections workspace dataflow requests lookup defaults =>
    (desk.addConnections workspace dataflow requests lookup defaults).map
      (Except.map .bindings) id
  | saveDocument workspace dataflow document validateOnly defaults =>
    (desk.saveDocument workspace dataflow document validateOnly defaults).map
      (Except.map .save) id
  | patchQuery workspace dataflow name patch =>
    (desk.patchQuery workspace dataflow name patch).map (Except.map .definition) id

end ServiceCall

/-! ## Plans -/

/-- What a call comes to before the store is asked. -/
inductive Plan where
  /-- The answer is known. -/
  | reply (answer : Except Failure ServiceAnswer)
  /-- A definition is looked at. -/
  | look
  /-- A definition is edited. -/
  | edit (change : Definition → IdSupply → Except Failure Definition × IdSupply)
      (success : Definition → ServiceAnswer)

/-- The answer to a call with a plan, and the desk afterwards. -/
def Plan.carryOut {σ : Type} [DefinitionStore σ] (desk : Desk σ) (workspace dataflow : Text) :
    Plan → Except Failure ServiceAnswer × Desk σ
  | reply answer => (answer, desk)
  | look => ((desk.view workspace dataflow).map .view, desk)
  | edit change success => (desk.edit workspace dataflow change).map (Except.map success) id

namespace ServiceCall

/-- What a call comes to. -/
def plan : ServiceCall → Plan
  | view _ _ => .look
  | addQuery _ _ name code attr sectionAttr defaults =>
    if name.all CodePoint.isBlank then .reply (.error .blankName)
    else if code.all CodePoint.isBlank then .reply (.error .blankCode)
    else .edit (fun d ids => d.addQuery name code attr sectionAttr defaults ids) .definition
  | addConnections _ _ requests lookup defaults =>
    if requests.isEmpty then .reply (.error .noConnections)
    else
      let bindings := requests.map (ConnectionRequest.bind lookup)
      .edit (fun d ids => (d.connect bindings defaults, ids)) fun _ => .bindings bindings
  | saveDocument _ _ document validateOnly defaults =>
    let report := Mashup.inspect document.outline
    let queries := Mashup.Wide.queries document
    if !report.isValid then .reply (.ok (.save ⟨.validation, report, []⟩))
    else if queries.isEmpty then .reply (.ok (.save ⟨.parsing, report, []⟩))
    else if validateOnly then .reply (.ok (.save ⟨.validated, report, queries⟩))
    else
      .edit (fun d ids =>
        d.replaceDocument document (Mashup.Wide.queries document) defaults ids) fun _ =>
        .save ⟨.saved, report, queries⟩
  | patchQuery _ _ name patch =>
    .edit (fun d ids => (d.patchQuery name patch, ids)) .definition

/-- What a call makes of a definition when it edits one. -/
inductive Edits :
    ServiceCall → (Definition → IdSupply → Except Failure Definition × IdSupply) → Prop
  | addQuery (workspace dataflow : Text) (name code : WideText)
      (attr sectionAttr : Option WideText) (defaults : Defaults) :
      Edits (.addQuery workspace dataflow name code attr sectionAttr defaults)
        fun d ids => d.addQuery name code attr sectionAttr defaults ids
  | addConnections (workspace dataflow : Text) (requests : List ConnectionRequest)
      (lookup : Option ClusterLookup) (defaults : Defaults) :
      Edits (.addConnections workspace dataflow requests lookup defaults)
        fun d ids => (d.connect (requests.map (ConnectionRequest.bind lookup)) defaults, ids)
  | saveDocument (workspace dataflow : Text) (document : WideText) (validateOnly : Bool)
      (defaults : Defaults) :
      Edits (.saveDocument workspace dataflow document validateOnly defaults)
        fun d ids => d.replaceDocument document (Mashup.Wide.queries document) defaults ids
  | patchQuery (workspace dataflow : Text) (name : WideText) (patch : Patch) :
      Edits (.patchQuery workspace dataflow name patch)
        fun d ids => (d.patchQuery name patch, ids)

/-- An edit that is planned is that of the call. -/
theorem edits_of_plan {c : ServiceCall}
    {change : Definition → IdSupply → Except Failure Definition × IdSupply}
    {success : Definition → ServiceAnswer} (h : c.plan = .edit change success) :
    c.Edits change := by
  cases c with
  | view workspace dataflow => cases h
  | addQuery workspace dataflow name code attr sectionAttr defaults =>
    simp only [plan] at h
    split at h
    · cases h
    · split at h
      · cases h
      · cases h
        exact .addQuery ..
  | addConnections workspace dataflow requests lookup defaults =>
    simp only [plan] at h
    split at h
    · cases h
    · cases h
      exact .addConnections ..
  | saveDocument workspace dataflow document validateOnly defaults =>
    simp only [plan] at h
    split at h
    · cases h
    · split at h
      · cases h
      · split at h
        · cases h
        · cases h
          exact .saveDocument ..
  | patchQuery workspace dataflow name patch =>
    cases h
    exact .patchQuery ..

variable {σ : Type} [DefinitionStore σ]

/-- **Every store carries a call out as it is planned.** -/
theorem run_eq_carryOut (c : ServiceCall) (desk : Desk σ) :
    c.run desk = c.plan.carryOut desk c.key.1 c.key.2 := by
  cases c with
  | view workspace dataflow => rfl
  | addQuery workspace dataflow name code attr sectionAttr defaults =>
    simp only [run, plan, Desk.addQuery]
    split
    · rfl
    · split <;> rfl
  | addConnections workspace dataflow requests lookup defaults =>
    simp only [run, plan, Desk.addConnections]
    split
    · rfl
    · simp only [Plan.carryOut, key]
      generalize desk.edit workspace dataflow _ = r
      obtain ⟨outcome, desk'⟩ := r
      cases outcome <;> rfl
  | saveDocument workspace dataflow document validateOnly defaults =>
    simp only [run, plan, Desk.saveDocument]
    split
    · rfl
    · split
      · rfl
      · split
        · rfl
        · simp only [Plan.carryOut, key]
          generalize desk.edit workspace dataflow _ = r
          obtain ⟨outcome, desk'⟩ := r
          cases outcome <;> rfl
  | patchQuery workspace dataflow name patch => rfl

end ServiceCall

/-! ## Traces -/

/-- One step of a run. -/
structure Event (α ο δ : Type) where
  /-- What is done. -/
  call : α
  /-- The state before it. -/
  before : δ
  /-- What is answered. -/
  answer : ο
  /-- The state behind it. -/
  after : δ

section

variable {α ο ο' δ δ' : Type} (step : δ → α → ο × δ) (step' : δ' → α → ο' × δ')

/-- The step that a call is in a state. -/
def eventOf (s : δ) (a : α) : Event α ο δ := ⟨a, s, (step s a).1, (step s a).2⟩

/-- The steps of a run. -/
def trace (s : δ) : List α → List (Event α ο δ)
  | [] => []
  | a :: rest => eventOf step s a :: trace (step s a).2 rest

/-- The state behind a run. -/
def final (s : δ) (calls : List α) : δ := calls.foldl (fun s a => (step s a).2) s

variable {step step'}

/-- What holds of every step from a good state, if it leads to a good state, holds throughout a run
from a good state. -/
theorem forall_mem_trace_of_invariant {I : δ → Prop} {P : Event α ο δ → Prop}
    (h : ∀ s a, I s → P (eventOf step s a) ∧ I (step s a).2) {s : δ} (hs : I s) (calls : List α) :
    ∀ e ∈ trace step s calls, P e := by
  induction calls generalizing s with
  | nil => exact fun e he => absurd he List.not_mem_nil
  | cons a rest ih =>
    obtain ⟨hstep, hnext⟩ := h s a hs
    exact List.forall_mem_cons.2 ⟨hstep, ih hnext⟩

/-- What holds of every step holds throughout a run. -/
theorem forall_mem_trace {P : Event α ο δ → Prop} (h : ∀ s a, P (eventOf step s a)) (s : δ)
    (calls : List α) : ∀ e ∈ trace step s calls, P e :=
  forall_mem_trace_of_invariant (I := fun _ => True) (fun s a _ => ⟨h s a, trivial⟩) trivial calls

/-- The steps of a run are its calls. -/
theorem map_call_trace (s : δ) (calls : List α) : (trace step s calls).map Event.call = calls := by
  induction calls generalizing s with
  | nil => rfl
  | cons a rest ih =>
    rw [trace, List.map_cons, ih]
    rfl

end

end Dataflow
