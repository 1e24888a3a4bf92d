import Dataflow.Proofs.Calls
import Dataflow.Store.Basic
import Dataflow.Tool

/-!
# What calls do to a store

A service or a tool writes at most once, and last of all.  A call is idle if it fails, is refused,
only reads or checks, or is a save that is not meant to be carried out or stops before it is.  Idle
calls leave the store as it was, with its count; any other call persists one definition, under its
own key, and a save says that it saved exactly then.

Whether a call is idle is told from the call and its answer alone, as a caller tells it
(`Invocation.isIdle`).  What it does to the store is told from the one way that all of them go,
`Desk.edit`, which either leaves the store alone or has it write once (`MemoryStore.WritesOnce`).
`effects_of_run` is the same of a run, by induction on its calls.
-/

set_option autoImplicit false

namespace Dataflow

/-! ## Answers as a caller reads them -/

/-- The value of a field of an object. -/
def Json.field? (value : Json) (name : String) : Option Json :=
  value.fields?.bind fun fields => fields.get? (wide name)

/-- Whether a field says true or false. -/
def Json.saysBool (value : Json) (name : String) (b : Bool) : Bool :=
  match value.field? name with
  | some (.bool b') => b' == b
  | _ => false

theorem wide_injective {s t : String} (h : wide s = wide t) : s = t :=
  String.toList_injective (Text.widen_injective h)

/-- The fields of a record are found by their names. -/
theorem Json.field?_record (fields : List (String × Json)) (name : String) :
    (Json.record fields).field? name = fields.lookup name := by
  have hget : Fields.get? (fields.map fun f => (wide f.1, f.2)) (wide name) =
      fields.lookup name := by
    induction fields with
    | nil => rfl
    | cons f rest ih =>
      obtain ⟨key, v⟩ := f
      by_cases h : key = name
      · subst h
        simp [Fields.get?]
      · have hwide : wide key ≠ wide name := fun heq => h (wide_injective heq)
        have hkey : (name == key) = false := by simpa using Ne.symm h
        simp [Fields.get?, hwide, List.lookup_cons, hkey, ih]
  exact hget

/-- Whether a field says a word. -/
def Json.saysWord (value : Json) (name word : String) : Bool :=
  match value.field? name with
  | some (.string s) => s == wide word
  | _ => false

@[simp] theorem Json.saysBool_record (fields : List (String × Json)) (name : String) (b : Bool) :
    (Json.record fields).saysBool name b =
      match fields.lookup name with
      | some (.bool b') => b' == b
      | _ => false := by
  rw [saysBool, field?_record]

@[simp] theorem Json.saysWord_record (fields : List (String × Json)) (name word : String) :
    (Json.record fields).saysWord name word =
      match fields.lookup name with
      | some (.string s) => s == wide word
      | _ => false := by
  rw [saysWord, field?_record]

/-- Whether a call of a service fails, only reads, or is a save that is not carried out. -/
def ServiceCall.isIdle : ServiceCall → Except Failure ServiceAnswer → Bool
  | _, .error _ => true
  | .view _ _, _ => true
  | .saveDocument _ _ _ true _, _ => true
  | _, .ok (.save r) => r.stage == .validation || r.stage == .parsing
  | _, _ => false

/-- Whether a service says that a document was saved. -/
def ServiceAnswer.reportsSaved : ServiceAnswer → Bool
  | save r => r.stage == .saved
  | _ => false

/-- Whether a call of a tool fails, is refused, only reads or checks, or is a save that is not
carried out. -/
def ToolCall.isIdle : ToolCall → Except Failure Json → Bool
  | _, .error _ => true
  | .readDefinition _ _, _ => true
  | .checkDocument _, _ => true
  | .saveDocument _ _ _ true, _ => true
  | _, .ok value => value.saysBool "success" false || value.saysWord "stage" "validation" ||
      value.saysWord "stage" "parsing"

/-! ## Calls of services and tools -/

/-- A call of a service, or of a tool with what the server adds to it. -/
inductive Invocation where
  | service (c : ServiceCall)
  | tool (c : ToolCall) (lookup : Option ClusterLookup) (defaults : Defaults)

/-- The answer of a service or of a tool. -/
inductive Reply where
  | service (answer : ServiceAnswer)
  | tool (value : Json)

/-- Whether a call is one to save a document. -/
def ServiceCall.isSave : ServiceCall → Bool
  | saveDocument _ _ _ _ _ => true
  | _ => false

/-- Whether a call is one to save a document. -/
def ToolCall.isSave : ToolCall → Bool
  | saveDocument _ _ _ _ => true
  | _ => false

/-- The workspace and the dataflow that a tool is about, if it is about one. -/
def ToolCall.key? : ToolCall → Option (Text × Text)
  | readDefinition workspace dataflow => some (workspace, dataflow)
  | writeQuery workspace dataflow _ _ _ _ => some (workspace, dataflow)
  | listConnections workspace dataflow _ _ _ _ => some (workspace, dataflow)
  | checkDocument _ => none
  | saveDocument workspace dataflow _ _ => some (workspace, dataflow)
  | patchEntry workspace dataflow _ _ => some (workspace, dataflow)

namespace Invocation

/-- The workspace and the dataflow that a call is about, if it is about one. -/
def key? : Invocation → Option (Text × Text)
  | service c => some c.key
  | tool c _ _ => c.key?

/-- The answer to a call, and the desk afterwards. -/
def run {σ : Type} [DefinitionStore σ] (desk : Desk σ) :
    Invocation → Except Failure Reply × Desk σ
  | service c => (c.run desk).map (Except.map .service) id
  | tool c lookup defaults => (c.run desk lookup defaults).map (Except.map .tool) id

/-- Whether a call fails, is refused, only reads or checks, or is a save that is not carried out. -/
def isIdle : Invocation → Except Failure Reply → Bool
  | _, .error _ => true
  | service c, .ok (.service answer) => c.isIdle (.ok answer)
  | tool c _ _, .ok (.tool value) => c.isIdle (.ok value)
  | _, _ => false

/-- Whether a call is one to save a document. -/
def isSave : Invocation → Bool
  | service c => c.isSave
  | tool c _ _ => c.isSave

end Invocation

/-- Whether an answer says that a document was saved. -/
def reportsSaved : Except Failure Reply → Bool
  | .ok (.service answer) => answer.reportsSaved
  | .ok (.tool value) => value.saysBool "saved" true
  | .error _ => false

/-! ## One call -/

namespace MemoryStore

/-- One definition was persisted, under this key, and nothing else happened. -/
structure WritesOnce (s s' : MemoryStore) (workspace dataflow : Text) : Prop where
  /-- A definition was persisted. -/
  persisted : ∃ d, DefinitionStore.persist s workspace dataflow d = .ok s'
  /-- It was counted once. -/
  counted : s'.persisted = s.persisted + 1
  /-- Other keys keep what they have. -/
  others : ∀ workspace' dataflow', (workspace', dataflow') ≠ (workspace, dataflow) →
    s'.definition? workspace' dataflow' = s.definition? workspace' dataflow'

theorem writesOnce_of_persist {s s' : MemoryStore} {workspace dataflow : Text} {d : Definition}
    (h : DefinitionStore.persist s workspace dataflow d = .ok s') :
    s.WritesOnce s' workspace dataflow := by
  refine ⟨⟨d, h⟩, ?_, fun _ _ hkey => ?_⟩
  all_goals obtain rfl := Except.ok.inj h
  · rfl
  · exact s.definition?_put_other hkey d

end MemoryStore

/-- What a call may do to a store: when it is idle the store stays as it was, and the answer does
not say that a document was saved; otherwise it writes once under its own key, and if it is a save
the answer says so. -/
def HasEffect (idle saved isSave : Bool) (key? : Option (Text × Text)) (s s' : MemoryStore) :
    Prop :=
  (idle = true ∧ saved = false ∧ s' = s) ∨
    (idle = false ∧ (isSave = true → saved = true) ∧
      ∃ workspace dataflow, key? = some (workspace, dataflow) ∧
        s.WritesOnce s' workspace dataflow)

/-- An edit fails and leaves the store as it was, or goes through and writes once. -/
theorem Desk.edit_cases (desk : Desk MemoryStore) (workspace dataflow : Text)
    (change : Definition → IdSupply → Except Failure Definition × IdSupply) :
    (∃ failure, (desk.edit workspace dataflow change).1 = .error failure ∧
        (desk.edit workspace dataflow change).2.store = desk.store) ∨
      ∃ d, (desk.edit workspace dataflow change).1 = .ok d ∧
        desk.store.WritesOnce (desk.edit workspace dataflow change).2.store workspace dataflow := by
  rw [Desk.edit]
  split
  · exact .inl ⟨_, rfl, rfl⟩
  · split
    · exact .inl ⟨_, rfl, rfl⟩
    · split
      · exact .inl ⟨_, rfl, rfl⟩
      · rename_i hpersist
        exact .inr ⟨_, rfl, MemoryStore.writesOnce_of_persist hpersist⟩

/-- What a plan says about the answers to a call: those that are known beforehand are idle and do
not say that a document was saved, and looking is idle; when an edit goes through the call is not
idle, and a save says that it saved. -/
def Plan.Suits (c : ServiceCall) : Plan → Prop
  | reply answer => c.isIdle answer = true ∧ reportsSaved (answer.map .service) = false
  | look => ∀ answer, c.isIdle answer = true
  | edit _ success => ∀ d, c.isIdle (.ok (success d)) = false ∧
      (c.isSave = true → (success d).reportsSaved = true)

namespace ServiceCall

theorem isIdle_error (c : ServiceCall) (failure : Failure) : c.isIdle (.error failure) = true := by
  rw [isIdle]

/-- The plan of a call suits it. -/
theorem plan_suits (c : ServiceCall) : c.plan.Suits c := by
  cases c with
  | view workspace dataflow =>
    intro answer
    cases answer <;> rfl
  | addQuery workspace dataflow name code attr sectionAttr defaults =>
    simp only [plan]
    split
    · exact ⟨rfl, rfl⟩
    · split
      · exact ⟨rfl, rfl⟩
      · exact fun d => ⟨rfl, fun hsave => by cases hsave⟩
  | addConnections workspace dataflow requests lookup defaults =>
    simp only [plan]
    split
    · exact ⟨rfl, rfl⟩
    · exact fun d => ⟨rfl, fun hsave => by cases hsave⟩
  | saveDocument workspace dataflow document validateOnly defaults =>
    simp only [plan]
    split
    · exact ⟨by cases validateOnly <;> rfl, rfl⟩
    · split
      · exact ⟨by cases validateOnly <;> rfl, rfl⟩
      · cases validateOnly with
        | true => exact ⟨rfl, rfl⟩
        | false => exact fun d => ⟨rfl, fun _ => rfl⟩
  | patchQuery workspace dataflow name patch =>
    exact fun d => ⟨rfl, fun hsave => by cases hsave⟩

/-- **What a service does to a store.** -/
theorem effect (c : ServiceCall) (desk : Desk MemoryStore) :
    HasEffect (c.isIdle (c.run desk).1) (reportsSaved ((c.run desk).1.map .service)) c.isSave
      (some c.key) desk.store (c.run desk).2.store := by
  rw [c.run_eq_carryOut]
  have hsuits := c.plan_suits
  cases hplan : c.plan with
  | reply answer =>
    rw [hplan] at hsuits
    exact .inl ⟨hsuits.1, hsuits.2, rfl⟩
  | look =>
    rw [hplan] at hsuits
    refine .inl ⟨hsuits _, ?_, rfl⟩
    cases hview : desk.view c.key.1 c.key.2 <;> simp only [Plan.carryOut, hview] <;> rfl
  | edit change success =>
    rw [hplan] at hsuits
    rcases desk.edit_cases c.key.1 c.key.2 change with
      ⟨failure, hanswer, hstore⟩ | ⟨d, hanswer, hwrites⟩
    · have herror : (Plan.carryOut desk c.key.1 c.key.2 (.edit change success)).1 =
          .error failure := congrArg (Except.map success) hanswer
      rw [herror]
      exact .inl ⟨c.isIdle_error failure, rfl, hstore⟩
    · have hok : (Plan.carryOut desk c.key.1 c.key.2 (.edit change success)).1 =
          .ok (success d) := congrArg (Except.map success) hanswer
      rw [hok]
      exact .inr ⟨(hsuits d).1, (hsuits d).2, _, _, rfl, hwrites⟩

end ServiceCall

namespace ToolCall

/-- A failed call is idle, and does not say that a document was saved. -/
theorem isIdle_failedAnswer (c : ToolCall) (failure : Failure) :
    c.isIdle (.ok (failedAnswer failure)) = true ∧
      (failedAnswer failure).saysBool "saved" true = false := by
  have hrefused : (failedAnswer failure).saysBool "success" false = true := by
    simp [failedAnswer]
  refine ⟨?_, by simp [failedAnswer, List.lookup_cons]⟩
  rw [isIdle.eq_def]
  split <;> simp_all

variable (desk : Desk MemoryStore) (lookup : Option ClusterLookup) (defaults : Defaults)

/-- A tool that hands on the answer of a service has the effect of the service. -/
theorem effect_of_service {α : Type} {c : ToolCall} {s : ServiceCall} {inject : α → ServiceAnswer}
    {success : α → Json} {outcome : Except Failure α} {after : Desk MemoryStore}
    (hrun : s.run desk = (outcome.map inject, after)) (hkey : c.key? = some s.key)
    (hsave : c.isSave = s.isSave)
    (hanswer : ∀ a, c.isIdle (.ok (success a)) = s.isIdle (.ok (inject a)) ∧
      (success a).saysBool "saved" true = (inject a).reportsSaved) :
    HasEffect (c.isIdle (.ok (answerOf outcome success)))
      ((answerOf outcome success).saysBool "saved" true) c.isSave c.key? desk.store
      after.store := by
  have heffect := s.effect desk
  rw [hrun] at heffect
  rw [hkey, hsave]
  cases outcome with
  | error failure =>
    obtain ⟨hidle, hsaved⟩ := c.isIdle_failedAnswer failure
    rcases heffect with ⟨-, -, hstore⟩ | ⟨hbusy, -⟩
    · exact .inl ⟨hidle, hsaved, hstore⟩
    · rw [show Except.map inject (.error failure) = .error failure from rfl,
        s.isIdle_error] at hbusy
      cases hbusy
  | ok a =>
    obtain ⟨hidle, hsaved⟩ := hanswer a
    rw [show answerOf (.ok a) success = success a from rfl, hidle, hsaved]
    exact heffect

/-- **What a tool does to a store.** -/
theorem effect (c : ToolCall) :
    HasEffect (c.isIdle (c.run desk lookup defaults).1)
      (reportsSaved ((c.run desk lookup defaults).1.map .tool)) c.isSave c.key? desk.store
      (c.run desk lookup defaults).2.store := by
  cases c with
  | readDefinition workspace dataflow =>
    refine .inl ⟨rfl, ?_, rfl⟩
    simp only [run]
    cases desk.view workspace dataflow with
    | error failure => exact (isIdle_failedAnswer (.readDefinition [] []) failure).2
    | ok v => simp [answerOf, Except.map, reportsSaved, List.lookup_cons]
  | writeQuery workspace dataflow name code attr sectionAttr =>
    refine effect_of_service desk
      (s := .addQuery workspace dataflow name code attr sectionAttr defaults) rfl rfl rfl
      fun d => ⟨?_, ?_⟩
    all_goals
      simp [isIdle, ServiceCall.isIdle, ServiceAnswer.reportsSaved, List.lookup_cons]
  | listConnections workspace dataflow value kind path cluster =>
    rw [run]
    cases hids : Connection.ids value with
    | error error => exact .inl ⟨rfl, rfl, rfl⟩
    | ok ids =>
      refine effect_of_service desk
        (s := .addConnections workspace dataflow (ids.map fun id => ⟨id, kind, path⟩)
          (lookupFor cluster ids lookup) defaults) rfl rfl rfl fun bindings => ⟨?_, ?_⟩
      all_goals
        simp [isIdle, ServiceCall.isIdle, ServiceAnswer.reportsSaved, List.lookup_cons]
  | checkDocument document =>
    refine .inl ⟨rfl, ?_, rfl⟩
    simp [run, Except.map, reportsSaved, Mashup.Report.toJson, List.lookup_cons]
  | saveDocument workspace dataflow document validateOnly =>
    refine effect_of_service desk
      (s := .saveDocument workspace dataflow document validateOnly defaults) rfl rfl rfl
      fun r => ?_
    obtain ⟨stage, report, queries⟩ := r
    cases stage <;> cases validateOnly <;>
      simp [isIdle, ServiceCall.isIdle, ServiceAnswer.reportsSaved, SaveResult.fields,
        List.lookup_cons] <;> decide
  | patchEntry workspace dataflow name value =>
    rw [run]
    cases Patch.ofJson value with
    | error problems =>
      obtain ⟨hidle, hsaved⟩ := isIdle_failedAnswer (.patchEntry workspace dataflow name value)
        (.misshapen Patch.shapeName problems)
      exact .inl ⟨hidle, hsaved, rfl⟩
    | ok patch =>
      refine effect_of_service desk (s := .patchQuery workspace dataflow name patch) rfl rfl rfl
        fun d => ⟨?_, ?_⟩
      all_goals
        simp [isIdle, ServiceCall.isIdle, ServiceAnswer.reportsSaved, List.lookup_cons]

end ToolCall

/-- **What a call does to a store.** -/
theorem Invocation.effect (c : Invocation) (desk : Desk MemoryStore) :
    HasEffect (c.isIdle (c.run desk).1) (reportsSaved (c.run desk).1) c.isSave c.key? desk.store
      (c.run desk).2.store := by
  cases c with
  | service c =>
    have hidle : (service c).isIdle ((service c).run desk).1 = c.isIdle (c.run desk).1 := by
      rw [run, Prod.map_fst]
      cases (c.run desk).1 with
      | error failure => exact (c.isIdle_error failure).symm
      | ok answer => rfl
    rw [hidle]
    exact c.effect desk
  | tool c lookup defaults =>
    have hidle : (tool c lookup defaults).isIdle ((tool c lookup defaults).run desk).1 =
        c.isIdle (c.run desk lookup defaults).1 := by
      rw [run, Prod.map_fst]
      cases (c.run desk lookup defaults).1 with
      | error failure =>
        rw [ToolCall.isIdle]
        rfl
      | ok value => rfl
    rw [hidle]
    exact c.effect desk lookup defaults

/-! ## Runs -/

/-- A step of a run of calls on a store in memory. -/
abbrev Served := Event Invocation (Except Failure Reply) (Desk MemoryStore)

/-- Whether the call of a step is idle. -/
def Served.isIdle (e : Served) : Bool := e.call.isIdle e.answer

/-- The steps of a run of calls. -/
def served (desk : Desk MemoryStore) (calls : List Invocation) : List Served :=
  trace Invocation.run desk calls

/-- The store behind a run of calls. -/
def storeAfter (desk : Desk MemoryStore) (calls : List Invocation) : MemoryStore :=
  (final Invocation.run desk calls).store

/-- What a step does to the store. -/
structure Served.Respects (e : Served) : Prop where
  /-- An idle call leaves every definition and the count as they were. -/
  idle : e.isIdle = true → e.after.store = e.before.store
  /-- Any other call persists once, under its own key. -/
  busy : e.isIdle = false → ∃ workspace dataflow, e.call.key? = some (workspace, dataflow) ∧
    e.before.store.WritesOnce e.after.store workspace dataflow
  /-- A save says that it saved exactly if it is not idle. -/
  saved : e.call.isSave = true → (reportsSaved e.answer = true ↔ e.isIdle = false)

theorem respects_eventOf (desk : Desk MemoryStore) (c : Invocation) :
    Served.Respects (eventOf Invocation.run desk c) := by
  rcases c.effect desk with ⟨hidle, hsaved, hstore⟩ | ⟨hidle, hsaved, hwrites⟩
  · have hevent : Served.isIdle (eventOf Invocation.run desk c) = true := hidle
    refine ⟨fun _ => hstore, fun hbusy => ?_, fun _ => ?_⟩
    · rw [hevent] at hbusy
      cases hbusy
    · have hreport : reportsSaved (eventOf Invocation.run desk c).answer = false := hsaved
      simp [hreport, hevent]
  · have hevent : Served.isIdle (eventOf Invocation.run desk c) = false := hidle
    refine ⟨fun hbusy => ?_, fun _ => hwrites, fun hsave => ?_⟩
    · rw [hevent] at hbusy
      cases hbusy
    · have hreport : reportsSaved (eventOf Invocation.run desk c).answer = true := hsaved hsave
      simp [hreport, hevent]

/-- Each call that is not idle is counted. -/
theorem persisted_storeAfter (desk : Desk MemoryStore) (calls : List Invocation) :
    (storeAfter desk calls).persisted =
      desk.store.persisted + (served desk calls).countP fun e => !e.isIdle := by
  induction calls generalizing desk with
  | nil => rfl
  | cons c rest ih =>
    have hstep := respects_eventOf desk c
    have hrest : (storeAfter desk (c :: rest)).persisted =
        (c.run desk).2.store.persisted +
          (served (c.run desk).2 rest).countP fun e => !e.isIdle := ih (c.run desk).2
    have hserved : served desk (c :: rest) =
        eventOf Invocation.run desk c :: served (c.run desk).2 rest := rfl
    rw [hrest, hserved, List.countP_cons]
    cases hidle : Served.isIdle (eventOf Invocation.run desk c) with
    | true =>
      have hsame : (c.run desk).2.store = desk.store := hstep.idle hidle
      rw [hsame]
      simp
    | false =>
      obtain ⟨_, _, -, hwrites⟩ := hstep.busy hidle
      have hcounted : (c.run desk).2.store.persisted = desk.store.persisted + 1 := hwrites.counted
      rw [hcounted]
      simp
      omega

/-- A key under which no call of a run writes keeps what it has. -/
theorem definition?_storeAfter (desk : Desk MemoryStore) (calls : List Invocation)
    {workspace dataflow : Text}
    (h : ∀ e ∈ served desk calls, e.isIdle = false → e.call.key? ≠ some (workspace, dataflow)) :
    (storeAfter desk calls).definition? workspace dataflow =
      desk.store.definition? workspace dataflow := by
  induction calls generalizing desk with
  | nil => rfl
  | cons c rest ih =>
    have hstep := respects_eventOf desk c
    obtain ⟨hfirst, hrest⟩ := List.forall_mem_cons.1 h
    have hnext : (storeAfter desk (c :: rest)).definition? workspace dataflow =
        (c.run desk).2.store.definition? workspace dataflow := ih (c.run desk).2 hrest
    rw [hnext]
    cases hidle : Served.isIdle (eventOf Invocation.run desk c) with
    | true =>
      have hsame : (c.run desk).2.store = desk.store := hstep.idle hidle
      rw [hsame]
    | false =>
      obtain ⟨w, x, hkey, hwrites⟩ := hstep.busy hidle
      refine hwrites.others workspace dataflow fun hsame => hfirst hidle ?_
      obtain ⟨rfl, rfl⟩ := Prod.mk.inj hsame
      exact hkey

/-- **What the calls of a run do to the store.**  Step by step, idle calls leave it as it was, every
other call persists once under its own key, and a save says that it saved exactly then.  So over
the run the count grows by the number of calls that are not idle, and only their keys change. -/
theorem effects_of_run (desk : Desk MemoryStore) (calls : List Invocation) :
    (∀ e ∈ served desk calls, e.Respects) ∧
      (storeAfter desk calls).persisted =
        desk.store.persisted + ((served desk calls).countP fun e => !e.isIdle) ∧
      ∀ workspace dataflow,
        (∀ e ∈ served desk calls, e.isIdle = false → e.call.key? ≠ some (workspace, dataflow)) →
          (storeAfter desk calls).definition? workspace dataflow =
            desk.store.definition? workspace dataflow :=
  ⟨forall_mem_trace respects_eventOf desk calls, persisted_storeAfter desk calls,
    fun _ _ => definition?_storeAfter desk calls⟩

/-- A definition that is not there is read, a document is only checked, a document without a section
is refused, a query is written of which the document has no payload, since there is half of a
surrogate pair in its code, and a query is written. -/
def sampleCalls : List Invocation :=
  [.service (.view (text "w") (text "other")),
    .service (.saveDocument (text "w") (text "d") (wide "section S; shared A = 1;") true .standard),
    .tool (.saveDocument (text "w") (text "d") (wide "shared A = 1;") false) none .standard,
    .service
      (.addQuery (text "w") (text "d") (wide "A") [.surrogate ⟨3, by decide⟩] none none .standard),
    .tool (.writeQuery (text "w") (text "d") (wide "A") (wide "1") none none) none .standard]

theorem effects_of_run_sampleCalls :
    let desk : Desk MemoryStore :=
      ⟨MemoryStore.empty.put (text "w") (text "d") .empty, .ofSequence fun _ => wide "id"⟩
    (served desk sampleCalls).map Served.isIdle = [true, true, true, true, false] ∧
      (storeAfter desk sampleCalls).persisted = 1 := by
  intro desk
  have hidle : (served desk sampleCalls).map Served.isIdle = [true, true, true, true, false] := by
    decide +kernel
  have hcount : ((served desk sampleCalls).countP fun e => !e.isIdle) = 1 := by
    have hmap := congrArg (List.countP fun b => !b) hidle
    rw [List.countP_map] at hmap
    exact hmap
  refine ⟨hidle, ?_⟩
  rw [(effects_of_run desk sampleCalls).2.1, hcount]
  rfl

end Dataflow
