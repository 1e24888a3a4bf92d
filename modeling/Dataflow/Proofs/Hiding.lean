import Dataflow.Proofs.Acceptance
import Dataflow.Proofs.Destination

/-!
# Which queries are hidden

A query to which another one sends its data is hidden.  There are two ways to find out which these
are.  Writing a query hides the one that its attribute names, there and then, and nothing is ever
shown again (`register_isHidden`).  Building the entries anew hides every query that some attribute
of the document names, whatever its case (`rebuild_isHidden`).

So the two differ in two things.  Writing remembers what an attribute said that is no longer there,
which hides more.  And it takes a name as it is spelled, which hides less: the query `Out` is not
hidden by an attribute that sends data to `out`.  Where a name is spelled as the query is, an
attribute in the document is the attribute of a call, and the query is hidden either way.
`Definition.isHidden_of_rebuild_iff` says of a query that building anew would hide when it is hidden
already.
-/

set_option autoImplicit false

namespace Dataflow
namespace Metadata

/-! ## Hidden entries -/

/-- The name of the field that hides a query. -/
def hiddenKey : WideText := wide "isHidden"

/-- Whether an entry hides its query. -/
def saysHidden : Option Json → Bool
  | some (.object fields) =>
    match Fields.get? fields hiddenKey with
    | some (.bool hidden) => hidden
    | _ => false
  | _ => false

/-- Whether the query of a name is hidden. -/
def isHidden (m : Metadata) (name : WideText) : Bool :=
  saysHidden (Fields.get? m.entriesOf name)

theorem saysHidden_newEntry (name id : WideText) (defaults : Defaults) (hidden : Bool) :
    saysHidden (some (newEntry name id defaults hidden)) = hidden := by
  cases hidden <;> rfl

section

variable {m m' : Metadata} {name other : WideText} {defaults : Defaults} {ids ids' : IdSupply}
  {entries entries' : Fields}

/-- What entering a name says of it, and that it says nothing of others. -/
theorem saysHidden_enter (other : WideText) {change : Fields → Fields} {hidden : Bool}
    (h : enter change hidden entries name defaults ids = (entries', ids')) :
    (other ≠ name → Fields.get? entries' other =
        Fields.get? entries other) ∧
      ((∃ fields, Fields.get? entries name = some (.object fields) ∧
          Fields.get? entries' name = some (.object (change fields))) ∨
        (saysHidden (Fields.get? entries name) = false ∧
          saysHidden (Fields.get? entries' name) = hidden)) := by
  have hset : ∀ entry, entries' = Fields.set entries name entry → other ≠ name →
      Fields.get? entries' other = Fields.get? entries other := by
    rintro entry rfl hother
    exact Fields.get?_set_other hother entry
  rcases enter_cases h with ⟨fields, hfields, rfl, -⟩ | ⟨hnone, rfl, -⟩
  · exact ⟨hset _ rfl, .inl ⟨fields, hfields, Fields.get?_set_self _ _ _⟩⟩
  · refine ⟨hset _ rfl, .inr ⟨?_, ?_⟩⟩
    · rw [saysHidden]
      exact fun fields hfields => hnone fields hfields
    · rw [Fields.get?_set_self, saysHidden_newEntry]

/-- Entering a query hides nothing and shows nothing. -/
theorem saysHidden_touch (h : touch entries name defaults ids = (entries', ids')) :
    saysHidden (Fields.get? entries' other) =
      saysHidden (Fields.get? entries other) := by
  have hkey : hiddenKey ≠ wide "loadEnabled" := by decide
  rw [touch_eq_enter] at h
  obtain ⟨hothers, hself⟩ := saysHidden_enter other h
  by_cases hother : other = name
  · subst hother
    rcases hself with ⟨fields, hold, hnew⟩ | ⟨hold, hnew⟩
    · rw [hold, hnew, saysHidden, saysHidden, Fields.get?_setIfMissing_other hkey]
    · rw [hold, hnew]
  · rw [hothers hother]

/-- Entering a destination hides it, and nothing else. -/
theorem saysHidden_hide (h : hide entries name defaults ids = (entries', ids')) :
    saysHidden (Fields.get? entries' other) = true ↔
      saysHidden (Fields.get? entries other) = true ∨ name = other := by
  rw [hide_eq_enter] at h
  obtain ⟨hothers, hself⟩ := saysHidden_enter other h
  by_cases hother : other = name
  · subst hother
    have hhidden : saysHidden (Fields.get? entries' other) = true := by
      rcases hself with ⟨fields, -, hnew⟩ | ⟨-, hnew⟩
      · rw [hnew, saysHidden, hiddenKey, Fields.get?_set_self]
      · exact hnew
    simp only [hhidden, or_true]
  · rw [hothers hother]
    exact (or_iff_left (Ne.symm hother)).symm

/-- **Registering hides the destination** of the query, and shows nothing. -/
theorem register_isHidden {destination : Option WideText}
    (h : m.register name destination defaults ids = (m', ids')) :
    m'.isHidden other = true ↔ m.isHidden other = true ∨
      destination.filter (fun target => !target.isEmpty) = some other := by
  obtain ⟨touched, after, entries, htouch, rfl, hrest⟩ := register_cases h
  rw [isHidden, isHidden, entriesOf_set, ← saysHidden_touch htouch]
  rcases hrest with ⟨hnone, rfl, rfl⟩ | ⟨target, hsome, hhide⟩
  · simp only [hnone, reduceCtorEq, or_false]
  · rw [saysHidden_hide hhide, hsome, Option.some.injEq]

/-- Entries that are built anew are hidden as they are told. -/
theorem saysHidden_rebuildEntries {previous : Fields} {hidden : List WideText}
    {queries : List Mashup.WideQuery}
    (h : rebuildEntries previous hidden defaults entries ids queries = (entries', ids')) :
    saysHidden (Fields.get? entries' other) =
      if other ∈ queries.map Mashup.WideQuery.name then hidden.contains (WideText.fold other)
      else saysHidden (Fields.get? entries other) := by
  induction queries generalizing entries ids with
  | nil =>
    obtain ⟨rfl, rfl⟩ := Prod.mk.inj h
    rfl
  | cons q queries ih =>
    rw [rebuildEntries_cons] at h
    rw [ih h, List.map_cons]
    by_cases hlater : other ∈ queries.map Mashup.WideQuery.name
    · rw [if_pos hlater, if_pos (List.mem_cons_of_mem _ hlater)]
    · rw [if_neg hlater]
      by_cases hq : other = q.name
      · subst hq
        rw [if_pos List.mem_cons_self]
        exact (congrArg saysHidden (Fields.get?_set_self entries _ _)).trans
          (saysHidden_newEntry _ _ _ _)
      · have hnot : other ∉ q.name :: queries.map Mashup.WideQuery.name :=
          mt List.mem_cons.1 (not_or.2 ⟨hq, hlater⟩)
        rw [if_neg hnot]
        exact congrArg saysHidden
          (Fields.get?_set_other hq _)

/-- **Building anew hides each query that an attribute names**, whatever its case. -/
theorem rebuild_isHidden {queries : List Mashup.WideQuery}
    (hname : other ∈ queries.map Mashup.WideQuery.name) :
    (m.rebuild queries defaults ids).1.isHidden other = true ↔
      ∃ p ∈ queries, ∃ target, Mashup.Wide.destination? (some p.attr) = some target ∧
        WideText.fold target = WideText.fold other := by
  obtain ⟨m', ids', h⟩ : ∃ m' ids', m.rebuild queries defaults ids = (m', ids') := ⟨_, _, rfl⟩
  obtain ⟨entries, hentries, rfl⟩ := rebuild_eq h
  rw [h, isHidden, entriesOf_set, saysHidden_rebuildEntries hentries, if_pos hname,
    contains_destinations_iff]

/-- The same for queries without halves. -/
theorem rebuild_isHidden_widen {queries : List Mashup.Query} {name : Text}
    (hname : name ∈ queries.map Mashup.Query.name) :
    (m.rebuild (queries.map Mashup.Query.widen) defaults ids).1.isHidden (Text.widen name) = true ↔
      ∃ p ∈ queries, ∃ target, Mashup.Attribute.destination? (some p.attr) = some target ∧
        Text.fold target = Text.fold name := by
  obtain ⟨q, hq, rfl⟩ := List.mem_map.1 hname
  have hmem : Text.widen q.name ∈
      (queries.map Mashup.Query.widen).map Mashup.WideQuery.name :=
    List.mem_map_of_mem (List.mem_map_of_mem hq)
  rw [rebuild_isHidden hmem]
  have hdestination : ∀ p : Mashup.Query, Mashup.Wide.destination? (some p.widen.attr) =
      (Mashup.Attribute.destination? (some p.attr)).map Text.widen :=
    fun p => Mashup.Wide.destination?_widen (some p.attr)
  constructor
  · rintro ⟨_, hmem, target, htarget, hfold⟩
    obtain ⟨p, hp, rfl⟩ := List.mem_map.1 hmem
    rw [hdestination] at htarget
    obtain ⟨u, hu, rfl⟩ := Option.map_eq_some_iff.1 htarget
    rw [WideText.fold_widen, WideText.fold_widen] at hfold
    exact ⟨p, hp, u, hu, Text.widen_injective hfold⟩
  · rintro ⟨p, hp, target, htarget, hfold⟩
    refine ⟨p.widen, List.mem_map_of_mem hp, Text.widen target, ?_, ?_⟩
    · rw [hdestination, htarget]
      rfl
    · rw [WideText.fold_widen, WideText.fold_widen, hfold]

end

end Metadata

/-! ## Runs of calls -/

namespace Definition

/-- The definition after some calls to write a query, of which the first that fails is the last. -/
def addQueries (d : Definition) (ids : IdSupply) :
    List Writing → Except Failure Definition × IdSupply
  | [] => (.ok d, ids)
  | w :: ws =>
    match d.addQuery (Text.widen w.call.name) (Text.widen w.call.code)
        (w.call.attr.map Text.widen) none w.defaults ids with
    | (.ok r, ids) => r.addQueries ids ws
    | (.error failure, ids) => (.error failure, ids)

section

variable {d : Definition} {t : Text} {ids : IdSupply}

/-- **A call goes through and hides the destination of its attribute.** -/
theorem exists_addQuery_isHidden (hd : d.document = .ok t)
    (hm : (Json.object d.metadata).Tidy Json.IsText) (hids : ∀ n, Json.IsText (ids.id n))
    (w : Writing) :
    ∃ r ids', d.addQuery (Text.widen w.call.name) (Text.widen w.call.code)
        (w.call.attr.map Text.widen) none w.defaults ids = (.ok r, ids') ∧
      r.document = .ok (Mashup.upsert t w.call.name w.call.code w.call.attr none) ∧
      (Json.object r.metadata).Tidy Json.IsText ∧ ids'.id = ids.id ∧
      ∀ name, r.metadata.isHidden (Text.widen name) = true ↔
        d.metadata.isHidden (Text.widen name) = true ∨
          Mashup.Attribute.destination? w.call.attr = some name := by
  obtain ⟨m, ids', hregister⟩ : ∃ m ids',
      d.metadata.register (Text.widen (Mashup.Name.plain w.call.name))
        ((Mashup.Attribute.destination? w.call.attr).map Text.widen) w.defaults ids = (m, ids') :=
    ⟨_, _, rfl⟩
  have htexts : Metadata.HoldsTexts Json.IsText := fun t => Json.isText_widen t
  have htarget : ∀ target, Mashup.Wide.target? (w.call.attr.map Text.widen) = some target →
      Json.IsText target :=
    fun target h => Json.isText_of_map_widen (Mashup.Wide.target?_widen w.call.attr ▸ h)
  obtain ⟨htidy, hid, -⟩ := Metadata.register_eq htexts hids (Json.isText_widen _) htarget hm
    (Mashup.Wide.destination?_widen w.call.attr ▸ hregister)
  obtain ⟨r, hset, hdocument, hmetadata⟩ := exists_setMetadata
    (d.setText Role.mashup.path (Mashup.upsert t w.call.name w.call.code w.call.attr none)) htidy
  refine ⟨r, ids', ?_, ?_, hmetadata ▸ htidy, hid, fun name => ?_⟩
  · exact (addQuery_widen hd w.call.name w.call.code w.call.attr none hregister).trans
      (congrArg (·, ids') hset)
  · rw [hdocument, document_setText]
  · have hhides : m.isHidden (Text.widen name) = true ↔ _ := Metadata.register_isHidden hregister
    rw [← Mashup.Wide.destination?_widen, ← Mashup.Wide.target?,
      Mashup.Wide.target?_widen] at hhides
    rw [hmetadata, hhides]
    cases Mashup.Attribute.destination? w.call.attr with
    | none => simp
    | some target =>
      rw [Option.map_some, Option.some.injEq, Option.some.injEq]
      exact or_congr_right ⟨Text.widen_injective, congrArg Text.widen⟩

/-- **A run goes through.**  It writes the document by `upsert`, and hides the destinations of all
attributes on the way. -/
theorem exists_addQueries (hd : d.document = .ok t)
    (hm : (Json.object d.metadata).Tidy Json.IsText) (hids : ∀ n, Json.IsText (ids.id n))
    (ws : List Writing) :
    ∃ r ids', d.addQueries ids ws = (.ok r, ids') ∧
      r.document = .ok ((ws.map Writing.call).foldl
        (fun t c => Mashup.upsert t c.name c.code c.attr none) t) ∧
      ∀ name, r.metadata.isHidden (Text.widen name) = true ↔
        d.metadata.isHidden (Text.widen name) = true ∨
          ∃ w ∈ ws, Mashup.Attribute.destination? w.call.attr = some name := by
  induction ws generalizing d t ids with
  | nil => exact ⟨d, ids, rfl, hd, fun name => by simp⟩
  | cons w ws ih =>
    obtain ⟨first, ids', hadd, hfirst, htidy, hid, hhidden⟩ :=
      exists_addQuery_isHidden hd hm hids w
    obtain ⟨r, ids'', hrest, hdocument, hhides⟩ := ih hfirst htidy (hid ▸ hids)
    refine ⟨r, ids'', ?_, hdocument, fun name => ?_⟩
    · rw [addQueries, hadd]
      exact hrest
    · rw [hhides, hhidden, or_assoc]
      simp only [List.exists_mem_cons_iff]

end

end Definition

namespace Mashup

/-- An attribute of the document is that of a call, and sends the data where the call says. -/
theorem exists_call_of_destination? {calls : List Call} {p : Query} (hp : p ∈ recorded calls)
    {target : Text} (h : Attribute.destination? (some p.attr) = some target) :
    ∃ c ∈ calls, Attribute.destination? c.attr = some target := by
  obtain ⟨c, hc, rfl⟩ := mem_recorded hp
  exact ⟨c, hc, c.destination?_query ▸ h⟩

end Mashup

namespace Definition

/-- **For a query that building anew would hide, when it is hidden already.**  Plain calls on the
definition without parts go through.  A query of the document that they leave is hidden by these
calls whenever it would be hidden by building the entries anew, if and only if each destination in
the document that is its name in another spelling comes with a call that spells it as it is. -/
theorem isHidden_of_rebuild_iff {ids : IdSupply} (hids : ∀ n, Json.IsText (ids.id n))
    {ws : List Writing} (hws : ∀ w ∈ ws, w.call.IsPlain) :
    ∃ d ids' document, Definition.empty.addQueries ids ws = (.ok d, ids') ∧
      d.document = .ok document ∧
      ∀ q ∈ Mashup.queries document, ∀ defaults other,
        ((d.metadata.rebuild ((Mashup.queries document).map Mashup.Query.widen) defaults
              other).1.isHidden (Text.widen q.name) = true →
          d.metadata.isHidden (Text.widen q.name) = true) ↔
        ∀ p ∈ Mashup.queries document, ∀ target,
          Mashup.Attribute.destination? (some p.attr) = some target →
          Text.fold target = Text.fold q.name → target ≠ q.name →
          ∃ w ∈ ws, Mashup.Attribute.destination? w.call.attr = some q.name := by
  have hcalls : ∀ c ∈ ws.map Writing.call, c.IsPlain := List.forall_mem_map.2 hws
  have hqueries : Mashup.queries (Mashup.upserts (ws.map Writing.call)) =
      Mashup.recorded (ws.map Writing.call) := by
    by_cases hne : ws.map Writing.call = []
    · rw [hne]
      rfl
    · exact Mashup.queries_upserts_of_isPlain hcalls hne
  obtain ⟨d, ids', hrun, hdocument, hhidden⟩ := exists_addQueries (d := Definition.empty) (t := [])
    rfl (.ofPairs (List.forall_mem_nil _)) hids ws
  have hempty : ∀ name, Definition.empty.metadata.isHidden (Text.widen name) = false := fun _ => rfl
  simp only [hempty, Bool.false_eq_true, false_or] at hhidden
  refine ⟨d, ids', Mashup.upserts (ws.map Writing.call), hrun, hdocument,
    fun q hq defaults other => ?_⟩
  rw [Metadata.rebuild_isHidden_widen (List.mem_map_of_mem hq), hhidden]
  constructor
  · exact fun h p hp target htarget hfold _ => h ⟨p, hp, target, htarget, hfold⟩
  · rintro h ⟨p, hp, target, htarget, hfold⟩
    by_cases hname : target = q.name
    · -- the spelling of the query itself stands in the attribute of a call
      subst hname
      obtain ⟨c, hc, hdestination⟩ := Mashup.exists_call_of_destination? (hqueries ▸ hp) htarget
      obtain ⟨w, hw, rfl⟩ := List.mem_map.1 hc
      exact ⟨w, hw, hdestination⟩
    · exact h p hp target htarget hfold hname

theorem isHidden_of_rebuild_iff_sampleWritings :
    (∀ n, Json.IsText ((IdSupply.random 7).id n)) ∧
      (∀ w ∈ Desk.sampleWritings, w.call.IsPlain) ∧
      ∃ d ids' document,
        Definition.empty.addQueries (.random 7) Desk.sampleWritings = (.ok d, ids') ∧
        d.document = .ok document ∧
        ∀ q ∈ Mashup.queries document, ∀ defaults other,
          ((d.metadata.rebuild ((Mashup.queries document).map Mashup.Query.widen) defaults
                other).1.isHidden (Text.widen q.name) = true →
            d.metadata.isHidden (Text.widen q.name) = true) ↔
          ∀ p ∈ Mashup.queries document, ∀ target,
            Mashup.Attribute.destination? (some p.attr) = some target →
            Text.fold target = Text.fold q.name → target ≠ q.name →
            ∃ w ∈ Desk.sampleWritings, Mashup.Attribute.destination? w.call.attr = some q.name := by
  have hids : ∀ n, Json.IsText ((IdSupply.random 7).id n) := fun n =>
    (IdSupply.isProper_random 7 n).1
  have hplain : ∀ w ∈ Desk.sampleWritings, w.call.IsPlain := fun w hw =>
    (Desk.isAcceptable_sampleWritings w hw).plain
  exact ⟨hids, hplain, isHidden_of_rebuild_iff hids hplain⟩

/-- A query, and one that sends its data there by a name in another spelling. -/
def respelledWritings : List Writing :=
  [⟨⟨text "Out", text "let x = 1 in x", none⟩, .standard⟩,
    ⟨⟨text "A", text "let y = 2 in y",
      some (text "[DataDestinations = \x7b[QueryName = \"out\"]\x7d]")⟩, .standard⟩]

/-- The attribute hides nothing but a new entry for `out`, and building anew would hide `Out`. -/
theorem not_isHidden_of_rebuild_respelledWritings :
    (∀ w ∈ respelledWritings, w.call.IsPlain) ∧
      ∃ d ids' document,
        Definition.empty.addQueries (.random 7) respelledWritings = (.ok d, ids') ∧
        d.document = .ok document ∧
        ∃ q ∈ Mashup.queries document,
          (d.metadata.rebuild ((Mashup.queries document).map Mashup.Query.widen) .standard
            ids').1.isHidden (Text.widen q.name) = true ∧
          d.metadata.isHidden (Text.widen q.name) = false := by
  have hplain : ∀ w ∈ respelledWritings, w.call.IsPlain := by
    simp only [respelledWritings, List.forall_mem_cons]
    refine ⟨⟨by decide, by decide, by decide +kernel, by decide +kernel, nofun⟩,
      ⟨by decide, by decide, by decide +kernel, by decide +kernel, ?_⟩, List.forall_mem_nil _⟩
    have hattr : Mashup.Attribute.given?
        (some (text "[DataDestinations = \x7b[QueryName = \"out\"]\x7d]")) =
          some (text "[DataDestinations = \x7b[QueryName = \"out\"]\x7d]") := by decide +kernel
    rw [hattr]
    rintro a ⟨rfl⟩
    decide +kernel
  obtain ⟨d, ids', hrun, hdocument, hhidden⟩ := exists_addQueries (d := Definition.empty) (t := [])
    rfl (.ofPairs (List.forall_mem_nil _)) (fun n => (IdSupply.isProper_random 7 n).1)
    respelledWritings
  refine ⟨hplain, d, ids', _, hrun, hdocument, ⟨text "Out", text "let x = 1 in x", []⟩, ?_, ?_, ?_⟩
  · decide +kernel
  · refine (Metadata.rebuild_isHidden_widen (by decide +kernel)).2
      ⟨⟨text "A", text "let y = 2 in y",
        text "[DataDestinations = \x7b[QueryName = \"out\"]\x7d]"⟩, ?_, text "out", ?_, ?_⟩ <;>
    decide +kernel
  · rw [Bool.eq_false_iff, Ne, hhidden]
    decide +kernel

end Definition

end Dataflow
