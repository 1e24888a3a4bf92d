import Dataflow.Metadata.Basic
import Dataflow.Proofs.Destination

/-!
# Ids stay with names

An entry is issued with an id when its name is first registered.  Registering the name again, or a
query that sends its data there, sets other fields of the entry, and building the entries anew
takes the id over.  So a name keeps the id that it was given first.

With ids that are texts, all strings in the metadata are, and what is registered can always be
written.
-/

set_option autoImplicit false

namespace Dataflow

/-- A supply whose ids are texts, and none of them empty. -/
def IdSupply.IsProper (ids : IdSupply) : Prop := ∀ n, Json.IsText (ids.id n) ∧ ids.id n ≠ []

theorem IdSupply.IsProper.of_id_eq {ids ids' : IdSupply} (h : ids.IsProper)
    (heq : ids'.id = ids.id) :
    ids'.IsProper := by
  rw [IsProper, heq]
  exact h

theorem length_randomUuid (seed n : Nat) : (randomUuid seed n).length = 36 := by
  simp only [randomUuid, length_uuidOfBits]

/-- Random ids are proper. -/
theorem IdSupply.isProper_random (seed : Nat) : (IdSupply.random seed).IsProper := by
  intro n
  simp only [random, ofSequence]
  refine ⟨Json.isText_widen (randomUuid seed n), List.ne_nil_of_length_pos ?_⟩
  rw [Text.widen, List.length_map, length_randomUuid]
  decide

namespace Metadata

/-! ## Entries with an id -/

/-- The name of the field for the id. -/
def idKey : WideText := wide "queryId"

/-- The id in the entry of a name. -/
def idAt? (entries : Fields) (key : WideText) : Option Json :=
  ((Fields.get? entries key).bind Json.fields?).bind (Fields.get? · idKey)

/-- An object with an id. -/
def IsIssued (entry : Json) : Prop :=
  ∃ fields id, entry = .object fields ∧ Fields.get? fields idKey = some (.string id) ∧ id ≠ []

/-- Entries whose strings are texts and that have ids. -/
structure AreIssued (entries : Fields) : Prop where
  /-- The strings are texts. -/
  tidy : (Json.object entries).Tidy Json.IsText
  /-- Each entry has an id. -/
  issued : ∀ f ∈ entries, IsIssued f.2

/-- A name is entered among entries: it has an id afterwards, and an id that was there stays. -/
structure Enters (key : WideText) (entries entries' : Fields) : Prop where
  /-- All entries have ids. -/
  issued : AreIssued entries'
  /-- No id is changed. -/
  keeps : ∀ other id, idAt? entries other = some id → idAt? entries' other = some id
  /-- The name has an id. -/
  has : ∃ id, id ≠ [] ∧ idAt? entries' key = some (.string id)

theorem Enters.trans {key key' : WideText} {entries entries' entries'' : Fields}
    (h : Enters key entries entries') (h' : Enters key' entries' entries'') :
    Enters key entries entries'' where
  issued := h'.issued
  keeps other id hid := h'.keeps other id (h.keeps other id hid)
  has := by
    obtain ⟨id, hne, hid⟩ := h.has
    exact ⟨id, hne, h'.keeps key _ hid⟩

theorem idAt?_set_self (entries : Fields) (key : WideText) (fields : Fields) :
    idAt? (Fields.set entries key (.object fields)) key = Fields.get? fields idKey := by
  rw [idAt?, Fields.get?_set_self]
  rfl

theorem idAt?_set_other {entries : Fields} {key other : WideText} (h : other ≠ key) (entry : Json) :
    idAt? (Fields.set entries key entry) other = idAt? entries other := by
  rw [idAt?, idAt?, Fields.get?_set_other h]

/-- An entry is set that has the id of the name, if this has one. -/
theorem AreIssued.set {entries fields : Fields} (h : AreIssued entries) {key id : WideText}
    (hkey : Json.IsText key) (htidy : (Json.object fields).Tidy Json.IsText)
    (hid : Fields.get? fields idKey = some (.string id)) (hne : id ≠ [])
    (hsame : ∀ old, idAt? entries key = some old → old = .string id) :
    Enters key entries (Fields.set entries key (.object fields)) where
  issued := by
    refine ⟨h.tidy.set hkey htidy, fun f hf => ?_⟩
    rcases Fields.mem_of_mem_set hf with hf | rfl
    · exact h.issued f hf
    · exact ⟨fields, id, rfl, hid, hne⟩
  keeps other old hold := by
    by_cases hother : other = key
    · subst hother
      rw [idAt?_set_self, hid, hsame old hold]
    · rw [idAt?_set_other hother, hold]
  has := ⟨id, hne, by rw [idAt?_set_self, hid]⟩

/-! ## Entering a name -/

section

variable {name : WideText} {defaults : Defaults} {ids ids' : IdSupply} {entries entries' : Fields}

/-- **Entering a name gives it an id and takes none away.** -/
theorem enter_enters {change : Fields → Fields}
    (htidy : ∀ fields, (Json.object fields).Tidy Json.IsText →
      (Json.object (change fields)).Tidy Json.IsText)
    (hid : ∀ fields id, Fields.get? fields idKey = some id →
      Fields.get? (change fields) idKey = some id)
    {hidden : Bool} (hname : Json.IsText name) (hentries : AreIssued entries)
    (hids : ids.IsProper) (h : enter change hidden entries name defaults ids = (entries', ids')) :
    Enters name entries entries' ∧ ids'.id = ids.id := by
  rcases enter_cases h with ⟨entry, hentry, rfl, rfl⟩ | ⟨hnone, rfl, rfl⟩
  · obtain ⟨fields, id, heq, hfields, hne⟩ := hentries.issued _ (Fields.mem_of_get? hentry)
    obtain rfl : entry = fields := Json.object.inj heq
    refine ⟨hentries.set hname (htidy _ (hentries.tidy.of_get? hentry)) (hid _ _ hfields) hne
      fun old hold => ?_, rfl⟩
    rw [idAt?, hentry] at hold
    exact Option.some.inj (hold.symm.trans hfields)
  · obtain ⟨hdrawn, hne⟩ := hids ids.drawn
    have hnew := tidy_newEntry (fun t => Json.isText_widen t) hname hdrawn defaults hidden
    refine ⟨hentries.set hname hnew rfl hne fun old hold => ?_, rfl⟩
    -- all entries are objects, so there is none
    cases hget : Fields.get? entries name with
    | none =>
      rw [idAt?, hget] at hold
      cases hold
    | some entry =>
      obtain ⟨fields, id, rfl, -⟩ := hentries.issued _ (Fields.mem_of_get? hget)
      exact absurd hget (hnone fields)

theorem touch_enters (hname : Json.IsText name) (hentries : AreIssued entries) (hids : ids.IsProper)
    (h : touch entries name defaults ids = (entries', ids')) :
    Enters name entries entries' ∧ ids'.id = ids.id := by
  have hother : idKey ≠ wide "loadEnabled" := by decide
  rw [touch_eq_enter] at h
  refine enter_enters (fun fields hfields => ?_) (fun fields id hid => ?_) hname hentries hids h
  · exact hfields.setIfMissing (Json.isText_wide _) (.bool _)
  · rw [Fields.get?_setIfMissing_other hother, hid]

theorem hide_enters (hname : Json.IsText name) (hentries : AreIssued entries) (hids : ids.IsProper)
    (h : hide entries name defaults ids = (entries', ids')) :
    Enters name entries entries' ∧ ids'.id = ids.id := by
  have hother : idKey ≠ wide "isHidden" := by decide
  rw [hide_eq_enter] at h
  refine enter_enters (fun fields hfields => ?_) (fun fields id hid => ?_) hname hentries hids h
  · exact hfields.set (Json.isText_wide _) (.bool true)
  · rw [Fields.get?_set_other hother, hid]

end

/-! ## Registering and building anew -/

section

variable {m m' : Metadata} {name : WideText} {defaults : Defaults} {ids ids' : IdSupply}

/-- Metadata whose strings are texts and whose entries have ids. -/
structure IsOrderly (m : Metadata) : Prop where
  /-- The strings are texts. -/
  tidy : (Json.object m).Tidy Json.IsText
  /-- Each entry has an id. -/
  issued : ∀ f ∈ m.entriesOf, IsIssued f.2

/-- Metadata without a field is. -/
theorem isOrderly_nil : IsOrderly [] :=
  ⟨.ofPairs (List.forall_mem_nil _), List.forall_mem_nil _⟩

theorem IsOrderly.areIssued (h : m.IsOrderly) : AreIssued m.entriesOf :=
  ⟨tidy_entriesOf h.tidy, h.issued⟩

theorem AreIssued.isOrderly {entries : Fields} (h : AreIssued entries)
    (hm : (Json.object m).Tidy Json.IsText) (defaults : Defaults) :
    IsOrderly (Fields.set (m.withLocale defaults) entriesKey (.object entries)) where
  tidy :=
    (tidy_withLocale (fun t => Json.isText_widen t) hm defaults).set (Json.isText_wide _) h.tidy
  issued := by
    rw [entriesOf_set]
    exact h.issued

/-- **Registering a query gives it an id and takes none away.** -/
theorem register_enters {destination : Option WideText} (hm : m.IsOrderly) (hids : ids.IsProper)
    (hname : Json.IsText name)
    (hdestination : ∀ target, destination = some target → Json.IsText target)
    (h : m.register name destination defaults ids = (m', ids')) :
    m'.IsOrderly ∧ Enters name m.entriesOf m'.entriesOf ∧ ids'.id = ids.id := by
  obtain ⟨touched, after, entries, htouch, rfl, hrest⟩ := register_cases h
  obtain ⟨htouched, hafter⟩ := touch_enters hname hm.areIssued hids htouch
  rw [entriesOf_set]
  rcases hrest with ⟨-, rfl, rfl⟩ | ⟨target, hsome, hhide⟩
  · exact ⟨htouched.issued.isOrderly hm.tidy defaults, htouched, hafter⟩
  · have htarget := hdestination target (Option.filter_eq_some_iff.1 hsome).1
    obtain ⟨hhidden, hlast⟩ := hide_enters htarget htouched.issued (hids.of_id_eq hafter) hhide
    exact ⟨hhidden.issued.isOrderly hm.tidy defaults, htouched.trans hhidden, hlast.trans hafter⟩

/-- The id that is taken over is the one of the name. -/
theorem idOf?_of_idAt? {entries : Fields} {key id : WideText} (hne : id ≠ [])
    (h : idAt? entries key = some (.string id)) : idOf? (Fields.get? entries key) = some id := by
  obtain ⟨fields, hfields, hid⟩ := Option.bind_eq_some_iff.1 h
  obtain ⟨entry, hentry, hobject⟩ := Option.bind_eq_some_iff.1 hfields
  have htruthy : (Json.string id).isTruthy = true := by simpa [Json.isTruthy] using hne
  cases entry <;> cases hobject
  rw [idKey] at hid
  simp only [hentry, idOf?, hid, htruthy, if_true, Json.display]

theorem tidy_of_idAt? {good : WideText → Prop} {entries : Fields} {key : WideText} {id : Json}
    (hentries : (Json.object entries).Tidy good) (h : idAt? entries key = some id) :
    id.Tidy good := by
  obtain ⟨fields, hfields, hid⟩ := Option.bind_eq_some_iff.1 h
  obtain ⟨entry, hentry, hobject⟩ := Option.bind_eq_some_iff.1 hfields
  cases entry <;> cases hobject
  exact (hentries.of_get? hentry).of_get? hid

/-- When all names have ids, entries are built with these, and none is drawn. -/
theorem rebuildEntries_of_idOf? {previous : Fields} {hidden : List WideText}
    {queries : List Mashup.WideQuery} {idOf : WideText → WideText}
    (h : ∀ q ∈ queries, idOf? (Fields.get? previous q.name) = some (idOf q.name))
    (entries : Fields) (ids : IdSupply) :
    rebuildEntries previous hidden defaults entries ids queries =
      (Fields.setAll entries
        (queries.map fun q => rebuiltField hidden defaults q.name (idOf q.name)), ids) := by
  induction queries generalizing entries with
  | nil => rfl
  | cons q queries ih =>
    obtain ⟨hq, hqueries⟩ := List.forall_mem_cons.1 h
    have hfor : idFor previous ids q = (idOf q.name, ids) := by rw [idFor, hq]
    rw [rebuildEntries_cons, hfor, ih hqueries]
    rfl

/-- In entries that are built anew, each name has the id that was chosen for it. -/
theorem idAt?_setAll_rebuilt {hidden : List WideText} {queries : List Mashup.WideQuery}
    {idOf : WideText → WideText} {q : Mashup.WideQuery} (hq : q ∈ queries) :
    idAt? (Fields.setAll []
        (queries.map fun q => rebuiltField hidden defaults q.name (idOf q.name)))
      q.name = some (.string (idOf q.name)) := by
  have hget : Fields.get? (Fields.setAll [] (queries.map fun q =>
      rebuiltField hidden defaults q.name (idOf q.name))) q.name =
        some (rebuiltField hidden defaults q.name (idOf q.name)).2 := by
    refine Fields.get?_setAll (fun f hf hname => ?_) (.inl ?_)
    · obtain ⟨other, -, rfl⟩ := List.mem_map.1 hf
      have hsame : other.name = q.name := hname
      rw [hsame]
    · rw [Fields.keys, List.map_map]
      exact List.mem_map_of_mem hq
  rw [idAt?, hget]
  rfl

/-- **Building anew keeps the ids**, and draws none when all names have one. -/
theorem rebuild_keeps {queries : List Mashup.WideQuery} (hm : m.IsOrderly)
    (hqueries : ∀ q ∈ queries, Json.IsText q.name)
    (hids : ∀ q ∈ queries, ∃ id, id ≠ [] ∧
      idAt? m.entriesOf q.name = some (.string id))
    (h : m.rebuild queries defaults ids = (m', ids')) :
    (Json.object m').Tidy Json.IsText ∧
      ∀ q ∈ queries, idAt? m'.entriesOf q.name =
        idAt? m.entriesOf q.name := by
  obtain ⟨entries, hentries, rfl⟩ := rebuild_eq h
  let idOf : WideText → WideText := fun name =>
    (idOf? (Fields.get? m.entriesOf name)).getD []
  have hold : ∀ q ∈ queries,
      idOf? (Fields.get? m.entriesOf q.name) = some (idOf q.name) ∧
        idAt? m.entriesOf q.name = some (.string (idOf q.name)) := by
    intro q hq
    obtain ⟨id, hne, hid⟩ := hids q hq
    simp only [idOf, idOf?_of_idAt? hne hid, hid, Option.getD_some, and_self]
  rw [entriesOf_withLocale, rebuildEntries_of_idOf? fun q hq => (hold q hq).1] at hentries
  obtain rfl := (Prod.mk.inj hentries).1
  have htext : HoldsTexts Json.IsText := fun t => Json.isText_widen t
  constructor
  · refine (tidy_withLocale htext hm.tidy defaults).set (htext _) (.ofPairs fun f hf => ?_)
    obtain ⟨q, hq, rfl⟩ := List.mem_map.1 hf
    refine ⟨hqueries q hq, tidy_newEntry htext (hqueries q hq) ?_ defaults _⟩
    cases tidy_of_idAt? hm.areIssued.tidy (hold q hq).2 with
    | string hid => exact hid
  · intro q hq
    rw [entriesOf_set, (hold q hq).2, idAt?_setAll_rebuilt hq]

end

end Metadata

/-! ## Definitions -/

namespace Definition

variable {d : Definition} {t : Text} {ids : IdSupply}

/-- The id of a query. -/
def queryId? (d : Definition) (name : Text) : Option Json :=
  Metadata.idAt? d.metadata.entriesOf (Text.widen name)

/-- Metadata whose strings are texts can be written, and is read again. -/
theorem exists_setMetadata (d : Definition) {m : Metadata} (hm : (Json.object m).Tidy Json.IsText) :
    ∃ r, d.setMetadata m = .ok r ∧ r.document = d.document ∧ r.metadata = m := by
  obtain ⟨payload, hpayload⟩ := Payload.exists_encodeJson hm
  have hset : d.setMetadata m = .ok (d.setPayload Role.queryMetadata.path payload) :=
    setMetadata_eq_ok_iff.2 ⟨payload, hpayload, rfl⟩
  have htidy : (Json.object m).Tidy Json.AnyText := hm.mono fun _ _ => trivial
  obtain ⟨-, -, -, hfields⟩ := setMetadata_eq_ok htidy hset
  exact ⟨_, hset, document_setPayload d payload, by rw [metadata, hfields, Option.getD_some]⟩

/-- **Adding a query goes through**, gives the query an id and takes none away. -/
theorem exists_addQuery (hd : d.document = .ok t) (hm : d.metadata.IsOrderly)
    (hids : ids.IsProper) (name code : Text) (attr sectionAttr : Option Text)
    (defaults : Defaults) :
    ∃ r ids', d.addQuery (Text.widen name) (Text.widen code) (attr.map Text.widen)
        (sectionAttr.map Text.widen) defaults ids = (.ok r, ids') ∧
      r.document = .ok (Mashup.upsert t name code attr sectionAttr) ∧
      r.metadata.IsOrderly ∧ ids'.id = ids.id ∧
      (∀ other id, d.queryId? other = some id → r.queryId? other = some id) ∧
      ∃ id, id ≠ [] ∧ r.queryId? (Mashup.Name.plain name) = some (.string id) := by
  obtain ⟨m, ids', hregister⟩ : ∃ m ids',
      d.metadata.register (Text.widen (Mashup.Name.plain name))
        ((Mashup.Attribute.destination? attr).map Text.widen) defaults ids = (m, ids') :=
    ⟨_, _, rfl⟩
  obtain ⟨horderly, henters, hafter⟩ :=
    Metadata.register_enters hm hids (Json.isText_widen _)
      (fun _ => Json.isText_of_map_widen) hregister
  obtain ⟨r, hset, hdocument, hmetadata⟩ := exists_setMetadata
    (d.setText Role.mashup.path (Mashup.upsert t name code attr sectionAttr)) horderly.tidy
  refine ⟨r, ids', ?_, ?_, hmetadata ▸ horderly, hafter, fun other id hid => ?_, ?_⟩
  · rw [addQuery_widen hd name code attr sectionAttr hregister, hset]
  · rw [hdocument, document_setText]
  · rw [queryId?, hmetadata]
    exact henters.keeps _ _ hid
  · rw [queryId?, hmetadata]
    exact henters.has

/-- **Saving a document goes through**, and leaves the ids of its queries when all have one. -/
theorem exists_replaceDocument {queries : List Mashup.Query} (hm : d.metadata.IsOrderly)
    (hids : ∀ q ∈ queries, ∃ id, id ≠ [] ∧ d.queryId? q.name = some (.string id)) (t : Text)
    (defaults : Defaults) (ids : IdSupply) :
    ∃ r ids', d.replaceDocument (Text.widen t) (queries.map Mashup.Query.widen) defaults ids =
        (.ok r, ids') ∧
      r.document = .ok t ∧ ∀ q ∈ queries, r.queryId? q.name = d.queryId? q.name := by
  obtain ⟨m, ids', hrebuild⟩ : ∃ m ids', (Metadata.Change.rebuild
      (queries.map Mashup.Query.widen)).apply d.metadata defaults ids = (m, ids') := ⟨_, _, rfl⟩
  obtain ⟨htidy, hkeeps⟩ := Metadata.rebuild_keeps hm
    (List.forall_mem_map.2 fun q _ => Json.isText_widen q.name) (List.forall_mem_map.2 hids)
    hrebuild
  obtain ⟨r, hset, hdocument, hmetadata⟩ :=
    exists_setMetadata (d.setText Role.mashup.path t) htidy
  refine ⟨r, ids', ?_, ?_, fun q hq => ?_⟩
  · rw [replaceDocument, setDocument_widen, hrebuild, hset]
  · rw [hdocument, document_setText]
  · rw [queryId?, hmetadata]
    exact hkeeps q.widen (List.mem_map_of_mem hq)

end Definition
end Dataflow
