import Dataflow.Proofs.Resaving

/-!
# What an edit registers

Each edit of a definition changes its document, its metadata, or both.  For every edit there is one
lemma here that says all of the document and of the names that have an entry: adding a query writes
the document by `upsert` and registers the name of the call and the target of its attribute; saving
puts a document and its names in the place of what was there; connections and patches leave both as
they are.

All metadata that an edit writes is tidy, so what it registers is found when the definition is read
again.
-/

set_option autoImplicit false

namespace Dataflow

/-- The query to which a call with an attribute sends its data, if it has a name. -/
def Mashup.Wide.target? (attr : Option WideText) : Option WideText :=
  (Mashup.Wide.destination? attr).filter fun name => !name.isEmpty

/-- A patch in whose settings no object has a name twice. -/
def Patch.NamesOnce (p : Patch) : Prop :=
  ∀ settings, p.destinationSettings = some settings → (Json.object settings).NamesOnce

namespace Metadata

variable {m m' : Metadata} {entries entries' : Fields} {name : WideText} {defaults : Defaults}
  {ids ids' : IdSupply}

/-! ## Entries -/

/-- The names that have an entry. -/
def registered (m : Metadata) : List WideText := Fields.keys m.entriesOf

/-- A field beside the entries leaves them as they are. -/
theorem entriesOf_set_other {key : WideText} (h : entriesKey ≠ key) (m : Metadata) (value : Json) :
    entriesOf (Fields.set m key value) = m.entriesOf := by
  rw [entriesOf, entriesOf, Fields.get?_set_other h]

theorem entriesOf_withLocale (m : Metadata) (defaults : Defaults) :
    (m.withLocale defaults).entriesOf = m.entriesOf := by
  have hother : entriesKey ≠ localeKey := by decide
  rw [entriesOf, entriesOf, withLocale, Fields.get?_setIfMissing_other hother]

/-! ### One field besides the locale

Every edit of metadata adds a locale if there is none and sets one field. -/

section

variable {key : WideText} (m : Metadata) (value : Json) (defaults : Defaults)

/-- Another field has the value it had. -/
theorem get?_set_withLocale {other : WideText} (hkey : other ≠ key) (hlocale : other ≠ localeKey) :
    Fields.get? (Fields.set (m.withLocale defaults) key value) other = Fields.get? m other := by
  rw [Fields.get?_set_other hkey, withLocale, Fields.get?_setIfMissing_other hlocale]

/-- The locale is the one that was there, if one was. -/
theorem locale_set_withLocale (h : localeKey ≠ key) :
    Fields.get? (Fields.set (m.withLocale defaults) key value) localeKey =
      some ((Fields.get? m localeKey).getD (.string (Text.widen defaults.locale))) := by
  rw [Fields.get?_set_other h, withLocale]
  rcases Fields.setIfMissing_cases m localeKey (.string (Text.widen defaults.locale)) with
    ⟨hmem, heq⟩ | ⟨hnot, heq⟩
  · obtain ⟨locale, hlocale⟩ := Option.ne_none_iff_exists'.1
      (fun hnone => Fields.get?_eq_none_iff.1 hnone hmem)
    rw [heq, hlocale, Option.getD_some]
  · rw [heq, Fields.get?_set_self, Fields.get?_eq_none_iff.2 hnot, Option.getD_none]

/-- All fields stay where they are. -/
theorem keys_prefix_set_withLocale :
    Fields.keys m <+: Fields.keys (Fields.set (m.withLocale defaults) key value) := by
  have hlocale : Fields.keys m <+: Fields.keys (m.withLocale defaults) := by
    rw [withLocale]
    rcases Fields.setIfMissing_cases m localeKey (.string (Text.widen defaults.locale)) with
      ⟨-, heq⟩ | ⟨-, heq⟩
    · simp only [heq, List.prefix_refl]
    · rw [heq]
      exact Fields.keys_prefix_set _ _ _
  exact hlocale.trans (Fields.keys_prefix_set _ _ _)

end

/-- What an edit of the entries leaves alone: the fields beside them have the values they had, and
a locale is only added. -/
structure KeepsFields (m m' : Metadata) (defaults : Defaults) : Prop where
  /-- Another field has the value it had. -/
  others : ∀ key, key ≠ entriesKey → key ≠ localeKey → Fields.get? m' key = Fields.get? m key
  /-- The locale is the one that was there, if one was. -/
  locale : Fields.get? m' localeKey =
    some ((Fields.get? m localeKey).getD (.string (Text.widen defaults.locale)))
  /-- All fields stay where they are. -/
  places : Fields.keys m <+: Fields.keys m'

/-- Setting the entries leaves the fields beside them alone. -/
theorem keepsFields_set_entries (m : Metadata) (entries : Json) (defaults : Defaults) :
    KeepsFields m (Fields.set (m.withLocale defaults) entriesKey entries) defaults where
  others _ hentries hlocale := get?_set_withLocale m entries defaults hentries hlocale
  locale := locale_set_withLocale m entries defaults (by decide)
  places := keys_prefix_set_withLocale m entries defaults

/-! ## Registering a query -/

/-- The entries with one for a name: the one that is there, changed, or a new one. -/
def enter (change : Fields → Fields) (hidden : Bool) (entries : Fields) (name : WideText)
    (defaults : Defaults) (ids : IdSupply) : Fields × IdSupply :=
  match Fields.get? entries name with
  | some (.object entry) => (Fields.set entries name (.object (change entry)), ids)
  | _ => (Fields.set entries name (newEntry name ids.draw.1 defaults hidden), ids.draw.2)

theorem touch_eq_enter : touch entries name defaults ids =
    enter (Fields.setIfMissing · (wide "loadEnabled") (.bool defaults.loadEnabled)) false entries
      name defaults ids := rfl

theorem hide_eq_enter : hide entries name defaults ids =
    enter (Fields.set · (wide "isHidden") (.bool true)) true entries name defaults ids := rfl

/-- The two things that entering a name can do. -/
theorem enter_cases {change : Fields → Fields} {hidden : Bool}
    (h : enter change hidden entries name defaults ids = (entries', ids')) :
    (∃ old, Fields.get? entries name = some (.object old) ∧
        entries' = Fields.set entries name (.object (change old)) ∧ ids' = ids) ∨
      ((∀ old, Fields.get? entries name ≠ some (.object old)) ∧
        entries' = Fields.set entries name (newEntry name ids.draw.1 defaults hidden) ∧
        ids' = ids.draw.2) := by
  rw [enter] at h
  split at h
  · rename_i old hold
    obtain ⟨rfl, rfl⟩ := Prod.mk.inj h
    exact .inl ⟨old, hold, rfl, rfl⟩
  · rename_i hnone
    obtain ⟨rfl, rfl⟩ := Prod.mk.inj h
    exact .inr ⟨fun old hold => hnone old hold, rfl, rfl⟩

section

variable {good : WideText → Prop} (hgood : HoldsTexts good) (hids : ∀ n, good (ids.id n))
  (hname : good name)

include hgood hids hname

/-- The entry of a name is set, whether there was one or not.  It is tidy when ids are good. -/
theorem enter_eq {change : Fields → Fields}
    (hchange : ∀ fields, (Json.object fields).Tidy good → (Json.object (change fields)).Tidy good)
    {hidden : Bool} (htidy : (Json.object entries).Tidy good)
    (h : enter change hidden entries name defaults ids = (entries', ids')) :
    ids'.id = ids.id ∧
      ∃ entry, entry.Tidy good ∧ entries' = Fields.set entries name entry := by
  rcases enter_cases h with ⟨entry, hentry, rfl, rfl⟩ | ⟨-, rfl, rfl⟩
  · exact ⟨rfl, _, hchange entry (htidy.of_get? hentry), rfl⟩
  · exact ⟨rfl, _, tidy_newEntry hgood hname (hids ids.drawn) defaults hidden, rfl⟩

theorem touch_eq (htidy : (Json.object entries).Tidy good)
    (h : touch entries name defaults ids = (entries', ids')) :
    ids'.id = ids.id ∧
      ∃ entry, entry.Tidy good ∧ entries' = Fields.set entries name entry :=
  enter_eq hgood hids hname (fun _ hfields => hfields.setIfMissing (hgood _) (.bool _)) htidy
    (touch_eq_enter ▸ h)

theorem hide_eq (htidy : (Json.object entries).Tidy good)
    (h : hide entries name defaults ids = (entries', ids')) :
    ids'.id = ids.id ∧
      ∃ entry, entry.Tidy good ∧ entries' = Fields.set entries name entry :=
  enter_eq hgood hids hname (fun _ hfields => hfields.set (hgood _) (.bool true)) htidy
    (hide_eq_enter ▸ h)

end

/-- What registering comes to: the query is entered, and behind it the query to which its data
goes, if this has a name. -/
theorem register_cases {destination : Option WideText}
    (h : m.register name destination defaults ids = (m', ids')) :
    ∃ touched after entries, touch m.entriesOf name defaults ids = (touched, after) ∧
      m' = Fields.set (m.withLocale defaults) entriesKey (.object entries) ∧
      ((destination.filter (fun target => !target.isEmpty) = none ∧ entries = touched ∧
          ids' = after) ∨
        ∃ target, destination.filter (fun target => !target.isEmpty) = some target ∧
          hide touched target defaults after = (entries, ids')) := by
  obtain ⟨touched, after, htouch⟩ : ∃ touched after,
      touch m.entriesOf name defaults ids = (touched, after) := ⟨_, _, rfl⟩
  rw [register] at h
  simp only [entriesOf_withLocale, htouch] at h
  cases destination with
  | none =>
    obtain ⟨rfl, rfl⟩ := Prod.mk.inj h
    exact ⟨touched, _, touched, htouch, rfl, .inl ⟨rfl, rfl, rfl⟩⟩
  | some target =>
    cases target with
    | nil =>
      obtain ⟨rfl, rfl⟩ := Prod.mk.inj h
      exact ⟨touched, _, touched, htouch, rfl, .inl ⟨rfl, rfl, rfl⟩⟩
    | cons c rest =>
      obtain ⟨rfl, rfl⟩ := Prod.mk.inj h
      exact ⟨touched, after, _, htouch, rfl, .inr ⟨c :: rest, rfl, rfl⟩⟩

/-- What the entries are set to is what is registered. -/
theorem registered_set_entries (m : Metadata) (entries : Fields) :
    registered (Fields.set m entriesKey (.object entries)) = Fields.keys entries := by
  rw [registered, entriesOf_set]

/-- **Registering adds the query and the target of its attribute**, and drops nothing. -/
theorem register_eq {good : WideText → Prop} (hgood : HoldsTexts good)
    (hids : ∀ n, good (ids.id n)) {attr : Option WideText} (hname : good name)
    (htarget : ∀ target, Mashup.Wide.target? attr = some target → good target)
    (hm : (Json.object m).Tidy good)
    (h : m.register name (Mashup.Wide.destination? attr) defaults ids = (m', ids')) :
    (Json.object m').Tidy good ∧ ids'.id = ids.id ∧
      ∀ key, key ∈ m'.registered ↔
        key ∈ m.registered ∨ key = name ∨ Mashup.Wide.target? attr = some key := by
  have hlocale := tidy_withLocale hgood hm defaults
  obtain ⟨touched, after, entries, htouch, rfl, hrest⟩ := register_cases h
  obtain ⟨hafter, entry, hentry, rfl⟩ := touch_eq hgood hids hname (tidy_entriesOf hm) htouch
  have htouched : (Json.object (Fields.set m.entriesOf name entry)).Tidy good :=
    (tidy_entriesOf hm).set hname hentry
  rcases hrest with ⟨hnone, rfl, rfl⟩ | ⟨target, hsome, hhide⟩
  · refine ⟨hlocale.set (hgood _) htouched, hafter, fun key => ?_⟩
    rw [registered_set_entries, Fields.mem_keys_set, registered, Mashup.Wide.target?, hnone]
    simp
  · have hgoodTarget := htarget target hsome
    obtain ⟨hlast, entry', hentry', rfl⟩ :=
      hide_eq hgood (hafter ▸ hids) hgoodTarget htouched hhide
    refine ⟨hlocale.set (hgood _) (htouched.set hgoodTarget hentry'), hlast.trans hafter,
      fun key => ?_⟩
    rw [registered_set_entries, Fields.mem_keys_set, Fields.mem_keys_set, registered,
      Mashup.Wide.target?, hsome, Option.some.injEq]
    simp [or_assoc, eq_comm]

/-! ## Other edits -/

section

variable {good : WideText → Prop} (hgood : HoldsTexts good)
include hgood

theorem tidy_entryOf {b : Binding} (hid : good (Connection.storedId b.id b.cluster))
    (hkind : good b.kind) (hpath : good b.path) : (Connection.entryOf b).Tidy good := by
  have hfields : ∀ f ∈ ([(wide "connectionId", .string (Connection.storedId b.id b.cluster)),
      (wide "kind", .string b.kind), (wide "path", .string b.path)] : Fields),
      good f.1 ∧ f.2.Tidy good := by
    simp only [List.forall_mem_cons]
    exact ⟨⟨hgood _, .string hid⟩, ⟨hgood _, .string hkind⟩, ⟨hgood _, .string hpath⟩,
      fun f hf => absurd hf List.not_mem_nil⟩
  exact Json.Tidy.ofPairs hfields

/-- Listed connections are tidy when those that are added are. -/
theorem tidy_connect (hm : (Json.object m).Tidy good) {bindings : List Binding}
    (hbindings : ∀ b ∈ bindings, (Connection.entryOf b).Tidy good) (defaults : Defaults) :
    (Json.object (m.connect bindings defaults)).Tidy good := by
  have hlocale := tidy_withLocale hgood hm defaults
  have henlist : ∀ (bindings : List Binding), (∀ b ∈ bindings, (Connection.entryOf b).Tidy good) →
      ∀ items : List Json, (∀ v ∈ items, v.Tidy good) →
        ∀ v ∈ bindings.foldl Connection.enlist items, v.Tidy good := by
    intro bindings
    induction bindings with
    | nil => exact fun _ items hitems => hitems
    | cons b bindings ih =>
      intro hentries items hitems
      obtain ⟨hentry, hentries⟩ := List.forall_mem_cons.1 hentries
      refine ih hentries _ ?_
      rw [Connection.enlist]
      split
      · exact hitems
      · exact List.forall_mem_append.2 ⟨hitems, List.forall_mem_singleton.2 hentry⟩
  have hlisted : ∀ v ∈ (m.withLocale defaults).connectionsOf, v.Tidy good := by
    rw [connectionsOf]
    split
    · rename_i connections hconnections
      cases hlocale.of_get? hconnections with
      | array hitems => exact hitems
    · exact fun v hv => absurd hv List.not_mem_nil
  exact hlocale.set (hgood _) (.array (henlist bindings hbindings _ hlisted))

end

/-- Listing connections leaves the entries as they are. -/
theorem connect_eq (hm : (Json.object m).Tidy Json.AnyText) (bindings : List Binding)
    (defaults : Defaults) :
    (Json.object (m.connect bindings defaults)).Tidy Json.AnyText ∧
      (m.connect bindings defaults).registered = m.registered := by
  have hother : entriesKey ≠ connectionsKey := by decide
  refine ⟨tidy_connect holdsTexts_anyText hm (fun b _ => ?_) defaults, ?_⟩
  · exact tidy_entryOf holdsTexts_anyText trivial trivial trivial
  · rw [registered, connect, entriesOf_set_other hother, entriesOf_withLocale, registered]

theorem tidy_patchFields {p : Patch}
    (hp : ∀ settings, p.destinationSettings = some settings →
      (Json.object settings).Tidy Json.AnyText) :
    ∀ f ∈ p.fields, Json.AnyText f.1 ∧ f.2.Tidy Json.AnyText := by
  have hflag : ∀ flag : Option Bool, ((flag.map Json.bool).getD .null).Tidy Json.AnyText := by
    intro flag
    cases flag with
    | none => exact .null
    | some b => exact .bool b
  have hsettings : ((p.destinationSettings.map Json.object).getD .null).Tidy Json.AnyText := by
    cases hsome : p.destinationSettings with
    | none => exact .null
    | some settings => exact hp settings hsome
  have hall : ∀ f ∈ p.toFields, Json.AnyText f.1 ∧ f.2.Tidy Json.AnyText := by
    simp only [Patch.toFields, List.forall_mem_cons]
    exact ⟨⟨trivial, hflag p.loadEnabled⟩, ⟨trivial, hflag p.isHidden⟩, ⟨trivial, hsettings⟩,
      fun f hf => absurd hf List.not_mem_nil⟩
  exact fun f hf => hall f (List.mem_filter.1 hf).1

/-- The settings of a patch stand in the fields that it sets. -/
theorem get?_setAll_settings {p : Patch} {settings : Fields}
    (h : p.destinationSettings = some settings) (entry : Fields) :
    Fields.get? (Fields.setAll entry p.fields) (wide "destinationSettings") =
      some (.object settings) := by
  have hfield : (wide "destinationSettings", Json.object settings) ∈ p.fields := by
    refine List.mem_filter.2 ⟨?_, rfl⟩
    simp [Patch.toFields, h]
  refine Fields.get?_setAll (fun f hf hname => ?_) (.inl (List.mem_map_of_mem hfield))
  have hf : f ∈ p.toFields := (List.mem_filter.1 hf).1
  simp only [Patch.toFields, List.mem_cons, List.not_mem_nil, or_false] at hf
  have hload : wide "loadEnabled" ≠ wide "destinationSettings" := by decide
  have hhidden : wide "isHidden" ≠ wide "destinationSettings" := by decide
  rcases hf with rfl | rfl | rfl
  · exact absurd hname hload
  · exact absurd hname hhidden
  · rw [h]
    rfl

/-- **A patch changes an entry that is there, and no name.**  What it leaves is tidy if it can be
written, when no name stands twice in its settings. -/
theorem patch_eq {p : Patch} (hm : (Json.object m).Tidy Json.AnyText) (hp : p.NamesOnce)
    (h : m.patch name p = .ok m') :
    ((Json.object m').isWritable = true → (Json.object m').Tidy Json.AnyText) ∧
      m'.registered = m.registered := by
  rw [patch] at h
  split at h
  · rename_i entries hentries
    split at h
    · rename_i entry hentry
      obtain rfl := Except.ok.inj h
      have htidy := hm.of_get? hentries
      refine ⟨fun hw => ?_, ?_⟩
      · have hpatched := Json.isWritable_of_get?
          (Json.isWritable_of_get? hw (Fields.get?_set_self _ _ _)) (Fields.get?_set_self _ _ _)
        have hsettings : ∀ settings, p.destinationSettings = some settings →
            (Json.object settings).Tidy Json.AnyText := fun settings hsome =>
          (hp settings hsome).tidy
            (Json.isWritable_of_get? hpatched (get?_setAll_settings hsome entry))
        exact hm.set trivial (htidy.set trivial
          ((htidy.of_get? hentry).setAll (tidy_patchFields hsettings)))
      · have hmem : name ∈ Fields.keys entries := by
          by_contra hnot
          rw [Fields.get?_eq_none_iff.2 hnot] at hentry
          cases hentry
        rw [registered_set_entries, Fields.keys_set_of_mem hmem, registered, entriesOf, hentries]
    · cases h
  · cases h

end Metadata

/-! ## Definitions -/

namespace Definition

variable {d r : Definition} {t : Text} {defaults : Defaults} {ids ids' : IdSupply}

/-- The document of a definition, empty when there is none that can be read. -/
def mashup (d : Definition) : Text := (d.text? Role.mashup.path).getD []

/-- The names that have an entry in the metadata of a definition. -/
def registered (d : Definition) : List WideText := d.metadata.registered

/-- The document that an edit works on is the one that is read. -/
theorem mashup_of_document (h : d.document = .ok t) : d.mashup = t := by
  rw [document] at h
  rw [mashup]
  split at h
  · rename_i hnone
    rw [text?, hnone]
    exact Except.ok.inj h
  · rename_i p hp
    split at h
    · rename_i hempty
      rw [text?, hp]
      simp only [if_pos hempty]
      exact Except.ok.inj h
    · split at h
      · rename_i u hu
        rw [hu]
        exact Except.ok.inj h
      · cases h

/-- A document that was written is there. -/
theorem document_of_payload
    (h : (d.part? Role.mashup.path).map Part.payload = some (Payload.encodeText t)) :
    d.document = .ok t := by
  obtain ⟨p, hp, hpayload⟩ := Option.map_eq_some_iff.1 h
  rw [document, hp]
  by_cases ht : t = []
  · have hempty : p.payload.isEmpty = true :=
      List.isEmpty_iff.2 (hpayload.trans (Payload.encodeText_eq_nil_iff.2 ht))
    simp only [if_pos hempty, ht]
  · have hfull : ¬p.payload.isEmpty = true := by
      rw [List.isEmpty_iff, hpayload, Payload.encodeText_eq_nil_iff]
      exact ht
    simp only [if_neg hfull, text?_of_payload ht h]

theorem document_setText (d : Definition) (t : Text) :
    (d.setText Role.mashup.path t).document = .ok t :=
  document_of_payload (part?_setPayload d Role.mashup.path _)

/-- Writing metadata leaves the document as it is. -/
theorem document_setPayload (d : Definition) (payload : WideText) :
    (d.setPayload Role.queryMetadata.path payload).document = d.document := by
  have hpart : (d.setPayload Role.queryMetadata.path payload).part? Role.mashup.path =
      d.part? Role.mashup.path := part?_setPayload_other (Ne.symm lower_mashup_ne)
  rw [document, document, text?, text?, hpart]

/-- What is left by writing tidy metadata. -/
theorem setMetadata_effect {m : Metadata} (hm : (Json.object m).Tidy Json.AnyText)
    (h : d.setMetadata m = .ok r) : r.document = d.document ∧ r.registered = m.registered := by
  obtain ⟨payload, -, hr, hfields⟩ := setMetadata_eq_ok hm h
  refine ⟨by rw [hr, document_setPayload], ?_⟩
  rw [registered, metadata, hfields, Option.getD_some]

/-- **Adding a query** writes the document by `upsert`, and registers the name of the call and the
target of its attribute. -/
theorem addQuery_eq_ok {name code : WideText} {attr sectionAttr : Option WideText}
    (h : d.addQuery name code attr sectionAttr defaults ids = (.ok r, ids')) :
    ∃ t u, d.document = .ok t ∧ r.document = .ok u ∧
      Mashup.Wide.upsert t name code attr sectionAttr = Text.widen u ∧
      ∀ key, key ∈ r.registered ↔ key ∈ d.registered ∨ key = Mashup.Wide.plain name ∨
        Mashup.Wide.target? attr = some key := by
  obtain ⟨t, u, m, hd, hu, hm, hset⟩ := exists_of_addQuery h
  obtain ⟨htidy, -, hkeys⟩ := Metadata.register_eq Metadata.holdsTexts_anyText (fun _ => trivial)
    trivial (fun _ _ => trivial) d.tidy_metadata hm
  obtain ⟨hdocument, hregistered⟩ := setMetadata_effect htidy hset
  refine ⟨t, u, hd, hdocument.trans (document_setText d u), hu, fun key => ?_⟩
  rw [hregistered]
  exact hkeys key

/-- **Listing connections** changes neither the document nor a name. -/
theorem connect_eq_ok {bindings : List Binding} (h : d.connect bindings defaults = .ok r) :
    r.document = d.document ∧ r.registered = d.registered := by
  obtain ⟨htidy, hkeys⟩ := Metadata.connect_eq d.tidy_metadata bindings defaults
  obtain ⟨hdocument, hregistered⟩ := setMetadata_effect htidy h
  exact ⟨hdocument, hregistered.trans hkeys⟩

/-- **Saving a document** leaves it and the names of its queries. -/
theorem saveDocument_eq_ok {document : WideText} {queries : List Mashup.WideQuery}
    (h : d.replaceDocument document queries defaults ids = (.ok r, ids')) :
    ∃ t, document = Text.widen t ∧ r.document = .ok t ∧
      ∀ key, key ∈ r.registered ↔ key ∈ queries.map Mashup.WideQuery.name := by
  obtain ⟨t, -, rfl, -, -⟩ := exists_of_setDocument h
  obtain ⟨m, payload, hm, hpayload, hr, hfields⟩ := replaceDocument_eq_ok h
  obtain ⟨entries, hentries, hkeys⟩ := Metadata.keys_rebuild hm
  refine ⟨t, rfl, by rw [hr, document_setPayload, document_setText], fun key => ?_⟩
  rw [registered, metadata, hfields, Option.getD_some, Metadata.registered, Metadata.entriesOf,
    hentries]
  simp only [hkeys, List.mem_eraseDups, Metadata.namesOf]

/-- **A patch** changes neither the document nor a name. -/
theorem patchQuery_eq_ok {name : WideText} {p : Patch} (hp : p.NamesOnce)
    (h : d.patchQuery name p = .ok r) :
    r.document = d.document ∧ r.registered = d.registered := by
  obtain ⟨fields, m, hfields, hm, hset⟩ := patchQuery_eq_ok_iff.1 h
  have hmetadata : d.metadata = fields := by rw [metadata, hfields, Option.getD_some]
  obtain ⟨htidy, hkeys⟩ := Metadata.patch_eq (hmetadata ▸ d.tidy_metadata) hp hm
  obtain ⟨payload, hpayload, -⟩ := setMetadata_eq_ok_iff.1 hset
  have hwritable := (Payload.encodeJson_eq_ok_iff.1 hpayload).1
  obtain ⟨hdocument, hregistered⟩ := setMetadata_effect (htidy hwritable) hset
  rw [hdocument, hregistered, hkeys, registered, hmetadata]
  exact ⟨rfl, rfl⟩

end Definition
end Dataflow
