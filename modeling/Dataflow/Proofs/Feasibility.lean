import Dataflow.Proofs.Destination

/-!
# When an edit goes through

An edit takes metadata for what it is: fields of any kind in any place, or nothing at all when it
cannot be read.  All that can keep it from being written again is a string with half of a surrogate
pair.  JSON can spell such a half, but UTF-8 has no bytes for it, and metadata is written with all
characters as they are.

A half anywhere in the metadata is in the way of some edit, because each edit writes back all fields
but one, and two edits together write back all of them (`Metadata.tidy_of_connect_of_rebuild`).
Without halves only a mashup part that holds no text is in the way, and only of adding a query.  So
`Definition.EditsGoThrough` holds just when the metadata holds no halves.
-/

set_option autoImplicit false

namespace Dataflow

/-! ## Halves -/

namespace Json

theorem isText_append_iff {v w : WideText} : IsText (v ++ w) ↔ IsText v ∧ IsText w := by
  constructor
  · rintro ⟨t, ht⟩
    obtain ⟨s, u, -, hv, hw⟩ := Text.exists_of_append_eq_widen ht
    exact ⟨⟨s, hv⟩, ⟨u, hw⟩⟩
  · exact fun ⟨hv, hw⟩ => hv.append hw

/-- No text has a half. -/
theorem not_isText_surrogate (half : Fin 0x800) : ¬IsText [.surrogate half] := by
  rintro ⟨t, ht⟩
  cases t <;> cases ht

/-- A string in quotes is a text only if the string is, when all characters are written as they
are. -/
theorem isText_of_printString {s : WideText} (h : IsText (printString false s)) : IsText s := by
  rw [printString, isText_append_iff, isText_append_iff] at h
  obtain ⟨⟨-, h⟩, -⟩ := h
  induction s with
  | nil => exact ⟨[], rfl⟩
  | cons p s ih =>
    rw [List.flatMap_cons, isText_append_iff] at h
    cases p with
    | scalar c => exact (isText_widen [c]).append (ih h.2)
    | surrogate half => exact absurd h.1 (not_isText_surrogate half)

theorem isText_of_printItems {l : Layout} {level : Nat} {items : List Json}
    (h : IsText (printItems l level items)) : ∀ v ∈ items, IsText (printAt l level v) := by
  induction items with
  | nil => exact fun v hv => absurd hv List.not_mem_nil
  | cons item rest ih =>
    rw [printItems, isText_append_iff, isText_append_iff] at h
    exact List.forall_mem_cons.2 ⟨h.1.2, ih h.2⟩

theorem isText_of_printFields {l : Layout} (hl : l.asciiOnly = false) {level : Nat}
    {fields : Fields} (h : IsText (printFields l level fields)) :
    ∀ f ∈ fields, IsText f.1 ∧ IsText (printAt l level f.2) := by
  induction fields with
  | nil => exact fun f hf => absurd hf List.not_mem_nil
  | cons f rest ih =>
    simp only [printFields, hl, isText_append_iff] at h
    obtain ⟨⟨⟨⟨-, hkey⟩, -⟩, hvalue⟩, hrest⟩ := h
    exact List.forall_mem_cons.2 ⟨⟨isText_of_printString hkey, hvalue⟩, ih hrest⟩

/-- **A value that is printed as a text holds no halves.** -/
theorem tidy_of_isText_printAt {l : Layout} (hl : l.asciiOnly = false) {v : Json}
    (hv : v.Tidy AnyText) : ∀ {level}, IsText (printAt l level v) → v.Tidy IsText := by
  induction hv with
  | null => exact fun _ => .null
  | bool b => exact fun _ => .bool b
  | int hn => exact fun _ => .int hn
  | float x => exact fun _ => .float x
  | string _ =>
    intro level h
    rw [printAt, hl] at h
    exact .string (isText_of_printString h)
  | @array items _ ih =>
    intro level h
    cases items with
    | nil => exact .array fun v hv => absurd hv List.not_mem_nil
    | cons item rest =>
      simp only [printAt, isText_append_iff] at h
      obtain ⟨⟨⟨⟨-, hitem⟩, hrest⟩, -⟩, -⟩ := h
      obtain ⟨ihitem, ihrest⟩ := List.forall_mem_cons.1 ih
      exact .array (List.forall_mem_cons.2
        ⟨ihitem hitem, fun v hv => ihrest v hv (isText_of_printItems hrest v hv)⟩)
  | @object fields hkeys _ _ ih =>
    intro level h
    cases fields with
    | nil => exact .emptyObject
    | cons f rest =>
      simp only [printAt, hl, isText_append_iff] at h
      obtain ⟨⟨⟨⟨⟨⟨-, hkey⟩, -⟩, hvalue⟩, hrest⟩, -⟩, -⟩ := h
      obtain ⟨ihvalue, ihrest⟩ := List.forall_mem_cons.1 ih
      have hfields := isText_of_printFields hl hrest
      exact .object hkeys
        (List.forall_mem_cons.2 ⟨isText_of_printString hkey, fun f hf => (hfields f hf).1⟩)
        (List.forall_mem_cons.2 ⟨ihvalue hvalue, fun f hf => ihrest f hf (hfields f hf).2⟩)

end Json

/-- **What has a payload is what holds no halves.** -/
theorem Payload.exists_encodeJson_iff {v : Json} (hv : v.Tidy Json.AnyText) :
    (∃ payload, encodeJson v = .ok payload) ↔ v.Tidy Json.IsText := by
  constructor
  · rintro ⟨payload, h⟩
    obtain ⟨t, ht, -⟩ := exists_of_encodeWide (encodeJson_eq_ok_iff.1 h).2
    have hprinted : Json.IsText (v.printAt .document 0) := ⟨t, ht⟩
    exact Json.tidy_of_isText_printAt rfl hv hprinted
  · exact exists_encodeJson

/-! ## Metadata -/

namespace Metadata

variable {m m' : Metadata} {defaults : Defaults} {ids ids' : IdSupply}

/-- Listing connections leaves all other fields. -/
theorem mem_connect {f : WideText × Json} (hf : f ∈ m) (hne : f.1 ≠ connectionsKey)
    (bindings : List Binding) (defaults : Defaults) : f ∈ m.connect bindings defaults :=
  Fields.mem_set_of_mem (Fields.mem_setIfMissing_of_mem hf _ _) hne _

/-- Building the entries anew leaves all other fields. -/
theorem mem_rebuild {f : WideText × Json} {queries : List Mashup.WideQuery} (hf : f ∈ m)
    (hne : f.1 ≠ entriesKey) (h : m.rebuild queries defaults ids = (m', ids')) : f ∈ m' := by
  obtain ⟨entries, -, rfl⟩ := rebuild_eq h
  exact Fields.mem_set_of_mem (Fields.mem_setIfMissing_of_mem hf _ _) hne _

/-- **Listing and building anew leave no field to both**, so where neither result holds halves,
there were none. -/
theorem tidy_of_connect_of_rebuild {bindings : List Binding} {queries : List Mashup.WideQuery}
    (hm : (Json.object m).Tidy Json.AnyText)
    (hconnect : (Json.object (m.connect bindings defaults)).Tidy Json.IsText)
    (hrebuild : m.rebuild queries defaults ids = (m', ids'))
    (hm' : (Json.object m').Tidy Json.IsText) : (Json.object m).Tidy Json.IsText := by
  have hapart : connectionsKey ≠ entriesKey := by decide
  have hfields : ∀ f ∈ m, Json.IsText f.1 ∧ f.2.Tidy Json.IsText := by
    intro f hf
    by_cases hkey : f.1 = connectionsKey
    · exact hm'.of_mem (mem_rebuild hf (hkey ▸ hapart) hrebuild)
    · exact hconnect.of_mem (mem_connect hf hkey bindings defaults)
  cases hm with
  | object hnodup _ _ =>
    exact .object hnodup (fun f hf => (hfields f hf).1) fun f hf => (hfields f hf).2

/-- Ids of texts are listed as texts. -/
theorem isText_storedId {id : WideText} {cluster : Option WideText} (hid : Json.IsText id)
    (hcluster : ∀ c, cluster = some c → Json.IsText c) :
    Json.IsText (Connection.storedId id cluster) := by
  rw [Connection.storedId.eq_def]
  split
  · exact hid
  · exact hid
  · rename_i c _
    have hfields : ∀ f ∈ ([(wide "ClusterId", .string c), (wide "DatasourceId", .string id)] :
        Fields), Json.IsText f.1 ∧ f.2.Tidy Json.IsText := by
      simp only [List.forall_mem_cons]
      exact ⟨⟨Json.isText_wide _, .string (hcluster c rfl)⟩, ⟨Json.isText_wide _, .string hid⟩,
        fun f hf => absurd hf List.not_mem_nil⟩
    exact Json.isText_printAt (Json.Tidy.ofPairs hfields) 0

end Metadata

/-- A binding of texts. -/
structure Binding.IsText (b : Binding) : Prop where
  /-- The id is a text. -/
  id : Json.IsText b.id
  /-- So is the kind of the source. -/
  kind : Json.IsText b.kind
  /-- So is the place of the source. -/
  path : Json.IsText b.path
  /-- So is the id of the cluster. -/
  cluster : ∀ c, b.cluster = some c → Json.IsText c

theorem Binding.IsText.tidy_entryOf {b : Binding} (hb : b.IsText) :
    (Connection.entryOf b).Tidy Json.IsText :=
  Metadata.tidy_entryOf Json.isText_widen (Metadata.isText_storedId hb.id hb.cluster) hb.kind
    hb.path

/-! ## Definitions -/

namespace Definition

/-- The first mashup part holds something that is no base64 of UTF-8. -/
def HasUndecodableMashup (d : Definition) : Prop :=
  ∃ p, d.part? Role.mashup.path = some p ∧ p.payload ≠ [] ∧
    ∀ t, Payload.decode p.payload ≠ .ok t

/-- There is no document to work on just when the mashup part cannot be decoded. -/
theorem exists_document_error_iff (d : Definition) :
    (∃ failure, d.document = .error failure) ↔ d.HasUndecodableMashup := by
  rw [document, HasUndecodableMashup, text?]
  cases hpart : d.part? Role.mashup.path with
  | none => simp
  | some p =>
    by_cases hempty : p.payload = []
    · simp [hempty]
    · have hfull : ¬p.payload.isEmpty = true := mt List.isEmpty_iff.1 hempty
      simp only [if_neg hfull, Option.some.injEq, exists_eq_left', ne_eq, hempty,
        not_false_eq_true, true_and]
      cases hdecode : Payload.decode p.payload with
      | error fault => simp [Except.toOption]
      | ok t => simp [Except.toOption]

/-- **Metadata can be written just when it holds no halves.** -/
theorem exists_setMetadata_iff (d : Definition) {m : Metadata}
    (hm : (Json.object m).Tidy Json.AnyText) :
    (∃ r, d.setMetadata m = .ok r) ↔ (Json.object m).Tidy Json.IsText := by
  rw [← Payload.exists_encodeJson_iff hm]
  constructor
  · rintro ⟨r, h⟩
    obtain ⟨payload, hpayload, -⟩ := setMetadata_eq_ok_iff.1 h
    exact ⟨payload, hpayload⟩
  · rintro ⟨payload, hpayload⟩
    exact ⟨_, setMetadata_eq_ok_iff.2 ⟨payload, hpayload, rfl⟩⟩

/-- Whatever texts they are given, edits fail for one reason only: adding a query does when the
mashup part cannot be decoded. -/
structure EditsGoThrough (d : Definition) : Prop where
  /-- Adding a query fails on a mashup part that cannot be decoded, and on no other. -/
  addQuery : ∀ (name code : Text) (attr sectionAttr : Option Text) (defaults : Defaults)
    (ids : IdSupply), (∀ n, Json.IsText (ids.id n)) →
      ((∃ failure, (d.addQuery (Text.widen name) (Text.widen code) (attr.map Text.widen)
          (sectionAttr.map Text.widen) defaults ids).1 = .error failure) ↔
        d.HasUndecodableMashup)
  /-- Listing connections does not fail. -/
  connect : ∀ (bindings : List Binding) (defaults : Defaults),
    (∀ b ∈ bindings, b.IsText) → ∃ r, d.connect bindings defaults = .ok r
  /-- Saving a document does not fail. -/
  replaceDocument : ∀ (document : Text) (queries : List Mashup.Query) (defaults : Defaults)
    (ids : IdSupply), (∀ n, Json.IsText (ids.id n)) →
      ∃ r, (d.replaceDocument (Text.widen document) (queries.map Mashup.Query.widen) defaults
        ids).1 = .ok r

section

variable {d : Definition} (hm : (Json.object d.metadata).Tidy Json.IsText)
include hm

theorem exists_addQuery_error_iff {ids : IdSupply} (hids : ∀ n, Json.IsText (ids.id n))
    (name code : Text) (attr sectionAttr : Option Text) (defaults : Defaults) :
    (∃ failure, (d.addQuery (Text.widen name) (Text.widen code) (attr.map Text.widen)
        (sectionAttr.map Text.widen) defaults ids).1 = .error failure) ↔
      d.HasUndecodableMashup := by
  rw [← exists_document_error_iff]
  cases hd : d.document with
  | error failure =>
    rw [addQuery, hd]
    simp only [Except.error.injEq]
  | ok t =>
    obtain ⟨m, ids', hregister⟩ : ∃ m ids',
        d.metadata.register (Text.widen (Mashup.Name.plain name))
          ((Mashup.Attribute.destination? attr).map Text.widen) defaults ids = (m, ids') :=
      ⟨_, _, rfl⟩
    have htarget : ∀ target, Mashup.Wide.target? (attr.map Text.widen) = some target →
        Json.IsText target :=
      fun target h => Json.isText_of_map_widen (Mashup.Wide.target?_widen attr ▸ h)
    obtain ⟨htidy, -⟩ := Metadata.register_eq Json.isText_widen hids (Json.isText_widen _) htarget
      hm (Mashup.Wide.destination?_widen attr ▸ hregister)
    obtain ⟨r, hset⟩ := (exists_setMetadata_iff
      (d.setText Role.mashup.path (Mashup.upsert t name code attr sectionAttr))
      (htidy.mono fun _ _ => trivial)).2 htidy
    rw [addQuery_widen hd name code attr sectionAttr hregister, hset]
    simp only [reduceCtorEq]

theorem exists_connect {bindings : List Binding} (hbindings : ∀ b ∈ bindings, b.IsText)
    (defaults : Defaults) : ∃ r, d.connect bindings defaults = .ok r := by
  have htidy := Metadata.tidy_connect Json.isText_widen hm
    (fun b hb => (hbindings b hb).tidy_entryOf) defaults
  exact (d.exists_setMetadata_iff (htidy.mono fun _ _ => trivial)).2 htidy

theorem exists_replaceDocument_ok {ids : IdSupply} (hids : ∀ n, Json.IsText (ids.id n))
    (document : Text) (queries : List Mashup.Query) (defaults : Defaults) :
    ∃ r, (d.replaceDocument (Text.widen document) (queries.map Mashup.Query.widen) defaults
      ids).1 = .ok r := by
  obtain ⟨m, ids', hrebuild⟩ : ∃ m ids', d.metadata.rebuild (queries.map Mashup.Query.widen)
      defaults ids = (m, ids') := ⟨_, _, rfl⟩
  have htidy := Metadata.tidy_rebuild Json.isText_widen hm hids
    (List.forall_mem_map.2 fun q _ => Json.isText_widen q.name) hrebuild
  rw [replaceDocument, setDocument_widen, Metadata.Change.apply, hrebuild]
  exact (exists_setMetadata_iff _ (htidy.mono fun _ _ => trivial)).2 htidy

end

/-- **Edits go through just when the metadata holds no halves.** -/
theorem editsGoThrough_iff (d : Definition) :
    d.EditsGoThrough ↔ (Json.object d.metadata).Tidy Json.IsText := by
  constructor
  · intro h
    have hany := d.tidy_metadata
    -- listing nothing and saving nothing each write back all fields but one
    have hconnect : (Json.object (d.metadata.connect [] .standard)).Tidy Json.IsText := by
      obtain ⟨htidy, -⟩ := Metadata.connect_eq hany [] .standard
      exact (d.exists_setMetadata_iff htidy).1
        (h.connect [] .standard fun b hb => absurd hb List.not_mem_nil)
    obtain ⟨m, ids', hrebuild⟩ : ∃ m ids',
        d.metadata.rebuild [] .standard (.ofSequence fun _ => []) = (m, ids') := ⟨_, _, rfl⟩
    have hsave : (Json.object m).Tidy Json.IsText := by
      have htidy := Metadata.tidy_rebuild Metadata.holdsTexts_anyText hany (fun _ => trivial)
        (List.forall_mem_nil _) hrebuild
      have hok := h.replaceDocument [] [] .standard (.ofSequence fun _ => []) fun _ => ⟨[], rfl⟩
      rw [replaceDocument, setDocument_widen, Metadata.Change.apply, List.map_nil,
        hrebuild] at hok
      exact (exists_setMetadata_iff _ htidy).1 hok
    exact Metadata.tidy_of_connect_of_rebuild hany hconnect hrebuild hsave
  · intro hm
    exact {
      addQuery := fun name code attr sectionAttr defaults ids hids =>
        exists_addQuery_error_iff hm hids name code attr sectionAttr defaults
      connect := fun bindings defaults hbindings => exists_connect hm hbindings defaults
      replaceDocument := fun document queries defaults ids hids =>
        exists_replaceDocument_ok hm hids document queries defaults }

/-- A definition whose metadata has half of a surrogate pair, spelled as an escape. -/
def halvedDefinition : Definition :=
  ⟨[⟨wide "queryMetadata.json", wide "eyJhIjogIlx1ZDgwMCJ9", inlineBase64⟩]⟩

/-- A connection that is to be listed in it. -/
def sampleBinding : Binding := ⟨wide "c1", wide "SQL", wide "srv;db", none⟩

/-- **No connection can be listed beside a half.** -/
theorem not_editsGoThrough_halvedDefinition :
    halvedDefinition.connect [sampleBinding] .standard =
        .error (.unencodable (.utf8 ⟨10, 1, 0xD800⟩)) ∧
      ¬halvedDefinition.EditsGoThrough := by
  have hfault : (match halvedDefinition.connect [sampleBinding] .standard with
      | .error (.unencodable fault) => decide (fault = .utf8 ⟨10, 1, 0xD800⟩)
      | _ => false) = true := by decide +kernel
  have hfails : halvedDefinition.connect [sampleBinding] .standard =
      .error (.unencodable (.utf8 ⟨10, 1, 0xD800⟩)) := by
    split at hfault
    · rename_i fault heq
      rw [heq, of_decide_eq_true hfault]
    · cases hfault
  refine ⟨hfails, fun h => ?_⟩
  have hbinding : sampleBinding.IsText :=
    ⟨Json.isText_wide _, Json.isText_wide _, Json.isText_wide _, nofun⟩
  obtain ⟨r, hr⟩ := h.connect [sampleBinding] .standard (List.forall_mem_singleton.2 hbinding)
  rw [hfails] at hr
  cases hr

end Definition
end Dataflow
