import Dataflow.Definition.Edit
import Dataflow.Proofs.Wide

/-!
# Saving a document

Saving a document writes it into the definition and builds the entries of its queries anew, each
with the id that the name had.  Entries that were built anew have an id and say nothing but what
follows from the document and the defaults, so building them anew once more gives the same entries
and asks for no id.  What is written reads back, so saving the same document again finds the same
metadata and writes the same payloads.
-/

set_option autoImplicit false

namespace Dataflow

/-! ## Ids -/

namespace Json

/-- A number that is not zero has digits. -/
theorem render_ne_nil {x : Double} (hx : x.isZero = false) : x.render displayStyle ≠ [] := by
  cases x with
  | nan => exact nofun
  | infinite negative => cases negative <;> exact nofun
  | finite negative m =>
    have hdigits : 0 < m.shortest.1 := by
      refine Nat.pos_of_ne_zero fun hzero => ?_
      have hread := Magnitude.ofDecimal?_shortest m
      rw [hzero, Magnitude.ofDecimal?, if_pos rfl] at hread
      rw [← Option.some.inj hread] at hx
      cases hx
    intro hnil
    have hlayout := (List.append_eq_nil_iff.1 hnil).2
    have hread := readUnsigned?_layOut displayStyle false hdigits m.shortest.2 endsNumber_nil
    rw [hlayout] at hread
    cases hread

/-- What is something has a display text. -/
theorem display_ne_nil {v : Json} (h : v.isTruthy = true) : v.display ≠ [] := by
  have hwiden : ∀ t : Text, t ≠ [] → Text.widen t ≠ [] :=
    fun t ht hnil => ht (List.map_eq_nil_iff.1 hnil)
  cases v with
  | null => cases h
  | bool b =>
    intro hnil
    cases b <;> cases hnil
  | int n =>
    refine hwiden _ ?_
    rw [describe, signedDecimal]
    split
    · exact List.cons_ne_nil _ _
    · exact decimal_ne_nil _
  | float x => exact hwiden _ (render_ne_nil (by simpa [isTruthy] using h))
  | string s =>
    have hs : s ≠ [] := by simpa [isTruthy] using h
    exact hs
  | array items =>
    intro hnil
    cases items <;> cases hnil
  | object fields =>
    intro hnil
    cases fields <;> cases hnil

end Json

namespace Metadata

open Mashup (WideQuery)

theorem idOf?_ne_nil {entry : Option Json} {id : WideText} (h : idOf? entry = some id) :
    id ≠ [] := by
  rw [idOf?.eq_def] at h
  split at h
  · split at h
    · rename_i value _
      by_cases hvalue : value.isTruthy = true
      · rw [if_pos hvalue] at h
        exact Option.some.inj h ▸ Json.display_ne_nil hvalue
      · rw [if_neg hvalue] at h
        cases h
    · cases h
  · cases h

/-- An entry has the id with which it was built. -/
theorem idOf?_newEntry (name : WideText) {id : WideText} (hid : id ≠ []) (defaults : Defaults)
    (hidden : Bool) : idOf? (some (newEntry name id defaults hidden)) = some id := by
  have htruthy : (Json.string id).isTruthy = true := by simpa [Json.isTruthy] using hid
  have hfound : ∀ rest, Fields.get? ((wide "queryId", .string id) :: rest) (wide "queryId") =
      some (.string id) := fun rest => if_pos rfl
  simp only [newEntry, idOf?, List.cons_append, hfound, htruthy, if_true, Json.display]

/-! ## Entries -/

section

variable {previous : Fields} {hidden : List WideText} {defaults : Defaults}

/-- The field with the entry of a name that is built anew. -/
def rebuiltField (hidden : List WideText) (defaults : Defaults) (name id : WideText) :
    WideText × Json :=
  (name, newEntry name id defaults (hidden.contains (WideText.fold name)))

/-- A field with an entry that was built anew, with an id that is empty only if the supply has
empty ones. -/
def IsRebuilt (hidden : List WideText) (defaults : Defaults) (ids : IdSupply)
    (f : WideText × Json) : Prop :=
  ∃ name id, f = rebuiltField hidden defaults name id ∧ ((∀ n, ids.id n ≠ []) → id ≠ [])

/-- The names of some queries. -/
def namesOf (queries : List WideQuery) : List WideText := queries.map WideQuery.name

/-- The id that a query had or is given, and the supply behind it. -/
def idFor (previous : Fields) (ids : IdSupply) (q : WideQuery) : WideText × IdSupply :=
  match idOf? (Fields.get? previous q.name) with
  | some id => (id, ids)
  | none => ids.draw

theorem rebuildEntries_cons (entries : Fields) (ids : IdSupply) (q : WideQuery)
    (queries : List WideQuery) :
    rebuildEntries previous hidden defaults entries ids (q :: queries) =
      rebuildEntries previous hidden defaults
        (Fields.setAll entries [rebuiltField hidden defaults q.name (idFor previous ids q).1])
        (idFor previous ids q).2 queries := by
  rw [rebuildEntries, idFor]
  cases idOf? (Fields.get? previous q.name) <;> rfl

theorem id_idFor (previous : Fields) (ids : IdSupply) (q : WideQuery) :
    (idFor previous ids q).2.id = ids.id := by
  rw [idFor]
  cases idOf? (Fields.get? previous q.name) <;> rfl

theorem idFor_ne_nil (previous : Fields) {ids : IdSupply} (hids : ∀ n, ids.id n ≠ [])
    (q : WideQuery) :
    (idFor previous ids q).1 ≠ [] := by
  rw [idFor]
  cases hold : idOf? (Fields.get? previous q.name) with
  | some id => exact idOf?_ne_nil hold
  | none => exact hids ids.drawn

/-- The entries are fields that are set one after the other, and each of them is built anew. -/
theorem rebuildEntries_eq (queries : List WideQuery) (entries : Fields) (ids : IdSupply) :
    ∃ pairs ids', rebuildEntries previous hidden defaults entries ids queries =
        (Fields.setAll entries pairs, ids') ∧
      Fields.keys pairs = namesOf queries ∧ ∀ f ∈ pairs, IsRebuilt hidden defaults ids f := by
  induction queries generalizing entries ids with
  | nil => exact ⟨[], ids, rfl, rfl, fun f hf => absurd hf List.not_mem_nil⟩
  | cons q queries ih =>
    have hid : (∀ n, ids.id n ≠ []) → (idFor previous ids q).1 ≠ [] :=
      fun hids => idFor_ne_nil previous hids q
    have hafter := id_idFor previous ids q
    rw [rebuildEntries_cons]
    generalize idFor previous ids q = r at hid hafter ⊢
    obtain ⟨pairs, ids', hrest, hkeys, hpairs⟩ :=
      ih (Fields.setAll entries [rebuiltField hidden defaults q.name r.1]) r.2
    refine ⟨rebuiltField hidden defaults q.name r.1 :: pairs, ids', hrest,
      congrArg (q.name :: ·) hkeys, List.forall_mem_cons.2 ⟨⟨q.name, r.1, rfl, hid⟩, ?_⟩⟩
    intro f hf
    obtain ⟨name, id, heq, hne⟩ := hpairs f hf
    exact ⟨name, id, heq, hafter ▸ hne⟩

/-- When all entries are there and were built anew, they are taken as they are. -/
theorem rebuildEntries_of_rebuilt {queries : List WideQuery}
    (h : ∀ q ∈ queries, ∃ id, id ≠ [] ∧
      Fields.get? previous q.name = some (rebuiltField hidden defaults q.name id).2)
    (entries : Fields) (ids : IdSupply) :
    ∃ pairs, rebuildEntries previous hidden defaults entries ids queries =
        (Fields.setAll entries pairs, ids) ∧
      Fields.keys pairs = namesOf queries ∧
      ∀ f ∈ pairs, Fields.get? previous f.1 = some f.2 := by
  induction queries generalizing entries with
  | nil => exact ⟨[], rfl, rfl, fun f hf => absurd hf List.not_mem_nil⟩
  | cons q queries ih =>
    obtain ⟨id, hid, hold⟩ := h q List.mem_cons_self
    have hfor : idFor previous ids q = (id, ids) := by
      rw [idFor, hold, rebuiltField, idOf?_newEntry _ hid]
    obtain ⟨pairs, hrest, hkeys, hpairs⟩ := ih (fun p hp => h p (List.mem_cons_of_mem q hp))
      (Fields.setAll entries [rebuiltField hidden defaults q.name id])
    rw [rebuildEntries_cons, hfor]
    exact ⟨rebuiltField hidden defaults q.name id :: pairs, hrest,
      congrArg (q.name :: ·) hkeys, List.forall_mem_cons.2 ⟨hold, hpairs⟩⟩

/-- **Building entries anew from themselves gives them again**, and no id is drawn. -/
theorem rebuildEntries_rebuildEntries {queries : List WideQuery} {ids ids' : IdSupply}
    (hids : ∀ n, ids.id n ≠ []) {entries : Fields}
    (h : rebuildEntries previous hidden defaults [] ids queries = (entries, ids'))
    (other : IdSupply) :
    rebuildEntries entries hidden defaults [] other queries = (entries, other) := by
  obtain ⟨pairs, after, heq, hkeys, hpairs⟩ := rebuildEntries_eq queries [] ids
  rw [heq] at h
  obtain rfl : Fields.ofPairs pairs = entries := congrArg Prod.fst h
  have hrebuilt : ∀ q ∈ queries, ∃ id, id ≠ [] ∧
      Fields.get? (Fields.ofPairs pairs) q.name =
        some (rebuiltField hidden defaults q.name id).2 := by
    intro q hq
    have hmem : q.name ∈ Fields.keys (Fields.ofPairs pairs) := by
      rw [Fields.keys_ofPairs, List.mem_eraseDups, hkeys]
      exact List.mem_map_of_mem hq
    obtain ⟨value, hvalue⟩ := Option.ne_none_iff_exists'.1
      (fun hnone => Fields.get?_eq_none_iff.1 hnone hmem)
    obtain ⟨name, id, hf, hid⟩ :=
      hpairs _ (Fields.mem_of_mem_ofPairs (Fields.mem_of_get? hvalue))
    obtain ⟨rfl, hentry⟩ := Prod.mk.inj hf
    exact ⟨id, hid hids, hvalue.trans (congrArg some hentry)⟩
  obtain ⟨pairs', hagain, hkeys', hpairs'⟩ := rebuildEntries_of_rebuilt hrebuilt [] other
  have hsame : Fields.ofPairs pairs' = Fields.ofPairs pairs := by
    refine Fields.ofPairs_eq (Fields.nodup_keys_ofPairs pairs) ?_ hpairs'
    rw [Fields.keys_ofPairs, hkeys, hkeys']
  rw [hagain]
  exact congrArg (·, other) hsame

end

/-! ## Metadata -/

section

variable {m m' : Metadata} {defaults : Defaults} {queries : List WideQuery} {ids ids' : IdSupply}

/-- A query is hidden when some attribute names it, whatever its case. -/
theorem contains_destinations_iff {name : WideText} :
    (destinations queries).contains (WideText.fold name) = true ↔
      ∃ p ∈ queries, ∃ target, Mashup.Wide.destination? (some p.attr) = some target ∧
        WideText.fold target = WideText.fold name := by
  rw [List.contains_iff_mem, destinations, List.mem_eraseDups, List.mem_map]
  simp only [List.mem_filterMap]
  constructor
  · rintro ⟨target, ⟨p, hp, htarget⟩, hfold⟩
    exact ⟨p, hp, target, htarget, hfold⟩
  · rintro ⟨p, hp, target, htarget, hfold⟩
    exact ⟨target, ⟨p, hp, htarget⟩, hfold⟩

/-- Building anew sets the entries and leaves all else as it is. -/
theorem rebuild_eq (h : m.rebuild queries defaults ids = (m', ids')) :
    ∃ entries, rebuildEntries (m.withLocale defaults).entriesOf (destinations queries) defaults []
        ids queries = (entries, ids') ∧
      m' = Fields.set (m.withLocale defaults) entriesKey (.object entries) := by
  obtain ⟨hm, hids⟩ := Prod.mk.inj h
  exact ⟨_, Prod.ext rfl hids, hm.symm⟩

theorem get?_withLocale_ne_none (m : Metadata) (defaults : Defaults) :
    Fields.get? (m.withLocale defaults) localeKey ≠ none := by
  rw [withLocale]
  rcases Fields.setIfMissing_cases m localeKey (.string (Text.widen defaults.locale)) with
    ⟨hmem, heq⟩ | ⟨-, heq⟩
  · rw [heq, Ne, Fields.get?_eq_none_iff]
    exact fun hnot => hnot hmem
  · rw [heq, Fields.get?_set_self]
    exact nofun

/-- Once there is a locale, none is added any more. -/
theorem withLocale_set {key : WideText} (h : localeKey ≠ key) (m : Metadata)
    (defaults other : Defaults) (value : Json) :
    withLocale (Fields.set (m.withLocale defaults) key value) other =
      Fields.set (m.withLocale defaults) key value := by
  refine Fields.setIfMissing_of_mem ?_ _
  by_contra hnot
  rw [← Fields.get?_eq_none_iff, Fields.get?_set_other h] at hnot
  exact get?_withLocale_ne_none m defaults hnot

/-- Metadata with entries that were built has a locale. -/
theorem withLocale_set_entries (m : Metadata) (defaults : Defaults) (entries : Json) :
    withLocale (Fields.set (m.withLocale defaults) entriesKey entries) defaults =
      Fields.set (m.withLocale defaults) entriesKey entries :=
  withLocale_set (by decide) m defaults defaults entries

theorem entriesOf_set (m : Metadata) (entries : Fields) :
    entriesOf (Fields.set m entriesKey (.object entries)) = entries := by
  rw [entriesOf, Fields.get?_set_self]

/-- **Building metadata anew once more changes nothing**, and no id is drawn. -/
theorem rebuild_rebuild (hids : ∀ n, ids.id n ≠ [])
    (h : m.rebuild queries defaults ids = (m', ids')) (other : IdSupply) :
    m'.rebuild queries defaults other = (m', other) := by
  obtain ⟨entries, hentries, rfl⟩ := rebuild_eq h
  have hagain := rebuildEntries_rebuildEntries hids hentries other
  have hset := Fields.set_of_get?
    (Fields.get?_set_self (m.withLocale defaults) entriesKey (.object entries))
  rw [rebuild, withLocale_set_entries, entriesOf_set, hagain]
  exact congrArg (·, other) hset

/-- The entries have the names of the queries, each once. -/
theorem keys_rebuild (h : m.rebuild queries defaults ids = (m', ids')) :
    ∃ entries, Fields.get? m' entriesKey = some (.object entries) ∧
      Fields.keys entries = (namesOf queries).eraseDups := by
  obtain ⟨entries, hentries, rfl⟩ := rebuild_eq h
  obtain ⟨pairs, after, heq, hkeys, -⟩ := rebuildEntries_eq queries [] ids
  rw [heq] at hentries
  obtain rfl : Fields.ofPairs pairs = entries := congrArg Prod.fst hentries
  exact ⟨_, Fields.get?_set_self _ _ _, by rw [Fields.keys_ofPairs, hkeys]⟩

/-! ## Tidy metadata -/

/-- Strings among which all texts are. -/
def HoldsTexts (good : WideText → Prop) : Prop := ∀ t : Text, good (Text.widen t)

theorem holdsTexts_anyText : HoldsTexts Json.AnyText := fun _ => trivial

section

variable {good : WideText → Prop}

theorem tidy_entriesOf (hm : (Json.object m).Tidy good) :
    (Json.object m.entriesOf).Tidy good := by
  rw [entriesOf]
  split
  · rename_i entries hentries
    exact hm.of_get? hentries
  · exact .emptyObject

variable (hgood : HoldsTexts good)
include hgood

theorem tidy_newEntry {name id : WideText} (hname : good name) (hid : good id)
    (defaults : Defaults) (hidden : Bool) : (newEntry name id defaults hidden).Tidy good := by
  have hfields : ∀ f ∈ ([(wide "queryId", .string id), (wide "queryName", .string name),
      (wide "loadEnabled", .bool defaults.loadEnabled)] : Fields),
      good f.1 ∧ f.2.Tidy good := by
    simp only [List.forall_mem_cons]
    exact ⟨⟨hgood _, .string hid⟩, ⟨hgood _, .string hname⟩, ⟨hgood _, .bool _⟩,
      fun f hf => absurd hf List.not_mem_nil⟩
  have hentry := Json.Tidy.ofPairs hfields
  cases hidden with
  | false => exact hentry
  | true =>
    have hkey : good (wide "isHidden") := hgood _
    exact hentry.set hkey (.bool true)

theorem tidy_withLocale (hm : (Json.object m).Tidy good) (defaults : Defaults) :
    (Json.object (m.withLocale defaults)).Tidy good :=
  hm.setIfMissing (hgood _) (.string (hgood _))

/-- A value is displayed as one of its strings or as a text. -/
theorem good_display {value : Json} (h : value.Tidy good) : good value.display := by
  cases h with
  | string hs => exact hs
  | _ => exact hgood _

/-- The id of a query is good when those that are there are, and those of the supply. -/
theorem good_idFor {previous : Fields} (hprevious : (Json.object previous).Tidy good)
    (hids : ∀ n, good (ids.id n)) (q : WideQuery) : good (idFor previous ids q).1 := by
  rw [idFor]
  cases hold : idOf? (Fields.get? previous q.name) with
  | none => exact hids ids.drawn
  | some id =>
    rw [idOf?.eq_def] at hold
    split at hold
    · rename_i entry hentry
      split at hold
      · rename_i value hvalue
        have hgoodId :=
          good_display hgood ((hprevious.of_get? hentry).of_get? hvalue)
        split at hold
        · exact Option.some.inj hold ▸ hgoodId
        · cases hold
      · cases hold
    · cases hold

theorem tidy_rebuildEntries {previous entries : Fields} {hidden : List WideText}
    (hqueries : ∀ q ∈ queries, good q.name) (hprevious : (Json.object previous).Tidy good)
    (hids : ∀ n, good (ids.id n))
    (hentries : (Json.object entries).Tidy good) :
    (Json.object (rebuildEntries previous hidden defaults entries ids queries).1).Tidy good := by
  induction queries generalizing entries ids with
  | nil => exact hentries
  | cons q queries ih =>
    obtain ⟨hq, hqueries⟩ := List.forall_mem_cons.1 hqueries
    have hid := good_idFor hgood hprevious hids q
    rw [rebuildEntries_cons]
    refine ih hqueries ?_ (hentries.set hq (tidy_newEntry hgood hq hid defaults _))
    rw [id_idFor]
    exact hids

/-- **Metadata that is built anew is tidy** when it was before. -/
theorem tidy_rebuild (hm : (Json.object m).Tidy good) (hids : ∀ n, good (ids.id n))
    (hqueries : ∀ q ∈ queries, good q.name) (h : m.rebuild queries defaults ids = (m', ids')) :
    (Json.object m').Tidy good := by
  have hlocale := tidy_withLocale hgood hm defaults
  obtain ⟨entries, hentries, rfl⟩ := rebuild_eq h
  obtain rfl := congrArg Prod.fst hentries
  exact hlocale.set (hgood _)
    (tidy_rebuildEntries hgood hqueries (tidy_entriesOf hlocale) hids .emptyObject)

end

end

end Metadata

/-! ## Parts -/

namespace Definition

variable {d r : Definition} {path other payload : WideText}

theorem part?_cons_of_isAt {p : Part} (hp : p.isAt path = true) (rest : List Part) :
    part? ⟨p :: rest⟩ path = some p := List.find?_cons_of_pos hp

theorem part?_cons_of_not_isAt {p : Part} (hp : p.isAt path = false) (rest : List Part) :
    part? ⟨p :: rest⟩ path = part? ⟨rest⟩ path :=
  List.find?_cons_of_neg (by rw [hp]; exact Bool.false_ne_true)

/-- Writing at one path leaves the parts at all others. -/
theorem part?_setPayload_other (h : path.lower ≠ other.lower) :
    (d.setPayload path payload).part? other = d.part? other := by
  obtain ⟨parts⟩ := d
  have hat : ∀ p : Part, p.isAt path = true → p.isAt other = false := by
    intro p hp
    have hlower : p.path.lower = path.lower := beq_iff_eq.1 hp
    rw [Part.isAt, hlower]
    exact beq_false_of_ne h
  rw [setPayload]
  induction parts with
  | nil => exact part?_cons_of_not_isAt (hat _ (beq_iff_eq.2 rfl)) []
  | cons p rest ih =>
    rw [setPayloadIn]
    by_cases hp : p.isAt path = true
    · have hnew : Part.isAt { p with payload } other = false := hat _ hp
      rw [if_pos hp, part?_cons_of_not_isAt hnew, part?_cons_of_not_isAt (hat p hp)]
    · rw [if_neg hp]
      by_cases hother : p.isAt other = true
      · rw [part?_cons_of_isAt hother, part?_cons_of_isAt hother]
      · rw [Bool.not_eq_true] at hother
        rw [part?_cons_of_not_isAt hother, part?_cons_of_not_isAt hother, ih]

/-- Writing the payload that is there changes nothing. -/
theorem setPayload_of_payload (h : (d.part? path).map Part.payload = some payload) :
    d.setPayload path payload = d := by
  obtain ⟨parts⟩ := d
  refine congrArg Definition.mk ?_
  induction parts with
  | nil => cases h
  | cons p rest ih =>
    rw [setPayloadIn]
    by_cases hp : p.isAt path = true
    · rw [part?_cons_of_isAt hp] at h
      obtain rfl : p.payload = payload := Option.some.inj h
      rw [if_pos hp]
    · rw [part?_cons_of_not_isAt (Bool.eq_false_iff.2 hp)] at h
      rw [if_neg hp, ih h]

theorem text?_of_part?_eq_none (h : d.part? path = none) : d.text? path = none := by
  rw [text?, h]

theorem fields?_of_part?_eq_none (h : d.part? path = none) : d.fields? path = none := by
  rw [fields?, text?_of_part?_eq_none h]

/-- The text of a payload is read where the payload is. -/
theorem text?_of_payload {t : Text} (ht : t ≠ [])
    (h : (d.part? path).map Part.payload = some (Payload.encodeText t)) :
    d.text? path = some t := by
  obtain ⟨p, hp, hpayload⟩ := Option.map_eq_some_iff.1 h
  have hne : Payload.encodeText t ≠ [] := fun hnil => ht (Payload.encodeText_eq_nil_iff.1 hnil)
  rw [text?, hp]
  simp only [hpayload, List.isEmpty_iff, if_neg hne, Payload.decode_encodeText]
  rfl

/-- The object of a payload is read where the payload is. -/
theorem fields?_of_payload {fields : Fields} (hfields : (Json.object fields).Tidy Json.AnyText)
    (hpayload : Payload.encodeJson (.object fields) = .ok payload)
    (h : (d.part? path).map Part.payload = some payload) : d.fields? path = some fields := by
  obtain ⟨t, rfl, hread⟩ := Payload.exists_of_encodeJson hfields hpayload
  have ht : t ≠ [] := by
    rintro rfl
    cases hread
  rw [fields?, text?_of_payload ht h]
  simp only [Payload.readObject_eq_ok_iff.2 hread]
  rfl

/-- An object that is read is tidy. -/
theorem tidy_of_fields? {fields : Fields} (h : d.fields? path = some fields) :
    (Json.object fields).Tidy Json.AnyText := by
  rw [fields?] at h
  split at h
  · cases h
  · have hread := Payload.readObject_eq_ok_iff.1 (eq_ok_of_toOption h)
    exact (Json.tidy_of_read hread).mono fun _ _ => trivial

/-- The metadata that is read is tidy. -/
theorem tidy_metadata (d : Definition) : (Json.object d.metadata).Tidy Json.AnyText := by
  rw [metadata]
  cases hfields : d.fields? Role.queryMetadata.path with
  | none => exact .emptyObject
  | some fields => exact tidy_of_fields? hfields

/-- **Metadata that is written is read again.** -/
theorem setMetadata_eq_ok {m : Metadata} (hm : (Json.object m).Tidy Json.AnyText)
    (h : d.setMetadata m = .ok r) :
    ∃ payload, Payload.encodeJson (.object m) = .ok payload ∧
      r = d.setPayload Role.queryMetadata.path payload ∧
      r.fields? Role.queryMetadata.path = some m := by
  obtain ⟨payload, hpayload, rfl⟩ := setMetadata_eq_ok_iff.1 h
  exact ⟨payload, hpayload, rfl, fields?_of_payload hm hpayload (part?_setPayload d _ payload)⟩

theorem lower_mashup_ne : Role.mashup.path.lower ≠ Role.queryMetadata.path.lower := by
  rw [Role.lower_path, Role.lower_path]
  decide

/-- What a saved document leaves: the document, and metadata that was built anew. -/
theorem replaceDocument_eq_ok {t : Text} {queries : List Mashup.WideQuery} {defaults : Defaults}
    {ids ids' : IdSupply}
    (h : d.replaceDocument (Text.widen t) queries defaults ids = (.ok r, ids')) :
    ∃ m payload, d.metadata.rebuild queries defaults ids = (m, ids') ∧
      Payload.encodeJson (.object m) = .ok payload ∧
      r = (d.setText Role.mashup.path t).setPayload Role.queryMetadata.path payload ∧
      r.fields? Role.queryMetadata.path = some m := by
  obtain ⟨u, m, hu, hm, hset⟩ := exists_of_setDocument h
  obtain rfl := Text.widen_injective hu
  have htidy :=
    Metadata.tidy_rebuild Metadata.holdsTexts_anyText d.tidy_metadata (fun _ => trivial)
      (fun _ _ => trivial) hm
  obtain ⟨payload, hpayload, hr, hfields⟩ := setMetadata_eq_ok htidy hset
  exact ⟨m, payload, hm, hpayload, hr, hfields⟩

/-- **A saved document is mirrored by its metadata, and saving it again changes nothing.** -/
theorem replaceDocument_mirrors {document : WideText} (hne : document ≠ []) {defaults : Defaults}
    {ids ids' : IdSupply} (hids : ∀ n, ids.id n ≠ [])
    (h : d.replaceDocument document (Mashup.Wide.queries document) defaults ids = (.ok r, ids')) :
    (∃ t, document = Text.widen t ∧ r.text? Role.mashup.path = some t) ∧
      (∃ m entries, r.fields? Role.queryMetadata.path = some m ∧
        Fields.get? m Metadata.entriesKey = some (.object entries) ∧
        Fields.keys entries =
          ((Mashup.Wide.queries document).map Mashup.WideQuery.name).eraseDups) ∧
      ∀ other : IdSupply,
        r.replaceDocument document (Mashup.Wide.queries document) defaults other =
          (.ok r, other) := by
  obtain ⟨t, -, rfl, -, -⟩ := exists_of_setDocument h
  generalize Mashup.Wide.queries (Text.widen t) = queries at h ⊢
  have ht : t ≠ [] := fun hnil => hne (congrArg Text.widen hnil)
  obtain ⟨m, payload, hm, hpayload, hr, hfields⟩ := replaceDocument_eq_ok h
  have hmashup : (r.part? Role.mashup.path).map Part.payload = some (Payload.encodeText t) := by
    rw [hr, part?_setPayload_other (Ne.symm lower_mashup_ne)]
    exact part?_setPayload d Role.mashup.path _
  obtain ⟨entries, hentries, hkeys⟩ := Metadata.keys_rebuild hm
  refine ⟨⟨t, rfl, text?_of_payload ht hmashup⟩, ⟨m, entries, hfields, hentries, hkeys⟩,
    fun other => ?_⟩
  have hmetadata : r.metadata = m := by rw [metadata, hfields, Option.getD_some]
  have htext : r.setText Role.mashup.path t = r := setPayload_of_payload hmashup
  have hsame : r.setPayload Role.queryMetadata.path payload = r := by
    refine setPayload_of_payload ?_
    rw [hr]
    exact part?_setPayload _ _ _
  have happly : (Metadata.Change.rebuild queries).apply r.metadata defaults other = (m, other) := by
    rw [hmetadata]
    exact Metadata.rebuild_rebuild hids hm other
  have hset : r.setMetadata m = .ok r := setMetadata_eq_ok_iff.2 ⟨payload, hpayload, hsame.symm⟩
  rw [replaceDocument, setDocument_widen, happly, htext, hset]

/-- A definition with metadata that cannot be read. -/
def unreadableSample : Definition := ⟨[⟨wide "QueryMetadata.json", wide "e3", inlineBase64⟩]⟩

/-- A document that is saved in it. -/
def sampleText : Text := text "shared A = 1;"

theorem replaceDocument_mirrors_unreadableSample :
    let document := Text.widen sampleText
    let save := fun (d : Definition) =>
      d.replaceDocument document (Mashup.Wide.queries document) .standard
    ∃ r ids', save unreadableSample (.ofSequence fun _ => wide "q") = (.ok r, ids') ∧
      r.text? Role.mashup.path = some sampleText ∧
      save r (.ofSequence fun _ => []) = (.ok r, .ofSequence fun _ => []) := by
  intro document save
  have hids : ∀ n, (IdSupply.ofSequence fun _ => wide "q").id n ≠ [] := by
    intro n
    exact nofun
  have hsave :
      (save unreadableSample (.ofSequence fun _ => wide "q")).1.toOption.isSome = true := by
    decide +kernel
  obtain ⟨result, ids', h⟩ : ∃ result ids',
      save unreadableSample (.ofSequence fun _ => wide "q") = (result, ids') := ⟨_, _, rfl⟩
  rw [h] at hsave
  obtain ⟨r, hr⟩ := Option.isSome_iff_exists.1 hsave
  obtain rfl : result = .ok r := eq_ok_of_toOption hr
  obtain ⟨⟨t, ht, htext⟩, -, hagain⟩ := replaceDocument_mirrors (by decide) hids h
  obtain rfl := Text.widen_injective ht
  exact ⟨r, ids', h, htext, hagain _⟩

end Definition
end Dataflow
