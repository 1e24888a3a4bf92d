import Dataflow.Definition.Edit
import Dataflow.Proofs.Extent
import Dataflow.Proofs.Payload

/-!
# Wide texts without halves

A caller may hand over surrogate halves, so the services work on wide texts.  The theory of
documents is about texts of characters, and this module is the bridge: given widened texts, each
function of `Mashup.Wide` answers with the widened answer of its namesake.

For what writes a document this is a matter of following the definitions (`upsert_widen`), since
cutting, doubling and looking for a stretch commute with widening and the outline of a widened text
is that text.  `queries_widen` needs more.  The wide queries are cut out of the document at offsets,
where the queries of a text take what the match gives them, so one has to know where in a
declaration its attribute and its name lie: `slice_entrance` and `slice_heading` say so.
-/

set_option autoImplicit false

namespace Dataflow
namespace Mashup
namespace Wide

/-! ## Names and attributes -/

theorem plain_widen (t : Text) : plain (Text.widen t) = Text.widen (Name.plain t) := by
  rw [plain, Name.plain, WideText.outline_widen, Text.length_widen, WideText.slice_widen,
    WideText.single_widen]
  split <;> rfl

theorem written_widen (t : Text) : written (Text.widen t) = Text.widen (Name.written t) := by
  rw [written, Name.written, WideText.outline_widen, WideText.double_widen]
  split
  · rfl
  · simp [Name.quoted, wide, Text.widen]

theorem given?_widen (attr : Option Text) :
    given? (attr.map Text.widen) = (Attribute.given? attr).map Text.widen := by
  cases attr with
  | none => rfl
  | some a =>
    rw [Option.map_some, given?, Attribute.given?, WideText.all_isBlank_widen,
      WideText.strip_widen]
    split <;> rfl

theorem settleAttributes_widen (attr sectionAttr : Option Text) :
    settleAttributes (attr.map Text.widen) (sectionAttr.map Text.widen) =
      ((Mashup.settleAttributes attr sectionAttr).1.map Text.widen,
        (Mashup.settleAttributes attr sectionAttr).2.map Text.widen) := by
  rw [settleAttributes, Mashup.settleAttributes, given?_widen, given?_widen]
  cases Attribute.given? attr with
  | none => rfl
  | some a =>
    simp only [Option.map_some, WideText.outline_widen]
    split
    · cases Attribute.given? sectionAttr <;> rfl
    · rfl

/-! ## Writing -/

theorem letBlock_widen (code : Text) :
    letBlock (Text.widen code) = Text.widen (Mashup.letBlock code) := by
  simp only [letBlock, Mashup.letBlock, WideText.strip_widen, WideText.outline_widen]
  split
  · rfl
  · simp only [wide, Text.widen_append]
    rfl

theorem declare_widen (name code : Text) (attr : Option Text) :
    declare (Text.widen name) (Text.widen code) (attr.map Text.widen) =
      Text.widen (Mashup.declare name code attr) := by
  rw [declare, Mashup.declare, given?_widen, written_widen, letBlock_widen]
  cases Attribute.given? attr <;> simp only [Option.map, wide, Text.widen_append] <;> rfl

theorem hasSectionAttribute_widen (t : Text) (header : Nat) (attr : Text) :
    hasSectionAttribute (Text.widen t) header (Text.widen attr) =
      Mashup.hasSectionAttribute t header attr := by
  have htake : (Text.widen t).take header = Text.widen (t.take header) := List.map_take.symm
  cases hkey : attributeKeyBefore? t header <;>
    simp only [hasSectionAttribute, Mashup.hasSectionAttribute, htake, WideText.occursIn_widen,
      WideText.outline_widen, hkey]

theorem withSectionAttribute_widen (t : Text) (attr : Option Text) :
    withSectionAttribute (Text.widen t) (attr.map Text.widen) =
      Text.widen (Mashup.withSectionAttribute t attr) := by
  rw [withSectionAttribute, Mashup.withSectionAttribute, given?_widen, WideText.outline_widen]
  cases Attribute.given? attr with
  | none => rfl
  | some a =>
    cases sectionHeader? t with
    | none => rfl
    | some header =>
      simp only [Option.map_some, hasSectionAttribute_widen]
      split
      · rfl
      · simp only [Text.widen, List.map_append, List.map_take, List.map_drop]

theorem newSection_widen (trimmed declaration : Text) (sectionAttr : Option Text) :
    newSection trimmed (Text.widen declaration) (sectionAttr.map Text.widen) =
      Text.widen (Mashup.newSection trimmed declaration sectionAttr) := by
  cases sectionAttr with
  | none =>
    simp only [newSection, Mashup.newSection, Option.map, Text.widen_append]
    rfl
  | some a => simp only [newSection, Mashup.newSection, Option.map, Text.widen_append]

/-- **A query without halves is written as the text of it is.** -/
theorem upsert_widen (t name code : Text) (attr sectionAttr : Option Text) :
    upsert t (Text.widen name) (Text.widen code) (attr.map Text.widen)
        (sectionAttr.map Text.widen) =
      Text.widen (Mashup.upsert t name code attr sectionAttr) := by
  have hfind : ((declarations t).find? fun d =>
      Text.widen d.name == plain (Text.widen name)) = declaration? t (Name.plain name) := by
    rw [plain_widen, declaration?]
    congr 1
    funext d
    rw [Bool.eq_iff_iff, beq_iff_eq, beq_iff_eq]
    exact ⟨Text.widen_injective, congrArg Text.widen⟩
  rw [upsert, Mashup.upsert, settleAttributes_widen, hfind]
  simp only [declare_widen]
  cases declaration? t (Name.plain name) with
  | some old =>
    simp only [← Text.widen_append]
    exact withSectionAttribute_widen _ _
  | none =>
    simp only [← Text.widen_append]
    split
    · exact newSection_widen _ _ _
    · exact withSectionAttribute_widen _ _

/-! ## Reading -/

theorem codeOfBody_widen (body : Text) :
    codeOfBody (Text.widen body) = Text.widen (Mashup.codeOfBody body) := by
  have hlast : (Text.widen (Text.strip body)).getLast? = some (.scalar ';') ↔
      (Text.strip body).getLast? = some ';' := by
    rw [Text.widen, List.getLast?_map]
    cases (Text.strip body).getLast? <;> simp
  have hinit : (Text.widen (Text.strip body)).dropLast = Text.widen (Text.strip body).dropLast :=
    List.map_dropLast.symm
  rw [codeOfBody, Mashup.codeOfBody, WideText.strip_widen, hinit, WideText.strip_widen]
  simp only [hlast]
  split <;> rfl

section

variable {t : Text} {e : Entrance}

/-- An attribute lies where its entrance begins. -/
theorem slice_attribute (he : e ∈ entrances t) {a : PlacedAttribute} (ha : e.attr = some a) :
    Text.slice t a.start (a.start + a.value.length) = a.value := by
  have hstart : e.start = a.start := by rw [Entrance.start, ha]
  obtain ⟨gap, hslice, -, -⟩ := slice_entrance he
  rw [hstart, ha, Option.map_some, Option.getD_some] at hslice
  have hlength := congrArg List.length hslice
  rw [Text.length_slice, List.length_append] at hlength
  calc Text.slice t a.start (a.start + a.value.length)
      = (Text.slice t a.start e.heading.start).take a.value.length := by
        rw [Text.slice_eq_take_drop, Text.slice_eq_take_drop, List.take_take,
          Nat.add_sub_cancel_left, Nat.min_eq_left (by omega)]
    _ = a.value := by rw [hslice, List.take_left]

/-- A name lies behind the keyword and the blanks after it. -/
theorem slice_name (he : e ∈ entrances t) :
    Text.slice t (nameStart t e.heading)
      (nameStart t e.heading + e.heading.value.length) = e.heading.value := by
  obtain ⟨head, ws, hslice, hnamed, -, -⟩ := slice_heading he
  obtain ⟨-, hlt, -⟩ := entrances_bounds he
  have hdrop : t.drop e.heading.start = head ++ ws ++ t.drop e.heading.stop := by
    rw [← hslice, Text.slice_append_drop t (Nat.le_of_lt hlt)]
  cases hnamed with
  | @mk k ws₁ _ ws₂ hkeyword _ hblank hname _ =>
    generalize hn : e.heading.value = n at hname ⊢
    -- the rest of the document from the name on
    obtain ⟨rest, hrest⟩ : ∃ rest,
        t.drop (e.heading.start + (text "shared").length) = ws₁ ++ (n ++ rest) := by
      have hlength : k.length = (text "shared").length := length_of_keyword? hkeyword
      refine ⟨ws₂ ++ ['='] ++ ws ++ t.drop e.heading.stop, ?_⟩
      rw [← List.drop_drop, hdrop, ← hlength, hn]
      simp only [List.append_assoc, List.drop_left]
    have hsplit : t = t.take (e.heading.start + (text "shared").length) ++ ws₁ ++ (n ++ rest) := by
      rw [List.append_assoc, ← hrest, List.take_append_drop]
    have hstart : nameStart t e.heading =
        (t.take (e.heading.start + (text "shared").length) ++ ws₁).length := by
      have hall := congrArg List.length hsplit
      rw [List.length_append] at hall
      rw [nameStart, hrest, blanks_append hblank (hname.startsSolid rest), hall,
        Nat.add_sub_cancel]
    rw [Text.slice_eq_take_drop, Nat.add_sub_cancel_left, hstart]
    generalize t.take (e.heading.start + (text "shared").length) ++ ws₁ = front at hsplit
    rw [hsplit, List.drop_left, List.take_left]

end

theorem queryOf_widen {t : Text} {e : Entrance} (he : e ∈ entrances t) (spans : List Span)
    (boundary : Nat) :
    queryOf spans (Text.widen t) e boundary =
      (declarationOf spans t e boundary).query.widen := by
  have hattr : (e.attr.map fun a =>
      Text.slice (Text.widen t) a.start (a.start + a.value.length)).getD [] =
      Text.widen ((e.attr.map PlacedAttribute.value).getD []) := by
    cases ha : e.attr with
    | none => rfl
    | some a => simp only [Option.map_some, Option.getD_some, WideText.slice_widen,
        slice_attribute he ha]
  rw [queryOf, WideText.outline_widen, hattr, WideText.slice_widen, WideText.slice_widen,
    slice_name he, plain_widen, codeOfBody_widen]
  rfl

/-- **The queries of a document without halves are those of the text.** -/
theorem queries_widen (t : Text) :
    queries (Text.widen t) = (Mashup.queries t).map Query.widen := by
  have hall : ∀ es : List Entrance, (∀ e ∈ es, e ∈ entrances t) →
      queriesOf (literalSpans t) (Text.widen t) es =
        ((declarationsOf (literalSpans t) t es).map Declaration.query).map Query.widen := by
    intro es hes
    induction es with
    | nil => rfl
    | cons e es ih =>
      obtain ⟨he, hes⟩ := List.forall_mem_cons.1 hes
      simp only [queriesOf, declarationsOf, List.map_cons, queryOf_widen he, Text.length_widen,
        ih hes]
  rw [queries, WideText.outline_widen]
  exact hall _ fun _ he => he

end Wide
end Mashup

/-! ## Edits that went through -/

namespace Definition

variable {d r : Definition} {document : WideText} {change : Metadata.Change} {defaults : Defaults}
  {ids ids' : IdSupply}

/-- What writing a document comes to when it has no halves. -/
theorem setDocument_widen (d : Definition) (t : Text) (change : Metadata.Change)
    (defaults : Defaults) (ids : IdSupply) :
    d.setDocument (Text.widen t) change defaults ids =
      ((d.setText Role.mashup.path t).setMetadata (change.apply d.metadata defaults ids).1,
        (change.apply d.metadata defaults ids).2) := by
  rw [setDocument, setWide_widen]

/-- A document that was written has no halves. -/
theorem exists_of_setDocument (h : d.setDocument document change defaults ids = (.ok r, ids')) :
    ∃ t m, document = Text.widen t ∧ change.apply d.metadata defaults ids = (m, ids') ∧
      (d.setText Role.mashup.path t).setMetadata m = .ok r := by
  cases hpayload : Payload.encodeWide document with
  | error fault =>
    rw [setDocument, setWide, hpayload] at h
    cases h
  | ok payload =>
    obtain ⟨t, rfl, -⟩ := Payload.exists_of_encodeWide hpayload
    rw [setDocument_widen] at h
    obtain ⟨hset, rfl⟩ := Prod.mk.inj h
    exact ⟨t, _, rfl, rfl, hset⟩

/-- A query that was added was written into the document that was there. -/
theorem exists_of_addQuery {name code : WideText} {attr sectionAttr : Option WideText}
    (h : d.addQuery name code attr sectionAttr defaults ids = (.ok r, ids')) :
    ∃ t u m, d.document = .ok t ∧
      Mashup.Wide.upsert t name code attr sectionAttr = Text.widen u ∧
      (Metadata.Change.register (Mashup.Wide.plain name) attr).apply d.metadata defaults ids =
        (m, ids') ∧
      (d.setText Role.mashup.path u).setMetadata m = .ok r := by
  rw [addQuery] at h
  split at h
  · cases h
  · rename_i t ht
    obtain ⟨u, m, hu, hm, hset⟩ := exists_of_setDocument h
    exact ⟨t, u, m, ht, hu, hm, hset⟩

end Definition
end Dataflow
