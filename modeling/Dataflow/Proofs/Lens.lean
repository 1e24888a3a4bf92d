import Dataflow.Proofs.Feasibility

/-!
# Parts as a lens

A definition can be read and written at a path.  Paths that differ in case only are one path,
several parts may lie at it, and there may be none.  Reading takes the first part, and so does
writing, which appends one when there is none.  That is why the two belong together: what was
written last is read, at every spelling of the path, and nothing else is seen of the write at any
other path.  `Definition.Places` is all that a write does to the parts, and `text?_setText_lens`
draws the conclusions.

Text reads back whatever it is, but the empty text has an empty payload, and a part with an empty
payload counts as one without text.  An object reads back if its text does, and for this it must be
tidy and without halves of surrogate pairs.  No other objects read back (`fields?_setJson_iff`).
-/

set_option autoImplicit false

namespace Dataflow

variable {d e : Definition} {path other payload : WideText}

/-- The case of a path does not matter. -/
theorem Part.isAt_congr (h : path.lower = other.lower) (p : Part) : p.isAt path = p.isAt other := by
  rw [isAt, isAt, h]

namespace Definition

/-! ## What is written -/

/-- A payload is placed at a path: the first part there has it instead of its own, and when there is
no part, a new one comes behind all others. -/
inductive Places (path payload : WideText) : List Part → List Part → Prop where
  | replaced {front behind : List Part} {p : Part} (hfront : ∀ q ∈ front, q.isAt path = false)
      (hp : p.isAt path = true) :
      Places path payload (front ++ p :: behind) (front ++ { p with payload } :: behind)
  | appended {parts : List Part} (hparts : ∀ q ∈ parts, q.isAt path = false) :
      Places path payload parts (parts ++ [⟨path, payload, inlineBase64⟩])

/-- A part at another path in front makes no difference. -/
theorem Places.cons {parts parts' : List Part} {p : Part} (hp : p.isAt path = false)
    (h : Places path payload parts parts') : Places path payload (p :: parts) (p :: parts') := by
  cases h with
  | replaced hfront hq => exact .replaced (List.forall_mem_cons.2 ⟨hp, hfront⟩) hq
  | appended hparts => exact .appended (List.forall_mem_cons.2 ⟨hp, hparts⟩)

theorem places_setPayloadIn (path payload : WideText) (parts : List Part) :
    Places path payload parts (setPayloadIn path payload parts) := by
  induction parts with
  | nil => exact .appended fun _ hq => absurd hq List.not_mem_nil
  | cons p rest ih =>
    rw [setPayloadIn]
    split
    · rename_i hp
      have hfront : ∀ q ∈ ([] : List Part), q.isAt path = false :=
        fun _ hq => absurd hq List.not_mem_nil
      exact Places.replaced hfront hp
    · rename_i hp
      exact ih.cons (Bool.eq_false_iff.2 hp)

/-- **Of two writes at a path the last one counts.** -/
theorem setPayload_setPayload (h : path.lower = other.lower) (d : Definition)
    (first last : WideText) :
    (d.setPayload path first).setPayload other last = d.setPayload path last := by
  obtain ⟨parts⟩ := d
  refine congrArg Definition.mk ?_
  show setPayloadIn other last (setPayloadIn path first parts) = _
  induction parts with
  | nil =>
    have hnew : Part.isAt ⟨path, first, inlineBase64⟩ other = true := beq_iff_eq.2 h
    rw [setPayloadIn, setPayloadIn, setPayloadIn, if_pos hnew]
  | cons p rest ih =>
    rw [setPayloadIn, setPayloadIn]
    by_cases hp : p.isAt path = true
    · have hnew : Part.isAt { p with payload := first } other = true := Part.isAt_congr h p ▸ hp
      rw [if_pos hp, if_pos hp, setPayloadIn, if_pos hnew]
    · rw [if_neg hp, if_neg hp, setPayloadIn, if_neg (Part.isAt_congr h p ▸ hp), ih]

/-! ## What is read -/

theorem part?_congr (h : path.lower = other.lower) (d : Definition) :
    d.part? path = d.part? other := by
  rw [part?, part?, funext (Part.isAt_congr h)]

theorem text?_congr (h : path.lower = other.lower) (d : Definition) :
    d.text? path = d.text? other := by
  rw [text?, text?, part?_congr h]

/-- A write is not seen at another path. -/
theorem text?_setPayload_other (h : path.lower ≠ other.lower) :
    (d.setPayload path payload).text? other = d.text? other := by
  rw [text?, text?, part?_setPayload_other h]

/-- A text is read where it was written, unless it is empty. -/
theorem text?_setText_self (d : Definition) (path : WideText) (t : Text) :
    (d.setText path t).text? path = if t = [] then none else some t := by
  have hpayload : ((d.setText path t).part? path).map Part.payload = some (Payload.encodeText t) :=
    part?_setPayload d path _
  split
  · rename_i ht
    obtain ⟨p, hp, hempty⟩ := Option.map_eq_some_iff.1 hpayload
    rw [text?, hp]
    exact if_pos (List.isEmpty_iff.2 (hempty.trans (Payload.encodeText_eq_nil_iff.2 ht)))
  · rename_i ht
    exact text?_of_payload ht hpayload

/-- **Writing text and reading it form a lens.**  What is written at a path is read at each of its
spellings and changes nothing that is read elsewhere; of two writes the last one counts; and of the
parts one payload is replaced, or one part appended. -/
theorem text?_setText_lens (d : Definition) (path other : WideText) (t last : Text) :
    (d.setText path t).text? other =
        (if path.lower = other.lower then if t = [] then none else some t else d.text? other) ∧
      (path.lower = other.lower → (d.setText path t).setText other last = d.setText path last) ∧
      Places path (Payload.encodeText t) d.parts (d.setText path t).parts := by
  refine ⟨?_, fun h => setPayload_setPayload h d _ _, places_setPayloadIn path _ d.parts⟩
  split
  · rename_i h
    rw [← text?_congr h, text?_setText_self]
  · rename_i h
    exact text?_setPayload_other h

/-- A definition with two parts at one path, in the first of which the dotted capital is spelled as
one character and in the second as two small ones. -/
def respelledDefinition : Definition :=
  ⟨[⟨wide "notes.txt", wide "QQ==", wide "Plain"⟩, ⟨wide "\u0130.PQ", wide "#", wide "inline"⟩,
    ⟨wide "i\u0307.pq", wide "Qg==", inlineBase64⟩]⟩

theorem text?_setText_lens_respelledDefinition :
    let d := respelledDefinition
    let e := d.setText (wide "i\u0307.PQ") (text "\u00e9\n😀")
    (wide "i\u0307.PQ").lower = (wide "\u0130.pq").lower ∧
      d.text? (wide "\u0130.pq") = none ∧ e.text? (wide "\u0130.pq") = some (text "\u00e9\n😀") ∧
      e.text? (wide "Notes.TXT") = some (text "A") ∧
      e.setText (wide "\u0130.pq") [] = d.setText (wide "i\u0307.PQ") [] ∧
      Places (wide "i\u0307.PQ") (Payload.encodeText (text "\u00e9\n😀")) d.parts e.parts ∧
      e.parts.map Part.path = d.parts.map Part.path := by
  intro d e
  have hlower : (wide "i\u0307.PQ").lower = (wide "\u0130.pq").lower := by decide +kernel
  obtain ⟨hself, hagain, hplaces⟩ :=
    text?_setText_lens d (wide "i\u0307.PQ") (wide "\u0130.pq") (text "\u00e9\n😀") []
  rw [if_pos hlower] at hself
  obtain ⟨hother, -, -⟩ :=
    text?_setText_lens d (wide "i\u0307.PQ") (wide "Notes.TXT") (text "\u00e9\n😀") []
  rw [if_neg (by decide +kernel)] at hother
  have hnotes : d.text? (wide "Notes.TXT") = some (text "A") := by decide +kernel
  exact ⟨hlower, by decide +kernel, hself, hother.trans hnotes, hagain hlower, hplaces,
    by decide +kernel⟩

/-! ## Objects -/

/-- A tidy object is read where it was written, and nowhere else. -/
theorem fields?_setJson {fields : Fields} (hfields : (Json.object fields).Tidy Json.AnyText)
    (h : d.setJson path (.object fields) = .ok e) (other : WideText) :
    e.fields? other = if path.lower = other.lower then some fields else d.fields? other := by
  obtain ⟨payload, hpayload, rfl⟩ := setJson_eq_ok_iff.1 h
  split
  · rename_i hlower
    refine fields?_of_payload hfields hpayload ?_
    rw [← part?_congr hlower, part?_setPayload]
  · rename_i hlower
    rw [fields?, fields?, text?_setPayload_other hlower]

/-- **The objects that read back as they were written are the tidy ones without halves**, in which
each name stands once and integers have no more digits than are read. -/
theorem fields?_setJson_iff (d : Definition) (path : WideText) (fields : Fields) :
    (∃ e, d.setJson path (.object fields) = .ok e ∧ ∀ other,
        e.fields? other = if path.lower = other.lower then some fields else d.fields? other) ↔
      (Json.object fields).Tidy Json.IsText := by
  constructor
  · rintro ⟨e, hset, hread⟩
    obtain ⟨payload, hpayload, -⟩ := setJson_eq_ok_iff.1 hset
    have hself : e.fields? path = some fields := (hread path).trans (if_pos rfl)
    exact (Payload.exists_encodeJson_iff (tidy_of_fields? hself)).1 ⟨payload, hpayload⟩
  · intro hfields
    obtain ⟨payload, hpayload⟩ := Payload.exists_encodeJson hfields
    have hset : d.setJson path (.object fields) = .ok (d.setPayload path payload) :=
      setJson_eq_ok_iff.2 ⟨payload, hpayload, rfl⟩
    exact ⟨_, hset, fields?_setJson (hfields.mono fun _ _ => trivial) hset⟩

end Definition
end Dataflow
