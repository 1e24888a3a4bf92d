import Dataflow.Proofs.Written

/-!
# Where a written declaration comes to stand

A declaration is put into a document between a text in front and a tail behind.  Whether it is found
there afterwards, as it was written, depends on both.  `Seated` says how, and
`mem_declarations_iff_seated` that nothing else matters: a keyword may follow the text in front,
which leaves nothing open, and no heading begun in it is finished behind it; the attribute found
backwards is the one that was written; and the tail leaves the end of the body where it is.

Nothing here depends on what the rest of the document is, and nothing on whether the written text
itself is in order.  A literal left open in the body shows as a body with another end.
-/

set_option autoImplicit false

namespace Dataflow
namespace Mashup

/-- A name and a body that can be read where they are written. -/
structure Legible (name body : Text) : Prop where
  /-- The name can be read. -/
  name : IsNameToken name
  /-- No blanks around the body. -/
  solid : IsSolid body

theorem Writable.legible {name body : Text} {attr : Option Text} (h : Writable name body attr) :
    Legible name body :=
  ⟨h.name, h.solid⟩

/-- The declaration that is written at an offset. -/
def writtenAt (pos : Nat) (name body : Text) (attr : Option Text) : Declaration :=
  ⟨Name.plain name, body, attr.getD [], pos, pos + (declared name body attr).length⟩

theorem declared_eq_append (name body : Text) (attr : Option Text) :
    declared name body attr = attributeLine attr ++ declared name body none := rfl

/-- The line of the attribute counts as part of the text in front. -/
theorem append_declared (front name body tail : Text) (attr : Option Text) :
    front ++ (declared name body attr ++ tail) =
      front ++ attributeLine attr ++ (declared name body none ++ tail) := by
  rw [declared_eq_append name body attr]
  simp

theorem length_append_declared (front name body : Text) (attr : Option Text) :
    (front ++ attributeLine attr).length + (declared name body none).length =
      front.length + (declared name body attr).length := by
  rw [declared_eq_append name body attr, List.length_append, List.length_append]
  omega

/-! ## A heading at the beginning -/

section

variable {name body : Text}

theorem Legible.headings_declared (h : Legible name body) (tail : Text) :
    ∃ hs, headings (declared name body none ++ tail) = ⟨0, (opening name).length, name⟩ :: hs := by
  have htext : declared name body none ++ tail = opening name ++ (body ++ ';' :: tail) := by
    simp [declared, attributeLine]
  have hmatch := heading_opening (b := none) h.name (h.solid.startsSolid_append (';' :: tail)) rfl
  have hne : opening name ≠ [] := by simp [opening, text]
  have hcode : isCode (literalSpans (opening name ++ (body ++ ';' :: tail))) 0 = true := by
    rw [isCode_literalSpans (c := 's') rfl (by decide)]
    rfl
  rw [headings_eq, Pattern.live, htext, occurrences, occurrencesFrom_of_match hne hmatch]
  simp only [List.filter_cons, hcode, if_true, Nat.zero_add]
  exact ⟨_, rfl⟩

theorem head?_declared (name body tail : Text) :
    ∃ rest, declared name body none ++ tail = 's' :: rest :=
  ⟨_, rfl⟩

/-- The attribute of a declaration has no influence on its name, its body and its end. -/
theorem declarationOf_eq_of_attr (spans : List Span) (t : Text) (h : Occurrence Text)
    (attr attr' : Option PlacedAttribute) (boundary : Nat) :
    declarationOf spans t ⟨h, attr⟩ boundary = { declarationOf spans t ⟨h, attr'⟩ boundary with
      attr := (attr.map PlacedAttribute.value).getD []
      start := (attr.map PlacedAttribute.start).getD h.start } := by
  cases attr <;> rfl

/-- The entrances of a document in which a heading follows a text: those of the text, then the one
that is written, with the attribute that the text ends with, and then the others anyway. -/
theorem Legible.entrances_behind (h : Legible name body) {u tail : Text}
    (hclosed : leavesNothingOpen u = true) (hword : startsWord u.getLast? = true)
    (hreach : Unreached heading u (declared name body none ++ tail)) :
    ∃ es,
      entrances (declared name body none ++ tail) =
        ⟨⟨0, (opening name).length, name⟩, none⟩ :: es ∧
      entrances (u ++ (declared name body none ++ tail)) =
        entrances u ++ ⟨⟨u.length, u.length + (opening name).length, name⟩, dangling? u⟩ ::
          es.map (.shift u.length) := by
  obtain ⟨hs, hhs⟩ := h.headings_declared tail
  obtain ⟨rest, hrest⟩ := head?_declared name body tail
  generalize declared name body none ++ tail = v at hhs hrest hreach ⊢
  have hf : ReadsAfresh u v := hrest ▸ readsAfresh_of_isPlain hclosed (by decide) rest
  have hh : headings (u ++ v) = headings u ++ (headings v).map (.shift u.length) :=
    Pattern.live_append isLocal_heading startsPlain_heading hf hreach (heading_seam hword v)
  have hfront : ∀ o ∈ headings u, o.start ≤ u.length := by
    intro o ho
    have := Pattern.live_bounds isLocal_heading ho
    omega
  refine ⟨entrancesFrom v (opening name).length hs, ?_, ?_⟩
  · rw [entrances, hhs, entrancesFrom, attributeBefore?_eq]
    rfl
  · have hshift := @entrancesFrom_shift u v (opening name).length hs (not_allBlank_take hhs)
    rw [entrances, hh, entrancesFrom_append, entrancesFrom_congr v hfront, hhs, List.map_cons,
      entrancesFrom, attributeBefore?_eq]
    simp only [Occurrence.shift, Nat.add_zero, List.take_left] at hshift ⊢
    rw [hshift, dangling?, bodyFrom, entrances]

/-- Where a body begins after an opening and ends where it was written, it is that body. -/
theorem declarationOf_declared (h : Legible name body) {spans : List Span} {tail : Text}
    {boundary : Nat}
    (hstop : (declarationOf spans (declared name body none ++ tail)
      ⟨⟨0, (opening name).length, name⟩, none⟩ boundary).stop =
        (declared name body none).length) :
    declarationOf spans (declared name body none ++ tail)
      ⟨⟨0, (opening name).length, name⟩, none⟩ boundary = writtenAt 0 name body none := by
  have hslice := slice_declared name body none
  rw [attributeLine, Option.map_none, Option.getD_none, List.length_nil, Nat.zero_add] at hslice
  simp only [declarationOf] at hstop ⊢
  rw [hstop, slice_append_left (Nat.le_refl _), hslice, codeOfBody_append h.solid, writtenAt,
    Nat.zero_add]
  rfl

/-- The declarations of a document in which a heading follows a text: those of the text, but for
the end of the last of them, then the one that the heading begins, with the attribute found before
it, and then what follows that one anyway. -/
theorem declarations_behind (h : Legible name body) {u tail : Text}
    (hclosed : leavesNothingOpen u = true) (hword : startsWord u.getLast? = true)
    (hreach : Unreached heading u (declared name body none ++ tail)) :
    ∃ front d rest,
      declarations (declared name body none ++ tail) = d :: rest ∧ d.start = 0 ∧
        (d.stop = (declared name body none).length → d = writtenAt 0 name body none) ∧
        declarations (u ++ (declared name body none ++ tail)) =
          front ++ { d.shift u.length with
            attr := ((dangling? u).map PlacedAttribute.value).getD []
            start := ((dangling? u).map PlacedAttribute.start).getD u.length } ::
              rest.map (.shift u.length) ∧
        front.map Declaration.name = (headings u).map (fun o => Name.plain o.value) ∧
        (dangling? u = none → front = declarations u) := by
  obtain ⟨es, hes, hall⟩ := h.entrances_behind hclosed hword hreach
  obtain ⟨rest, hrest⟩ := head?_declared name body tail
  have hf : ReadsAfresh u (declared name body none ++ tail) :=
    hrest ▸ readsAfresh_of_isPlain hclosed (by decide) rest
  have hwritten := fun boundary => @declarationOf_declared name body h
    (literalSpans (declared name body none ++ tail)) tail boundary
  generalize declared name body none ++ tail = v at hes hall hf hwritten ⊢
  let e : Entrance := ⟨⟨0, (opening name).length, name⟩, none⟩
  let e' : Entrance := ⟨e.heading.shift u.length, dangling? u⟩
  let boundary := (es.head?.map Entrance.start).getD v.length
  have hboundary : (((es.map (Entrance.shift u.length)).head?.map Entrance.start).getD
      (u.length + v.length)) = u.length + boundary := by
    cases es with
    | nil => rfl
    | cons e es => simp [boundary, Entrance.start_shift]
  refine ⟨declarationsUpTo (literalSpans (u ++ v)) (u ++ v) e'.start (entrances u),
    declarationOf (literalSpans v) v e boundary,
    declarationsUpTo (literalSpans v) v v.length es, ?_, rfl, hwritten boundary, ?_, ?_, ?_⟩
  · rw [declarations_eq, hes, declarationsUpTo]
  · have hfirst := declarationOf_append_right hf e boundary
    rw [declarations_eq, hall, declarationsUpTo_append, declarationsUpTo, List.length_append,
      hboundary, declarationsUpTo_append_right hf, ← hfirst,
      declarationOf_eq_of_attr _ _ _ (dangling? u) none]
    rfl
  · rw [map_name_declarationsUpTo, map_heading_entrances]
  · intro hnone
    simp only [e', hnone]
    rw [declarations_eq]
    refine declarationsUpTo_append_left (entrances_pairwise u) (fun e' he' => ?_) fun e' _ => ?_
    · have := entrances_bounds he'
      omega
    · exact bodyStop_append_left (Nat.le_refl _) v _

end

/-! ## The conditions -/

/-- What a text in front and a tail behind have to be like for a declaration to be found between
them as it is written. -/
structure Seated (front name body : Text) (attr : Option Text) (tail : Text) : Prop where
  /-- The keyword stands in code. -/
  closed : leavesNothingOpen (front ++ attributeLine attr) = true
  /-- A word may begin there. -/
  word : startsWord (front ++ attributeLine attr).getLast? = true
  /-- No heading begun before reaches it. -/
  unreached : Unreached heading (front ++ attributeLine attr) (declared name body none ++ tail)
  /-- The attribute found before it is the one that was written. -/
  found : dangling? (front ++ attributeLine attr) = attr.map (⟨front.length, ·⟩)
  /-- With the tail behind, the body ends where it did. -/
  apart : (declarations (declared name body none ++ tail)).head?.map Declaration.stop =
    some (declared name body none).length

/-- What is found around a declaration that is seated. -/
theorem Seated.exists_around {front name body tail : Text} {attr : Option Text}
    (hl : Legible name body) (h : Seated front name body attr tail) :
    ∃ before rest,
      declarations (front ++ (declared name body attr ++ tail)) =
        before ++ writtenAt front.length name body attr :: rest ∧
      declarations (declared name body none ++ tail) =
        writtenAt 0 name body none :: (declarations (declared name body none ++ tail)).tail ∧
      rest = (declarations (declared name body none ++ tail)).tail.map
        (.shift (front ++ attributeLine attr).length) ∧
      before.map Declaration.name =
        (headings (front ++ attributeLine attr)).map (fun o => Name.plain o.value) ∧
      (attr = none → before = declarations front) := by
  obtain ⟨before, d, rest, hdecl, -, hwritten, hall, hnames, hbefore⟩ :=
    declarations_behind hl h.closed h.word h.unreached
  have hd : d = writtenAt 0 name body none := by
    refine hwritten ?_
    have := h.apart
    rw [hdecl, List.head?_cons, Option.map_some, Option.some_inj] at this
    exact this
  subst hd
  refine ⟨before, rest.map (.shift (front ++ attributeLine attr).length), ?_, by rw [hdecl]; rfl,
    by rw [hdecl]; rfl, hnames, ?_⟩
  · rw [append_declared, hall, h.found]
    congr 2
    simp only [writtenAt, Declaration.shift, Nat.zero_add, length_append_declared]
    cases attr with
    | none => simp [attributeLine]
    | some a => rfl
  · rintro rfl
    have := hbefore (by rw [h.found]; rfl)
    simpa [attributeLine] using this

/-! ## The conditions are necessary -/

/-- An attribute that is found as it was written ends where it was written to, so that the blanks
behind it lead to the same place. -/
theorem drop_eq_of_attributeAtEnd? {t front v : Text} {a : PlacedAttribute} {i : Nat}
    (h : attributeAtEnd? (t.take i) = some a)
    (ht : front ++ attributeLine (some a.value) ++ v = t) (hstart : a.start = front.length)
    (hi : startsSolid (t.drop i) = true) (hv : startsSolid v = true) : t.drop i = v := by
  obtain ⟨hb, hval, -⟩ := attributeAtEnd?_eq_some_iff.1 h
  have hlt := lt_of_bracketAtEnd? hb
  rw [hstart] at hval hlt
  obtain ⟨ws, hws, hblank⟩ := dropEndWhile_append_exists isBlank (t.take i)
  rw [← Text.stripEnd] at hws
  have hsolid : Text.stripEnd (t.take i) = front ++ a.value := by
    have hfront : front <+: t := ⟨attributeLine (some a.value) ++ v, by rw [← ht]; simp⟩
    have hprefix : Text.stripEnd (t.take i) <+: t :=
      (Text.stripEnd_prefix _).trans (List.take_prefix _ _)
    obtain ⟨z, hz⟩ := List.prefix_of_prefix_length_le hfront hprefix (Nat.le_of_lt hlt)
    rw [hval, ← hz, List.drop_left]
  have hsplit : front ++ a.value ++ (ws ++ t.drop i) = front ++ a.value ++ (lineBreak ++ v) := by
    rw [← List.append_assoc, ← hsolid, ← hws, List.take_append_drop, hsolid, ← ht]
    simp [attributeLine]
  exact eq_of_blanks_append (List.all_eq_true.2 hblank) hi (by decide) hv
    (List.append_cancel_left hsplit)

/-- A declaration that is found where it was written has its heading where that was written. -/
theorem exists_heading {front v : Text} {attr : Option Text} (hattr : attr ≠ some [])
    (hv : startsSolid v = true) {d : Declaration}
    (hd : d ∈ declarations (front ++ attributeLine attr ++ v)) (hstart : d.start = front.length)
    (hvalue : d.attr = attr.getD []) :
    ∃ o ∈ headings (front ++ attributeLine attr ++ v),
      o.start = (front ++ attributeLine attr).length ∧ Name.plain o.value = d.name := by
  rw [declarations_eq] at hd
  obtain ⟨e, he, boundary, rfl⟩ := exists_of_mem_declarationsUpTo hd
  have hmem : e.heading ∈ headings (front ++ attributeLine attr ++ v) := by
    rw [← map_heading_entrances]
    exact List.mem_map_of_mem he
  refine ⟨e.heading, hmem, ?_, rfl⟩
  simp only [declarationOf] at hstart hvalue
  obtain ⟨heading, placed⟩ := e
  cases placed with
  | none =>
    -- no attribute was found, so none was written
    cases attr with
    | none => simpa [attributeLine, Entrance.start] using hstart
    | some a => exact absurd (congrArg some hvalue.symm) hattr
  | some b =>
    have hbefore := attributeBefore?_of_mem_entrancesFrom he rfl
    rw [attributeBefore?_eq] at hbefore
    cases attr with
    | none => exact absurd hvalue (value_ne_nil_of_attributeAtEnd? hbefore)
    | some a =>
      obtain rfl : b.value = a := hvalue
      obtain ⟨c, rest, hc, -, hblank⟩ :=
        startsPlain_heading (mem_occurrences isLocal_heading (List.mem_filter.1 hmem).1)
      have hrest : startsSolid (List.drop heading.start
          (front ++ attributeLine (some b.value) ++ v)) = true := by
        rw [hc, startsSolid, List.head?_cons, Option.all_some, hblank]
        rfl
      have hdrop := drop_eq_of_attributeAtEnd? hbefore rfl hstart hrest hv
      have hbounds := Pattern.live_bounds isLocal_heading hmem
      have hlen := congrArg List.length hdrop
      rw [List.length_drop, List.length_append] at hlen
      rw [List.length_append] at hbounds
      simp only at hbounds hlen ⊢
      omega

/-- The declaration at a heading that was written is the one that `declarations_behind` gives. -/
theorem eq_of_heading {name body u tail : Text} (hl : Legible name body) {o : Occurrence Text}
    (ho : o ∈ headings (u ++ (declared name body none ++ tail))) (hstart : o.start = u.length)
    {d : Declaration} (hd : d ∈ declarations (u ++ (declared name body none ++ tail)))
    (hle : d.start ≤ u.length) (hlt : u.length < d.stop) :
    leavesNothingOpen u = true ∧ startsWord u.getLast? = true ∧
      Unreached heading u (declared name body none ++ tail) ∧
      ∃ d', (declarations (declared name body none ++ tail)).head? = some d' ∧
        (d'.stop = (declared name body none).length → d' = writtenAt 0 name body none) ∧
        d = { d'.shift u.length with
          attr := ((dangling? u).map PlacedAttribute.value).getD []
          start := ((dangling? u).map PlacedAttribute.start).getD u.length } := by
  obtain ⟨hocc, hcode⟩ := (startsPlain_heading.mem_live_iff isLocal_heading).1 ho
  have hmatch := mem_occurrences isLocal_heading hocc
  rw [hstart, List.take_left] at hcode hmatch
  have hclosed : leavesNothingOpen u = true := by
    rw [leavesNothingOpen_eq, hcode]
  have hword := (heading_eq_some_iff.1 hmatch).1
  have hreach := unreached_of_mem isLocal_heading hocc hstart
  obtain ⟨before, d', rest, hdecl, hfirst, hwritten, hall, -, -⟩ :=
    declarations_behind hl hclosed hword hreach
  refine ⟨hclosed, hword, hreach, d', by rw [hdecl]; rfl, hwritten, ?_⟩
  have hpos : d'.start < d'.stop :=
    (mem_declarations_bounds (hdecl ▸ List.mem_cons_self)).1
  have hfrom : ((dangling? u).map PlacedAttribute.start).getD u.length ≤ u.length := by
    cases hdang : dangling? u with
    | none => exact Nat.le_refl _
    | some b => exact Nat.le_of_lt (lt_of_dangling? hdang).2
  -- both cover the keyword
  refine eq_of_mem_declarations hd (hall ▸ List.mem_append_right _ List.mem_cons_self) ?_ ?_
  · simp only [Declaration.shift]
    omega
  · exact Nat.lt_of_le_of_lt hfrom hlt

/-- **The conditions are exact**: a declaration is found as it was written just when it is
seated. -/
theorem mem_declarations_iff_seated {front name body tail : Text} {attr : Option Text}
    (hl : Legible name body) (hattr : attr ≠ some []) :
    writtenAt front.length name body attr ∈
        declarations (front ++ (declared name body attr ++ tail)) ↔
      Seated front name body attr tail := by
  constructor
  · intro h
    have hlen := length_append_declared front name body attr
    have hbare : 0 < (declared name body none).length := by
      rw [length_declared]
      omega
    rw [append_declared] at h
    obtain ⟨o, ho, hstart, -⟩ := exists_heading hattr rfl h rfl rfl
    obtain ⟨hclosed, hword, hreach, d, hhead, -, heq⟩ :=
      eq_of_heading hl ho hstart h (by simp [writtenAt])
        (by simp only [writtenAt]; omega)
    simp only [writtenAt, Declaration.shift, Declaration.mk.injEq] at heq
    obtain ⟨-, -, hvalue, hstart', hstop⟩ := heq
    refine ⟨hclosed, hword, hreach, ?_, ?_⟩
    · cases hdang : dangling? (front ++ attributeLine attr) with
      | none =>
        rw [hdang] at hvalue
        cases attr with
        | none => rfl
        | some a => exact absurd (congrArg some hvalue) hattr
      | some b =>
        rw [hdang] at hvalue hstart'
        have hne := value_ne_nil_of_attributeAtEnd? (Option.filter_eq_some_iff.1 hdang).1
        cases attr with
        | none => exact absurd hvalue.symm hne
        | some a =>
          obtain ⟨start, value⟩ := b
          simp only [Option.map_some, Option.getD_some] at hvalue hstart'
          rw [hvalue, hstart', Option.map_some]
    · rw [hhead, Option.map_some, Option.some_inj]
      omega
  · intro h
    obtain ⟨before, rest, hall, -⟩ := h.exists_around hl
    rw [hall]
    simp

/-! ## The tail -/

/-- What is read behind the end of a declaration is not its own. -/
theorem le_start_of_apart {t : Text} {e e' : Entrance} {es : List Entrance}
    (h : entrances t = e :: e' :: es) {stop : Nat}
    (hstop : (declarations t).head?.map Declaration.stop = some stop) : stop ≤ e'.start := by
  have hpair := declarations_pairwise t
  rw [declarations_eq, h, declarationsUpTo, declarationsUpTo] at hpair hstop
  have := (List.pairwise_cons.1 hpair).1 _ List.mem_cons_self
  rw [List.head?_cons, Option.map_some, Option.some_inj] at hstop
  rwa [hstop] at this

/-- Behind a text that has no attribute at its end, what begins in the second piece is all. -/
theorem filter_attributeAtEnd?_eq_map {u w : Text} (hu : attributeAtEnd? u = none)
    (h : ∀ a, (attributeAtEnd? (u ++ w)).filter (bodyFrom u ≤ ·.start) = some a →
      u.length ≤ a.start) :
    (attributeAtEnd? (u ++ w)).filter (bodyFrom u ≤ ·.start) =
      (attributeAtEnd? w).map (.shift u.length) := by
  cases hw : attributeAtEnd? w with
  | some a => rw [filter_attributeAtEnd?_of_some hw, Option.map_some]
  | none =>
    rw [Option.map_none, Option.eq_none_iff_forall_ne_some]
    intro a ha
    have hle := h a ha
    have hfound := (Option.filter_eq_some_iff.1 ha).1
    cases hblank : Text.allBlank w with
    | true =>
      rw [attributeAtEnd?_append_of_allBlank u hblank, hu] at hfound
      cases hfound
    | false =>
      have := attributeAtEnd?_append u hblank
      rw [hfound, hw, Option.filter_some, if_pos (decide_eq_true hle)] at this
      cases this

/-- When the body ends where it did, the tail is read as if it stood alone. -/
theorem Writable.declarations_append {name body tail : Text} (h : Writable name body none)
    (hapart : (declarations (declared name body none ++ tail)).head?.map Declaration.stop =
      some (declared name body none).length) :
    declarations (declared name body none ++ tail) =
      writtenAt 0 name body none ::
        (declarations tail).map (.shift (declared name body none).length) := by
  have hentrances := h.entrances_declared
  have hheadings := h.headings_declared
  have hbodyStop := h.bodyStop_declared
  have hdeclared := h.declarations_declared
  have hsealed := h.isSealed
  rw [writtenAt, Nat.zero_add]
  generalize declared name body none = u at *
  have hf := readsAfresh_of_run hsealed.run tail
  have hseam := heading_seam hsealed.word tail
  have hh : headings (u ++ tail) = headings u ++ (headings tail).map (.shift u.length) :=
    Pattern.live_append isLocal_heading startsPlain_heading hf (hsealed.unreached tail) hseam
  have hattr : ∀ o, (headings tail).head? = some o →
      (attributeAtEnd? (u ++ tail.take o.start)).filter (bodyFrom u ≤ ·.start) =
        (attributeAtEnd? (tail.take o.start)).map (.shift u.length) := by
    intro o ho
    refine filter_attributeAtEnd?_eq_map hsealed.ending fun a ha => ?_
    -- the attribute of the second heading does not begin in the body
    obtain ⟨hs, hhs⟩ := List.head?_eq_some_iff.1 ho
    have hsecond : (attributeBefore? (u ++ tail) (o.shift u.length).start).filter
        (lastStop 0 (headings u) ≤ ·.start) = some a := by
      rw [attributeBefore?_eq, Occurrence.shift, List.take_length_add_append]
      exact ha
    have hent : ∃ e es, entrances (u ++ tail) = e :: ⟨o.shift u.length, some a⟩ :: es := by
      rw [entrances, hh, entrancesFrom_append, hhs, List.map_cons, entrancesFrom, hsecond,
        hheadings]
      exact ⟨_, _, rfl⟩
    obtain ⟨e, es, hent⟩ := hent
    exact le_start_of_apart hent hapart
  rw [Mashup.declarations_append hf (hsealed.unreached tail) hseam hattr fun o ho => ?_, hdeclared]
  · rfl
  · rw [hheadings, List.getLast?_singleton, Option.some_inj] at ho
    subst ho
    rw [declarations_eq, entrances_append hh hattr, hentrances, List.singleton_append,
      declarationsUpTo, List.head?_cons, Option.map_some, Option.some_inj, List.length_append,
      head?_shift_entrances] at hapart
    exact hapart.trans hbodyStop.symm

/-- The queries of a document in which a declaration without an attribute is seated. -/
theorem Seated.queries_eq {front name body tail : Text} (h : Seated front name body none tail)
    (hw : Writable name body none) :
    queries (front ++ (declared name body none ++ tail)) =
      queries front ++ ⟨Name.plain name, body, []⟩ :: queries tail := by
  obtain ⟨before, rest, hall, -, hrest, -, hbefore⟩ := h.exists_around hw.legible
  rw [hw.declarations_append h.apart, List.tail_cons] at hrest
  rw [queries, hall, hbefore rfl, hrest, List.map_append, List.map_cons, List.map_map, List.map_map]
  rfl

end Mashup
end Dataflow
