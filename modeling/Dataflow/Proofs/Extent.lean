import Dataflow.Proofs.Concatenation

/-!
# What a declaration covers

The stretch between the two offsets of a declaration is all that belongs to it.  Read from left to
right it is the attribute, blanks, the heading, the code and the semicolon, and nothing else.
`Declaration.LiesIn` says so in terms of the text alone.  Since no two declarations overlap, another
text can be put in the place of one of them without touching any other; `declarations_extent` has
both.

Nothing is asked of the document.  An attribute is found from its end and a body is ended by what
comes behind it, in documents with unbalanced brackets or open literals as well.
-/

set_option autoImplicit false

namespace Dataflow
namespace Text

/-! ## Stretches -/

variable {start stop i j : Nat} {t : Text}

/-- What stands before a place that is changed stays where it is. -/
theorem slice_splice_left (hj : j ≤ start) (hstart : start ≤ t.length) (r : Text) :
    slice (t.take start ++ (r ++ t.drop stop)) i j = slice t i j := by
  have hlen : j ≤ (t.take start).length := by
    rw [List.length_take]
    omega
  rw [slice, slice, List.take_append_of_le_length hlen, List.take_take, Nat.min_eq_left hj]

/-- What stands behind it moves by as much as the text becomes longer. -/
theorem slice_splice_right (hi : stop ≤ i) (hij : i ≤ j) (hstart : start ≤ t.length) (r : Text) :
    slice (t.take start ++ (r ++ t.drop stop)) (start + r.length + (i - stop))
        (start + r.length + (j - stop)) = slice t i j := by
  have hlen : (t.take start ++ r).length = start + r.length := by
    rw [List.length_append, List.length_take, Nat.min_eq_left hstart]
  have hsize : start + r.length + (j - stop) - (start + r.length + (i - stop)) = j - i := by omega
  rw [slice_eq_take_drop, slice_eq_take_drop, hsize, ← List.append_assoc, ← hlen,
    List.drop_length_add_append, List.drop_drop, Nat.add_sub_cancel' hi]

end Text

namespace Mashup

/-! ## A body and its end -/

/-- What ends a body: nothing, or blanks and a semicolon. -/
def IsBodyEnd (close : Text) : Prop :=
  close = [] ∨ ∃ ws, Text.allBlank ws = true ∧ close = ws ++ [';']

/-- A body without blanks around it is its code and what ends it. -/
theorem codeOfBody_append_eq {body : Text} (hhead : startsSolid body = true)
    (hlast : body.getLast?.all (!isBlank ·) = true) :
    ∃ close, body = codeOfBody body ++ close ∧ IsBodyEnd close := by
  have hstrip : Text.strip body = body := Text.strip_eq_self hhead hlast
  rw [codeOfBody, hstrip]
  split
  · rename_i hsemicolon
    obtain ⟨inner, rfl⟩ := List.getLast?_eq_some_iff.1 hsemicolon
    rw [List.dropLast_concat]
    -- without its semicolon the body begins as before, or is empty
    have hinner : inner.dropWhile isBlank = inner := by
      cases inner with
      | nil => rfl
      | cons c inner => exact List.dropWhile_cons_of_neg (by simpa [startsSolid] using hhead)
    obtain ⟨ws, hsplit, hws⟩ := dropEndWhile_append_exists isBlank inner
    refine ⟨ws ++ [';'], ?_, .inr ⟨ws, List.all_eq_true.2 hws, rfl⟩⟩
    rw [Text.strip, hinner, Text.stripEnd, ← List.append_assoc, ← hsplit]
  · exact ⟨[], (List.append_nil body).symm, .inl rfl⟩

theorem getElem?_of_lastSemicolonFrom {spans : List Span} {pos i : Nat} {found : Option Nat}
    {body : Text} (h : lastSemicolonFrom spans pos found body = some i) :
    found = some i ∨ ∃ k, i = pos + k ∧ body[k]? = some ';' := by
  induction body generalizing pos found with
  | nil => exact .inl h
  | cons c body ih =>
    rw [lastSemicolonFrom] at h
    rcases ih h with hfound | ⟨k, rfl, hk⟩
    · split at hfound
      · rename_i hc
        cases hfound
        exact .inr ⟨0, rfl, by rw [List.getElem?_cons_zero, hc.1]⟩
      · exact .inl hfound
    · exact .inr ⟨k + 1, by omega, by rwa [List.getElem?_cons_succ]⟩

/-- The body that is cut out ends with its semicolon, or without a blank. -/
theorem getLast?_slice_bodyStop (spans : List Span) (t : Text) (start boundary : Nat) :
    (Text.slice t start (bodyStop spans t start boundary)).getLast?.all (!isBlank ·) = true := by
  rw [bodyStop]
  split
  · rename_i i hi
    have hsemicolon := getElem?_of_lastSemicolonFrom hi
    simp only [reduceCtorEq, false_or] at hsemicolon
    obtain ⟨k, rfl, hk⟩ := hsemicolon
    have hsize : start + k + 1 - start = k + 1 := by omega
    rw [Text.slice_eq_take_drop, hsize, List.getLast?_take, if_neg (Nat.succ_ne_zero k),
      Nat.add_sub_cancel, List.getElem?_drop, getElem?_of_slice hk, Option.some_or,
      Option.all_some]
    decide
  · have hprefix := Text.stripEnd_prefix (Text.slice t start boundary)
    have hcut : Text.slice t start (start + (Text.stripEnd (Text.slice t start boundary)).length) =
        Text.stripEnd (Text.slice t start boundary) := by
      have hle := hprefix.length_le
      rw [Text.length_slice] at hle
      conv => rhs; rw [List.prefix_iff_eq_take.1 hprefix]
      generalize (Text.stripEnd (Text.slice t start boundary)).length = n at hle ⊢
      rw [Text.slice_eq_take_drop, Text.slice_eq_take_drop, List.take_take,
        Nat.add_sub_cancel_left, Nat.min_eq_left (by omega)]
    rw [hcut]
    exact Text.getLast?_stripEnd _

/-! ## The declaration as a stretch of text -/

/-- The stretch of a document that a declaration names is made of its attribute, its heading, its
code and what ends the body. -/
structure Declaration.LiesIn (d : Declaration) (t : Text) : Prop where
  /-- The stretch is not empty. -/
  start_lt : d.start < d.stop
  /-- It ends in the document. -/
  stop_le : d.stop ≤ t.length
  /-- It is filled by the pieces, in this order. -/
  pieces : ∃ gap head ws close token,
    Text.slice t d.start d.stop = d.attr ++ (gap ++ (head ++ (ws ++ (d.code ++ close)))) ∧
    Text.allBlank gap = true ∧ (d.attr = [] → gap = []) ∧
    Named (text "shared") '=' head token ∧ Name.plain token = d.name ∧
    Text.allBlank ws = true ∧ IsBodyEnd close

/-- Between an entrance and its heading stand the attribute and the blanks behind it. -/
theorem slice_entrance {t : Text} {e : Entrance} (he : e ∈ entrances t) :
    ∃ gap, Text.slice t e.start e.heading.start =
        (e.attr.map PlacedAttribute.value).getD [] ++ gap ∧ Text.allBlank gap = true ∧
      ((e.attr.map PlacedAttribute.value).getD [] = [] → gap = []) := by
  cases ha : e.attr with
  | none =>
    refine ⟨[], ?_, rfl, fun _ => rfl⟩
    rw [Entrance.start, ha, Text.slice_eq_take_drop, Nat.sub_self, List.take_zero]
    rfl
  | some a =>
    have hfound := attributeBefore?_of_mem_entrancesFrom he ha
    rw [attributeBefore?_eq] at hfound
    have hne := value_ne_nil_of_attributeAtEnd? hfound
    obtain ⟨hbracket, hvalue, -⟩ := attributeAtEnd?_eq_some_iff.1 hfound
    obtain ⟨gap, hsplit, hgap⟩ := dropEndWhile_append_exists isBlank (t.take e.heading.start)
    refine ⟨gap, ?_, List.all_eq_true.2 hgap, fun h => absurd h hne⟩
    have hlt := Nat.le_of_lt (lt_of_bracketAtEnd? hbracket)
    rw [Entrance.start, ha, Text.slice, hsplit]
    exact (List.drop_append_of_le_length hlt).trans (by rw [← hvalue]; rfl)

/-- A heading takes blanks behind its sign, and what follows begins with none. -/
theorem slice_heading {t : Text} {e : Entrance} (he : e ∈ entrances t) :
    ∃ head ws, Text.slice t e.heading.start e.heading.stop = head ++ ws ∧
      Named (text "shared") '=' head e.heading.value ∧ Text.allBlank ws = true ∧
      startsSolid (t.drop e.heading.stop) = true := by
  have hmem : e.heading ∈ headings t := by
    rw [← map_heading_entrances]
    exact List.mem_map_of_mem he
  have hmatch := mem_occurrences isLocal_heading (List.mem_filter.1 hmem).1
  obtain ⟨-, head, ws, ht, hnamed, hws, hsolid⟩ := heading_eq_some_iff.1 hmatch
  obtain ⟨-, hlt, hle⟩ := entrances_bounds he
  refine ⟨head, ws, ?_, hnamed, hws, hsolid⟩
  have hlen : e.heading.stop - e.heading.start = (head ++ ws).length := by
    have := congrArg List.length ht
    simp only [List.length_append, List.length_drop] at this ⊢
    omega
  rw [Text.slice_eq_take_drop, ht, hlen, ← List.append_assoc, List.take_left]

theorem startsSolid_take {t : Text} (h : startsSolid t = true) (n : Nat) :
    startsSolid (t.take n) = true := by
  rw [startsSolid, List.head?_take]
  split
  · rfl
  · exact h

theorem liesIn_of_mem_declarations {t : Text} {d : Declaration} (hd : d ∈ declarations t) :
    d.LiesIn t := by
  obtain ⟨hlt, hle⟩ := mem_declarations_bounds hd
  rw [declarations_eq] at hd
  obtain ⟨e, he, boundary, rfl⟩ := exists_of_mem_declarationsUpTo hd
  obtain ⟨hstart, hheading, -⟩ := entrances_bounds he
  have hstop := le_bodyStop (literalSpans t) t e.heading.stop boundary
  obtain ⟨gap, hgap, hblank, hnil⟩ := slice_entrance he
  obtain ⟨head, ws, hhead, hnamed, hws, hsolid⟩ := slice_heading he
  have hbodyHead : startsSolid (Text.slice t e.heading.stop
      (bodyStop (literalSpans t) t e.heading.stop boundary)) = true := by
    rw [Text.slice_eq_take_drop]
    exact startsSolid_take hsolid _
  obtain ⟨close, hbody, hclose⟩ := codeOfBody_append_eq hbodyHead
    (getLast?_slice_bodyStop (literalSpans t) t e.heading.stop boundary)
  refine ⟨hlt, hle, gap, head, ws, close, e.heading.value, ?_, hblank, hnil, hnamed, rfl, hws,
    hclose⟩
  simp only [declarationOf]
  rw [← Text.slice_append_slice t hstart (by omega), hgap,
    ← Text.slice_append_slice t (Nat.le_of_lt hheading) hstop, hhead, List.append_assoc,
    List.append_assoc, ← hbody]

/-- **Declarations lie where they say, apart from one another.**  So one of them can be replaced by
any text, and all others are found unchanged, those behind it moved. -/
theorem declarations_extent (t : Text) :
    (∀ d ∈ declarations t, d.LiesIn t) ∧
      (declarations t).Pairwise (fun d d' => d.stop ≤ d'.start) ∧
      ∀ d ∈ declarations t, ∀ d' ∈ declarations t, d' ≠ d → ∀ r : Text,
        (d'.stop ≤ d.start ∧
          Text.slice (t.take d.start ++ (r ++ t.drop d.stop)) d'.start d'.stop =
            Text.slice t d'.start d'.stop) ∨
        (d.stop ≤ d'.start ∧
          Text.slice (t.take d.start ++ (r ++ t.drop d.stop))
              (d.start + r.length + (d'.start - d.stop)) (d.start + r.length + (d'.stop - d.stop)) =
            Text.slice t d'.start d'.stop) := by
  refine ⟨fun d hd => liesIn_of_mem_declarations hd, declarations_pairwise t, ?_⟩
  intro d hd d' hd' hne r
  have hbounds := mem_declarations_bounds hd
  have hbounds' := mem_declarations_bounds hd'
  have hstart : d.start ≤ t.length := by omega
  rcases Nat.lt_or_ge d.start d'.stop with hlt | hge
  · rcases Nat.lt_or_ge d'.start d.stop with hlt' | hge'
    · exact absurd (eq_of_mem_declarations hd' hd hlt' hlt) hne
    · exact .inr ⟨hge', Text.slice_splice_right hge' (Nat.le_of_lt hbounds'.1) hstart r⟩
  · exact .inl ⟨hge, Text.slice_splice_left hge hstart r⟩

/-- A document with brackets that are not balanced, a body without a semicolon, and a keyword in a
literal. -/
def raggedDocument : Text :=
  text "]\r\nshared A = [x\r\n[k = 1] shared B = \"; shared C\" ;\r\n"

/-- The first declaration of the document. -/
def raggedFirst : Declaration := ⟨text "A", text "[x", [], 3, 16⟩

/-- The second one. -/
def raggedSecond : Declaration := ⟨text "B", text "\"; shared C\"", text "[k = 1]", 18, 51⟩

theorem declarations_extent_raggedDocument :
    declarations raggedDocument = [raggedFirst, raggedSecond] ∧ raggedFirst ≠ raggedSecond ∧
      raggedSecond.LiesIn raggedDocument ∧
      Text.slice (raggedDocument.take 3 ++ (text "?" ++ raggedDocument.drop 16)) 6 39 =
        text "[k = 1] shared B = \"; shared C\" ;" := by
  have hall : declarations raggedDocument = [raggedFirst, raggedSecond] := by decide +kernel
  have hne : raggedSecond ≠ raggedFirst := by decide
  obtain ⟨hlies, -, hothers⟩ := declarations_extent raggedDocument
  rw [hall] at hlies hothers
  have hsecond : raggedSecond ∈ [raggedFirst, raggedSecond] := List.mem_of_getLast? rfl
  refine ⟨hall, hne.symm, hlies raggedSecond hsecond, ?_⟩
  rcases hothers raggedFirst List.mem_cons_self raggedSecond hsecond hne (text "?") with
    ⟨hbefore, -⟩ | ⟨-, hbehind⟩
  · exact absurd hbefore (by decide)
  · exact hbehind.trans (by decide +kernel)

end Mashup
end Dataflow
