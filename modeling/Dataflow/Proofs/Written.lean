import Dataflow.Proofs.Concatenation

/-!
# A declaration that is written reads back

`declare` writes a declaration; here is what the readers make of the text.  Three things may go
wrong inside of it: a name that cannot be read, code or an attribute that leaves a literal open, and
a second heading in the code or the attribute.  `Writable` rules them out, and nothing else has to
be known: the text has one heading, whatever follows (`Writable.occurrences_append`), and it reads
back as the declaration it is (`Writable.declarations_declared`).
-/

set_option autoImplicit false

namespace Dataflow
namespace Mashup

/-! ## Expressions -/

/-- A text that neither begins nor ends with a blank, and is not empty. -/
structure IsSolid (t : Text) : Prop where
  /-- There is something. -/
  ne_nil : t ≠ []
  /-- Stripping changes nothing. -/
  strip : Text.strip t = t

theorem IsSolid.startsSolid_append {t : Text} (h : IsSolid t) (v : Text) :
    startsSolid (t ++ v) = true := by
  have := Text.head?_strip t
  rw [h.strip] at this
  cases t with
  | nil => exact absurd rfl h.ne_nil
  | cons c t => simpa [startsSolid] using this

/-- A body with its semicolon is read without it. -/
theorem codeOfBody_append {body : Text} (h : IsSolid body) : codeOfBody (body ++ [';']) = body := by
  have hstrip : Text.strip (body ++ [';']) = body ++ [';'] := by
    refine Text.strip_eq_self (h.startsSolid_append _) ?_
    rw [List.getLast?_concat]
    decide
  rw [codeOfBody, hstrip, List.getLast?_concat, if_pos rfl, List.dropLast_concat, h.strip]

theorem letBlock_of_isLetBlock {code : Text} (h : isLetBlock (Text.strip code) = true) :
    letBlock code = Text.strip code := by
  rw [letBlock]
  exact if_pos h

theorem letBlock_isSolid (code : Text) : IsSolid (letBlock code) := by
  rw [letBlock]
  split
  · rename_i h
    refine ⟨fun hnil => ?_, Text.strip_strip code⟩
    rw [hnil] at h
    cases h
  · refine ⟨by simp [text], Text.strip_eq_self ?_ ?_⟩
    · rw [List.append_assoc, List.head?_append]
      rfl
    · rw [List.getLast?_append]
      rfl

/-! ## Names -/

theorem untilQuote?_double (name : Text) :
    untilQuote? (Text.double '"' name ++ ['"']) = some (Text.double '"' name ++ ['"'], []) := by
  induction name with
  | nil => rfl
  | cons c name ih =>
    by_cases hc : c = '"'
    · subst hc
      rw [Text.double_cons_self, List.cons_append, List.cons_append, untilQuote?, ih]
      rfl
    · rw [Text.double_cons_of_ne hc, List.cons_append]
      simp [untilQuote?, ih, hc]

namespace Name

/-- Every name but the empty one is written so that it can be read, unless it is in quoted form
already. -/
theorem isNameToken_written_of_not_isQuoted {name : Text} (hne : name ≠ [])
    (hq : isQuoted name = false) : IsNameToken (written name) := by
  rw [written, hq, Bool.false_or]
  split
  · rename_i h
    cases name with
    | nil => exact absurd rfl hne
    | cons c rest =>
      rw [isBare, Bool.and_eq_true, List.all_eq_true] at h
      exact .bare hne (List.forall_mem_cons.2 ⟨isWord_of_isBareStart h.1, h.2⟩)
  · refine .quoted (untilQuote?_double name) fun h => hne ?_
    exact Text.double_eq_nil_iff.1 (by simpa using h)

theorem isNameToken_written {name : Text} (hne : name ≠ [])
    (hq : Text.hasPrefix name ['#', '"'] = false) : IsNameToken (written name) :=
  isNameToken_written_of_not_isQuoted hne (by rw [isQuoted, hq, Bool.false_and, Bool.false_and])

theorem plain_eq_self {name : Text} (hq : Text.hasPrefix name ['#', '"'] = false) :
    plain name = name := by
  rw [plain, isQuoted, hq, Bool.false_and, Bool.false_and]
  rfl

theorem plain_written (name : Text) : plain (written name) = plain name := by
  rw [written]
  split
  · rfl
  · rename_i h
    rw [Bool.or_eq_true, not_or, Bool.not_eq_true] at h
    rw [plain_quoted, plain, h.1]
    rfl

end Name

/-! ## Attributes that are given -/

theorem Attribute.given?_eq_some {attr : Option Text} {a : Text} (h : given? attr = some a) :
    a ≠ [] ∧ Text.strip a = a := by
  cases attr with
  | none => cases h
  | some b =>
    rw [given?] at h
    split at h
    · cases h
    · rename_i hb
      cases h
      exact ⟨fun hnil => hb ((Text.strip_eq_nil_iff b).1 hnil), Text.strip_strip b⟩

theorem Attribute.given?_given? (attr : Option Text) : given? (given? attr) = given? attr := by
  cases h : given? attr with
  | none => rfl
  | some a =>
    obtain ⟨hne, hstrip⟩ := given?_eq_some h
    have hblank : Text.allBlank a = false := by
      cases hb : Text.allBlank a with
      | false => rfl
      | true => exact absurd (hstrip ▸ (Text.strip_eq_nil_iff a).2 hb) hne
    simp [given?, hblank, hstrip]

/-! ## The text of a declaration -/

/-- An attribute on a line of its own. -/
def attributeLine (attr : Option Text) : Text := (attr.map (· ++ lineBreak)).getD []

/-- A word may start behind the line of an attribute. -/
theorem startsWord_attributeLine {u : Text} (hu : startsWord u.getLast? = true)
    (attr : Option Text) : startsWord (u ++ attributeLine attr).getLast? = true := by
  cases attr with
  | none => rwa [attributeLine, Option.map_none, Option.getD_none, List.append_nil]
  | some a =>
    rw [attributeLine, Option.map_some, Option.getD_some, ← List.append_assoc,
      List.getLast?_append]
    exact (by decide : startsWord (some '\n') = true)

/-- The text from the keyword of a declaration up to its body, with the name as it is written. -/
def opening (name : Text) : Text := text "shared " ++ (name ++ text " = ")

/-- The text of a declaration from its pieces. -/
def declared (name body : Text) (attr : Option Text) : Text :=
  attributeLine attr ++ (opening name ++ (body ++ [';']))

theorem declare_eq (name code : Text) (attr : Option Text) :
    declare name code attr =
      declared (Name.written name) (letBlock code) (Attribute.given? attr) := by
  rw [declare, declared, attributeLine, opening]
  cases Attribute.given? attr <;> simp

theorem getLast?_declared (name body : Text) (attr : Option Text) :
    (declared name body attr).getLast? = some ';' := by
  rw [declared, ← List.append_assoc, ← List.append_assoc, List.getLast?_concat]

theorem length_declared (name body : Text) (attr : Option Text) :
    (declared name body attr).length =
      (attributeLine attr).length + (opening name).length + body.length + 1 := by
  simp only [declared, List.length_append, List.length_singleton]
  omega

theorem slice_declared (name body : Text) (attr : Option Text) :
    Text.slice (declared name body attr) ((attributeLine attr).length + (opening name).length)
      (declared name body attr).length = body ++ [';'] := by
  rw [Text.slice, List.take_length, declared, List.drop_length_add_append, List.drop_left]

/-- An attribute that is taken whole when it is written in front of a declaration. -/
structure IsAttribute (a : Text) : Prop where
  /-- The bracket at its end closes the one at its beginning. -/
  bracket : bracketAtEnd? a = some 0
  /-- It is no staging marker. -/
  isStaging : Attribute.isStaging a = false
  /-- It leaves no literal or comment open. -/
  closed : leavesNothingOpen a = true
  /-- There is no heading in it. -/
  unmarked : (keywordMark (text "shared")).isIn a = false

/-- The pieces of a declaration that reads back when it is written. -/
structure Writable (name body : Text) (attr : Option Text) : Prop where
  /-- The name can be read. -/
  name : IsNameToken name
  /-- No blanks around the body. -/
  solid : IsSolid body
  /-- The body leaves no literal or comment open. -/
  closed : leavesNothingOpen body = true
  /-- There is no heading in it. -/
  unmarked : (keywordMark (text "shared")).isIn body = false
  /-- The attribute can be found again. -/
  attr : ∀ a, attr = some a → IsAttribute a

theorem IsAttribute.getLast? {a : Text} (h : IsAttribute a) : a.getLast? = some ']' := by
  have := h.bracket
  rw [bracketAtEnd?] at this
  split at this
  · assumption
  · cases this

theorem IsAttribute.attributeAtEnd? {a : Text} (h : IsAttribute a) :
    attributeAtEnd? a = some ⟨0, a⟩ := by
  have hstrip : Text.stripEnd a = a := Text.stripEnd_eq_self (by rw [h.getLast?]; decide)
  rw [attributeAtEnd?_eq_some_iff, hstrip]
  exact ⟨h.bracket, rfl, h.isStaging⟩

/-! ## Reading the text of a declaration -/

theorem heading_opening {name r : Text} (hn : IsNameToken name) (hr : startsSolid r = true)
    {b : Option Char} (hb : startsWord b = true) :
    heading b (opening name ++ r) = some (name, r) := by
  have hx : Named (text "shared") '='
      (text "shared" ++ ([' '] ++ (name ++ ([' '] ++ ['='])))) name :=
    .mk rfl (by simp) rfl hn rfl
  refine heading_eq_some_iff.2 ⟨hb, _, [' '], ?_, hx, rfl, hr⟩
  simp [opening, text]

/-- There is no heading in a line that ends with a bracket and is unmarked. -/
theorem occurrencesFrom_line {a : Text} (hlast : a.getLast? = some ']')
    (hmark : (keywordMark (text "shared")).isIn a = false) (pos : Nat) (t : Text) :
    occurrencesFrom heading none pos 0 (attributeLine (some a) ++ t) =
      occurrencesFrom heading (some '\n') (pos + (attributeLine (some a)).length) 0 t := by
  obtain ⟨u, rfl⟩ := List.getLast?_eq_some_iff.1 hlast
  have hmark : (keywordMark (text "shared")).foundAfter none u = false := foundAfter_of_append hmark
  have hskip := fun v => occurrencesFrom_of_not_foundAfter (v := v) keywordMark_of_heading
    (keywordMark_of_barsMark (c := ']') (by decide) v) hmark pos
  have hline : attributeLine (some (u ++ [']'])) ++ t = u ++ ']' :: (lineBreak ++ t) := by
    simp [attributeLine]
  have hlen : pos + u.length + 1 + lineBreak.length =
      pos + (attributeLine (some (u ++ [']']))).length := by
    simp [attributeLine]
    omega
  rw [hline, hskip, startsPlain_heading.occurrencesFrom_of_allBlank (by decide), hlen]
  rfl

/-- A keyword with a name and an unmarked body are one heading. -/
theorem occurrencesFrom_opening {name body : Text} (hn : IsNameToken name) (hs : IsSolid body)
    (hmark : (keywordMark (text "shared")).isIn body = false) {b : Option Char}
    (hb : startsWord b = true) (pos : Nat) (v : Text) :
    occurrencesFrom heading b pos 0 (opening name ++ (body ++ ';' :: v)) =
      ⟨pos, pos + (opening name).length, name⟩ ::
        (occurrences heading v).map
          (.shift (pos + (opening name).length + body.length + 1)) := by
  have hopen : opening name ≠ [] := by simp [opening, text]
  have hblank : (opening name).getLast?.or b = some ' ' := by
    rw [opening, List.getLast?_append, List.getLast?_append]
    rfl
  have hmark : (keywordMark (text "shared")).foundAfter (some ' ') body = false := by
    have hb : startsWord (some ' ') = startsWord none := by decide
    rw [← hmark, Pattern.isIn, foundAfter_congr hb]
  have hbody := fun pos => occurrencesFrom_of_not_foundAfter (v := v) keywordMark_of_heading
    (keywordMark_of_barsMark (c := ';') (by decide) v) hmark pos
  rw [occurrencesFrom_of_match hopen (heading_opening hn (hs.startsSolid_append _) hb), hblank,
    hbody, occurrencesFrom_congr (heading_seam (by decide) v), occurrences,
    ← occurrencesFrom_shift, Nat.add_zero]

theorem run_step_of_isPlain {s : Lex} (hs : s.isCode = true) {c : Char}
    (hc : Lex.isPlain c = true) : s.run [c] = .code :=
  Lex.step_of_isPlain hc hs

/-- A line behind a text that leaves nothing open. -/
theorem run_line {a : Text} (h : leavesNothingOpen a = true) :
    Lex.code.run (attributeLine (some a)) = .code := by
  rw [leavesNothingOpen_eq] at h
  have : attributeLine (some a) = a ++ (['\r'] ++ ['\n']) := rfl
  rw [this, Lex.run_append, Lex.run_append, run_step_of_isPlain h (by decide)]
  rfl

theorem run_opening {name : Text} (hn : IsNameToken name) :
    Lex.code.run (opening name) = .code := by
  have hopen : Lex.code.run (text "shared ") = .code := by decide
  have hclose : (Lex.code.run name).run (text " = ") = .code := by
    have : text " = " = [' '] ++ text "= " := by decide
    rw [this, Lex.run_append, run_step_of_isPlain hn.isCode_run (by decide)]
    decide
  rw [opening, Lex.run_append, hopen, Lex.run_append, hclose]

namespace Writable

variable {name body : Text} {attr : Option Text}

theorem run_attributeLine (h : Writable name body attr) :
    Lex.code.run (attributeLine attr) = .code := by
  cases attr with
  | none => rfl
  | some a => exact run_line (h.attr a rfl).closed

theorem run_declared (h : Writable name body attr) :
    Lex.code.run (declared name body attr) = .code := by
  have hb := h.closed
  rw [leavesNothingOpen_eq] at hb
  rw [declared, Lex.run_append, h.run_attributeLine, Lex.run_append, run_opening h.name,
    Lex.run_append, run_step_of_isPlain hb (by decide)]

/-- The attribute is found in front of the heading. -/
theorem attributeAtEnd?_attributeLine (h : Writable name body attr) :
    attributeAtEnd? (attributeLine attr) = attr.map (⟨0, ·⟩) := by
  cases attr with
  | none => rfl
  | some a =>
    have : attributeLine (some a) = a ++ lineBreak := rfl
    rw [this, attributeAtEnd?_append_of_allBlank a (by decide), (h.attr a rfl).attributeAtEnd?]
    rfl

/-- There is no heading in the line of the attribute. -/
theorem occurrencesFrom_attributeLine (h : Writable name body attr) (t : Text) :
    ∃ b, startsWord b = true ∧ occurrencesFrom heading none 0 0 (attributeLine attr ++ t) =
      occurrencesFrom heading b (attributeLine attr).length 0 t := by
  cases attr with
  | none => exact ⟨none, rfl, rfl⟩
  | some a =>
    refine ⟨some '\n', by decide, ?_⟩
    rw [occurrencesFrom_line (h.attr a rfl).getLast? (h.attr a rfl).unmarked, Nat.zero_add]

/-- **A written declaration has one heading**, whatever follows it. -/
theorem occurrences_append (h : Writable name body attr) (v : Text) :
    occurrences heading (declared name body attr ++ v) =
      ⟨(attributeLine attr).length, (attributeLine attr).length + (opening name).length, name⟩ ::
        (occurrences heading v).map (.shift (declared name body attr).length) := by
  have htext : declared name body attr ++ v =
      attributeLine attr ++ (opening name ++ (body ++ ';' :: v)) := by
    simp [declared]
  obtain ⟨b, hb, hline⟩ := h.occurrencesFrom_attributeLine (opening name ++ (body ++ ';' :: v))
  rw [occurrences, htext, hline, occurrencesFrom_opening h.name h.solid h.unmarked hb,
    length_declared]

theorem unreached (h : Writable name body attr) (v : Text) :
    Unreached heading (declared name body attr) v := by
  intro o ho hlt
  rw [h.occurrences_append] at ho
  rcases List.mem_cons.1 ho with rfl | ho
  · simp only [declared, List.length_append]
    omega
  · obtain ⟨o', -, rfl⟩ := List.mem_map.1 ho
    simp only [Occurrence.shift] at hlt
    omega

theorem headings_declared (h : Writable name body attr) :
    headings (declared name body attr) =
      [⟨(attributeLine attr).length, (attributeLine attr).length + (opening name).length,
        name⟩] := by
  have hocc := h.occurrences_append []
  have hchar : (declared name body attr)[(attributeLine attr).length]? = some 's' := by
    rw [declared, List.getElem?_append_right (Nat.le_refl _), Nat.sub_self]
    rfl
  rw [List.append_nil] at hocc
  rw [headings_eq, Pattern.live, hocc, List.filter_cons_of_pos]
  · rfl
  · rw [isCode_literalSpans hchar (by decide), declared, List.take_left, h.run_attributeLine]
    rfl

/-- A written declaration does not interfere with what follows. -/
theorem isSealed (h : Writable name body attr) : Sealed (declared name body attr) where
  run := h.run_declared
  unreached := h.unreached
  word := by
    rw [getLast?_declared]
    decide
  ending := attributeAtEnd?_eq_none (getLast?_declared name body attr) (by decide) (by decide)

theorem entrances_declared (h : Writable name body attr) :
    entrances (declared name body attr) =
      [⟨⟨(attributeLine attr).length, (attributeLine attr).length + (opening name).length, name⟩,
        attr.map (⟨0, ·⟩)⟩] := by
  rw [entrances, h.headings_declared, entrancesFrom, attributeBefore?_eq, declared,
    List.take_left, h.attributeAtEnd?_attributeLine]
  cases attr <;> rfl

/-- The body ends with the semicolon. -/
theorem bodyStop_declared (h : Writable name body attr) :
    bodyStop (literalSpans (declared name body attr)) (declared name body attr)
      ((attributeLine attr).length + (opening name).length) (declared name body attr).length =
        (declared name body attr).length := by
  have htext : declared name body attr =
      (attributeLine attr ++ (opening name ++ body)) ++ [';'] := by
    simp [declared]
  have hpos : (attributeLine attr).length + (opening name).length + body.length =
      (attributeLine attr ++ (opening name ++ body)).length := by
    simp only [List.length_append]
    omega
  have hbody := h.closed
  rw [leavesNothingOpen_eq] at hbody
  have hcode : isCode (literalSpans (declared name body attr))
      ((attributeLine attr).length + (opening name).length + body.length) = true := by
    rw [htext, hpos, isCode_literalSpans List.getElem?_concat_length (by decide), List.take_left,
      Lex.run_append, h.run_attributeLine, Lex.run_append, run_opening h.name, hbody]
  rw [bodyStop, slice_declared, lastSemicolonFrom_append, lastSemicolonFrom, if_pos ⟨rfl, hcode⟩,
    length_declared]
  rfl

/-- **A written declaration reads back.** -/
theorem declarations_declared (h : Writable name body attr) :
    declarations (declared name body attr) =
      [⟨Name.plain name, body, attr.getD [], 0, (declared name body attr).length⟩] := by
  have hstart : (⟨⟨(attributeLine attr).length,
      (attributeLine attr).length + (opening name).length, name⟩, attr.map (⟨0, ·⟩)⟩ :
        Entrance).start = 0 := by
    cases attr <;> rfl
  rw [declarations_eq, h.entrances_declared]
  simp only [declarationsUpTo, declarationOf, List.head?_nil, Option.map_none, Option.getD_none,
    h.bodyStop_declared, slice_declared, codeOfBody_append h.solid, hstart]
  cases attr <;> rfl

end Writable

end Mashup
end Dataflow
