import Dataflow.Proofs.Written

/-!
# The semicolon at the end of a declaration

`declare` glues its semicolon to the expression.  Whatever the expression leaves open takes the
semicolon with it, and then the text behind it as well.  A string literal or block comment that is
open stays open, so an expression with one of these is past help; `closesLiterals` rules it out.  A
line comment is another matter: it ends with its line.  The long form of an expression puts a line
break behind the code and so ends such a comment; an expression that is a `let` block already is
written as it is.

So a declaration ends where it should just when its `let` block does not end with a line comment,
which is `isTerminated_declare_iff`.  What is put behind it is then read as if it stood alone, and
otherwise lost up to the end of the line.
-/

set_option autoImplicit false

namespace Dataflow
namespace Mashup

namespace Lex

/-- Whether a string literal or block comment is open. -/
def hangs : Lex → Bool
  | string | block | star => true
  | code | slash | quote | line => false

/-- All that can be open apart from these is a line comment. -/
theorem eq_line_of_hangs {s : Lex} (h : s.hangs = false) (hs : s.isCode = false) : s = line := by
  cases s with
  | line => rfl
  | code | slash | quote => cases hs
  | string | block | star => cases h

/-- A line break ends it. -/
theorem step_newline {s : Lex} (h : s.hangs = false) : s.step '\n' = code := by
  cases s with
  | code | slash | quote | line => rfl
  | string | block | star => cases h

theorem isCode_step_newline (s : Lex) : (s.step '\n').isCode = !s.hangs := by
  cases s <;> rfl

theorem hangs_step_of_isBlank {c : Char} (h : isBlank c = true) (s : Lex) :
    (s.step c).hangs = s.hangs := by
  have hquote : c ≠ '"' := by
    rintro rfl
    exact absurd h (by decide)
  have hslash : c ≠ '/' := by
    rintro rfl
    exact absurd h (by decide)
  have hstar : c ≠ '*' := by
    rintro rfl
    exact absurd h (by decide)
  cases s with
  | code | slash | quote | string | block | star => simp [step, hangs, hquote, hslash, hstar]
  | line =>
    rw [step]
    split <;> rfl

/-- Blanks open no literal and close none. -/
theorem hangs_run_of_allBlank {ws : Text} (h : Text.allBlank ws = true) (s : Lex) :
    (s.run ws).hangs = s.hangs := by
  induction ws generalizing s with
  | nil => rfl
  | cons c ws ih =>
    rw [Text.allBlank, List.all_cons, Bool.and_eq_true] at h
    rw [run_cons, ih h.2, hangs_step_of_isBlank h.1]

/-- A line comment goes on to the end of its line. -/
theorem run_line_of_not_mem {t : Text} (h : '\n' ∉ t) : line.run t = line := by
  induction t with
  | nil => rfl
  | cons c t ih =>
    rw [List.mem_cons, not_or] at h
    rw [run_cons, step, if_neg (Ne.symm h.1), ih h.2]

end Lex

/-! ## Text behind other text -/

/-- The reader goes on behind a text in the state in which it has left it. -/
theorem covers_append_right (u v : Text) (i : Nat) :
    covers (literalSpans (u ++ v)) (u.length + i : Nat) = true ↔
      ((Lex.code.run u).marksOf v)[i]? = some true := by
  have hchar : ∀ j, (u ++ v)[u.length + j]? = v[j]? := fun j => by
    rw [List.getElem?_append_right (Nat.le_add_right _ _), Nat.add_sub_cancel_left]
  rw [covers_literalSpans, Lex.getElem?_marksOf, Lex.getElem?_marksOf, hchar, Nat.add_assoc, hchar,
    List.take_length_add_append, Lex.run_append]

/-- Behind a text that ends in code everything is read as if it stood alone. -/
theorem isCode_append_of_run {u : Text} (h : Lex.code.run u = .code) (v : Text) (i : Nat) :
    isCode (literalSpans (u ++ v)) (u.length + i) = isCode (literalSpans v) i := by
  have happend := covers_append_right u v i
  rw [h, ← covers_literalSpans] at happend
  rw [isCode, isCode, Bool.eq_iff_iff.2 happend]

/-- Behind an open line comment everything is lost up to the end of the line. -/
theorem isCode_append_of_run_line {u v : Text} (h : Lex.code.run u = .line) (hv : '\n' ∉ v)
    {i : Nat} (hi : i < v.length) : isCode (literalSpans (u ++ v)) (u.length + i) = false := by
  have hmark : (Lex.line.marksOf v)[i]? = some true := by
    have hchar : v[i] ≠ '\n' := fun hc => hv (hc ▸ List.getElem_mem hi)
    have htake : '\n' ∉ v.take i := fun hmem => hv (List.mem_of_mem_take hmem)
    rw [Lex.getElem?_marksOf, List.getElem?_eq_getElem hi, Lex.run_line_of_not_mem htake]
    simp [Lex.marks, hchar]
  rw [isCode, (covers_append_right u v i).2 (h ▸ hmark)]
  rfl

/-! ## Texts that close their literals -/

/-- Whether each string literal and block comment that a text opens is closed in it.  A line
comment ends with its line, so on the next line only these can still be open. -/
def closesLiterals (t : Text) : Bool := leavesNothingOpen (t ++ ['\n'])

theorem closesLiterals_eq (t : Text) : closesLiterals t = !(Lex.code.run t).hangs := by
  rw [closesLiterals, leavesNothingOpen_eq, Lex.run_append]
  exact Lex.isCode_step_newline _

/-- The blanks around a text do not count. -/
theorem closesLiterals_strip (t : Text) : closesLiterals (Text.strip t) = closesLiterals t := by
  have hfront := List.takeWhile_append_dropWhile (p := isBlank) (l := t)
  have hlead : Text.allBlank (t.takeWhile isBlank) = true :=
    List.all_eq_true.2 (fun _ => List.mem_takeWhile_imp)
  obtain ⟨tail, hsplit, htail⟩ := dropEndWhile_append_exists isBlank (t.dropWhile isBlank)
  have hrun : (Lex.code.run t).hangs = (Lex.code.run (t.dropWhile isBlank)).hangs := by
    conv => lhs; rw [← hfront]
    rw [Lex.run_append, run_code_of_allBlank hlead]
  rw [closesLiterals_eq, closesLiterals_eq, hrun]
  conv => rhs; rw [hsplit]
  rw [Lex.run_append, Lex.hangs_run_of_allBlank (List.all_eq_true.2 htail)]
  rfl

/-! ## The end of a declaration -/

/-- Whether a text ends with a semicolon outside of literals and comments. -/
def isTerminated (t : Text) : Bool :=
  t.getLast? == some ';' && isCode (literalSpans t) (t.length - 1)

theorem isTerminated_concat (u : Text) : isTerminated (u ++ [';']) = leavesNothingOpen u := by
  rw [isTerminated, List.getLast?_concat, List.length_append, leavesNothingOpen]
  rfl

/-- A name that is not in quoted form is written so that it leaves nothing open. -/
theorem run_opening_written {name : Text} (h : Text.hasPrefix name ['#', '"'] = false) :
    Lex.code.run (opening (Name.written name)) = .code := by
  by_cases hname : name = []
  · -- the empty name is written `#""`, which no reader takes for a name
    subst hname
    decide
  · exact run_opening (Name.isNameToken_written hname h)

/-- Behind the expression nothing is open but, for a `let` block, a line comment. -/
theorem run_letBlock {code : Text} (h : closesLiterals code = true) :
    (Lex.code.run (letBlock code)).hangs = false ∧
      ((Lex.code.run (letBlock code)).isCode = true ↔
        (isLetBlock (Text.strip code) = true → leavesNothingOpen (Text.strip code) = true)) := by
  have hhangs : (Lex.code.run (Text.strip code)).hangs = false := by
    rwa [← closesLiterals_strip, closesLiterals_eq, Bool.not_eq_true'] at h
  by_cases hlet : isLetBlock (Text.strip code) = true
  · rw [letBlock_of_isLetBlock hlet, leavesNothingOpen_eq]
    exact ⟨hhangs, fun hs _ => hs, fun hs => hs hlet⟩
  · have hrun : Lex.code.run (letBlock code) = .code := by
      have hbefore : Lex.code.run (text "let\n Source = ") = .code := by decide
      have hafter : text "\n in Source" = '\n' :: text " in Source" := by decide
      rw [letBlock, if_neg hlet, Lex.run_append, Lex.run_append, hbefore, hafter, Lex.run_cons,
        Lex.step_newline hhangs]
      decide
    rw [hrun]
    exact ⟨rfl, fun _ hs => absurd hs hlet, fun _ => rfl⟩

/-- **A declaration ends where it should just when** its `let` block does not end with a line
comment. -/
theorem isTerminated_declare_iff {name code : Text}
    (hname : Text.hasPrefix name ['#', '"'] = false) (hclosed : closesLiterals code = true) :
    (isTerminated (declare name code none) = true ↔
      (isLetBlock (Text.strip code) = true → leavesNothingOpen (Text.strip code) = true)) ∧
    (isTerminated (declare name code none) = true → ∀ v i,
      isCode (literalSpans (declare name code none ++ v)) ((declare name code none).length + i) =
        isCode (literalSpans v) i) ∧
    (isTerminated (declare name code none) = false → ∀ v, '\n' ∉ v → ∀ i, i < v.length →
      isCode (literalSpans (declare name code none ++ v)) ((declare name code none).length + i) =
        false) := by
  obtain ⟨hhangs, hiff⟩ := run_letBlock hclosed
  have hrun : Lex.code.run (opening (Name.written name) ++ letBlock code) =
      Lex.code.run (letBlock code) := by
    rw [Lex.run_append, run_opening_written hname]
  have htext : declare name code none =
      opening (Name.written name) ++ letBlock code ++ [';'] := by
    rw [declare_eq, declared]
    simp [attributeLine, Attribute.given?]
  rw [htext, isTerminated_concat, leavesNothingOpen_eq, hrun]
  refine ⟨hiff, fun hcode v i => ?_, fun hcode v hv i hi => ?_⟩
  · refine isCode_append_of_run ?_ v i
    rw [Lex.run_append, hrun]
    exact run_step_of_isPlain hcode (by decide)
  · refine isCode_append_of_run_line ?_ hv hi
    rw [Lex.run_append, hrun, Lex.eq_line_of_hangs hhangs hcode]
    rfl

/-- An expression with a string literal, comments of both kinds and a division. -/
def annotatedCode : Text :=
  text "let // the rate\n rate = 1 / 3 /* one; third */, note = \"a \"\"b\"\";\" in rate"

theorem isTerminated_declare_iff_annotatedCode :
    (Text.hasPrefix (text "Sales // 2024") ['#', '"'] = false ∧
      closesLiterals annotatedCode = true) ∧
    (isTerminated (declare (text "Sales // 2024") annotatedCode none) = true ↔
      (isLetBlock (Text.strip annotatedCode) = true →
        leavesNothingOpen (Text.strip annotatedCode) = true)) ∧
    isTerminated (declare (text "Sales // 2024") annotatedCode none) = true := by
  have hname : Text.hasPrefix (text "Sales // 2024") ['#', '"'] = false := by decide
  have hclosed : closesLiterals annotatedCode = true := by decide +kernel
  have h := isTerminated_declare_iff hname hclosed
  exact ⟨⟨hname, hclosed⟩, h.1, h.1.2 fun _ => by decide +kernel⟩

/-- A `let` block that ends with a line comment takes the semicolon into the comment. -/
theorem not_isTerminated_declare_trailingComment :
    Text.hasPrefix (text "A") ['#', '"'] = false ∧
      closesLiterals (text "let x = 1 in x // one") = true ∧
      (declare (text "A") (text "let x = 1 in x // one") none).getLast? = some ';' ∧
      isCode (literalSpans (declare (text "A") (text "let x = 1 in x // one") none))
        ((declare (text "A") (text "let x = 1 in x // one") none).length - 1) = false := by
  decide +kernel

end Mashup
end Dataflow
