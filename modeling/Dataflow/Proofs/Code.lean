import Dataflow.Proofs.Lexing

/-!
# The characters that are code

`codeOf` cuts the literals and comments out of a document by their offsets.  `Lex.kept` gives the
same characters by reading once from left to right, so that what is left of two pieces can be told
from the pieces and the state between them.

That a slash is code depends on the character behind it.  For characters that neither open nor end
anything, such as brackets, all that counts is the state, and `Lex.filter_kept_append` needs no
condition at the seam.  This is why brackets are counted piece by piece, and slashes are not.
-/

set_option autoImplicit false

namespace Dataflow
namespace Mashup

namespace Lex

/-- The characters of a text that do not belong to literals and comments. -/
def kept : Lex → Text → Text
  | _, [] => []
  | s, c :: rest =>
    if s.marks c rest.head? then kept (s.step c) rest else c :: kept (s.step c) rest

end Lex

/-! ## Cutting out and keeping -/

theorem marked_tail {spans : List Span} {pos : Nat} {b : Bool} {marks : List Bool}
    (h : Marked spans pos (b :: marks)) : Marked spans (pos + 1) marks := by
  intro i
  rw [Nat.add_assoc, Nat.add_comm 1, h (i + 1), List.getElem?_cons_succ]

/-- A span that begins at an offset may as well begin behind it, as far as later offsets go. -/
theorem marked_trim {s : Span} {spans : List Span} {pos : Nat} {marks : List Bool}
    (h : Marked (s :: spans) pos marks) (hs : s.start < pos) :
    Marked (⟨pos, s.stop⟩ :: spans) pos marks := by
  intro i
  rw [← h i, holds_cons, holds_cons]
  have hbound : pos ≤ pos + i := Nat.le_add_right pos i
  constructor
  · rintro (⟨-, hi⟩ | hi)
    · exact .inl ⟨by omega, hi⟩
    · exact .inr hi
  · rintro (⟨-, hi⟩ | hi)
    · exact .inl ⟨hbound, hi⟩
    · exact .inr hi

/-- A span that ends where a text begins has no influence on it. -/
theorem marked_drop {s : Span} {spans : List Span} {pos : Nat} {marks : List Bool}
    (h : Marked (s :: spans) pos marks) (hs : s.stop ≤ pos) : Marked spans pos marks := by
  intro i
  rw [← h i, holds_cons]
  refine (or_iff_right fun hi => ?_).symm
  omega

/-- Spans that begin at an offset or behind it, with something in each, and one behind the other. -/
def LieFrom : (pos : Nat) → List Span → Prop
  | _, [] => True
  | pos, x :: rest => pos ≤ x.start ∧ x.start < x.stop ∧ LieFrom x.stop rest

theorem lieFrom_of_pairwise {spans : List Span} {pos : Nat}
    (hfrom : ∀ x ∈ spans, pos ≤ x.start ∧ x.start < x.stop)
    (hpair : spans.Pairwise fun a b => a.stop ≤ b.start) : LieFrom pos spans := by
  induction spans generalizing pos with
  | nil => trivial
  | cons x spans ih =>
    obtain ⟨⟨hle, hlt⟩, hlater⟩ := List.forall_mem_cons.1 hfrom
    obtain ⟨hx, hspans⟩ := List.pairwise_cons.1 hpair
    exact ⟨hle, hlt, ih (fun y hy => ⟨hx y hy, (hlater y hy).2⟩) hspans⟩

theorem LieFrom.not_holds {spans : List Span} {pos i : Nat} (h : LieFrom pos spans) (hi : i < pos) :
    ¬Holds spans i := by
  induction spans generalizing pos with
  | nil =>
    rintro ⟨x, hx, -⟩
    cases hx
  | cons x spans ih =>
    obtain ⟨hle, hlt, hlater⟩ := h
    rw [holds_cons, not_or]
    exact ⟨by omega, ih hlater (by omega)⟩

section

variable {pos : Nat} {c : Char} {rest : Text} {x : Span} {spans : List Span}

theorem cutOut_nil (pos : Nat) (spans : List Span) : cutOut pos [] spans = [] := by
  induction spans generalizing pos with
  | nil => rfl
  | cons x spans ih => simp [cutOut, ih]

/-- A character before all spans stays. -/
theorem cutOut_before (hpos : pos < x.start) (hstop : x.start < x.stop) :
    cutOut pos (c :: rest) (x :: spans) = c :: cutOut (pos + 1) rest (x :: spans) := by
  have htake : x.start - pos = x.start - (pos + 1) + 1 := by omega
  have hdrop : x.stop - pos = x.stop - (pos + 1) + 1 := by omega
  simp [cutOut, htake, hdrop]

/-- The only character of a span is cut out with the span. -/
theorem cutOut_last (hpos : pos = x.start) (hstop : x.stop = pos + 1) :
    cutOut pos (c :: rest) (x :: spans) = cutOut (pos + 1) rest spans := by
  simp [cutOut, ← hpos, hstop]

/-- The first character of a longer span is cut out, and what is left of the span with it. -/
theorem cutOut_inside (hpos : pos = x.start) (hstop : pos + 1 < x.stop) :
    cutOut pos (c :: rest) (x :: spans) = cutOut (pos + 1) rest (⟨pos + 1, x.stop⟩ :: spans) := by
  have hsize : x.stop - pos = x.stop - (pos + 1) + 1 := by omega
  simp [cutOut, ← hpos, hsize]

end

/-- Spans that hold what the automaton marks are cut out by keeping the rest. -/
theorem cutOut_eq {spans : List Span} {pos : Nat} {s : Lex} {t : Text}
    (hmarked : Marked spans pos (s.marksOf t)) (h : LieFrom pos spans) :
    cutOut pos t spans = s.kept t := by
  induction t generalizing spans pos s with
  | nil => exact cutOut_nil pos spans
  | cons c rest ih =>
    rw [Lex.marksOf] at hmarked
    have hfirst : Holds spans pos ↔ s.marks c rest.head? = true := by simpa using hmarked 0
    have htail := marked_tail hmarked
    rw [Lex.kept]
    cases spans with
    | nil =>
      have hnone : LieFrom (pos + 1) [] := trivial
      have hcode := mt hfirst.2 (hnone.not_holds (Nat.lt_succ_self pos))
      rw [if_neg hcode, ← ih htail hnone]
      rfl
    | cons x spans =>
      obtain ⟨hle, hlt, hlater⟩ := h
      by_cases hpos : pos = x.start
      · have hheld := hfirst.1 (holds_cons.2 (.inl ⟨by omega, by omega⟩))
        rw [if_pos hheld]
        by_cases hstop : x.stop = pos + 1
        · rw [cutOut_last hpos hstop]
          exact ih (marked_drop htail (Nat.le_of_eq hstop)) (hstop ▸ hlater)
        · have hinside : pos + 1 < x.stop := by omega
          rw [cutOut_inside hpos hinside]
          exact ih (marked_trim htail (by omega)) ⟨Nat.le_refl _, hinside, hlater⟩
      · have hbefore : LieFrom (pos + 1) (x :: spans) := ⟨by omega, hlt, hlater⟩
        have hcode := mt hfirst.2 (hbefore.not_holds (Nat.lt_succ_self pos))
        rw [if_neg hcode, cutOut_before (by omega) hlt, ih htail hbefore]

/-- **What is cut out is what the automaton marks.** -/
theorem codeOf_eq (t : Text) : codeOf t = Lex.code.kept t :=
  cutOut_eq (marked_spansFrom (m := .code) (.inl rfl) (Nat.le_refl 0)) (lieFrom_of_pairwise
    (fun x hx => ⟨Nat.zero_le _, (mem_spansFrom (m := .code) trivial x hx).2⟩)
    (spansFrom_pairwise (m := .code) trivial))

/-! ## Plain characters -/

namespace Lex

theorem kept_sublist (s : Lex) (t : Text) : (s.kept t).Sublist t := by
  induction t generalizing s with
  | nil => exact .slnil
  | cons c t ih =>
    rw [kept]
    split
    · exact (ih _).cons c
    · exact (ih _).cons_cons c

section

variable {p : Char → Bool} (hp : ∀ c, p c = true → isPlain c = true)
include hp

/-- A plain character is kept where it is read in code. -/
theorem filter_kept_cons (s : Lex) (c : Char) (t : Text) :
    (s.kept (c :: t)).filter p =
      (if p c && s.isCode then [c] else []) ++ ((s.step c).kept t).filter p := by
  rw [kept]
  cases hc : p c with
  | false => split <;> simp [hc]
  | true =>
    rw [marks_of_isPlain (hp c hc)]
    cases s.isCode <;> simp [hc]

/-- **Plain characters in two pieces.** -/
theorem filter_kept_append (s : Lex) (t u : Text) :
    (s.kept (t ++ u)).filter p = (s.kept t).filter p ++ ((s.run t).kept u).filter p := by
  induction t generalizing s with
  | nil => rfl
  | cons c t ih =>
    rw [List.cons_append, filter_kept_cons hp, filter_kept_cons hp, ih, List.append_assoc]
    rfl

end

end Lex

theorem countInCode_eq (t : Text) (c : Char) :
    countInCode t c = ((Lex.code.kept t).filter (· == c)).length := by
  rw [countInCode, codeOf_eq, List.count_eq_length_filter]

theorem isPlain_of_beq {c x : Char} (hc : Lex.isPlain c = true) (h : (x == c) = true) :
    Lex.isPlain x = true := by
  rw [eq_of_beq h, hc]

/-- **A plain character is counted piece by piece** where code goes on. -/
theorem countInCode_append {c : Char} (hc : Lex.isPlain c = true) {t : Text}
    (ht : Lex.code.run t = .code) (u : Text) :
    countInCode (t ++ u) c = countInCode t c + countInCode u c := by
  have hplain := fun x => isPlain_of_beq hc (x := x)
  rw [countInCode_eq, countInCode_eq, countInCode_eq, Lex.filter_kept_append hplain, ht,
    List.length_append]

/-- So is it where a plain character follows a text that leaves nothing open. -/
theorem countInCode_append_cons {c : Char} (hc : Lex.isPlain c = true) {t : Text}
    (ht : leavesNothingOpen t = true) {d : Char} (hd : Lex.isPlain d = true) (u : Text) :
    countInCode (t ++ d :: u) c = countInCode t c + countInCode (d :: u) c := by
  have hplain := fun x => isPlain_of_beq hc (x := x)
  rw [leavesNothingOpen_eq] at ht
  rw [countInCode_eq, countInCode_eq, countInCode_eq, Lex.filter_kept_append hplain,
    Lex.filter_kept_cons hplain, Lex.filter_kept_cons hplain (s := .code), ht,
    Lex.step_of_isPlain hd ht, Lex.step_of_isPlain hd rfl, List.length_append]
  rfl

end Mashup
end Dataflow
