import Dataflow.Proofs.Code

/-!
# Three readers of literals agree

The literals and comments of a document are known in three forms.  They are listed as spans by a
reader that looks ahead and jumps; an offset is looked up in that list by halving; and characters
are counted in what is left when the spans are cut out.  None of the three says directly which
characters it means.  The automaton `Lex` does: it takes one character at a time and marks it or
not, and `readersAgree` says that all three follow its marks.

An offset is marked when a span holds it, so the spans say no more and no less than the marks, and
all else follows from that.  A span has a last offset, which is marked and therefore one of the
document.  What is cut out is what is marked, so the count runs over the offsets without a mark.
-/

set_option autoImplicit false

namespace Dataflow
namespace Mashup

/-! ## Offsets with a mark, and without -/

namespace Lex

/-- The character at an offset of a document belongs to a literal or comment. -/
def IsMarked (t : Text) (i : Nat) : Prop := (code.marksOf t)[i]? = some true

instance (t : Text) (i : Nat) : Decidable (IsMarked t i) :=
  inferInstanceAs (Decidable ((code.marksOf t)[i]? = some true))

/-- How often a character stands at an offset without a mark. -/
def countUnmarked (t : Text) (c : Char) : Nat :=
  (List.range t.length).countP fun i => t[i]? = some c ∧ ¬IsMarked t i

theorem length_marksOf (s : Lex) (t : Text) : (s.marksOf t).length = t.length := by
  induction t generalizing s with
  | nil => rfl
  | cons c rest ih => rw [marksOf, List.length_cons, List.length_cons, ih]

/-- Only offsets of the document are marked. -/
theorem IsMarked.lt_length {t : Text} {i : Nat} (h : IsMarked t i) : i < t.length :=
  length_marksOf code t ▸ (List.getElem?_eq_some_iff.1 h).1

/-- **Counting what is kept is counting the offsets without a mark.** -/
theorem count_kept (s : Lex) (t : Text) (c : Char) : (s.kept t).count c =
    (List.range t.length).countP fun i => t[i]? = some c ∧ ¬(s.marksOf t)[i]? = some true := by
  induction t generalizing s with
  | nil => rfl
  | cons d rest ih =>
    -- the first offset, and those of the rest, which are one less there
    rw [List.length_cons, List.range_succ_eq_map, List.countP_cons, List.countP_map, kept, marksOf]
    have hrest := ih (s.step d)
    simp only [Function.comp_def, List.getElem?_cons_succ, List.getElem?_cons_zero,
      Nat.succ_eq_add_one, Option.some.injEq, Bool.not_eq_true] at hrest ⊢
    rw [← hrest]
    cases s.marks d rest.head? with
    | true => simp
    | false => simp [List.count_cons, beq_iff_eq]

end Lex

/-! ## The spans of a document -/

theorem start_lt_stop {t : Text} {s : Span} (h : s ∈ literalSpans t) : s.start < s.stop :=
  (mem_spansFrom (m := .code) trivial s h).2

theorem pairwise_literalSpans (t : Text) :
    (literalSpans t).Pairwise fun a b => a.stop ≤ b.start := spansFrom_pairwise (m := .code) trivial

/-- **The spans hold the offsets with a mark.** -/
theorem holds_literalSpans_iff {t : Text} {i : Nat} :
    Holds (literalSpans t) i ↔ Lex.IsMarked t i := by
  rw [Lex.IsMarked, ← covers_literalSpans]
  exact (covers_iff (pairwise_literalSpans t) (fun _ => start_lt_stop) i).symm

/-- A span ends within the document, because its last offset is marked. -/
theorem stop_le_length {t : Text} {s : Span} (h : s ∈ literalSpans t) : s.stop ≤ t.length := by
  have hlt := start_lt_stop h
  have hlast : Holds (literalSpans t) (s.stop - 1) := ⟨s, h, by omega, by omega⟩
  have hmarked := (holds_literalSpans_iff.1 hlast).lt_length
  omega

/-- No span holds a negative number. -/
theorem nonneg_of_covers {spans : List Span} {i : Int} (h : covers spans i = true) : 0 ≤ i := by
  rw [covers] at h
  split at h
  · cases h
  · split at h
    · rename_i s _
      rw [Bool.and_eq_true, decide_eq_true_eq] at h
      exact Int.le_trans (Int.natCast_nonneg s.start) h.1
    · cases h

/-- **The look-up is right about every number**, be it an offset or not. -/
theorem covers_iff_isMarked (t : Text) (i : Int) :
    covers (literalSpans t) i = true ↔ ∃ n : Nat, i = n ∧ Lex.IsMarked t n := by
  constructor
  · intro h
    obtain ⟨n, rfl⟩ := Int.eq_ofNat_of_zero_le (nonneg_of_covers h)
    exact ⟨n, rfl, (covers_literalSpans t n).1 h⟩
  · rintro ⟨n, rfl, h⟩
    exact (covers_literalSpans t n).2 h

/-! ## All three -/

/-- What is said of the literals and comments of a document is what the automaton marks. -/
structure ReadersAgree (t : Text) : Prop where
  /-- Each span holds something and ends within the document. -/
  bounds : ∀ s ∈ literalSpans t, s.start < s.stop ∧ s.stop ≤ t.length
  /-- The spans are in order, and no two of them overlap. -/
  ordered : (literalSpans t).Pairwise fun a b => a.start < b.start ∧ a.stop ≤ b.start
  /-- The look-up finds the offsets with a mark, and nothing else. -/
  covered : ∀ i : Int, covers (literalSpans t) i = true ↔ ∃ n : Nat, i = n ∧ Lex.IsMarked t n
  /-- Each character is counted at the offsets without a mark. -/
  counted : ∀ c, countInCode t c = Lex.countUnmarked t c

/-- **The spans, the look-up and the count say what the automaton marks.** -/
theorem readersAgree (t : Text) : ReadersAgree t where
  bounds _ hs := ⟨start_lt_stop hs, stop_le_length hs⟩
  ordered := (pairwise_literalSpans t).imp_of_mem fun ha _ hle =>
    ⟨Nat.lt_of_lt_of_le (start_lt_stop ha) hle, hle⟩
  covered := covers_iff_isMarked t
  counted c := by
    rw [countInCode, codeOf_eq, Lex.count_kept]
    rfl

/-- A doubled quote goes on with the literal, the star of an opening is not that of an end, and what
is left open runs to the end. -/
example :
    literalSpans (text "\"a\"\"b\"/*/\"*///c\n/\"") = [⟨0, 6⟩, ⟨6, 12⟩, ⟨12, 15⟩, ⟨17, 18⟩] := by
  decide

end Mashup
end Dataflow
