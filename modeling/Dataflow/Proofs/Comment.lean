import Dataflow.Proofs.Code
import Dataflow.Proofs.Pairing
import Mathlib.Data.Nat.Find

/-!
# Walking back over comments

The walk that looks for an opening bracket knows no comments: what stands in one counts for it.
This does no harm as long as the comment pairs its own quotes, brackets and braces, since the walk
then leaves the comment as it came to it and is never nearer to a balance in between.  Such a
comment is one step, over nothing.

Outside of comments the walk reads what the automaton reads, with one exception: a quote right
behind a backslash is none for the walk.  Where there is no such quote, what the walk has in mind at
an offset is its `tally` there, which is taken of the brackets and braces in code alone.
-/

set_option autoImplicit false

namespace Dataflow
namespace Mashup

/-! ## Stretches that are paired -/

section

variable {t : Text} {close first last i : Nat}

theorem offsetsTo_append (hi : i ≤ last + 1) (hlast : last ≤ close) :
    offsetsTo close i = offsetsTo last i ++ offsetsTo close (last + 1) := by
  have hsize : close + 1 - i = (last + 1 - i) + (close + 1 - (last + 1)) := by omega
  have hnext : i + (last + 1 - i) = last + 1 := by omega
  rw [offsetsTo, hsize, ← List.range'_append_1, hnext, offsetsTo, offsetsTo]

/-- Come back over a stretch from outside of quotes, the walk is outside of them just when the
quotes of the stretch say so. -/
theorem isOutside_iff_of_isOutside (hi : i ≤ last + 1) (hlast : last ≤ close)
    (hout : IsOutside t close (last + 1)) : IsOutside t close i ↔ IsOutside t last i := by
  rw [IsOutside] at hout
  rw [IsOutside, IsOutside, offsetsTo_append hi hlast, List.countP_append]
  omega

/-- What stands outside of quotes is counted stretch by stretch. -/
theorem countOutside_append (hi : i ≤ last + 1) (hlast : last ≤ close)
    (hout : IsOutside t close (last + 1)) (c : Char) :
    countOutside t close i c = countOutside t last i c + countOutside t close (last + 1) c := by
  rw [countOutside, offsetsTo_append hi hlast, List.countP_append]
  congr 1
  refine List.countP_congr fun j hj => ?_
  have hj : j ≤ last := by
    rw [offsetsTo, List.mem_range'_1] at hj
    omega
  rw [decide_eq_true_iff, decide_eq_true_iff,
    isOutside_iff_of_isOutside (Nat.le_succ_of_le hj) hlast hout]

theorem isOutside_of_account (h : (BackState.account t close i).quoted = false) :
    IsOutside t close i := by
  simpa [BackState.account] using h

/-- The quotes, brackets and braces of a stretch belong together: there is an even number of quotes
that no backslash stands before, and outside of these quotes there is a closing bracket or brace to
every opening one, for square brackets behind it. -/
structure IsPaired (t : Text) (first last : Nat) : Prop where
  /-- The quotes are paired. -/
  outside : IsOutside t last first
  /-- Square brackets are balanced. -/
  brackets : countOutside t last first '[' = countOutside t last first ']'
  /-- So are braces. -/
  braces : countOutside t last first '{' = countOutside t last first '}'
  /-- No square bracket is opened that is not closed behind. -/
  nested : ∀ i ≤ last, first ≤ i → countOutside t last i '[' ≤ countOutside t last i ']'

instance : Decidable (IsPaired t first last) :=
  decidable_of_iff (IsOutside t last first ∧
      countOutside t last first '[' = countOutside t last first ']' ∧
      countOutside t last first '{' = countOutside t last first '}' ∧
      ∀ i ≤ last, first ≤ i → countOutside t last i '[' ≤ countOutside t last i ']')
    ⟨fun ⟨houtside, hbrackets, hbraces, hnested⟩ => ⟨houtside, hbrackets, hbraces, hnested⟩,
      fun h => ⟨h.outside, h.brackets, h.braces, h.nested⟩⟩

namespace IsPaired

variable (h : IsPaired t first last) (hlast : last ≤ close)
  (hout : (BackState.account t close (last + 1)).quoted = false)

include h hlast hout

/-- **The walk leaves a paired stretch as it came to it.** -/
theorem account_eq (hfirst : first ≤ last) :
    BackState.account t close first = BackState.account t close (last + 1) := by
  have hout' := isOutside_of_account hout
  have hle := Nat.le_succ_of_le hfirst
  have hcount := countOutside_append (t := t) hle hlast hout'
  have hside := isOutside_iff_of_isOutside (t := t) hle hlast hout'
  have hbrackets := h.brackets
  have hbraces := h.braces
  simp only [BackState.account, hcount, hside, h.outside, hout', BackState.mk.injEq]
  refine ⟨?_, ?_, trivial⟩ <;> omega

/-- In a paired stretch the walk does not stop if brackets are open behind it. -/
theorem not_isBalanced (hopen : 0 < (BackState.account t close (last + 1)).brackets)
    (hi : i ≤ last) (hfirst : first ≤ i) : (BackState.account t close i).isBalanced = false := by
  have hout' := isOutside_of_account hout
  have hcount := countOutside_append (t := t) (Nat.le_succ_of_le hi) hlast hout'
  have hnested := h.nested i hi hfirst
  have hclosing := hcount ']'
  have hopening := hcount '['
  simp only [BackState.account] at hopen
  rw [Bool.eq_false_iff]
  intro hbalanced
  have heq := (BackState.isBalanced_account.1 hbalanced).2.1
  omega

end IsPaired

end

/-! ## Brackets in code -/

/-- The brackets of which the walk keeps count. -/
def isBracket (c : Char) : Bool := c == '[' || c == ']' || c == '{' || c == '}'

theorem isPlain_of_isBracket (c : Char) (h : isBracket c = true) : Lex.isPlain c = true := by
  simp only [isBracket, Bool.or_eq_true, beq_iff_eq] at h
  rcases h with ((rfl | rfl) | rfl) | rfl <;> rfl

/-- Two brackets that belong together. -/
def IsPair (opening closing : Char) : Prop :=
  (opening = '[' ∧ closing = ']') ∨ (opening = '{' ∧ closing = '}')

theorem isPair_square : IsPair '[' ']' := .inl ⟨rfl, rfl⟩

theorem isPair_brace : IsPair '{' '}' := .inr ⟨rfl, rfl⟩

/-- Closing brackets of a kind, less opening ones. -/
def surplus (opening closing : Char) (t : Text) : Int := t.count closing - t.count opening

theorem surplus_append (opening closing : Char) (t u : Text) :
    surplus opening closing (t ++ u) = surplus opening closing t + surplus opening closing u := by
  simp only [surplus, List.count_append]
  omega

/-- A character that is no bracket does not count. -/
theorem surplus_eq_zero {c : Char} (h : isBracket c = false) {opening closing : Char}
    (hp : IsPair opening closing) : surplus opening closing [c] = 0 := by
  simp only [isBracket, Bool.or_eq_false_iff, beq_eq_false_iff_ne] at h
  rcases hp with ⟨rfl, rfl⟩ | ⟨rfl, rfl⟩ <;> simp [surplus, h]

namespace Lex

/-- The brackets in code that a text has when it is read from a state. -/
def brackets (s : Lex) (t : Text) : Text := (s.kept t).filter isBracket

theorem brackets_cons (s : Lex) (c : Char) (t : Text) :
    s.brackets (c :: t) = (if isBracket c && s.isCode then [c] else []) ++ (s.step c).brackets t :=
  filter_kept_cons isPlain_of_isBracket s c t

theorem brackets_append (s : Lex) (t u : Text) :
    s.brackets (t ++ u) = s.brackets t ++ (s.run t).brackets u :=
  filter_kept_append isPlain_of_isBracket s t u

end Lex

/-! ## Comments -/

namespace Lex

/-- Whether a state is one inside of a comment. -/
def isComment : Lex → Bool
  | line | block | star => true
  | code | slash | string | quote => false

theorem isComment_of_isCode {s : Lex} (h : s.isCode = true) : s.isComment = false := by
  cases s <;> first | rfl | cases h

theorem isCode_of_isComment {s : Lex} (h : s.isComment = true) : s.isCode = false := by
  cases s <;> first | rfl | cases h

theorem ne_string_of_isComment {s : Lex} (h : s.isComment = true) : s ≠ string := by
  rintro rfl
  cases h

/-- A character that neither opens nor ends anything leaves no literal and no comment. -/
theorem isCode_of_isCode_step {s : Lex} {c : Char} (hc : isPlain c = true)
    (h : (s.step c).isCode = true) : s.isCode = true := by
  simp only [isPlain, Bool.and_eq_true, bne_iff_ne] at hc
  cases s <;> simp_all [step, isCode]

/-- No string begins in a comment. -/
theorem step_ne_string_of_isComment {s : Lex} (h : s.isComment = true) (c : Char) :
    s.step c ≠ string := by
  cases s <;> simp only [step] <;> (repeat' split) <;> simp_all [isComment]

/-- Only a quote leads into a string. -/
theorem step_eq_string_iff {s : Lex} {c : Char} (hc : c ≠ '"') :
    s.step c = string ↔ s = string := by
  cases s <;> simp only [step, hc, if_false] <;> (repeat' split) <;> simp

end Lex

/-- The state in which the automaton reaches an offset. -/
def Lex.upTo (t : Text) (i : Nat) : Lex := code.run (t.take i)

theorem Lex.upTo_succ {t : Text} {i : Nat} {c : Char} (hc : t[i]? = some c) :
    Lex.upTo t (i + 1) = (Lex.upTo t i).step c := by
  obtain ⟨hlt, rfl⟩ := List.getElem?_eq_some_iff.1 hc
  rw [upTo, List.take_succ_eq_append_getElem hlt, run_append]
  rfl

/-- The characters from offset `first` up to, and with, `last` are those of a comment behind the
two that open it: they are read inside of one, and their neighbours are not. -/
structure IsComment (t : Text) (first last : Nat) : Prop where
  /-- There is such a character. -/
  le : first ≤ last
  /-- No comment goes on in front. -/
  begins : (Lex.upTo t (first - 1)).isComment = false
  /-- None goes on behind. -/
  ends : (Lex.upTo t (last + 1)).isComment = false
  /-- All are read in a comment. -/
  inside : ∀ i ≤ last, first ≤ i → (Lex.upTo t i).isComment = true

instance (t : Text) (first last : Nat) : Decidable (IsComment t first last) :=
  decidable_of_iff (first ≤ last ∧ (Lex.upTo t (first - 1)).isComment = false ∧
      (Lex.upTo t (last + 1)).isComment = false ∧
      ∀ i ≤ last, first ≤ i → (Lex.upTo t i).isComment = true)
    ⟨fun ⟨hle, hbegins, hends, hinside⟩ => ⟨hle, hbegins, hends, hinside⟩,
      fun h => ⟨h.le, h.begins, h.ends, h.inside⟩⟩

/-- In a text that leaves nothing open, what is read in a comment belongs to one. -/
theorem exists_isComment {t : Text} {i : Nat} (hclosed : leavesNothingOpen t = true)
    (hi : i ≤ t.length) (h : (Lex.upTo t i).isComment = true) :
    ∃ first last, IsComment t first last ∧ first ≤ i ∧ i ≤ last := by
  have hstart : (Lex.upTo t 0).isComment = false := rfl
  have hstop : (Lex.upTo t t.length).isComment = false := by
    rw [leavesNothingOpen_eq] at hclosed
    rw [Lex.upTo, List.take_length]
    exact Lex.isComment_of_isCode hclosed
  have hbehind : ∃ j, i ≤ j ∧ (Lex.upTo t (j + 1)).isComment = false := by
    obtain ⟨n, hn⟩ := Nat.exists_eq_add_of_lt (Nat.lt_of_le_of_ne hi fun heq => by simp_all)
    exact ⟨i + n, Nat.le_add_right i n, hn ▸ hstop⟩
  -- the offsets nearest to this one at which no comment is read
  let before := Nat.findGreatest (fun j => (Lex.upTo t j).isComment = false) i
  have hbefore : (Lex.upTo t before).isComment = false :=
    Nat.findGreatest_spec (P := fun j => (Lex.upTo t j).isComment = false) (Nat.zero_le i) hstart
  have hlt : before < i := by
    refine Nat.lt_of_le_of_ne (Nat.findGreatest_le i) fun heq => ?_
    rw [heq, h] at hbefore
    cases hbefore
  obtain ⟨hle, hends⟩ := Nat.find_spec hbehind
  refine ⟨before + 1, Nat.find hbehind, ⟨by omega, hbefore, hends, fun j hj hfirst => ?_⟩, hlt, hle⟩
  rcases Nat.lt_or_ge i j with hgt | hge
  · have hmin := Nat.find_min hbehind (m := j - 1) (by omega)
    rw [Nat.sub_add_cancel (by omega)] at hmin
    simpa using fun hcomment => hmin ⟨by omega, hcomment⟩
  · simpa using Nat.findGreatest_is_greatest hfirst hge

namespace IsComment

variable {t : Text} {first last : Nat}

theorem isComment_first (h : IsComment t first last) : (Lex.upTo t first).isComment = true :=
  h.inside first h.le (Nat.le_refl first)

theorem lt_length (h : IsComment t first last) : last < t.length := by
  by_contra hge
  have hsame : Lex.upTo t (last + 1) = Lex.upTo t last := by
    rw [Lex.upTo, Lex.upTo, List.take_of_length_le (by omega), List.take_of_length_le (by omega)]
  have hends := h.ends
  rw [hsame, h.inside last (Nat.le_refl last) h.le] at hends
  cases hends

/-- Nothing of a comment is code. -/
theorem brackets_eq (h : IsComment t first last) :
    (Lex.upTo t first).brackets (t.drop first) =
      (Lex.upTo t (last + 1)).brackets (t.drop (last + 1)) := by
  have hstep : ∀ n, first + n ≤ last + 1 → (Lex.upTo t first).brackets (t.drop first) =
      (Lex.upTo t (first + n)).brackets (t.drop (first + n)) := by
    intro n
    induction n with
    | zero => exact fun _ => rfl
    | succ n ih =>
      intro hn
      have hlt := h.lt_length
      have hinside := h.inside (first + n) (by omega) (by omega)
      rw [ih (by omega), List.drop_eq_getElem_cons (by omega), Lex.brackets_cons,
        Lex.isCode_of_isComment hinside, Bool.and_false, ← Nat.add_assoc,
        Lex.upTo_succ (List.getElem?_eq_getElem (by omega))]
      rfl
  have hle := h.le
  have hlast := hstep (last + 1 - first) (by omega)
  rwa [show first + (last + 1 - first) = last + 1 by omega] at hlast

theorem ne_string (h : IsComment t first last) : Lex.upTo t (last + 1) ≠ .string := by
  rw [Lex.upTo_succ (List.getElem?_eq_getElem h.lt_length)]
  exact Lex.step_ne_string_of_isComment (h.inside last (Nat.le_refl last) h.le) _

end IsComment

/-! ## What the walk has in mind -/

/-- A quote outside of comments stands at an offset. -/
def IsQuote (t : Text) (i : Nat) : Prop := t[i]? = some '"' ∧ (Lex.upTo t i).isComment = false

instance (t : Text) (i : Nat) : Decidable (IsQuote t i) := inferInstanceAs (Decidable (_ ∧ _))

/-- All comments of a text are paired. -/
def PairsComments (t : Text) : Prop := ∀ first last, IsComment t first last → IsPaired t first last

instance (t : Text) : Decidable (PairsComments t) :=
  decidable_of_iff (∀ last < t.length, (Lex.upTo t last).isComment = true →
      ∀ first ≤ last, IsComment t first last → IsPaired t first last)
    ⟨fun h first last hc =>
        h last hc.lt_length (hc.inside last (Nat.le_refl last) hc.le) first hc.le hc,
      fun h last _ _ first _ => h first last⟩

namespace BackState

theorem step_quote (s : BackState) {before : Option Char} (h : isEscaped before = false) :
    s.step '"' before = { s with quoted := !s.quoted } := by
  obtain ⟨brackets, braces, quoted⟩ := s
  cases quoted <;> simp [step, h]

theorem step_of_quoted {s : BackState} (h : s.quoted = true) {c : Char} (hc : c ≠ '"')
    (before : Option Char) : s.step c before = s := by
  rw [step_eq_of_quoted ((s.quoted_step_of_ne_quote hc before).trans h), ← h]

theorem step_of_not_quoted {s : BackState} (h : s.quoted = false) {c : Char} (hc : c ≠ '"')
    (before : Option Char) :
    s.step c before =
      ⟨s.brackets + surplus '[' ']' [c], s.braces + surplus '{' '}' [c], false⟩ := by
  have hcount : ∀ d, ([c].count d : Int) = if c = d then 1 else 0 := fun d => by
    simp only [List.count_singleton, beq_iff_eq]
    split <;> rfl
  rw [step_eq_of_not_quoted ((s.quoted_step_of_ne_quote hc before).trans h)]
  simp only [surplus, hcount, Int.add_sub_assoc]

/-- What a walk would have in mind at an offset that saw nothing but code. -/
def tally (t : Text) (i : Nat) : BackState where
  brackets := surplus '[' ']' ((Lex.upTo t i).brackets (t.drop i))
  braces := surplus '{' '}' ((Lex.upTo t i).brackets (t.drop i))
  quoted := Lex.upTo t i == .string

variable {t : Text} {i : Nat}

/-- **Outside of comments a step of the walk is one of its tally**, unless it is at a quote with a
backslash before it. -/
theorem step_tally {c : Char} (hc : t[i]? = some c) (hs : (Lex.upTo t i).isComment = false)
    (hquote : c = '"' → (t.take i).getLast? ≠ some '\\') :
    (tally t (i + 1)).step c (t.take i).getLast? = tally t i := by
  have hdrop : t.drop i = c :: t.drop (i + 1) := by
    obtain ⟨hlt, rfl⟩ := List.getElem?_eq_some_iff.1 hc
    exact List.drop_eq_getElem_cons hlt
  have hnext := Lex.upTo_succ hc
  simp only [tally, hdrop, Lex.brackets_cons, surplus_append, hnext]
  generalize Lex.upTo t i = s at hs
  by_cases hmark : c = '"'
  · subst hmark
    have hescaped : isEscaped (t.take i).getLast? = false := beq_false_of_ne (hquote rfl)
    have hturn : (!(s.step '"' == .string)) = (s == .string) := by
      cases s <;> first | rfl | cases hs
    rw [step_quote _ hescaped]
    simp [hturn, isBracket, surplus]
  · by_cases hstring : s = .string
    · subst hstring
      have hstay : Lex.string.step c = .string := if_neg hmark
      rw [hstay, step_of_quoted rfl hmark]
      simp [Lex.isCode, surplus]
    · have hout : (s.step c == .string) = false :=
        beq_false_of_ne (mt (Lex.step_eq_string_iff hmark).1 hstring)
      have hkept : (isBracket c && s.isCode) = isBracket c := by
        cases hb : isBracket c with
        | false => rfl
        | true => cases s <;> simp_all [Lex.isCode, Lex.isComment]
      rw [step_of_not_quoted hout hmark, hkept, beq_false_of_ne hstring]
      cases hb : isBracket c with
      | false =>
        simp [surplus_eq_zero hb isPair_square, surplus_eq_zero hb isPair_brace]
        simp [surplus]
      | true => simp [Int.add_comm]

/-- The tally goes over a comment as if it were not there. -/
theorem tally_eq_of_isComment {first last : Nat} (h : IsComment t first last) :
    tally t first = tally t (last + 1) := by
  have hfirst := beq_false_of_ne (Lex.ne_string_of_isComment h.isComment_first)
  rw [tally, tally, h.brackets_eq, hfirst, beq_false_of_ne h.ne_string]

/-- **Outside of comments the walk has in mind what its tally says**, where the comments are paired
and no backslash stands before a quote. -/
theorem account_eq_tally (hclosed : leavesNothingOpen t = true) (hpaired : PairsComments t)
    (hquotes : ∀ j, IsQuote t j → (t.take j).getLast? ≠ some '\\') (hi : i ≤ t.length)
    (hs : (Lex.upTo t i).isComment = false) : account t (t.length - 1) i = tally t i := by
  -- the walk comes from behind, and a comment is one step of it
  induction hn : t.length - i using Nat.strong_induction_on generalizing i with
  | _ n ih =>
    rcases Nat.lt_or_eq_of_le hi with hlt | rfl
    · have hc : t[i]? = some t[i] := List.getElem?_eq_getElem hlt
      have hnext : account t (t.length - 1) (i + 1) = tally t (i + 1) := by
        cases hcomment : (Lex.upTo t (i + 1)).isComment with
        | false => exact ih _ (by omega) hlt hcomment rfl
        | true =>
          obtain ⟨first, last, h, hfirst, hlast⟩ := exists_isComment hclosed hlt hcomment
          have hbegins : first = i + 1 := by
            refine Nat.le_antisymm hfirst (Nat.lt_of_not_le fun hle => ?_)
            rw [h.inside i (by omega) hle] at hs
            cases hs
          subst hbegins
          have hend := h.lt_length
          have hback := ih _ (by omega) hend h.ends rfl
          have hout : (account t (t.length - 1) (last + 1)).quoted = false := by
            rw [hback]
            exact beq_false_of_ne h.ne_string
          rw [(hpaired _ _ h).account_eq (by omega) hout h.le, hback, tally_eq_of_isComment h]
      rw [← step_account hc (by omega), hnext]
      exact step_tally hc hs fun hquote => hquotes i ⟨by rw [hc, hquote], hs⟩
    · have hnil : tally t t.length = start := by
        have hout : (Lex.upTo t t.length == .string) = false := by
          refine beq_false_of_ne fun hstring => ?_
          rw [leavesNothingOpen_eq] at hclosed
          rw [Lex.upTo, List.take_length] at hstring
          rw [hstring] at hclosed
          cases hclosed
        rw [tally, hout, List.drop_length]
        rfl
      cases t with
      | nil => rfl
      | cons c t => rw [hnil, List.length_cons, Nat.add_sub_cancel, account_start]

end BackState

end Mashup
end Dataflow
