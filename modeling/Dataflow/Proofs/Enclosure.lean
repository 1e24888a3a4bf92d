import Dataflow.Proofs.Comment
import Dataflow.Proofs.Heading

/-!
# Attributes that close where they end

What an attribute is can be told in two ways.  Read forwards, with the literals and comments cut
out, its first bracket is closed by its last character; that is `IsEnclosed`, in terms of the stack
of closing brackets that are awaited.  A declaration is read backwards, and there the walk from the
last character has to stop at the first.  From the second character on, an enclosed attribute closes
more square brackets than it opens, so the walk does not stop too early, and at the first character
all is balanced.
-/

set_option autoImplicit false

namespace Dataflow
namespace Mashup

/-! ## Nesting -/

/-- Take a bracket when closing brackets are awaited, the next one first.  Only that one may be
closed. -/
def takeBracket? (awaited : Text) (c : Char) : Option Text :=
  if c = '[' then some (']' :: awaited)
  else if c = '{' then some ('}' :: awaited)
  else if awaited.head? = some c then some awaited.tail
  else none

/-- The closing brackets that are awaited behind some brackets, if these are properly nested. -/
def awaited? (awaited brackets : Text) : Option Text := brackets.foldlM takeBracket? awaited

/-- The square brackets and braces of a text outside its literals and comments. -/
def bracketsOf (t : Text) : Text := (codeOf t).filter isBracket

/-- An attribute whose first bracket is closed by its last character, and that leaves nothing open
and looks like no heading and no staging marker. -/
structure IsEnclosed (a : Text) : Prop where
  /-- It begins with a bracket. -/
  head : a.head? = some '['
  /-- It ends with one. -/
  last : a.getLast? = some ']'
  /-- The brackets between these two are properly nested. -/
  nested : ∃ inner, bracketsOf a = '[' :: (inner ++ [']']) ∧ awaited? [] inner = some []
  /-- It leaves no literal or comment open. -/
  closed : leavesNothingOpen a = true
  /-- It is no staging marker. -/
  isStaging : Attribute.isStaging a = false
  /-- There is no heading in it. -/
  unmarked : (keywordMark (text "shared")).isIn a = false

theorem count_takeBracket {opening closing : Char} (hp : IsPair opening closing)
    {awaited left : Text} {c : Char} (h : takeBracket? awaited c = some left) :
    left.count closing + [c].count closing = awaited.count closing + [c].count opening := by
  rw [takeBracket?] at h
  split at h
  · rename_i hc
    cases h
    rcases hp with ⟨rfl, rfl⟩ | ⟨rfl, rfl⟩ <;> simp [hc]
  · split at h
    · rename_i hc
      cases h
      rcases hp with ⟨rfl, rfl⟩ | ⟨rfl, rfl⟩ <;> simp [hc]
    · rename_i hsquare hbrace
      split at h
      · rename_i hhead
        obtain ⟨rest, rfl⟩ := List.head?_eq_some_iff.1 hhead
        cases h
        have hopen : c ≠ opening := by
          rcases hp with ⟨rfl, -⟩ | ⟨rfl, -⟩ <;> assumption
        have hnone : [c].count opening = 0 := by simp [hopen]
        have hcount : (c :: rest).count closing = [c].count closing + rest.count closing := by
          rw [← List.singleton_append, List.count_append]
        rw [hnone, hcount, List.tail_cons]
        omega
      · cases h

/-- What is awaited is what was opened and not closed. -/
theorem count_awaited {opening closing : Char} (hp : IsPair opening closing)
    {awaited t left : Text} (h : awaited? awaited t = some left) :
    left.count closing + t.count closing = awaited.count closing + t.count opening := by
  induction t generalizing awaited with
  | nil =>
    cases h
    rfl
  | cons c t ih =>
    rw [awaited?, List.foldlM_cons] at h
    obtain ⟨middle, hfirst, hrest⟩ := Option.bind_eq_some_iff.1 h
    have hstep := count_takeBracket hp hfirst
    have hrun := ih hrest
    rw [← List.singleton_append, List.count_append, List.count_append]
    omega

theorem exists_awaited_of_append {awaited t u left : Text}
    (h : awaited? awaited (t ++ u) = some left) : ∃ middle, awaited? awaited t = some middle := by
  rw [awaited?, List.foldlM_append] at h
  obtain ⟨middle, hmiddle, -⟩ := Option.bind_eq_some_iff.1 h
  exact ⟨middle, hmiddle⟩

namespace IsEnclosed

variable {a : Text}

/-- What is opened is closed. -/
theorem count_eq (h : IsEnclosed a) {opening closing : Char} (hp : IsPair opening closing) :
    (bracketsOf a).count closing = (bracketsOf a).count opening := by
  obtain ⟨inner, hinner, hnested⟩ := h.nested
  have := count_awaited hp hnested
  rw [hinner, ← List.singleton_append, List.count_append, List.count_append, List.count_append,
    List.count_append]
  rcases hp with ⟨rfl, rfl⟩ | ⟨rfl, rfl⟩ <;> simp at this ⊢ <;> omega

/-- The first bracket is not closed before the last one. -/
theorem count_lt (h : IsEnclosed a) {front back : Text} (hsplit : bracketsOf a = front ++ back)
    (hfront : front ≠ []) (hback : back ≠ []) : front.count ']' < front.count '[' := by
  obtain ⟨inner, hinner, hnested⟩ := h.nested
  obtain ⟨back, c, rfl⟩ := List.eq_nil_or_concat back |>.resolve_left hback
  obtain ⟨d, front, rfl⟩ := List.exists_cons_of_ne_nil hfront
  rw [hinner, List.concat_eq_append, List.cons_append, List.cons.injEq,
    ← List.append_assoc] at hsplit
  obtain ⟨rfl, htail⟩ := hsplit
  obtain ⟨rfl, -⟩ := List.append_inj' htail rfl
  obtain ⟨middle, hmiddle⟩ := exists_awaited_of_append hnested
  have := count_awaited isPair_square hmiddle
  simp only [List.count_nil, List.count_cons] at this ⊢
  simp
  omega

end IsEnclosed

/-! ## Enclosed attributes -/

namespace IsEnclosed

variable {a : Text}

theorem ne_nil (h : IsEnclosed a) : a ≠ [] := by
  rintro rfl
  cases h.head

theorem brackets_eq (a : Text) : bracketsOf a = Lex.code.brackets a := by
  rw [bracketsOf, codeOf_eq, Lex.brackets]

/-- The last character is code. -/
theorem isCode_last (h : IsEnclosed a) : (Lex.upTo a (a.length - 1)).isCode = true := by
  have hclosed := h.closed
  obtain ⟨v, rfl⟩ := List.getLast?_eq_some_iff.1 h.last
  rw [leavesNothingOpen_eq, Lex.run_append] at hclosed
  rw [List.length_append, List.length_singleton, Nat.add_sub_cancel, Lex.upTo, List.take_left]
  exact Lex.isCode_of_isCode_step (by decide) hclosed

/-- Behind the first character more brackets are closed than opened. -/
theorem surplus_pos (h : IsEnclosed a) {i : Nat} (hi : 0 < i) (hlt : i < a.length) :
    0 < surplus '[' ']' ((Lex.upTo a i).brackets (a.drop i)) := by
  have hall : bracketsOf a =
      Lex.code.brackets (a.take i) ++ (Lex.upTo a i).brackets (a.drop i) := by
    rw [brackets_eq, Lex.upTo, ← Lex.brackets_append, List.take_append_drop]
  have hfirst : Lex.code.brackets (a.take i) ≠ [] := by
    obtain ⟨v, rfl⟩ := List.head?_eq_some_iff.1 h.head
    obtain ⟨i, rfl⟩ := Nat.exists_eq_succ_of_ne_zero (Nat.ne_of_gt hi)
    rw [List.take_succ_cons, Lex.brackets_cons]
    simp [isBracket, Lex.isCode]
  have hsecond : (Lex.upTo a i).brackets (a.drop i) ≠ [] := by
    have hcode := h.isCode_last
    obtain ⟨v, rfl⟩ := List.getLast?_eq_some_iff.1 h.last
    rw [List.length_append, List.length_singleton] at hlt hcode
    rw [Nat.add_sub_cancel] at hcode
    have hle : i ≤ v.length := Nat.le_of_lt_succ hlt
    have hrun : (Lex.upTo (v ++ [']']) i).run (v.drop i) = Lex.upTo (v ++ [']']) v.length := by
      rw [Lex.upTo, Lex.upTo, ← Lex.run_append, List.take_append_of_le_length hle,
        List.take_append_drop, List.take_left]
    rw [List.drop_append_of_le_length hle, Lex.brackets_append, hrun, Lex.brackets_cons, hcode]
    simp [isBracket]
  have hless := h.count_lt hall hfirst hsecond
  have htotal := h.count_eq isPair_square
  rw [hall, List.count_append, List.count_append] at htotal
  rw [surplus]
  omega

section

variable (h : IsEnclosed a) (hpaired : PairsComments a)
  (hquotes : ∀ i, IsQuote a i → (a.take i).getLast? ≠ some '\\')

include h hpaired hquotes

theorem account_eq {i : Nat} (hi : i ≤ a.length) (hs : (Lex.upTo a i).isComment = false) :
    BackState.account a (a.length - 1) i = BackState.tally a i :=
  BackState.account_eq_tally h.closed hpaired hquotes hi hs

/-- At the first character of an enclosed attribute all is balanced. -/
theorem isBalanced_first : (BackState.account a (a.length - 1) 0).isBalanced = true := by
  have hsquare := h.count_eq isPair_square
  have hbrace := h.count_eq isPair_brace
  rw [brackets_eq] at hsquare hbrace
  rw [h.account_eq hpaired hquotes (Nat.zero_le _) rfl, BackState.tally]
  simp [BackState.isBalanced, Lex.upTo, surplus, hsquare, hbrace]

/-- Behind it, brackets are open, also where a comment is gone over. -/
theorem not_isBalanced {i : Nat} (hi : 0 < i) (hlt : i < a.length) :
    (BackState.account a (a.length - 1) i).isBalanced = false := by
  cases hs : (Lex.upTo a i).isComment with
  | false =>
    have hopen := h.surplus_pos hi hlt
    rw [h.account_eq hpaired hquotes (Nat.le_of_lt hlt) hs, BackState.tally, BackState.isBalanced]
    simp [Int.ne_of_gt hopen]
  | true =>
    obtain ⟨first, last, hc, hfirst, hle⟩ := exists_isComment h.closed (Nat.le_of_lt hlt) hs
    have hend := hc.lt_length
    have hbehind := h.account_eq hpaired hquotes hend hc.ends
    refine (hpaired _ _ hc).not_isBalanced (by omega) ?_ ?_ hle hfirst
    · rw [hbehind]
      exact beq_false_of_ne hc.ne_string
    · rw [hbehind]
      refine h.surplus_pos (Nat.succ_pos last) (Nat.lt_of_le_of_ne hend fun heq => ?_)
      -- the last character is code, so no comment ends there
      have hcode := h.isCode_last
      rw [← heq, Nat.succ_sub_one] at hcode
      have hinside := Lex.isCode_of_isComment (hc.inside last (Nat.le_refl last) hc.le)
      rw [hcode] at hinside
      cases hinside

/-- **The walk stops at the first character of an enclosed attribute**, and not before. -/
theorem openBracket?_eq : openBracket? a (a.length - 1) = some 0 := by
  have hpos := List.length_pos_iff.2 h.ne_nil
  have hhead : a[0]? = some '[' := by rw [← List.head?_eq_getElem?, h.head]
  have hlast : a[a.length - 1]? = some ']' := by rw [← List.getLast?_eq_getElem?, h.last]
  rw [openBracket?_eq_some_iff]
  refine ⟨(isMatch_iff hlast).2 ⟨Nat.zero_lt_succ _, hhead, h.isBalanced_first hpaired hquotes⟩,
    fun j hj => Nat.le_of_not_lt fun hlt => ?_⟩
  obtain ⟨hle, -, hbalanced⟩ := (isMatch_iff hlast).1 hj
  rw [h.not_isBalanced hpaired hquotes hlt (by omega)] at hbalanced
  cases hbalanced

end

end IsEnclosed

end Mashup
end Dataflow
