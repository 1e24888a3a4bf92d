import Dataflow.Proofs.Attribute
import Mathlib.Data.Nat.SuccPred

/-!
# The bracket that a closing bracket pairs with

The walk back from a closing bracket keeps two counts, which may go below zero, and a flag, and it
stops at the first opening bracket at which both counts are zero.  What it finds can be told without
a walk.  Going back from the closing bracket, every quote without a backslash right before it begins
or ends a quoted stretch, so an offset lies outside these stretches when there is an even number of
such quotes from it up to the closing bracket.  An opening bracket outside matches the closing one
when, from the one to the other, what is outside has as many opening as closing brackets of each
kind.  `IsMatch` is this, in counts, and the walk finds the nearest match: `BackState.account` tells
in the same counts what it has in mind at an offset.

Whether a bracket is a match depends on nothing but the text between the two.  The one look to the
left, at what stands before a quote, does not leave it, since it begins with a bracket.  The nearest
match is therefore the same in every document that holds the text, and `openBracketAt?_nearest`
includes that.
-/

set_option autoImplicit false

namespace Dataflow
namespace Mashup

/-! ## Matches -/

/-- The quote at an offset begins or ends a quoted stretch: no backslash stands right before it. -/
def Toggles (t : Text) (i : Nat) : Prop := t[i]? = some '"' ∧ (t.take i).getLast? ≠ some '\\'

instance (t : Text) (i : Nat) : Decidable (Toggles t i) := inferInstanceAs (Decidable (_ ∧ _))

/-- The offsets from `i` up to, and with, `close`. -/
def offsetsTo (close i : Nat) : List Nat := List.range' i (close + 1 - i)

/-- An offset lies outside the quoted stretches that are found going back from `close`. -/
def IsOutside (t : Text) (close i : Nat) : Prop :=
  (offsetsTo close i).countP (fun j => Toggles t j) % 2 = 0

instance (t : Text) (close i : Nat) : Decidable (IsOutside t close i) :=
  inferInstanceAs (Decidable (_ = _))

/-- How often a character stands outside the quoted stretches from `i` up to `close`. -/
def countOutside (t : Text) (close i : Nat) (c : Char) : Nat :=
  (offsetsTo close i).countP fun j => t[j]? = some c ∧ IsOutside t close j

/-- The bracket at one offset opens what the bracket at another one closes. -/
structure IsMatch (t : Text) (close opening : Nat) : Prop where
  /-- It stands before it. -/
  lt : opening < close
  /-- The one is a closing bracket. -/
  closes : t[close]? = some ']'
  /-- The other one is an opening bracket. -/
  opens : t[opening]? = some '['
  /-- It is outside the quoted stretches. -/
  outside : IsOutside t close opening
  /-- From the one to the other, outside these stretches, square brackets are balanced. -/
  brackets : countOutside t close opening '[' = countOutside t close opening ']'
  /-- So are braces. -/
  braces : countOutside t close opening '{' = countOutside t close opening '}'

instance (t : Text) (close opening : Nat) : Decidable (IsMatch t close opening) :=
  decidable_of_iff (opening < close ∧ t[close]? = some ']' ∧ t[opening]? = some '[' ∧
      IsOutside t close opening ∧
      countOutside t close opening '[' = countOutside t close opening ']' ∧
      countOutside t close opening '{' = countOutside t close opening '}')
    ⟨fun ⟨hlt, hcloses, hopens, houtside, hbrackets, hbraces⟩ =>
      ⟨hlt, hcloses, hopens, houtside, hbrackets, hbraces⟩,
    fun h => ⟨h.lt, h.closes, h.opens, h.outside, h.brackets, h.braces⟩⟩

section

variable {t : Text} {close i : Nat}

theorem offsetsTo_succ_self : offsetsTo close (close + 1) = [] := by
  rw [offsetsTo, Nat.sub_self, List.range'_zero]

theorem offsetsTo_eq_cons (h : i ≤ close) : offsetsTo close i = i :: offsetsTo close (i + 1) := by
  have hsize : close + 1 - i = close + 1 - (i + 1) + 1 := by omega
  rw [offsetsTo, hsize, List.range'_succ, offsetsTo]

/-- Going back over an offset changes sides when there is a quote that counts. -/
theorem isOutside_iff (h : i ≤ close) :
    IsOutside t close i ↔ (IsOutside t close (i + 1) ↔ ¬Toggles t i) := by
  rw [IsOutside, IsOutside, offsetsTo_eq_cons h, List.countP_cons]
  by_cases htoggles : Toggles t i
  · simp only [htoggles, decide_true, if_true, not_true_eq_false, iff_false]
    omega
  · simp only [htoggles, decide_false, Bool.false_eq_true, if_false, not_false_eq_true, iff_true]
    omega

theorem countOutside_eq (h : i ≤ close) (c : Char) :
    countOutside t close i c = countOutside t close (i + 1) c +
      if t[i]? = some c ∧ IsOutside t close i then 1 else 0 := by
  rw [countOutside, offsetsTo_eq_cons h, List.countP_cons]
  simp only [decide_eq_true_eq]
  rfl

end

/-! ## The walk -/

namespace BackState

/-- What the walk from `close` has in mind when it has come back over offset `i`. -/
def account (t : Text) (close i : Nat) : BackState where
  brackets := countOutside t close i ']' - countOutside t close i '['
  braces := countOutside t close i '}' - countOutside t close i '{'
  quoted := !decide (IsOutside t close i)

variable {t : Text} {close i : Nat}

theorem account_start : account t close (close + 1) = start := by
  simp [account, countOutside, IsOutside, offsetsTo_succ_self, start]

/-- The flag says on which side of the quotes the walk is. -/
theorem quoted_step_account {c : Char} (hc : t[i]? = some c) (h : i ≤ close) :
    ((account t close (i + 1)).step c (t.take i).getLast?).quoted =
      !decide (IsOutside t close i) := by
  have hescaped : isEscaped (t.take i).getLast? = true ↔ (t.take i).getLast? = some '\\' :=
    beq_iff_eq
  have hside := isOutside_iff (t := t) h
  rw [Toggles, hc, Option.some.injEq, Ne, ← hescaped] at hside
  rw [quoted_step]
  by_cases hquote : c = '"' ∧ ¬isEscaped (t.take i).getLast?
  · have hother : IsOutside t close i ↔ ¬IsOutside t close (i + 1) := by
      rw [hside, iff_false_right (not_not.2 hquote)]
    simp only [if_pos hquote, account, hother, decide_not]
  · have hsame : IsOutside t close i ↔ IsOutside t close (i + 1) := by
      rw [hside, iff_true_right hquote]
    simp only [if_neg hquote, account, hsame]

/-- **One step goes back over one offset.** -/
theorem step_account {c : Char} (hc : t[i]? = some c) (h : i ≤ close) :
    (account t close (i + 1)).step c (t.take i).getLast? = account t close i := by
  have hcount := countOutside_eq (t := t) h
  have hside := quoted_step_account hc h
  simp only [hc, Option.some.injEq] at hcount
  by_cases hout : IsOutside t close i
  · rw [step_eq_of_not_quoted (by rw [hside, decide_eq_true hout, Bool.not_true])]
    simp only [account, hcount, hout, and_true, decide_true, Bool.not_true, mk.injEq,
      Int.natCast_add, apply_ite (Nat.cast : Nat → Int), Int.natCast_one, Int.natCast_zero]
    omega
  · rw [step_eq_of_quoted (by rw [hside, decide_eq_false hout, Bool.not_false])]
    simp only [account, hcount, hout, and_false, if_false, Nat.add_zero, decide_false,
      Bool.not_false]

theorem isBalanced_account : (account t close i).isBalanced = true ↔ IsOutside t close i ∧
    countOutside t close i '[' = countOutside t close i ']' ∧
    countOutside t close i '{' = countOutside t close i '}' := by
  have hzero : ∀ m n : Nat, (n : Int) - m = 0 ↔ m = n := fun m n => by omega
  simp only [isBalanced, account, Bool.not_not, Bool.and_eq_true, decide_eq_true_eq, beq_iff_eq,
    and_assoc, hzero]

end BackState

/-- Where the walk from `close` stops if it comes there. -/
def IsStop (t : Text) (close i : Nat) : Prop :=
  t[i]? = some '[' ∧ (BackState.account t close i).isBalanced = true

/-- **A walk stops at the first place where it may**, on its way back from offset `i`. -/
theorem walkBack_account {t : Text} {close i : Nat} (hclose : close < t.length)
    (hi : i ≤ close + 1) (r : Nat) :
    walkBack (.account t close i) (t.take i).reverse = some r ↔
      IsGreatest {j | j < i ∧ IsStop t close j} r := by
  induction i with
  | zero =>
    constructor
    · intro h
      cases h
    · intro h
      exact absurd h.1.1 (Nat.not_lt_zero r)
  | succ i ih =>
    have hlt : i < t.length := by omega
    have hc : t[i]? = some t[i] := List.getElem?_eq_getElem hlt
    have hsize : (t.take i).reverse.length = i := by
      rw [List.length_reverse, List.length_take_of_le (by omega)]
    have hstep := BackState.step_account hc (Nat.le_of_lt_succ hi)
    have hstop : (t[i] = '[' ∧ (BackState.account t close i).isBalanced = true) ↔
        IsStop t close i := by
      rw [IsStop, hc, Option.some.injEq]
    rw [List.take_succ_eq_append_getElem hlt, List.reverse_append, List.reverse_singleton,
      List.singleton_append, walkBack, List.head?_reverse]
    rw [← hstep] at hstop
    by_cases h : IsStop t close i
    · have hgreatest : IsGreatest {j | j < i + 1 ∧ IsStop t close j} i :=
        ⟨⟨Nat.lt_succ_self i, h⟩, fun j hj => Nat.le_of_lt_succ hj.1⟩
      rw [if_pos (hstop.2 h), hsize, Option.some.injEq]
      constructor
      · rintro rfl
        exact hgreatest
      · exact hgreatest.unique
    · have hsame : {j | j < i + 1 ∧ IsStop t close j} = {j | j < i ∧ IsStop t close j} := by
        ext j
        refine and_congr_left fun hj => ?_
        have : j ≠ i := fun heq => h (heq ▸ hj)
        omega
      rw [if_neg (mt hstop.1 h), hstep, ih (Nat.le_of_succ_le hi), hsame]

theorem isMatch_iff {t : Text} {close r : Nat} (hclose : t[close]? = some ']') :
    IsMatch t close r ↔ r < close + 1 ∧ IsStop t close r := by
  constructor
  · intro h
    exact ⟨Nat.lt_succ_of_lt h.lt, h.opens, BackState.isBalanced_account.2
      ⟨h.outside, h.brackets, h.braces⟩⟩
  · rintro ⟨hle, hopens, hbalanced⟩
    obtain ⟨houtside, hbrackets, hbraces⟩ := BackState.isBalanced_account.1 hbalanced
    have hne : r ≠ close := by
      rintro rfl
      rw [hclose] at hopens
      cases hopens
    exact ⟨by omega, hclose, hopens, houtside, hbrackets, hbraces⟩

/-- **The walk finds the nearest match.** -/
theorem openBracket?_eq_some_iff {t : Text} {close r : Nat} :
    openBracket? t close = some r ↔ IsGreatest {j | IsMatch t close j} r := by
  rw [openBracket?]
  split
  · rename_i hclose
    have hlt : close < t.length := (List.getElem?_eq_some_iff.1 hclose).1
    have hwalk := walkBack_account hlt (Nat.le_refl _) r
    rw [BackState.account_start] at hwalk
    simp only [hwalk, isMatch_iff hclose]
  · rename_i hclose
    constructor
    · intro h
      cases h
    · intro h
      exact absurd h.1.closes hclose

/-- There is a nearest match when there is a match. -/
theorem openBracket?_eq_none_iff {t : Text} {close : Nat} :
    openBracket? t close = none ↔ ∀ r, ¬IsMatch t close r := by
  constructor
  · intro hnone r hmatch
    have hbound : BddAbove {j | IsMatch t close j} := ⟨close, fun j hj => Nat.le_of_lt hj.lt⟩
    obtain ⟨nearest, hnearest⟩ := hbound.exists_isGreatest_of_nonempty ⟨r, hmatch⟩
    rw [openBracket?_eq_some_iff.2 hnearest] at hnone
    cases hnone
  · intro h
    refine Option.eq_none_iff_forall_ne_some.2 fun r hr => ?_
    exact h r (openBracket?_eq_some_iff.1 hr).1

/-- **A match that is found is found wherever the text stands**, since the walk does not go beyond
it. -/
theorem openBracket?_append {t : Text} {close r : Nat} (h : openBracket? t close = some r)
    (u v : Text) : openBracket? (u ++ t ++ v) (u.length + close) = some (u.length + r) := by
  rw [openBracket?] at h
  split at h
  · rename_i hclose
    have hlt : close < t.length := (List.getElem?_eq_some_iff.1 hclose).1
    have hchar : (u ++ t ++ v)[u.length + close]? = some ']' := by
      rw [List.append_assoc, List.getElem?_append_right (Nat.le_add_right _ _),
        Nat.add_sub_cancel_left, List.getElem?_append_left hlt, hclose]
    have htake : (u ++ t ++ v).take (u.length + close + 1) = u ++ t.take (close + 1) := by
      rw [List.append_assoc, Nat.add_assoc, List.take_length_add_append,
        List.take_append_of_le_length hlt]
    rw [openBracket?, if_pos hchar, htake, List.reverse_append, walkBack_append h,
      List.length_reverse, Nat.add_comm]
  · cases h

/-! ## Any number -/

/-- The offsets of the brackets that match the closing bracket at a number, none unless there is a
closing bracket at it. -/
def matchesOf (t : Text) (close : Int) : Set Nat := {r | ∃ k : Nat, close = k ∧ IsMatch t k r}

theorem matchesOf_natCast (t : Text) (k : Nat) : matchesOf t k = {r | IsMatch t k r} := by
  ext r
  constructor
  · rintro ⟨k', hk, h⟩
    rwa [Int.ofNat.inj hk]
  · exact fun h => ⟨k, rfl, h⟩

theorem matchesOf_of_neg (t : Text) {close : Int} (h : close < 0) : matchesOf t close = ∅ := by
  refine Set.eq_empty_iff_forall_notMem.2 ?_
  rintro r ⟨k, rfl, -⟩
  omega

/-- **The walk finds the nearest match, wherever the text stands.**  Begun at any number, be it an
offset or not, it finds the greatest offset that matches, and nothing just when none does.  What it
finds in a text it finds in every document that holds the text. -/
theorem openBracketAt?_nearest (t : Text) (close : Int) :
    (∀ r, openBracketAt? t close = some r ↔ IsGreatest (matchesOf t close) r) ∧
      (openBracketAt? t close = none ↔ matchesOf t close = ∅) ∧
      ∀ r, openBracketAt? t close = some r → ∀ u v,
        openBracketAt? (u ++ t ++ v) (u.length + close) = some (u.length + r) := by
  rcases Int.lt_or_le close 0 with hneg | hpos
  · have hnone : openBracketAt? t close = none := if_pos hneg
    rw [hnone, matchesOf_of_neg t hneg]
    refine ⟨fun r => ⟨nofun, fun h => absurd h.1 (Set.notMem_empty r)⟩, iff_of_true rfl rfl, nofun⟩
  · obtain ⟨k, rfl⟩ := Int.eq_ofNat_of_zero_le hpos
    rw [openBracketAt?_natCast, matchesOf_natCast]
    refine ⟨fun r => openBracket?_eq_some_iff, ?_, fun r h u v => ?_⟩
    · rw [openBracket?_eq_none_iff, Set.eq_empty_iff_forall_notMem]
      rfl
    · rw [← Int.natCast_add, openBracketAt?_natCast]
      exact openBracket?_append h u v

/-- An attribute with brackets and a brace in its strings, and an escaped quote in one of them,
behind a bracket that is never closed. -/
def quotedBrackets : Text := text "[ [a = \"]\", b = \x7b[c = \"\\\"[\x7b\"]\x7d]"

/-- It matches across its strings, also behind a quote and in front of one; the bracket in its first
string has no match. -/
theorem openBracketAt?_nearest_quotedBrackets :
    let t := quotedBrackets
    let u := text "shared A = \"[["
    openBracketAt? t 30 = some 2 ∧ IsGreatest (matchesOf t 30) 2 ∧ matchesOf t 8 = ∅ ∧
      openBracketAt? (u ++ t ++ text "]\"") (u.length + 30) = some (u.length + 2) := by
  intro t u
  obtain ⟨hmatch, -, hanywhere⟩ := openBracketAt?_nearest t 30
  obtain ⟨-, hnone, -⟩ := openBracketAt?_nearest t 8
  have hfound : openBracketAt? t 30 = some 2 := by decide
  exact ⟨hfound, (hmatch 2).1 hfound, hnone.1 (by decide), hanywhere 2 hfound u _⟩

example : IsMatch quotedBrackets 30 2 ∧ ¬IsMatch quotedBrackets 30 0 := by decide

end Mashup
end Dataflow
