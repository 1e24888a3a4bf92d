import Dataflow.Text.Blank

/-!
# Matching brackets backwards

An attribute stands before the thing it belongs to, so it is found from its end: `openBracket?`
walks back from a closing bracket to the opening bracket at which square brackets and braces are
both balanced.  The walk leaves quoted stretches aside.  A quote opens or closes such a stretch
unless a backslash stands right before it.

The walk is a recursion on the text before the closing bracket, reversed, so what is left of the
list is always the text before the current character, and its length the current offset.
-/

set_option autoImplicit false

namespace Dataflow
namespace Mashup

/-- What the walk keeps in mind. -/
structure BackState where
  /-- Closing square brackets seen, less opening ones. -/
  brackets : Int
  /-- Closing braces seen, less opening ones. -/
  braces : Int
  /-- Whether the walk is inside a quoted stretch. -/
  quoted : Bool
deriving DecidableEq

namespace BackState

/-- Nothing was seen yet. -/
def start : BackState := ⟨0, 0, false⟩

/-- Whether a quote with the character `before` in front of it is an escaped one. -/
def isEscaped (before : Option Char) : Bool := before == some '\\'

/-- Pass over the character `c`, which has `before` in front of it. -/
def step (s : BackState) (c : Char) (before : Option Char) : BackState :=
  let quoted := if c = '"' ∧ ¬isEscaped before then !s.quoted else s.quoted
  if quoted then { s with quoted }
  else if c = ']' then { s with quoted, brackets := s.brackets + 1 }
  else if c = '[' then { s with quoted, brackets := s.brackets - 1 }
  else if c = '}' then { s with quoted, braces := s.braces + 1 }
  else if c = '{' then { s with quoted, braces := s.braces - 1 }
  else { s with quoted }

/-- Whether everything seen is balanced and the walk is outside quoted stretches. -/
def isBalanced (s : BackState) : Bool := !s.quoted && s.brackets == 0 && s.braces == 0

end BackState

/-- Walk back over a reversed text to the first opening bracket at which all is balanced, and
return its offset. -/
def walkBack (s : BackState) : (reversed : Text) → Option Nat
  | [] => none
  | c :: before =>
    let next := s.step c before.head?
    if c = '[' ∧ next.isBalanced then some before.length else walkBack next before

/-- What the walk returns is an offset inside the text. -/
theorem lt_of_walkBack {s : BackState} {reversed : Text} {k : Nat}
    (h : walkBack s reversed = some k) : k < reversed.length := by
  induction reversed generalizing s with
  | nil => simp [walkBack] at h
  | cons c before ih =>
    rw [walkBack] at h
    split at h
    · cases h; simp
    · exact Nat.lt_succ_of_lt (ih h)

/-- The offset of the bracket that opens what the closing bracket at offset `close` closes. -/
def openBracket? (t : Text) (close : Nat) : Option Nat :=
  if t[close]? = some ']' then walkBack .start (t.take (close + 1)).reverse else none

/-- The same for an offset that may be negative, where there is no bracket. -/
def openBracketAt? (t : Text) (close : Int) : Option Nat :=
  if close < 0 then none else openBracket? t close.toNat

theorem openBracketAt?_natCast (t : Text) (close : Nat) :
    openBracketAt? t close = openBracket? t close := by
  rw [openBracketAt?, if_neg (Int.not_lt.2 (Int.natCast_nonneg close)), Int.toNat_natCast]

/-! ## Skipping blanks backwards -/

/-- The offset of the last character before `index` that is not blank.  When there is none the
answer is the offset before the text, or before `index` if that is smaller. -/
def lastSolidBefore (t : Text) (index : Int) : Int :=
  if index ≤ 0 then index - 1 else (Text.stripEnd (t.take index.toNat)).length - 1

end Mashup
end Dataflow
