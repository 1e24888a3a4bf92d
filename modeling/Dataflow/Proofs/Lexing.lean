import Dataflow.Mashup.Literal

/-!
# Reading a document one character at a time

`literalSpans` looks two characters ahead and jumps.  That is the right way to list the stretches
of a document, and the wrong way to reason about a document that is put together from pieces: a
piece does not know what comes behind it.  `Lex` is the same reader as a finite automaton that
takes one character at a time, so that reading two pieces is `Lex.run_append` and nothing else.

## What is here

* `Lex`, `Lex.step`, `Lex.run` — the automaton; `Lex.marksOf`, the characters it finds inside
  literals and comments.
* `covers_literalSpans` — **the two readers agree**: the offsets that the look-up in
  `literalSpans` holds are those that the automaton marks.  Its two halves are
  `marked_spansFrom`, by recursion along the reader that jumps, and `covers_iff`, which is the
  correctness of the look-up by halving.
* `isCode_literalSpans` — for a character that can neither open nor close anything, all that
  counts is the state in which the automaton reaches it.
* `leavesNothingOpen` — a text behind which code goes on.
-/

set_option autoImplicit false

namespace Dataflow
namespace Mashup

/-! ## The automaton -/

/-- What is known of a document after some of its characters. -/
inductive Lex where
  /-- Outside literals and comments. -/
  | code
  /-- Behind a slash in code, which may turn out to open a comment. -/
  | slash
  /-- Inside a string literal. -/
  | string
  /-- Behind a quote in a string literal, which ends it unless another one follows. -/
  | quote
  /-- Inside a line comment. -/
  | line
  /-- Inside a block comment. -/
  | block
  /-- Behind a star in a block comment. -/
  | star
deriving DecidableEq

namespace Lex

/-- Take one character. -/
def step : Lex → Char → Lex
  | code, c => if c = '"' then string else if c = '/' then slash else code
  | slash, c =>
    if c = '"' then string else if c = '/' then line else if c = '*' then block else code
  | quote, c => if c = '"' then string else if c = '/' then slash else code
  | string, c => if c = '"' then quote else string
  | line, c => if c = '\n' then code else line
  | block, c => if c = '*' then star else block
  | star, c => if c = '/' then code else if c = '*' then star else block

/-- Take the characters of a text. -/
def run (s : Lex) (t : Text) : Lex := t.foldl step s

@[simp] theorem run_nil (s : Lex) : s.run [] = s := rfl

@[simp] theorem run_cons (s : Lex) (c : Char) (t : Text) : s.run (c :: t) = (s.step c).run t := rfl

@[simp] theorem run_append (s : Lex) (t u : Text) : s.run (t ++ u) = (s.run t).run u :=
  List.foldl_append

/-- Whether the next character, if it opens nothing, is code. -/
def isCode : Lex → Bool
  | code | slash | quote => true
  | string | line | block | star => false

/-- Whether a character opens a literal or comment where it stands in code. -/
def opens (c : Char) (next : Option Char) : Bool :=
  c == '"' || (c == '/' && (next == some '/' || next == some '*'))

/-- Whether a character, read in a state, belongs to a literal or comment. -/
def marks : Lex → Char → Option Char → Bool
  | code, c, next | quote, c, next => opens c next
  | slash, c, next => c == '/' || c == '*' || opens c next
  | line, c, _ => c != '\n'
  | string, _, _ | block, _, _ | star, _, _ => true

/-- Which characters of a text belong to literals and comments. -/
def marksOf : Lex → Text → List Bool
  | _, [] => []
  | s, c :: rest => s.marks c rest.head? :: marksOf (s.step c) rest

theorem getElem?_marksOf (s : Lex) (t : Text) (i : Nat) :
    (s.marksOf t)[i]? = t[i]?.map fun c => (s.run (t.take i)).marks c t[i + 1]? := by
  induction t generalizing s i with
  | nil => simp [marksOf]
  | cons c rest ih =>
    cases i with
    | zero => simp [marksOf, List.head?_eq_getElem?]
    | succ i => simpa [marksOf] using ih (s.step c) i

/-- Whether a character neither opens nor ends anything, wherever it stands. -/
def isPlain (c : Char) : Bool := c != '"' && c != '/' && c != '*' && c != '\n'

theorem marks_of_isPlain {c : Char} (h : isPlain c = true) (s : Lex) (next : Option Char) :
    s.marks c next = !s.isCode := by
  simp only [isPlain, Bool.and_eq_true, bne_iff_ne] at h
  cases s <;> simp [marks, opens, isCode, h]

theorem step_of_isPlain {c : Char} (h : isPlain c = true) {s : Lex} (hs : s.isCode = true) :
    s.step c = code := by
  simp only [isPlain, Bool.and_eq_true, bne_iff_ne] at h
  cases s <;> simp_all [step, isCode]

/-- A plain character makes every state outside of literals the same. -/
theorem run_cons_of_isPlain {c : Char} (h : isPlain c = true) {s : Lex} (hs : s.isCode = true)
    (t : Text) : s.run (c :: t) = code.run (c :: t) := by
  rw [run_cons, run_cons, step_of_isPlain h hs, step_of_isPlain h rfl]

/-- So what stands before such a character in code may be left out. -/
theorem run_eq_run_drop {t : Text} {i : Nat} {c : Char} (hc : t[i]? = some c)
    (h : isPlain c = true) (hcode : (code.run (t.take i)).isCode = true) :
    code.run t = code.run (t.drop i) := by
  obtain ⟨hlt, rfl⟩ := List.getElem?_eq_some_iff.1 hc
  conv => lhs; rw [← List.take_append_drop i t]
  rw [run_append, List.drop_eq_getElem_cons hlt, run_cons_of_isPlain h hcode]

/-- Without quotes and slashes code stays code. -/
theorem run_code_of_forall {t : Text} (h : ∀ c ∈ t, c ≠ '"' ∧ c ≠ '/') : code.run t = code := by
  induction t with
  | nil => rfl
  | cons c rest ih =>
    obtain ⟨hc, hrest⟩ := List.forall_mem_cons.1 h
    rw [run_cons, step, if_neg hc.1, if_neg hc.2, ih hrest]

end Lex

/-! ## The two readers -/

/-- The automaton is in a state that fits the mode in which what follows is read.  The states
behind a slash, a quote or a star are passed through unseen by the other reader, which has made
sure already that nothing comes of them. -/
def Mode.Agrees : Mode → Lex → Text → Prop
  | .code, s, t =>
    s = .code ∨ (s = .slash ∧ t.head? ≠ some '/' ∧ t.head? ≠ some '*') ∨
      (s = .quote ∧ t.head? ≠ some '"')
  | .string _, s, _ => s = .string
  | .line _, s, _ => s = .line
  | .block _, s, t => s = .block ∨ (s = .star ∧ t.head? ≠ some '/')

/-- The stretch that a mode is inside of began before an offset. -/
def Mode.HasBegun : Mode → Nat → Prop
  | .code, _ => True
  | .string start, pos | .line start, pos | .block start, pos => start < pos

/-- The first offset that the next stretch may hold. -/
def Mode.origin : Mode → Nat → Nat
  | .code, pos => pos
  | .string start, _ | .line start, _ | .block start, _ => start

theorem mem_spansFrom {m : Mode} {pos : Nat} {t : Text} (h : m.HasBegun pos) :
    ∀ s ∈ spansFrom m pos t, m.origin pos ≤ s.start ∧ s.start < s.stop := by
  fun_induction spansFrom m pos t with
  | case1 => simp
  | case2 start pos | case3 start pos | case4 start pos =>
    intro s hs
    cases List.mem_singleton.1 hs
    exact ⟨Nat.le_refl _, h⟩
  | case5 pos rest ih | case6 pos rest ih | case7 pos rest ih =>
    exact ih (by simp only [Mode.HasBegun]; omega)
  | case8 pos c rest _ _ _ ih =>
    intro s hs
    exact ⟨Nat.le_of_succ_le (ih trivial s hs).1, (ih trivial s hs).2⟩
  | case9 start pos rest ih => exact ih (Nat.lt_add_right 2 h)
  | case11 start pos c rest _ _ ih | case13 start pos c rest _ ih | case15 start pos c rest _ ih =>
    exact ih (Nat.lt_succ_of_lt h)
  | case10 start pos rest _ ih | case12 start pos rest ih | case14 start pos rest ih =>
    -- the stretch that ends here, and then those that are read in code
    simp only [Mode.HasBegun, Mode.origin] at h ih ⊢
    intro s hs
    rcases List.mem_cons.1 hs with rfl | hs
    · exact ⟨Nat.le_refl _, by simp only; omega⟩
    · have := ih trivial s hs
      omega

theorem spansFrom_pairwise {m : Mode} {pos : Nat} {t : Text} (h : m.HasBegun pos) :
    (spansFrom m pos t).Pairwise fun a b => a.stop ≤ b.start := by
  fun_induction spansFrom m pos t with
  | case1 | case2 | case3 | case4 => simp
  | case5 pos rest ih | case6 pos rest ih | case7 pos rest ih =>
    exact ih (by simp only [Mode.HasBegun]; omega)
  | case8 pos c rest _ _ _ ih => exact ih trivial
  | case9 start pos rest ih => exact ih (Nat.lt_add_right 2 h)
  | case11 start pos c rest _ _ ih | case13 start pos c rest _ ih | case15 start pos c rest _ ih =>
    exact ih (Nat.lt_succ_of_lt h)
  | case10 start pos rest _ ih | case12 start pos rest ih | case14 start pos rest ih =>
    refine List.pairwise_cons.2 ⟨fun s hs => ?_, ih trivial⟩
    have := (mem_spansFrom (m := .code) trivial s hs).1
    simp only [Mode.origin] at this ⊢
    omega

/-- One of the spans holds an offset. -/
def Holds (spans : List Span) (i : Nat) : Prop := ∃ s ∈ spans, s.start ≤ i ∧ i < s.stop

theorem holds_cons {s : Span} {spans : List Span} {i : Nat} :
    Holds (s :: spans) i ↔ (s.start ≤ i ∧ i < s.stop) ∨ Holds spans i := by
  simp [Holds]

/-- The stretch that a mode is inside of is not lost. -/
theorem holds_of_origin_le {m : Mode} {pos i : Nat} {t : Text} (hi : m.origin pos ≤ i)
    (h : i < pos) : Holds (spansFrom m pos t) i := by
  fun_induction spansFrom m pos t with
  | case1 | case5 | case6 | case7 | case8 => exact absurd h (Nat.not_lt.2 hi)
  | case2 start pos | case3 start pos | case4 start pos =>
    exact ⟨_, List.mem_singleton_self _, hi, h⟩
  | case9 start pos rest ih => exact ih hi (Nat.lt_add_right 2 h)
  | case11 start pos c rest _ _ ih | case13 start pos c rest _ ih | case15 start pos c rest _ ih =>
    exact ih hi (Nat.lt_succ_of_lt h)
  | case10 start pos rest _ ih | case12 start pos rest ih | case14 start pos rest ih =>
    exact holds_cons.2 (.inl ⟨hi, by simp only; omega⟩)

theorem not_holds_of_lt {pos i : Nat} {t : Text} (h : i < pos) :
    ¬Holds (spansFrom .code pos t) i := by
  rintro ⟨s, hs, hle, -⟩
  have := (mem_spansFrom (m := .code) trivial s hs).1
  simp only [Mode.origin] at this
  omega

/-- The spans hold, from offset `pos` on, exactly the offsets with a mark. -/
def Marked (spans : List Span) (pos : Nat) (marks : List Bool) : Prop :=
  ∀ i, Holds spans (pos + i) ↔ marks[i]? = some true

theorem Marked.cons {spans : List Span} {pos : Nat} {b : Bool} {marks : List Bool}
    (h : Marked spans (pos + 1) marks) (hb : Holds spans pos ↔ b = true) :
    Marked spans pos (b :: marks) := by
  intro i
  cases i with
  | zero => simpa using hb
  | succ i => simpa [Nat.add_assoc, Nat.add_comm 1] using h i

theorem Marked.span_cons {spans : List Span} {pos : Nat} {s : Span} {marks : List Bool}
    (h : Marked spans pos marks) (hs : s.stop ≤ pos) : Marked (s :: spans) pos marks := by
  intro i
  rw [holds_cons, ← h i]
  exact or_iff_right fun hi => by omega

theorem Mode.Agrees.step_slash {s : Lex} {c : Char} {rest : Text} (hc : c = '/' ∨ c = '*')
    (ha : Mode.code.Agrees s ('/' :: c :: rest)) :
    s.step '/' = .slash ∧ s.marks '/' (some c) = true := by
  rcases ha with rfl | ⟨rfl, h, -⟩ | ⟨rfl, -⟩
  · rcases hc with rfl | rfl <;> exact ⟨rfl, rfl⟩
  · exact absurd rfl h
  · rcases hc with rfl | rfl <;> exact ⟨rfl, rfl⟩

theorem Mode.Agrees.step_quote {s : Lex} {rest : Text}
    (ha : Mode.code.Agrees s ('"' :: rest)) :
    s.step '"' = .string ∧ s.marks '"' rest.head? = true := by
  rcases ha with rfl | ⟨rfl, -⟩ | ⟨rfl, -⟩ <;> simp [Lex.step, Lex.marks, Lex.opens]

/-- A character that does not end the comment leaves the reader in it. -/
theorem Mode.Agrees.step_block {start : Nat} {s : Lex} {c : Char} {rest : Text}
    (ha : (Mode.block start).Agrees s (c :: rest)) (h : c = '*' → rest.head? ≠ some '/') :
    (Mode.block start).Agrees (s.step c) rest ∧ s.marks c rest.head? = true := by
  by_cases hc : c = '*'
  · subst hc
    rcases ha with rfl | ⟨rfl, -⟩ <;> exact ⟨.inr ⟨rfl, h rfl⟩, rfl⟩
  · rcases ha with rfl | ⟨rfl, hslash⟩
    · simp [Lex.step, Lex.marks, Mode.Agrees, hc]
    · have hc' : c ≠ '/' := by simpa using hslash
      simp [Lex.step, Lex.marks, Mode.Agrees, hc, hc']

/-- A character that opens nothing leaves the reader in code. -/
theorem Mode.Agrees.step_code {s : Lex} {c : Char} {rest : Text}
    (ha : Mode.code.Agrees s (c :: rest)) (h : Lex.opens c rest.head? = false) :
    s.marks c rest.head? = false ∧ Mode.code.Agrees (s.step c) rest := by
  simp only [Lex.opens, Bool.or_eq_false_iff, Bool.and_eq_false_imp, beq_iff_eq,
    beq_eq_false_iff_ne, ne_eq] at h
  obtain ⟨hq, hs⟩ := h
  by_cases hc : c = '/'
  · subst hc
    rcases ha with rfl | ⟨rfl, h, -⟩ | ⟨rfl, -⟩
    · simpa [Lex.marks, Lex.opens, Lex.step, Mode.Agrees] using hs
    · exact absurd rfl h
    · simpa [Lex.marks, Lex.opens, Lex.step, Mode.Agrees] using hs
  · rcases ha with rfl | ⟨rfl, -, h⟩ | ⟨rfl, -⟩
    · simp [Lex.marks, Lex.opens, Lex.step, Mode.Agrees, hc, hq]
    · have hb : c ≠ '*' := by simpa using h
      simp [Lex.marks, Lex.opens, Lex.step, Mode.Agrees, hc, hq, hb]
    · simp [Lex.marks, Lex.opens, Lex.step, Mode.Agrees, hc, hq]

/-- A character of the stretch that a mode is inside of has a mark. -/
theorem Marked.inside {m : Mode} {pos : Nat} {t : Text} {marks : List Bool}
    (h : Marked (spansFrom m (pos + 1) t) (pos + 1) marks) (hm : m.origin (pos + 1) ≤ pos) :
    Marked (spansFrom m (pos + 1) t) pos (true :: marks) :=
  h.cons (iff_of_true (holds_of_origin_le hm (Nat.lt_succ_self pos)) rfl)

/-- So have two of them. -/
theorem Marked.inside_two {m : Mode} {pos : Nat} {t : Text} {marks : List Bool}
    (h : Marked (spansFrom m (pos + 2) t) (pos + 2) marks) (hm : m.origin (pos + 2) ≤ pos) :
    Marked (spansFrom m (pos + 2) t) pos (true :: true :: marks) :=
  (h.inside (Nat.le_succ_of_le hm)).cons
    (iff_of_true (holds_of_origin_le hm (Nat.lt_add_of_pos_right Nat.two_pos)) rfl)

/-- Both readers find the same literals and comments in what follows an offset. -/
theorem marked_spansFrom {m : Mode} {s : Lex} {pos : Nat} {t : Text} (ha : m.Agrees s t)
    (hm : m.origin pos ≤ pos) : Marked (spansFrom m pos t) pos (s.marksOf t) := by
  fun_induction spansFrom m pos t generalizing s with
  | case1 => simp [Marked, Holds, Lex.marksOf]
  | case2 start pos | case3 start pos | case4 start pos => simp [Marked, Holds, Lex.marksOf]
  | case5 pos rest ih =>
    have hs := ha.step_quote
    rw [Lex.marksOf, hs.1, hs.2]
    exact (ih rfl (Nat.le_succ pos)).inside (Nat.le_refl pos)
  | case6 pos rest ih =>
    have hs := ha.step_slash (.inl rfl)
    rw [Lex.marksOf, hs.1, List.head?_cons, hs.2]
    exact (ih rfl (Nat.le_add_right pos 2)).inside_two (Nat.le_refl pos)
  | case7 pos rest ih =>
    have hs := ha.step_slash (.inr rfl)
    rw [Lex.marksOf, hs.1, List.head?_cons, hs.2]
    exact (ih (.inl rfl) (Nat.le_add_right pos 2)).inside_two (Nat.le_refl pos)
  | case8 pos c rest hq hl hb ih =>
    have ho : Lex.opens c rest.head? = false := by
      cases rest <;> simp_all [Lex.opens]
    have hs := ha.step_code ho
    rw [Lex.marksOf, hs.1]
    refine (ih hs.2 (Nat.le_refl _)).cons (iff_of_false ?_ Bool.false_ne_true)
    exact not_holds_of_lt (Nat.lt_succ_self pos)
  | case9 start pos rest ih =>
    cases ha
    exact (ih rfl (Nat.le_add_right_of_le hm)).inside_two hm
  | case10 start pos rest hq ih =>
    cases ha
    have hq : rest.head? ≠ some '"' := by
      cases rest <;> simp_all
    refine Marked.cons (Marked.span_cons ?_ (Nat.le_refl _)) (iff_of_true ?_ rfl)
    · exact ih (.inr (.inr ⟨rfl, hq⟩)) (Nat.le_refl _)
    · exact holds_cons.2 (.inl ⟨hm, Nat.lt_succ_self pos⟩)
  | case11 start pos c rest _ hq ih =>
    cases ha
    rw [Lex.marksOf, Lex.step, if_neg hq]
    exact (ih rfl (Nat.le_succ_of_le hm)).inside hm
  | case12 start pos rest ih =>
    cases ha
    refine Marked.cons (Marked.span_cons ?_ (Nat.le_succ pos)) (iff_of_false ?_ Bool.false_ne_true)
    · exact ih (.inl rfl) (Nat.le_refl _)
    · rw [holds_cons, not_or]
      exact ⟨fun h => Nat.lt_irrefl _ h.2, not_holds_of_lt (Nat.lt_succ_self pos)⟩
  | case13 start pos c rest hn ih =>
    cases ha
    have hmark : Lex.line.marks c rest.head? = true := by simpa [Lex.marks] using hn
    rw [Lex.marksOf, Lex.step, if_neg hn, hmark]
    exact (ih rfl (Nat.le_succ_of_le hm)).inside hm
  | case14 start pos rest ih =>
    have hs : s.step '*' = .star ∧ s.marks '*' (some '/') = true := by
      rcases ha with rfl | ⟨rfl, -⟩ <;> exact ⟨rfl, rfl⟩
    rw [Lex.marksOf, hs.1, List.head?_cons, hs.2]
    refine Marked.cons (Marked.cons (Marked.span_cons ?_ (Nat.le_refl _)) (iff_of_true ?_ rfl))
      (iff_of_true ?_ rfl)
    · exact ih (.inl rfl) (Nat.le_refl _)
    · exact holds_cons.2 (.inl ⟨Nat.le_succ_of_le hm, Nat.lt_succ_self _⟩)
    · exact holds_cons.2 (.inl ⟨hm, by simp only; omega⟩)
  | case15 start pos c rest hb ih =>
    have hb : c = '*' → rest.head? ≠ some '/' := by
      cases rest <;> simp_all
    have hs := ha.step_block hb
    rw [Lex.marksOf, hs.2]
    exact (ih hs.1 (Nat.le_succ_of_le hm)).inside hm

/-! ## The look-up by halving -/

/-- Where a number of spans `r` separates those that begin at or before `index` from the rest. -/
structure Ranks (spans : List Span) (index r : Nat) : Prop where
  /-- There are that many spans. -/
  le : r ≤ spans.length
  /-- Those before begin at or before the offset. -/
  before : ∀ k, k < r → ∀ s, spans[k]? = some s → s.start ≤ index
  /-- Those from there on begin behind it. -/
  behind : ∀ k, r ≤ k → ∀ s, spans[k]? = some s → index < s.start

theorem start_le_of_pairwise {spans : List Span}
    (h : spans.Pairwise fun a b => a.start ≤ b.start) {j k : Nat} (hjk : j ≤ k) {a b : Span}
    (ha : spans[j]? = some a) (hb : spans[k]? = some b) : a.start ≤ b.start := by
  obtain ⟨hj, rfl⟩ := List.getElem?_eq_some_iff.1 ha
  obtain ⟨hk, rfl⟩ := List.getElem?_eq_some_iff.1 hb
  rcases Nat.lt_or_eq_of_le hjk with h' | rfl
  · exact List.pairwise_iff_getElem.1 h j k hj hk h'
  · exact Nat.le_refl _

/-- The search keeps what it knows of both ends, and halving ends before the fuel does. -/
theorem ranks_rankWithin {spans : List Span} {index : Nat}
    (hs : spans.Pairwise fun a b => a.start ≤ b.start) :
    ∀ {fuel low high : Nat}, high ≤ spans.length → high - low ≤ fuel → low ≤ high →
      (∀ k, k < low → ∀ s, spans[k]? = some s → s.start ≤ index) →
      (∀ k, high ≤ k → ∀ s, spans[k]? = some s → index < s.start) →
      Ranks spans index (rankWithin spans index fuel low high)
  | 0, low, high, hlen, hfuel, hle, hlow, hhigh => by
    have : low = high := by omega
    subst this
    exact ⟨hlen, hlow, hhigh⟩
  | fuel + 1, low, high, hlen, hfuel, hle, hlow, hhigh => by
    rw [rankWithin]
    split
    · rename_i hlt
      have hmid : (low + high) / 2 < spans.length := by omega
      simp only [List.getElem?_eq_getElem hmid, Int.ofNat_lt]
      split
      · rename_i hi
        refine ranks_rankWithin hs (by omega) (by omega) (by omega) hlow fun k hk s h => ?_
        exact Nat.lt_of_lt_of_le hi (start_le_of_pairwise hs hk (List.getElem?_eq_getElem hmid) h)
      · rename_i hi
        refine ranks_rankWithin hs hlen (by omega) (by omega) (fun k hk s h => ?_) hhigh
        exact Nat.le_trans (start_le_of_pairwise hs (by omega) h (List.getElem?_eq_getElem hmid))
          (Nat.le_of_not_lt hi)
    · have : low = high := by omega
      subst this
      exact ⟨hlen, hlow, hhigh⟩

/-- The look-up is right about every list of disjoint spans in order. -/
theorem covers_iff {spans : List Span} (hp : spans.Pairwise fun a b => a.stop ≤ b.start)
    (hne : ∀ s ∈ spans, s.start < s.stop) (index : Nat) :
    covers spans index = true ↔ Holds spans index := by
  have hs : spans.Pairwise fun a b => a.start ≤ b.start :=
    hp.imp_of_mem fun ha _ h => Nat.le_trans (Nat.le_of_lt (hne _ ha)) h
  have hr : Ranks spans index (rank spans index) :=
    ranks_rankWithin hs (Nat.le_refl _) (by omega) (Nat.zero_le _) (by omega) (by
      intro k hk s h
      simp [List.getElem?_eq_none hk] at h)
  rw [covers]
  split
  · rename_i hrank
    rw [hrank] at hr
    refine iff_of_false Bool.false_ne_true ?_
    rintro ⟨s, hmem, hle, -⟩
    obtain ⟨k, hk⟩ := List.getElem?_of_mem hmem
    exact absurd (hr.behind k (Nat.zero_le k) s hk) (Nat.not_lt.2 hle)
  · rename_i n hrank
    rw [hrank] at hr
    have hn : n < spans.length := hr.le
    have hlast : spans[n]? = some spans[n] := List.getElem?_eq_getElem hn
    simp only [hlast, Bool.and_eq_true, decide_eq_true_eq, Int.ofNat_le, Int.ofNat_lt]
    constructor
    · exact fun h => ⟨spans[n], List.getElem_mem hn, h⟩
    · rintro ⟨s, hmem, hle, hlt⟩
      obtain ⟨k, hk⟩ := List.getElem?_of_mem hmem
      have hkn : ¬n < k := fun h => absurd (hr.behind k h s hk) (Nat.not_lt.2 hle)
      -- an earlier span ends before the last one that begins at or before the offset
      rcases Nat.lt_or_eq_of_le (Nat.not_lt.1 hkn) with h | rfl
      · obtain ⟨hk', rfl⟩ := List.getElem?_eq_some_iff.1 hk
        have h₁ := List.pairwise_iff_getElem.1 hp k n hk' hn h
        have h₂ := hr.before n (Nat.lt_succ_self n) _ hlast
        omega
      · cases hk.symm.trans hlast
        exact ⟨hle, hlt⟩

/-- **The look-up finds what the reader marks.** -/
theorem covers_literalSpans (t : Text) (i : Nat) :
    covers (literalSpans t) i = true ↔ (Lex.code.marksOf t)[i]? = some true := by
  rw [literalSpans, covers_iff (spansFrom_pairwise (m := .code) trivial) fun s hs =>
    (mem_spansFrom (m := .code) trivial s hs).2]
  simpa using marked_spansFrom (m := .code) (t := t) (.inl rfl) (Nat.le_refl 0) i

/-- A plain character is code where the automaton reaches it in code. -/
theorem isCode_literalSpans {t : Text} {i : Nat} {c : Char} (h : t[i]? = some c)
    (hc : Lex.isPlain c = true) :
    isCode (literalSpans t) i = (Lex.code.run (t.take i)).isCode := by
  have hiff := covers_literalSpans t i
  rw [Lex.getElem?_marksOf, h, Option.map_some, Option.some_inj, Lex.marks_of_isPlain hc] at hiff
  rw [isCode, Bool.eq_iff_iff.2 hiff, Bool.not_not]

/-! ## Texts that leave nothing open -/

/-- Whether a semicolon behind a text is code. -/
def leavesNothingOpen (t : Text) : Bool := isCode (literalSpans (t ++ [';'])) t.length

theorem leavesNothingOpen_eq (t : Text) : leavesNothingOpen t = (Lex.code.run t).isCode := by
  rw [leavesNothingOpen, isCode_literalSpans (c := ';') (by simp) (by decide), List.take_left]

end Mashup
end Dataflow
