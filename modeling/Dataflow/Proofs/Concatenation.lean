import Dataflow.Proofs.Entrance

/-!
# The declarations of a document in two pieces

Editing a document means cutting it and putting text in, so everything to be said about an edit
rests on one law, `declarations_append`: when do the declarations of `u ++ v` consist of those of
`u` and, moved, those of `v`?  Four things can come in between, and each has a hypothesis of its
own.

* `ReadsAfresh` — a literal or comment that is open at the seam.
* `Unreached` — a heading that begins in `u` and ends in `v`.
* an attribute in front of the first heading of `v` that begins in `u`.
* the body of the last declaration of `u`, which now ends at the first entrance of `v` instead of
  the end of `u`.

`Sealed` texts give nothing of that sort to what comes behind them, and `Tight` texts give nothing
to what comes in front.
-/

set_option autoImplicit false

namespace Dataflow
namespace Mashup

/-! ## Reading literals behind another text -/

/-- Literals and comments begin and end in `v` as they do without `u` in front. -/
def ReadsAfresh (u v : Text) : Prop :=
  ∀ w, w <+: v → (Lex.code.run (u ++ w)).isCode = (Lex.code.run w).isCode

theorem readsAfresh_of_run {u : Text} (h : Lex.code.run u = .code) (v : Text) :
    ReadsAfresh u v := by
  intro w _
  rw [Lex.run_append, h]

/-- A plain character at the seam forgets a slash or quote before it. -/
theorem readsAfresh_of_isPlain {u : Text} (h : leavesNothingOpen u = true) {c : Char}
    (hc : Lex.isPlain c = true) (v : Text) : ReadsAfresh u (c :: v) := by
  rw [leavesNothingOpen_eq] at h
  intro w hw
  rcases w with _ | ⟨d, w⟩
  · rw [List.append_nil, h]
    rfl
  · obtain rfl : d = c := (List.cons_prefix_cons.1 hw).1
    rw [Lex.run_append, Lex.run_cons_of_isPlain hc h]

theorem isCode_append_left {u : Text} {i : Nat} {c : Char} (hi : u[i]? = some c)
    (hc : Lex.isPlain c = true) (v : Text) :
    isCode (literalSpans (u ++ v)) i = isCode (literalSpans u) i := by
  obtain ⟨hlt, -⟩ := List.getElem?_eq_some_iff.1 hi
  rw [isCode_literalSpans hi hc, isCode_literalSpans (by rw [List.getElem?_append_left hlt, hi]) hc,
    List.take_append_of_le_length (Nat.le_of_lt hlt)]

theorem isCode_append_right {u v : Text} (hf : ReadsAfresh u v) {i : Nat} {c : Char}
    (hi : v[i]? = some c) (hc : Lex.isPlain c = true) :
    isCode (literalSpans (u ++ v)) (u.length + i) = isCode (literalSpans v) i := by
  have hi' : (u ++ v)[u.length + i]? = some c := by
    rw [List.getElem?_append_right (Nat.le_add_right _ _), Nat.add_sub_cancel_left, hi]
  rw [isCode_literalSpans hi hc, isCode_literalSpans hi' hc, List.take_length_add_append,
    hf _ (List.take_prefix i v)]

/-- Occurrences that count, in two pieces. -/
theorem Pattern.live_append {α : Type} {p : Pattern α} (hp : p.IsLocal) (hs : p.StartsPlain)
    {u v : Text} (hf : ReadsAfresh u v) (hreach : Unreached p u v)
    (hseam : p u.getLast? v = p none v) :
    p.live (u ++ v) = p.live u ++ (p.live v).map (.shift u.length) := by
  rw [live, occurrences_append hp hreach hseam, List.filter_append, List.filter_map, live, live]
  congr 1
  · refine List.filter_congr fun o ho => ?_
    obtain ⟨c, hc, hplain, -⟩ := hs.getElem? hp ho
    rw [isCode_append_left hc hplain]
  · congr 1
    refine List.filter_congr fun o ho => ?_
    obtain ⟨c, hc, hplain, -⟩ := hs.getElem? hp ho
    rw [Function.comp_apply, Occurrence.shift, isCode_append_right hf hc hplain]

/-! ## Entrances -/

/-- An entrance behind `n` other characters. -/
def Entrance.shift (n : Nat) (e : Entrance) : Entrance :=
  ⟨e.heading.shift n, e.attr.map (.shift n)⟩

theorem Entrance.start_shift (n : Nat) (e : Entrance) : (e.shift n).start = n + e.start := by
  rw [Entrance.shift, Entrance.start, Entrance.start]
  cases e.attr <;> rfl

/-- The offset behind the last heading of a document. -/
def bodyFrom (t : Text) : Nat := lastStop 0 (headings t)

theorem bodyFrom_le (t : Text) : bodyFrom t ≤ t.length := by
  rw [bodyFrom, lastStop]
  cases h : (headings t).getLast? with
  | none => exact Nat.zero_le _
  | some o => exact (Pattern.live_bounds isLocal_heading (List.mem_of_getLast? h)).2

/-- The attribute that a declaration behind a text would be given. -/
def dangling? (t : Text) : Option PlacedAttribute :=
  (attributeAtEnd? t).filter (bodyFrom t ≤ ·.start)

theorem lt_of_dangling? {t : Text} {a : PlacedAttribute} (h : dangling? t = some a) :
    bodyFrom t ≤ a.start ∧ a.start < t.length := by
  obtain ⟨ha, hle⟩ := Option.filter_eq_some_iff.1 h
  have hlt := lt_of_bracketAtEnd? (attributeAtEnd?_eq_some_iff.1 ha).1
  exact ⟨of_decide_eq_true hle, Nat.lt_of_lt_of_le hlt (Text.stripEnd_prefix t).length_le⟩

theorem entrancesFrom_congr {u : Text} (v : Text) {previous : Nat} {hs : List (Occurrence Text)}
    (h : ∀ o ∈ hs, o.start ≤ u.length) :
    entrancesFrom (u ++ v) previous hs = entrancesFrom u previous hs := by
  induction hs generalizing previous with
  | nil => rfl
  | cons o hs ih =>
    obtain ⟨ho, hs⟩ := List.forall_mem_cons.1 h
    rw [entrancesFrom, entrancesFrom, attributeBefore?_eq, attributeBefore?_eq,
      List.take_append_of_le_length ho, ih hs]

/-- An attribute behind an offset in the second piece is an attribute of that piece. -/
theorem filter_attributeAtEnd?_append (u : Text) {w : Text} (h : Text.allBlank w = false)
    (n : Nat) :
    (attributeAtEnd? (u ++ w)).filter (u.length + n ≤ ·.start) =
      ((attributeAtEnd? w).filter (n ≤ ·.start)).map (.shift u.length) := by
  have hfilter : (attributeAtEnd? (u ++ w)).filter (u.length + n ≤ ·.start) =
      ((attributeAtEnd? (u ++ w)).filter (u.length ≤ ·.start)).filter
        (u.length + n ≤ ·.start) := by
    cases attributeAtEnd? (u ++ w) with
    | none => rfl
    | some a =>
      simp only [Option.filter_some]
      by_cases ha : u.length ≤ a.start
      · simp [ha, Option.filter_some]
      · simp [ha, show ¬u.length + n ≤ a.start by omega]
  rw [hfilter, attributeAtEnd?_append u h]
  cases attributeAtEnd? w with
  | none => rfl
  | some a => simp [Option.filter_some, PlacedAttribute.shift, Option.map_if]

/-- An attribute that the second piece has is found there. -/
theorem filter_attributeAtEnd?_of_some {w : Text} {a : PlacedAttribute}
    (h : attributeAtEnd? w = some a) (u : Text) :
    (attributeAtEnd? (u ++ w)).filter (bodyFrom u ≤ ·.start) = some (a.shift u.length) := by
  have hle := Nat.le_trans (bodyFrom_le u) (Nat.le_add_right u.length a.start)
  rw [attributeAtEnd?_append_of_some h, Option.filter_some, PlacedAttribute.shift]
  simp [hle]

theorem entrancesFrom_shift (u : Text) {v : Text} {previous : Nat} {hs : List (Occurrence Text)}
    (h : ∀ o ∈ hs, Text.allBlank (v.take o.start) = false) :
    entrancesFrom (u ++ v) (u.length + previous) (hs.map (.shift u.length)) =
      (entrancesFrom v previous hs).map (.shift u.length) := by
  induction hs generalizing previous with
  | nil => rfl
  | cons o hs ih =>
    obtain ⟨ho, hs⟩ := List.forall_mem_cons.1 h
    have hattr := filter_attributeAtEnd?_append u ho previous
    rw [List.map_cons, entrancesFrom, entrancesFrom, List.map_cons]
    have hih := @ih o.stop hs
    simp only [Occurrence.shift, Entrance.shift, attributeBefore?_eq,
      List.take_length_add_append, hattr] at hih ⊢
    rw [hih]

theorem allBlank_take_eq_false {t : Text} {i j : Nat} {c : Char} (hi : t[i]? = some c)
    (hc : isBlank c = false) (hj : i < j) : Text.allBlank (t.take j) = false := by
  cases h : Text.allBlank (t.take j) with
  | false => rfl
  | true =>
    have hmem : c ∈ t.take j := List.mem_of_getElem? (by rw [List.getElem?_take_of_lt hj, hi])
    rw [List.all_eq_true.1 h c hmem] at hc
    cases hc

/-- The text before a later heading is not blank. -/
theorem not_allBlank_take {t : Text} {h : Occurrence Text} {hs : List (Occurrence Text)}
    (hhs : headings t = h :: hs) : ∀ o ∈ hs, Text.allBlank (t.take o.start) = false := by
  intro o ho
  have hpair := Pattern.live_pairwise isLocal_heading t
  have hmem : h ∈ heading.live t := by
    rw [← headings_eq, hhs]
    exact List.mem_cons_self
  rw [← headings_eq, hhs] at hpair
  have hle := (List.pairwise_cons.1 hpair).1 o ho
  have hlt := (Pattern.live_bounds isLocal_heading hmem).1
  obtain ⟨c, hc, -, hblank⟩ :=
    startsPlain_heading.getElem? isLocal_heading (List.mem_filter.1 hmem).1
  exact allBlank_take_eq_false hc hblank (Nat.lt_of_lt_of_le hlt hle)

/-- Entrances in two pieces, when the attribute of the first heading behind the seam lies there as
well. -/
theorem entrances_append {u v : Text}
    (hh : headings (u ++ v) = headings u ++ (headings v).map (.shift u.length))
    (hattr : ∀ h, (headings v).head? = some h →
      (attributeAtEnd? (u ++ v.take h.start)).filter (bodyFrom u ≤ ·.start) =
        (attributeAtEnd? (v.take h.start)).map (.shift u.length)) :
    entrances (u ++ v) = entrances u ++ (entrances v).map (.shift u.length) := by
  have hfront : ∀ o ∈ headings u, o.start ≤ u.length := by
    intro o ho
    have := Pattern.live_bounds isLocal_heading ho
    omega
  rw [entrances, hh, entrancesFrom_append, entrancesFrom_congr v hfront]
  refine congrArg (entrances u ++ ·) ?_
  rw [← bodyFrom]
  cases hv : headings v with
  | nil => simp [entrances, hv, entrancesFrom]
  | cons h hs =>
    have hrest := @entrancesFrom_shift u v h.stop hs (not_allBlank_take hv)
    have hfirst := hattr h (by rw [hv]; rfl)
    have hall : (attributeAtEnd? (v.take h.start)).filter (0 ≤ ·.start) =
        attributeAtEnd? (v.take h.start) := by
      cases attributeAtEnd? (v.take h.start) <;> simp
    rw [entrances, hv, List.map_cons, entrancesFrom, entrancesFrom, List.map_cons,
      attributeBefore?_eq, attributeBefore?_eq, hall, Entrance.shift, ← hfirst, ← hrest,
      Occurrence.shift, List.take_length_add_append]

/-! ## Bodies -/

theorem lastSemicolonFrom_shift {spans spans' : List Span} {n pos : Nat} {found : Option Nat}
    {body : Text} (h : ∀ i, body[i]? = some ';' →
      isCode spans (n + (pos + i)) = isCode spans' (pos + i)) :
    lastSemicolonFrom spans (n + pos) (found.map (n + ·)) body =
      (lastSemicolonFrom spans' pos found body).map (n + ·) := by
  induction body generalizing pos found with
  | nil => rfl
  | cons c body ih =>
    have hrest : ∀ i, body[i]? = some ';' →
        isCode spans (n + (pos + 1 + i)) = isCode spans' (pos + 1 + i) := by
      intro i hi
      simpa [Nat.add_assoc, Nat.add_comm 1] using h (i + 1) hi
    rw [lastSemicolonFrom, lastSemicolonFrom, ← ih hrest, Nat.add_assoc]
    congr 1
    by_cases hc : c = ';'
    · subst hc
      have := h 0 rfl
      rw [Nat.add_zero] at this
      rw [this]
      split <;> rfl
    · simp [hc]

theorem lastSemicolonFrom_congr {spans spans' : List Span} {pos : Nat} {found : Option Nat}
    {body : Text}
    (h : ∀ i, body[i]? = some ';' → isCode spans (pos + i) = isCode spans' (pos + i)) :
    lastSemicolonFrom spans pos found body = lastSemicolonFrom spans' pos found body := by
  have := @lastSemicolonFrom_shift spans spans' 0 pos found body (by simpa using h)
  simpa using this

theorem lastSemicolonFrom_append (spans : List Span) (pos : Nat) (found : Option Nat)
    (body body' : Text) :
    lastSemicolonFrom spans pos found (body ++ body') =
      lastSemicolonFrom spans (pos + body.length) (lastSemicolonFrom spans pos found body)
        body' := by
  induction body generalizing pos found with
  | nil => rfl
  | cons c body ih =>
    rw [List.cons_append, lastSemicolonFrom, lastSemicolonFrom, ih, List.length_cons,
      Nat.add_assoc, Nat.add_comm 1]

theorem lastSemicolonFrom_of_allBlank {spans : List Span} {pos : Nat} {found : Option Nat}
    {body : Text} (h : Text.allBlank body = true) :
    lastSemicolonFrom spans pos found body = found := by
  induction body generalizing pos with
  | nil => rfl
  | cons c body ih =>
    rw [Text.allBlank, List.all_cons, Bool.and_eq_true] at h
    have hc : c ≠ ';' := by
      rintro rfl
      exact absurd h.1 (by decide)
    rw [lastSemicolonFrom, if_neg fun h => hc h.1]
    exact ih h.2

theorem slice_append_left {u : Text} {stop : Nat} (h : stop ≤ u.length) (v : Text) (start : Nat) :
    Text.slice (u ++ v) start stop = Text.slice u start stop := by
  rw [Text.slice, Text.slice, List.take_append_of_le_length h]

theorem slice_append_right (u v : Text) (start stop : Nat) :
    Text.slice (u ++ v) (u.length + start) (u.length + stop) = Text.slice v start stop := by
  rw [Text.slice, Text.slice, List.take_length_add_append, List.drop_length_add_append]

/-- A stretch across the seam. -/
theorem slice_append {u : Text} {start : Nat} (h : start ≤ u.length) (v : Text) (stop : Nat) :
    Text.slice (u ++ v) start (u.length + stop) =
      Text.slice u start u.length ++ v.take stop := by
  rw [Text.slice, Text.slice, List.take_length_add_append, List.take_length,
    List.drop_append_of_le_length h]

theorem getElem?_of_slice {t : Text} {start stop i : Nat} {c : Char}
    (h : (Text.slice t start stop)[i]? = some c) : t[start + i]? = some c := by
  rw [Text.slice, List.getElem?_drop, List.getElem?_take] at h
  split at h
  · exact h
  · cases h

theorem bodyStop_append_left {u : Text} {boundary : Nat} (h : boundary ≤ u.length) (v : Text)
    (start : Nat) :
    bodyStop (literalSpans (u ++ v)) (u ++ v) start boundary =
      bodyStop (literalSpans u) u start boundary := by
  rw [bodyStop, bodyStop, slice_append_left h, lastSemicolonFrom_congr fun i hi => ?_]
  exact isCode_append_left (getElem?_of_slice hi) (by decide) v

theorem bodyStop_append_right {u v : Text} (hf : ReadsAfresh u v) (start boundary : Nat) :
    bodyStop (literalSpans (u ++ v)) (u ++ v) (u.length + start) (u.length + boundary) =
      u.length + bodyStop (literalSpans v) v start boundary := by
  have hlast := @lastSemicolonFrom_shift (literalSpans (u ++ v)) (literalSpans v) u.length start
    none (Text.slice v start boundary) fun i hi =>
      isCode_append_right hf (getElem?_of_slice hi) (by decide)
  rw [Option.map_none] at hlast
  rw [bodyStop, bodyStop, slice_append_right]
  simp only [hlast]
  cases lastSemicolonFrom (literalSpans v) start none (Text.slice v start boundary) with
  | none => simp only [Option.map_none]; omega
  | some i => simp only [Option.map_some]; omega

/-- Blanks behind a body do not count. -/
theorem bodyStop_append_of_allBlank {u v : Text} {start stop : Nat} (hs : start ≤ u.length)
    (hv : Text.allBlank (v.take stop) = true) :
    bodyStop (literalSpans (u ++ v)) (u ++ v) start (u.length + stop) =
      bodyStop (literalSpans u) u start u.length := by
  have hsame : lastSemicolonFrom (literalSpans (u ++ v)) start none (Text.slice u start u.length) =
      lastSemicolonFrom (literalSpans u) start none (Text.slice u start u.length) :=
    lastSemicolonFrom_congr fun i hi => isCode_append_left (getElem?_of_slice hi) (by decide) v
  rw [bodyStop, bodyStop, slice_append hs]
  simp only [lastSemicolonFrom_append, lastSemicolonFrom_of_allBlank hv, hsame,
    Text.stripEnd_append_of_allBlank _ hv]

/-! ## Declarations -/

/-- A declaration behind `n` other characters. -/
def Declaration.shift (n : Nat) (d : Declaration) : Declaration :=
  { d with start := n + d.start, stop := n + d.stop }

@[simp] theorem Declaration.query_shift (n : Nat) (d : Declaration) :
    (d.shift n).query = d.query := rfl

@[simp] theorem Declaration.start_shift (n : Nat) (d : Declaration) :
    (d.shift n).start = n + d.start := rfl

@[simp] theorem Declaration.stop_shift (n : Nat) (d : Declaration) :
    (d.shift n).stop = n + d.stop := rfl

/-- The offset of the first entrance, or the end of the document when there is none. -/
def entry (t : Text) : Nat := ((entrances t).head?.map Entrance.start).getD t.length

theorem head?_shift_entrances (n : Nat) (v : Text) :
    (((entrances v).map (Entrance.shift n)).head?.map Entrance.start).getD (n + v.length) =
      n + entry v := by
  rw [entry]
  cases entrances v with
  | nil => rfl
  | cons e es =>
    simp only [List.map_cons, List.head?_cons, Option.map_some, Option.getD_some]
    rw [Entrance.start_shift]

theorem declarationsUpTo_append (spans : List Span) (t : Text) (stop : Nat)
    (es es' : List Entrance) :
    declarationsUpTo spans t stop (es ++ es') =
      declarationsUpTo spans t ((es'.head?.map Entrance.start).getD stop) es ++
        declarationsUpTo spans t stop es' := by
  induction es with
  | nil => rfl
  | cons e es ih =>
    rw [List.cons_append, declarationsUpTo, declarationsUpTo, ih, List.cons_append]
    cases es <;> rfl

/-- A declaration depends on what follows only through the end of its body. -/
theorem declarationOf_append_left {u v : Text} {e : Entrance} {boundary boundary' : Nat}
    (hb : e.heading.stop ≤ boundary') (hu : boundary' ≤ u.length)
    (hstop : bodyStop (literalSpans (u ++ v)) (u ++ v) e.heading.stop boundary =
      bodyStop (literalSpans u) u e.heading.stop boundary') :
    declarationOf (literalSpans (u ++ v)) (u ++ v) e boundary =
      declarationOf (literalSpans u) u e boundary' := by
  have hle : bodyStop (literalSpans u) u e.heading.stop boundary' ≤ u.length :=
    Nat.le_trans (bodyStop_le hb) hu
  simp only [declarationOf, hstop, slice_append_left hle]

theorem declarationsUpTo_append_left {u v : Text} {boundary : Nat} {es : List Entrance}
    (hpair : es.Pairwise fun e e' => e.heading.stop ≤ e'.start)
    (hes : ∀ e ∈ es, e.start ≤ e.heading.stop ∧ e.heading.stop ≤ u.length)
    (hlast : ∀ e, es.getLast? = some e →
      bodyStop (literalSpans (u ++ v)) (u ++ v) e.heading.stop boundary =
        bodyStop (literalSpans u) u e.heading.stop u.length) :
    declarationsUpTo (literalSpans (u ++ v)) (u ++ v) boundary es =
      declarationsUpTo (literalSpans u) u u.length es := by
  induction es with
  | nil => rfl
  | cons e es ih =>
    obtain ⟨hfirst, hpair⟩ := List.pairwise_cons.1 hpair
    obtain ⟨he, hes⟩ := List.forall_mem_cons.1 hes
    cases es with
    | nil =>
      simp only [declarationsUpTo, List.head?_nil, Option.map_none, Option.getD_none]
      rw [declarationOf_append_left he.2 (Nat.le_refl _) (hlast e rfl)]
    | cons e' es =>
      have he' := hes e' List.mem_cons_self
      have hrest := ih hpair hes fun e'' h => hlast e'' (by rwa [List.getLast?_cons_cons])
      have hle : e'.start ≤ u.length := Nat.le_trans he'.1 he'.2
      have hhead := declarationOf_append_left (hfirst e' List.mem_cons_self) hle
        (bodyStop_append_left hle v _)
      exact List.cons_eq_cons.2 ⟨hhead, hrest⟩

/-- A declaration in the second piece is moved as a whole. -/
theorem declarationOf_append_right {u v : Text} (hf : ReadsAfresh u v) (e : Entrance)
    (boundary : Nat) :
    declarationOf (literalSpans (u ++ v)) (u ++ v) (e.shift u.length) (u.length + boundary) =
      (declarationOf (literalSpans v) v e boundary).shift u.length := by
  have hstop : bodyStop (literalSpans (u ++ v)) (u ++ v) (e.shift u.length).heading.stop
      (u.length + boundary) =
        u.length + bodyStop (literalSpans v) v e.heading.stop boundary :=
    bodyStop_append_right hf _ _
  have hbody : ∀ stop, Text.slice (u ++ v) (e.shift u.length).heading.stop (u.length + stop) =
      Text.slice v e.heading.stop stop :=
    slice_append_right u v _
  have hattr : ((e.shift u.length).attr.map PlacedAttribute.value).getD [] =
      (e.attr.map PlacedAttribute.value).getD [] := by
    rw [Entrance.shift]
    cases e.attr <;> rfl
  simp only [declarationOf, hstop, hbody, hattr, Entrance.start_shift, Declaration.shift]
  rfl

theorem declarationsUpTo_append_right {u v : Text} (hf : ReadsAfresh u v) (stop : Nat)
    (es : List Entrance) :
    declarationsUpTo (literalSpans (u ++ v)) (u ++ v) (u.length + stop)
        (es.map (.shift u.length)) =
      (declarationsUpTo (literalSpans v) v stop es).map (.shift u.length) := by
  induction es with
  | nil => rfl
  | cons e es ih =>
    have hboundary : (((es.map (Entrance.shift u.length)).head?.map Entrance.start).getD
        (u.length + stop)) = u.length + (es.head?.map Entrance.start).getD stop := by
      cases es with
      | nil => rfl
      | cons e' es =>
        simp only [List.map_cons, List.head?_cons, Option.map_some, Option.getD_some]
        rw [Entrance.start_shift]
    rw [List.map_cons, declarationsUpTo, declarationsUpTo, ih, hboundary,
      declarationOf_append_right hf, List.map_cons]

/-- **The declarations of two pieces** are those of the first and those of the second, moved. -/
theorem declarations_append {u v : Text} (hf : ReadsAfresh u v) (hreach : Unreached heading u v)
    (hseam : heading u.getLast? v = heading none v)
    (hattr : ∀ h, (headings v).head? = some h →
      (attributeAtEnd? (u ++ v.take h.start)).filter (bodyFrom u ≤ ·.start) =
        (attributeAtEnd? (v.take h.start)).map (.shift u.length))
    (hbody : ∀ h, (headings u).getLast? = some h →
      bodyStop (literalSpans (u ++ v)) (u ++ v) h.stop (u.length + entry v) =
        bodyStop (literalSpans u) u h.stop u.length) :
    declarations (u ++ v) = declarations u ++ (declarations v).map (.shift u.length) := by
  have hh := Pattern.live_append isLocal_heading startsPlain_heading hf hreach hseam
  rw [declarations_eq, entrances_append hh hattr, declarationsUpTo_append, List.length_append,
    declarationsUpTo_append_right hf, head?_shift_entrances, declarations_eq u, declarations_eq v]
  congr 1
  refine declarationsUpTo_append_left (entrances_pairwise u) (fun e he => ?_) fun e he => ?_
  · have := entrances_bounds he
    omega
  · refine hbody e.heading ?_
    rw [← map_heading_entrances, List.getLast?_map, he, Option.map_some]

/-! ## Sealed and tight texts -/

/-- A text that does not interfere with anything behind it. -/
structure Sealed (u : Text) : Prop where
  /-- Its literals and comments are closed. -/
  run : Lex.code.run u = .code
  /-- No heading reaches over its end. -/
  unreached : ∀ v, Unreached heading u v
  /-- A keyword may follow. -/
  word : startsWord u.getLast? = true
  /-- It does not end with an attribute. -/
  ending : attributeAtEnd? u = none

/-- Nothing but blanks stands in front of the first entrance. -/
def Tight (v : Text) : Prop := Text.allBlank (v.take (entry v)) = true

theorem heading_seam {b : Option Char} (hb : startsWord b = true) (v : Text) :
    heading b v = heading none v := by
  simp only [heading, hb]
  rfl

theorem entry_eq_start {t : Text} {h : Occurrence Text} (hh : (headings t).head? = some h)
    (ha : attributeAtEnd? (t.take h.start) = none) : entry t = h.start := by
  cases hs : headings t with
  | nil => rw [hs] at hh; cases hh
  | cons h' hs' =>
    rw [hs] at hh
    cases hh
    rw [entry, entrances, hs, entrancesFrom, List.head?_cons, attributeBefore?_eq, ha]
    rfl

/-- The law between a sealed and a tight text. -/
theorem Sealed.declarations_append {u v : Text} (hu : Sealed u) (hv : Tight v) :
    declarations (u ++ v) = declarations u ++ (declarations v).map (.shift u.length) := by
  refine Mashup.declarations_append (readsAfresh_of_run hu.run v) (hu.unreached v)
    (heading_seam hu.word v) (fun h hh => ?_) fun h hh => ?_
  · cases ha : attributeAtEnd? (v.take h.start) with
    | some a => rw [filter_attributeAtEnd?_of_some ha, Option.map_some]
    | none =>
      have hblank : Text.allBlank (v.take h.start) = true := entry_eq_start hh ha ▸ hv
      rw [attributeAtEnd?_append_of_allBlank u hblank, hu.ending]
      rfl
  · have hmem := List.mem_of_getLast? hh
    exact bodyStop_append_of_allBlank (Pattern.live_bounds isLocal_heading hmem).2 hv

/-- Blanks interfere with nothing. -/
theorem sealed_of_allBlank {ws : Text} (hws : Text.allBlank ws = true) : Sealed ws where
  run := run_code_of_allBlank hws
  unreached v o ho hlt := by
    rw [occurrences, startsPlain_heading.occurrencesFrom_of_allBlank hws] at ho
    have := occurrencesFrom_bounds isLocal_heading o ho
    omega
  word := by
    cases h : ws.getLast? with
    | none => rfl
    | some c =>
      have := isWord_of_isBlank (List.all_eq_true.1 hws c (List.mem_of_getLast? h))
      simp [startsWord, this]
  ending := by
    rw [attributeAtEnd?, (Text.stripEnd_eq_nil_iff ws).2 hws]
    rfl

theorem declarations_of_headings {t : Text} (h : headings t = []) : declarations t = [] := by
  rw [declarations_eq, entrances, h]
  rfl

theorem headings_of_allBlank {ws : Text} (hws : Text.allBlank ws = true) : headings ws = [] := by
  have := startsPlain_heading.occurrencesFrom_of_allBlank hws none 0 []
  rw [List.append_nil] at this
  rw [headings_eq, Pattern.live, occurrences, this]
  rfl

theorem entry_eq (t : Text) :
    entry t = ((declarations t).head?.map Declaration.start).getD t.length := by
  rw [entry, ← List.head?_map, ← List.head?_map, declarations_eq, map_start_declarationsUpTo]

theorem tight_of_start {t : Text} {d : Declaration} (h : (declarations t).head? = some d)
    (hd : d.start = 0) : Tight t := by
  rw [Tight, entry_eq, h, Option.map_some, Option.getD_some, hd]
  rfl

theorem tight_of_allBlank {ws : Text} (hws : Text.allBlank ws = true) : Tight ws := by
  rw [Tight, entry_eq, declarations_of_headings (headings_of_allBlank hws), List.head?_nil,
    Option.map_none, Option.getD_none, List.take_length, hws]

/-- Blanks in front of a tight text keep it tight. -/
theorem Tight.blank_append {ws v : Text} (hws : Text.allBlank ws = true) (hv : Tight v) :
    Tight (ws ++ v) := by
  have hentry : entry (ws ++ v) = ws.length + entry v := by
    rw [entry_eq, entry_eq, (sealed_of_allBlank hws).declarations_append hv,
      declarations_of_headings (headings_of_allBlank hws), List.nil_append, List.length_append]
    cases declarations v <;> rfl
  rw [Tight, hentry, List.take_length_add_append, Text.allBlank_append, hws, hv]
  rfl

end Mashup
end Dataflow
