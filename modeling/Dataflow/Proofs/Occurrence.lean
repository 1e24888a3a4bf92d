import Dataflow.Mashup.Keyword

/-!
# Occurrences in a document that is put together from pieces

`occurrences` tries a pattern at every offset, and jumps over what it found.  Two pieces are read
one after the other when no occurrence begins in the first and reaches into the second.  That is
`Unreached`, and it is the one thing about the seam that cannot be had for nothing: an opening
quote in the first piece may find its partner anywhere in the second.

## What is here

* `Pattern.IsLocal` — what a pattern has to promise: it takes something, and it looks at nothing
  behind what it takes.
* `occurrencesFrom_bounds`, `occurrencesFrom_pairwise`, `mem_occurrences` — where occurrences lie,
  and that the pattern takes them there; `exists_mem_occurrences` — that no match is left out.
* `occurrences_append` — **the occurrences in two pieces** are those of the first and those of the
  second, moved.
* `filter_occurrencesFrom_prefix` — with an occurrence across the seam, those before it are still
  occurrences in the first piece; `length_le_of_unreached` — when another second piece lets one
  reach over the seam.
* `occurrencesFrom_of_not_foundAfter` — a stretch without a mark that every match begins with is
  passed over.
-/

set_option autoImplicit false

namespace Dataflow
namespace Mashup

variable {α β : Type} {p : Pattern α}

/-! ## Patterns that look no further than they must -/

/-- A pattern takes at least one character, and what stands behind the characters it takes does
not matter. -/
structure Pattern.IsLocal (p : Pattern α) : Prop where
  /-- Something is taken. -/
  takes : ∀ {b t x r}, p b t = some (x, r) → ∃ m, m ≠ [] ∧ t = m ++ r
  /-- What is not taken may be left out. -/
  restricts : ∀ {b u v x r}, p b (u ++ v) = some (x, r ++ v) → p b u = some (x, r)
  /-- More text behind it does not spoil a match. -/
  persists : ∀ {b u x r}, p b u = some (x, r) → ∀ v, (p b (u ++ v)).isSome = true

namespace Pattern.IsLocal

theorem eq_none (hp : p.IsLocal) {b : Option Char} {u v : Text} (h : p b (u ++ v) = none) :
    p b u = none := by
  cases hu : p b u with
  | none => rfl
  | some y =>
    have := hp.persists hu v
    rw [h] at this
    cases this

theorem length_lt (hp : p.IsLocal) {b : Option Char} {t r : Text} {x : α}
    (h : p b t = some (x, r)) : r.length < t.length := by
  obtain ⟨m, hm, rfl⟩ := hp.takes h
  have := List.length_pos_iff.2 hm
  rw [List.length_append]
  omega

/-- A match that ends in the first of two pieces is a match of the same size in it. -/
theorem exists_of_append (hp : p.IsLocal) {b : Option Char} {u v after : Text} {x : α}
    (h : p b (u ++ v) = some (x, after)) (hle : v.length ≤ after.length) :
    ∃ r, p b u = some (x, r) ∧ (u ++ v).length - after.length = u.length - r.length := by
  obtain ⟨m, -, hm⟩ := hp.takes h
  obtain ⟨r, rfl⟩ := List.suffix_of_suffix_length_le (List.suffix_append u v) ⟨m, hm.symm⟩ hle
  refine ⟨r, hp.restricts h, ?_⟩
  simp only [List.length_append]
  omega

end Pattern.IsLocal

/-- An occurrence in a text behind `n` other characters. -/
def Occurrence.shift (n : Nat) (o : Occurrence α) : Occurrence α :=
  ⟨n + o.start, n + o.stop, o.value⟩

theorem occurrencesFrom_shift (n : Nat) (b : Option Char) (pos skip : Nat) (t : Text) :
    occurrencesFrom p b (n + pos) skip t = (occurrencesFrom p b pos skip t).map (.shift n) := by
  fun_induction occurrencesFrom p b pos skip t with
  | case1 => rfl
  | case2 b pos skip c rest ih => exact ih
  | case3 b pos c rest x after hm size ih =>
    rw [occurrencesFrom, hm, List.map_cons, ← ih]
    simp only [Occurrence.shift, Nat.add_assoc, size]
  | case4 b pos c rest hm ih =>
    rw [occurrencesFrom, hm]
    exact ih

/-- The character before the text matters for a match at its beginning and for nothing else. -/
theorem occurrencesFrom_congr {b b' : Option Char} {t : Text} (h : p b t = p b' t) (pos : Nat) :
    occurrencesFrom p b pos 0 t = occurrencesFrom p b' pos 0 t := by
  cases t with
  | nil => rfl
  | cons c rest => rw [occurrencesFrom, occurrencesFrom, h]

/-! ## Where occurrences lie -/

theorem occurrencesFrom_bounds (hp : p.IsLocal) {b : Option Char} {pos skip : Nat} {t : Text} :
    ∀ o ∈ occurrencesFrom p b pos skip t,
      pos + skip ≤ o.start ∧ o.start < o.stop ∧ o.stop ≤ pos + t.length := by
  fun_induction occurrencesFrom p b pos skip t with
  | case1 => simp
  | case2 b pos skip c rest ih | case4 b pos c rest hm ih =>
    intro o ho
    have := ih o ho
    rw [List.length_cons]
    omega
  | case3 b pos c rest x after hm size ih =>
    have hlt := hp.length_lt hm
    intro o ho
    rcases List.mem_cons.1 ho with rfl | ho
    · simp only [size]
      omega
    · have := ih o ho
      rw [List.length_cons] at hlt ⊢
      omega

theorem occurrencesFrom_pairwise (hp : p.IsLocal) {b : Option Char} {pos skip : Nat} {t : Text} :
    (occurrencesFrom p b pos skip t).Pairwise fun o o' => o.stop ≤ o'.start := by
  fun_induction occurrencesFrom p b pos skip t with
  | case1 => exact .nil
  | case2 b pos skip c rest ih | case4 b pos c rest hm ih => exact ih
  | case3 b pos c rest x after hm size ih =>
    refine List.pairwise_cons.2 ⟨fun o ho => ?_, ih⟩
    have hlt := hp.length_lt hm
    have := (occurrencesFrom_bounds hp o ho).1
    simp only [size] at this ⊢
    omega

theorem getLast?_cons_or (c : Char) (u : Text) (b : Option Char) :
    (c :: u).getLast?.or b = u.getLast?.or (some c) := by
  rw [List.getLast?_cons]
  cases u.getLast? <;> rfl

/-- An occurrence behind the first character, with the places counted from there. -/
theorem Pattern.IsLocal.takes_behind (hp : p.IsLocal) {c : Char} {b : Option Char} {pos skip : Nat}
    {rest : Text} {o : Occurrence α}
    (ho : o ∈ occurrencesFrom p (some c) (pos + 1) skip rest)
    (h : p ((rest.take (o.start - (pos + 1))).getLast?.or (some c))
      (rest.drop (o.start - (pos + 1))) = some (o.value, rest.drop (o.stop - (pos + 1)))) :
    p (((c :: rest).take (o.start - pos)).getLast?.or b) ((c :: rest).drop (o.start - pos)) =
      some (o.value, (c :: rest).drop (o.stop - pos)) := by
  have hlt := occurrencesFrom_bounds hp o ho
  have hi : o.start - pos = o.start - (pos + 1) + 1 := by omega
  have hj : o.stop - pos = o.stop - (pos + 1) + 1 := by omega
  rw [hi, hj, List.take_succ_cons, getLast?_cons_or, List.drop_succ_cons, List.drop_succ_cons, h]

theorem mem_occurrencesFrom (hp : p.IsLocal) {b : Option Char} {pos skip : Nat} {t : Text} :
    ∀ o ∈ occurrencesFrom p b pos skip t,
      p ((t.take (o.start - pos)).getLast?.or b) (t.drop (o.start - pos)) =
        some (o.value, t.drop (o.stop - pos)) := by
  fun_induction occurrencesFrom p b pos skip t with
  | case1 => exact fun o ho => nomatch ho
  | case2 b pos skip c rest ih | case4 b pos c rest hm ih =>
    exact fun o ho => hp.takes_behind ho (ih o ho)
  | case3 b pos c rest x after hm size ih =>
    intro o ho
    rcases List.mem_cons.1 ho with rfl | ho
    · obtain ⟨m, -, ht⟩ := hp.takes hm
      simp only [Nat.sub_self, List.take_zero, List.getLast?_nil, Option.none_or,
        List.drop_zero, Nat.add_sub_cancel_left, hm, Option.some_inj, Prod.mk.injEq, true_and, size]
      rw [ht, List.length_append, Nat.add_sub_cancel, List.drop_left]
    · exact hp.takes_behind ho (ih o ho)

/-- The pattern takes what it is said to have found. -/
theorem mem_occurrences (hp : p.IsLocal) {t : Text} {o : Occurrence α} (h : o ∈ occurrences p t) :
    p (t.take o.start).getLast? (t.drop o.start) = some (o.value, t.drop o.stop) := by
  simpa using mem_occurrencesFrom hp o h

/-- Where the pattern takes something, nothing is passed over: an occurrence begins there or
reaches over the place. -/
theorem exists_mem_occurrencesFrom (hp : p.IsLocal) {b : Option Char} {pos skip i : Nat} {t : Text}
    (hi : skip ≤ i) (h : (p ((t.take i).getLast?.or b) (t.drop i)).isSome = true) :
    ∃ o ∈ occurrencesFrom p b pos skip t, o.start ≤ pos + i ∧ pos + i < o.stop := by
  fun_induction occurrencesFrom p b pos skip t generalizing i with
  | case1 b pos skip =>
    obtain ⟨⟨x, r⟩, hm⟩ := Option.isSome_iff_exists.1 h
    obtain ⟨m, hne, heq⟩ := hp.takes hm
    rw [List.drop_nil] at heq
    exact absurd (List.append_eq_nil_iff.1 heq.symm).1 hne
  | case2 b pos skip c rest ih =>
    obtain ⟨j, rfl⟩ : ∃ j, i = j + 1 := ⟨i - 1, by omega⟩
    rw [List.take_succ_cons, getLast?_cons_or, List.drop_succ_cons] at h
    rw [Nat.add_comm j 1, ← Nat.add_assoc]
    exact ih (Nat.le_of_succ_le_succ hi) h
  | case3 b pos c rest x after hm size =>
    rename_i ih
    by_cases hin : i < size
    · exact ⟨_, List.mem_cons_self, Nat.le_add_right _ _, Nat.add_lt_add_left hin _⟩
    · have hlt := hp.length_lt hm
      obtain ⟨j, rfl⟩ : ∃ j, i = j + 1 := ⟨i - 1, by omega⟩
      rw [List.take_succ_cons, getLast?_cons_or, List.drop_succ_cons] at h
      obtain ⟨o, ho, hbounds⟩ := ih (i := j) (by omega) h
      rw [Nat.add_comm j 1, ← Nat.add_assoc]
      exact ⟨o, List.mem_cons_of_mem _ ho, hbounds⟩
  | case4 b pos c rest hm ih =>
    cases i with
    | zero =>
      rw [List.take_zero, List.getLast?_nil, Option.none_or, List.drop_zero, hm] at h
      cases h
    | succ j =>
      rw [List.take_succ_cons, getLast?_cons_or, List.drop_succ_cons] at h
      rw [Nat.add_comm j 1, ← Nat.add_assoc]
      exact ih (Nat.zero_le j) h

theorem exists_mem_occurrences (hp : p.IsLocal) {t : Text} {i : Nat}
    (h : (p (t.take i).getLast? (t.drop i)).isSome = true) :
    ∃ o ∈ occurrences p t, o.start ≤ i ∧ i < o.stop := by
  rw [← @Option.or_none _ (t.take i).getLast?] at h
  obtain ⟨o, ho, hle, hlt⟩ := exists_mem_occurrencesFrom hp (Nat.zero_le i) h
  rw [Nat.zero_add] at hle hlt
  exact ⟨o, ho, hle, hlt⟩

/-- Of stretches that follow one another, two that overlap are one. -/
theorem eq_of_overlap {γ : Type} {start stop : γ → Nat} {l : List γ}
    (hl : l.Pairwise fun x y => stop x ≤ start y) {x y : γ} (hx : x ∈ l) (hy : y ∈ l)
    (h : start x < stop y) (h' : start y < stop x) : x = y := by
  obtain ⟨i, hi, rfl⟩ := List.getElem_of_mem hx
  obtain ⟨j, hj, rfl⟩ := List.getElem_of_mem hy
  rw [List.pairwise_iff_getElem] at hl
  rcases Nat.lt_trichotomy i j with hij | rfl | hij
  · exact absurd h' (Nat.not_lt.2 (hl i j hi hj hij))
  · rfl
  · exact absurd h (Nat.not_lt.2 (hl j i hj hi hij))

/-- Two occurrences that overlap are one. -/
theorem eq_of_mem_occurrences (hp : p.IsLocal) {t : Text} {o o' : Occurrence α}
    (ho : o ∈ occurrences p t) (ho' : o' ∈ occurrences p t) (h : o.start < o'.stop)
    (h' : o'.start < o.stop) : o = o' :=
  eq_of_overlap (occurrencesFrom_pairwise hp) ho ho' h h'

/-! ## Two pieces -/

/-- No occurrence that begins in the first of two pieces reaches into the second. -/
def Unreached (p : Pattern α) (u v : Text) : Prop :=
  ∀ o ∈ occurrences p (u ++ v), o.start < u.length → o.stop ≤ u.length

/-- Nothing reaches over the beginning of an occurrence. -/
theorem unreached_of_mem (hp : p.IsLocal) {u v : Text}
    {o : Occurrence α} (ho : o ∈ occurrences p (u ++ v)) (hstart : o.start = u.length) :
    Unreached p u v := by
  intro o' ho' hlt
  obtain ⟨before, after, hsplit⟩ := List.append_of_mem ho
  have hpair : (occurrences p (u ++ v)).Pairwise fun o o' => o.stop ≤ o'.start :=
    occurrencesFrom_pairwise hp
  have hbounds := occurrencesFrom_bounds hp o ho
  rw [hsplit] at ho' hpair
  obtain ⟨-, hafter, hbefore⟩ := List.pairwise_append.1 hpair
  rcases List.mem_append.1 ho' with h | h
  · exact hstart ▸ hbefore o' h o List.mem_cons_self
  · rcases List.mem_cons.1 h with rfl | h
    · omega
    · have := (List.pairwise_cons.1 hafter).1 o' h
      omega

theorem occurrencesFrom_append (hp : p.IsLocal) {b : Option Char} {pos skip : Nat} {u v : Text}
    (hskip : skip ≤ u.length)
    (hreach : ∀ o ∈ occurrencesFrom p b pos skip (u ++ v),
      o.start < pos + u.length → o.stop ≤ pos + u.length) :
    occurrencesFrom p b pos skip (u ++ v) =
      occurrencesFrom p b pos skip u ++
        occurrencesFrom p (u.getLast?.or b) (pos + u.length) 0 v := by
  induction u generalizing b pos skip with
  | nil =>
    have : skip = 0 := Nat.le_zero.1 hskip
    subst this
    simp [occurrencesFrom]
  | cons c u ih =>
    have hlen : pos + (c :: u).length = pos + 1 + u.length := by rw [List.length_cons]; omega
    rw [hlen] at hreach ⊢
    rw [getLast?_cons_or]
    cases skip with
    | succ skip => exact ih (Nat.le_of_succ_le_succ hskip) hreach
    | zero =>
      rw [List.cons_append, occurrencesFrom] at hreach ⊢
      rw [occurrencesFrom]
      cases hm : p b (c :: (u ++ v)) with
      | none =>
        rw [hm] at hreach
        rw [hp.eq_none (v := v) hm]
        exact ih (Nat.zero_le _) hreach
      | some y =>
        obtain ⟨x, after⟩ := y
        rw [hm] at hreach
        -- the match ends in the first piece, so the second can be left out
        have hstop := hreach _ List.mem_cons_self (by simp only; omega)
        have hlt := hp.length_lt hm
        simp only [List.length_cons, List.length_append] at hstop hlt
        obtain ⟨r, hr, hsize⟩ := hp.exists_of_append (u := c :: u) hm (by omega)
        have hlt' := hp.length_lt hr
        rw [List.cons_append] at hsize
        simp only [hr, hsize, List.cons_append, List.cons.injEq, true_and] at hreach ⊢
        rw [List.length_cons] at hlt' ⊢
        exact ih (by omega) fun o ho => hreach o (List.mem_cons_of_mem _ ho)

/-- **The occurrences in two pieces.** -/
theorem occurrences_append (hp : p.IsLocal) {u v : Text} (hreach : Unreached p u v)
    (hseam : p u.getLast? v = p none v) :
    occurrences p (u ++ v) = occurrences p u ++ (occurrences p v).map (.shift u.length) := by
  have h : occurrencesFrom p none 0 0 (u ++ v) = _ :=
    occurrencesFrom_append hp (Nat.zero_le _) (by simpa [Unreached, occurrences] using hreach)
  rw [occurrences, h, Nat.zero_add, Option.or_none, occurrencesFrom_congr hseam, occurrences,
    occurrences, ← occurrencesFrom_shift, Nat.add_zero]

/-- Occurrences that end in the first of two pieces are occurrences in it. -/
theorem filter_occurrencesFrom_prefix (hp : p.IsLocal) {b : Option Char} {pos skip : Nat}
    (u v : Text) :
    (occurrencesFrom p b pos skip (u ++ v)).filter (·.stop ≤ pos + u.length) <+:
      occurrencesFrom p b pos skip u := by
  induction u generalizing b pos skip with
  | nil =>
    rw [List.nil_append, List.filter_eq_nil_iff.2 fun o ho => ?_]
    · exact List.nil_prefix
    · have := occurrencesFrom_bounds hp o ho
      simp only [List.length_nil, decide_eq_true_eq]
      omega
  | cons c u ih =>
    have hlen : pos + (c :: u).length = pos + 1 + u.length := by rw [List.length_cons]; omega
    rw [hlen]
    cases skip with
    | succ skip => exact ih
    | zero =>
      rw [List.cons_append, occurrencesFrom, occurrencesFrom]
      cases hm : p b (c :: (u ++ v)) with
      | none =>
        rw [hp.eq_none (v := v) hm]
        exact ih
      | some y =>
        obtain ⟨x, after⟩ := y
        have hlt := hp.length_lt hm
        simp only [List.length_cons, List.length_append] at hlt
        by_cases hstop : v.length ≤ after.length
        · obtain ⟨r, hr, hsize⟩ := hp.exists_of_append (u := c :: u) hm hstop
          have hlt' := hp.length_lt hr
          rw [List.length_cons] at hlt'
          rw [List.cons_append] at hsize
          simp only [hr, hsize]
          rw [List.filter_cons_of_pos (by simp only [List.length_cons, decide_eq_true_eq]; omega)]
          exact List.cons_prefix_cons.2 ⟨rfl, ih⟩
        · -- this match crosses the seam, and all that follow lie behind it
          rw [List.filter_eq_nil_iff.2 fun o ho => ?_]
          · exact List.nil_prefix
          · simp only [decide_eq_true_eq, Nat.not_le]
            rcases List.mem_cons.1 ho with rfl | ho
            · simp only [List.length_cons, List.length_append]
              omega
            · have := occurrencesFrom_bounds hp o ho
              simp only [List.length_cons, List.length_append] at this
              omega

/-- An occurrence that ends in the first of two pieces is an occurrence in it. -/
theorem mem_occurrences_of_append (hp : p.IsLocal) {u v : Text} {o : Occurrence α}
    (ho : o ∈ occurrences p (u ++ v)) (hstop : o.stop ≤ u.length) : o ∈ occurrences p u := by
  have hfront : (occurrences p (u ++ v)).filter (·.stop ≤ 0 + u.length) <+: occurrences p u :=
    filter_occurrencesFrom_prefix hp u v
  rw [Nat.zero_add] at hfront
  exact hfront.subset (List.mem_filter.2 ⟨ho, decide_eq_true hstop⟩)

/-- In front of an occurrence that begins in the first piece, the occurrences of this piece alone
end before it. -/
theorem stop_le_of_mem_occurrences (hp : p.IsLocal) {u v : Text} {o o' : Occurrence α}
    (ho : o ∈ occurrences p (u ++ v)) (ho' : o' ∈ occurrences p u) (hlt : o'.start < o.start)
    (hle : o.start ≤ u.length) : o'.stop ≤ o.start := by
  have hbounds := occurrencesFrom_bounds hp o ho
  have hstart : o'.start ≤ u.length := by omega
  have hsome : (p ((u ++ v).take o'.start).getLast? ((u ++ v).drop o'.start)).isSome = true := by
    rw [List.take_append_of_le_length hstart, List.drop_append_of_le_length hstart]
    exact hp.persists (mem_occurrences hp ho') v
  obtain ⟨o'', ho'', hle'', hlt''⟩ := exists_mem_occurrences hp hsome
  have hstop : o''.stop ≤ o.start := by
    refine Nat.le_of_not_lt fun hover => ?_
    obtain rfl := eq_of_mem_occurrences hp ho'' ho (by omega) hover
    omega
  have hmem := mem_occurrences_of_append hp ho'' (Nat.le_trans hstop hle)
  have hbounds' := occurrencesFrom_bounds hp o' ho'
  obtain rfl := eq_of_mem_occurrences hp hmem ho' (by omega) hlt''
  exact hstop

/-- **Where nothing reaches over a seam**, nothing would that begins where an occurrence begins when
another text stands behind the seam. -/
theorem length_le_of_unreached (hp : p.IsLocal) {u v w : Text} (hreach : Unreached p u v)
    {o : Occurrence α} (ho : o ∈ occurrences p (u ++ w)) (hlt : o.start < u.length) {x : α}
    {r : Text} (hm : p (u.take o.start).getLast? (u.drop o.start ++ v) = some (x, r)) :
    v.length ≤ r.length := by
  rw [← @List.take_append_of_le_length _ u v _ (Nat.le_of_lt hlt),
    ← List.drop_append_of_le_length (Nat.le_of_lt hlt)] at hm
  obtain ⟨o', ho', hle, hlt'⟩ := exists_mem_occurrences hp (Option.isSome_of_eq_some hm)
  have hstop := hreach o' ho' (Nat.lt_of_le_of_lt hle hlt)
  rcases Nat.lt_or_eq_of_le hle with hbefore | hsame
  · have hmem := mem_occurrences_of_append hp ho' hstop
    have := stop_le_of_mem_occurrences hp ho hmem hbefore (Nat.le_of_lt hlt)
    omega
  · have hm' := mem_occurrences hp ho'
    rw [hsame, hm, Option.some_inj, Prod.mk.injEq] at hm'
    rw [hm'.2, List.length_drop, List.length_append]
    omega

/-! ## Passing over a stretch -/

/-- What was found already is passed over. -/
theorem occurrencesFrom_skip (b : Option Char) (pos : Nat) (u v : Text) :
    occurrencesFrom p b pos u.length (u ++ v) =
      occurrencesFrom p (u.getLast?.or b) (pos + u.length) 0 v := by
  induction u generalizing b pos with
  | nil => simp
  | cons c u ih =>
    rw [getLast?_cons_or, List.length_cons, List.cons_append, occurrencesFrom, ih,
      Nat.add_assoc, Nat.add_comm 1]

/-- So is a match at the beginning. -/
theorem occurrencesFrom_of_match {b : Option Char} {m v : Text} {x : α} (hm : m ≠ [])
    (h : p b (m ++ v) = some (x, v)) (pos : Nat) :
    occurrencesFrom p b pos 0 (m ++ v) =
      ⟨pos, pos + m.length, x⟩ ::
        occurrencesFrom p (m.getLast?.or b) (pos + m.length) 0 v := by
  obtain ⟨c, m, rfl⟩ := List.exists_cons_of_ne_nil hm
  rw [List.cons_append] at h ⊢
  rw [occurrencesFrom, h]
  have hsize : (c :: (m ++ v)).length - v.length = (c :: m).length := by
    simp only [List.length_cons, List.length_append]
    omega
  simp only [hsize]
  rw [List.length_cons, Nat.add_sub_cancel, occurrencesFrom_skip, getLast?_cons_or,
    Nat.add_assoc, Nat.add_comm 1]

/-- A stretch without a mark that every match begins with is passed over, if the character behind
it belongs to no mark. -/
theorem occurrencesFrom_of_not_foundAfter {mark : Pattern β} {c : Char} {v : Text}
    (hmark : ∀ b t, (p b t).isSome = true → (mark b t).isSome = true)
    (hlast : ∀ b x, (mark b (x ++ c :: v)).isSome = true → x ≠ [] ∧ (mark b x).isSome = true)
    {b : Option Char} {u : Text} (h : mark.foundAfter b u = false) (pos : Nat) :
    occurrencesFrom p b pos 0 (u ++ c :: v) =
      occurrencesFrom p (some c) (pos + u.length + 1) 0 v := by
  have none_of : ∀ {b x}, (x ≠ [] → (mark b x).isSome = false) → p b (x ++ c :: v) = none := by
    intro b x hx
    cases hm : p b (x ++ c :: v) with
    | none => rfl
    | some y =>
      obtain ⟨hne, hsome⟩ := hlast _ _ (hmark _ _ (by rw [hm]; rfl))
      rw [hx hne] at hsome
      cases hsome
  induction u generalizing b pos with
  | nil =>
    have hn : p b ([] ++ c :: v) = none := none_of fun h => absurd rfl h
    rw [List.nil_append] at hn ⊢
    rw [occurrencesFrom, hn]
    rfl
  | cons d u ih =>
    rw [Pattern.foundAfter_cons, Bool.or_eq_false_iff] at h
    have hn : p b (d :: u ++ c :: v) = none := none_of fun _ => h.1
    rw [List.cons_append] at hn ⊢
    have hlen : pos + (d :: u).length + 1 = pos + 1 + u.length + 1 := by
      rw [List.length_cons]
      omega
    rw [occurrencesFrom, hn, hlen]
    exact ih h.2 (pos + 1)

end Mashup
end Dataflow
