import Dataflow.Proofs.Written

/-!
# Names in quoted form

A name that is given in quoted form is written as it is.  It need not be one name when it is read:
the quoted form ends at the first quote that is not doubled, and what is behind that belongs to
something else.  `Name.isNameToken_of_plain` says that such a name is never found again: a name that
is read as the plain name that was meant is read whole.
-/

set_option autoImplicit false

namespace Dataflow
namespace Mashup

/-! ## Doubled quotes -/

theorem Text.single_ne_nil {c : Char} {t : Text} (h : t ≠ []) : Text.single c t ≠ [] := by
  cases t with
  | nil => exact absurd rfl h
  | cons x t =>
    cases t with
    | nil => simp [Text.single]
    | cons y t =>
      rw [Text.single]
      split <;> simp

theorem Text.count_single {a c : Char} (h : a ≠ c) (t : Text) :
    (Text.single c t).count a = t.count a := by
  fun_induction Text.single c t with
  | case1 x y rest hc ih =>
    obtain ⟨rfl, rfl⟩ := hc
    rw [List.count_cons_of_ne h.symm, List.count_cons_of_ne h.symm, List.count_cons_of_ne h.symm,
      ih]
  | case2 x y rest hc ih => rw [List.count_cons, ih, ← List.count_cons]
  | case3 => rfl

theorem untilQuote?_eq_double {t body r : Text} (h : untilQuote? t = some (body, r)) :
    ∃ z, body = Text.double '"' z ++ ['"'] := by
  refine untilQuote?_induction (P := fun t => ∃ z, t = Text.double '"' z ++ ['"'])
    (untilQuote?_eq_some h).2 ⟨[], rfl⟩ ?_ ?_
  · rintro rest ⟨z, rfl⟩
    exact ⟨'"' :: z, rfl⟩
  · rintro c rest hc ⟨z, rfl⟩
    exact ⟨c :: z, by rw [Text.double_cons_of_ne hc, List.cons_append]⟩

namespace Name

theorem isQuoted_iff {t : Text} :
    isQuoted t = true ↔ ∃ x, t = '#' :: '"' :: (x ++ ['"']) := by
  constructor
  · intro h
    simp only [isQuoted, Text.hasPrefix, Bool.and_eq_true, beq_iff_eq, decide_eq_true_eq] at h
    obtain ⟨⟨hfront, hlast⟩, hlen⟩ := h
    rcases t with _ | ⟨c, _ | ⟨d, t⟩⟩
    · cases hfront
    · simp at hlen
    · obtain ⟨x, hx⟩ : ∃ x, t = x ++ ['"'] := by
        rw [List.getLast?_cons_cons] at hlast
        cases t with
        | nil => simp at hlen
        | cons e t => exact List.getLast?_eq_some_iff.1 (by rwa [List.getLast?_cons_cons] at hlast)
      simp only [List.isPrefixOf, Bool.and_true, Bool.and_eq_true, beq_iff_eq] at hfront
      exact ⟨x, by rw [← hfront.1, ← hfront.2, hx]⟩
  · rintro ⟨x, rfl⟩
    simp [isQuoted, Text.hasPrefix, List.getLast?_cons]

theorem plain_cons_cons (x : Text) :
    plain ('#' :: '"' :: (x ++ ['"'])) = Text.single '"' x := by
  have hslice : Text.slice ('#' :: '"' :: (x ++ ['"'])) 2
      (('#' :: '"' :: (x ++ ['"'])).length - 1) = x := by
    simp [Text.slice]
  rw [plain, if_pos (isQuoted_iff.2 ⟨x, rfl⟩), hslice]

end Name

/-- A name that is read is not empty. -/
theorem IsNameToken.plain_ne_nil {n : Text} (h : IsNameToken n) : Name.plain n ≠ [] := by
  cases h with
  | @quoted body hb hne =>
    obtain ⟨z, rfl⟩ := untilQuote?_eq_double hb
    rw [Name.plain_cons_cons, Text.single_double]
    rintro rfl
    exact hne rfl
  | bare hne hw =>
    obtain ⟨c, n, rfl⟩ := List.exists_cons_of_ne_nil hne
    have hquoted : Name.isQuoted (c :: n) = false := by
      have : c ≠ '#' := by
        rintro rfl
        exact absurd (hw _ List.mem_cons_self) (by decide)
      simp [Name.isQuoted, Text.hasPrefix, this.symm]
    rw [Name.plain, hquoted]
    simp

/-! ## Reading the same name -/

namespace Name

/-- A name in quoted form that is read as the same name ends at its first quote. -/
theorem isNameToken_of_plain_quoted {x n r s : Text}
    (h : nameToken? ('#' :: '"' :: (x ++ ['"']) ++ ' ' :: r) = some (n, s))
    (hplain : plain n = plain ('#' :: '"' :: (x ++ ['"']))) :
    IsNameToken ('#' :: '"' :: (x ++ ['"'])) := by
  obtain ⟨ht, hn⟩ := exists_of_nameToken? h
  cases hn with
  | bare hne hw =>
    obtain ⟨c, n, rfl⟩ := List.exists_cons_of_ne_nil hne
    obtain rfl : '#' = c := (List.cons.inj ht).1
    exact absurd (hw _ List.mem_cons_self) (by decide)
  | @quoted body hbody hne =>
    obtain ⟨z, rfl⟩ := untilQuote?_eq_double hbody
    rw [plain_cons_cons, plain_cons_cons, Text.single_double] at hplain
    have hsplit : x ++ '"' :: ' ' :: r = Text.double '"' z ++ '"' :: s := by
      simpa using ht
    rcases append_eq_append_cases hsplit with ⟨t, hz, ht'⟩ | ⟨c, t, rfl, hs⟩
    · rcases t with _ | ⟨d, t⟩
      · rw [List.append_nil] at hz
        rw [← hz]
        exact .quoted hbody hne
      · -- the blank behind the name would be part of it
        exfalso
        rcases t with _ | ⟨e, t⟩
        · simp at ht'
        · obtain rfl : ' ' = e := (List.cons.inj (List.cons.inj ht').2).1
          have hcount := Text.count_single (by decide : ' ' ≠ '"') (Text.double '"' z)
          rw [Text.single_double, hz, hplain, Text.count_single (by decide)] at hcount
          simp [List.count_cons] at hcount
    · -- the name would go on behind its quote
      exfalso
      obtain rfl : '"' = c := (List.cons.inj hs).1
      rw [Text.single_double_append] at hplain
      exact Text.single_ne_nil (List.cons_ne_nil _ _) (List.append_right_eq_self.1 hplain.symm)

/-- A written name that is read as the same name is read whole. -/
theorem isNameToken_of_plain {name n r s : Text}
    (h : nameToken? (written name ++ ' ' :: r) = some (n, s))
    (hplain : plain n = plain (written name)) : IsNameToken (written name) := by
  cases hq : isQuoted name with
  | true =>
    have hwritten : written name = name := by rw [written, hq, Bool.true_or, if_pos rfl]
    rw [hwritten] at h hplain ⊢
    obtain ⟨x, rfl⟩ := isQuoted_iff.1 hq
    exact isNameToken_of_plain_quoted h hplain
  | false =>
    refine isNameToken_written_of_not_isQuoted ?_ hq
    rintro rfl
    cases h

end Name

end Mashup
end Dataflow
