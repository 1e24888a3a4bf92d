import Dataflow.Proofs.Concatenation
import Dataflow.Proofs.Nesting

/-!
# The attribute of the section

`withSectionAttribute` puts an attribute in front of the section header.  Done a second time it
should find the attribute it wrote, which it looks for in front of the header.  So what has to be
shown is that the header is still behind the attribute: no header begins in the attribute, none that
began before is finished in it, and one that is finished before it would have been the first
already.  An attribute that lacks the word `section` does nothing of the kind
(`withSectionAttribute_withSectionAttribute`), and neither does any other `IsSectionAttribute`.

What makes a header the first is `sectionHeader?_of_first`, and where the headers lie when an
attribute was put in front of the first is `le_start_of_live`.
-/

set_option autoImplicit false

namespace Dataflow
namespace Mashup

/-- A text in brackets in which no section header begins. -/
structure IsSectionAttribute (a : Text) : Prop where
  /-- It begins with a bracket. -/
  opened : a.head? = some '['
  /-- It ends with a bracket. -/
  ended : a.getLast? = some ']'
  /-- There is no header in it. -/
  unmarked : (keywordMark (text "section")).isIn a = false

/-! ## Headers around a bracket -/

/-- What a header takes that begins in the first of two pieces and reaches the second. -/
theorem named_of_mem_occurrences {u w : Text} {o : Occurrence Unit}
    (ho : o ∈ occurrences sectionHeader (u ++ w)) (hlt : o.start < u.length)
    (hstop : u.length ≤ o.stop) :
    startsWord (u.take o.start).getLast? = true ∧
      ∃ n, Named (text "section") ';' (u.drop o.start ++ w.take (o.stop - u.length)) n := by
  obtain ⟨hb, x, n, hx, hnamed⟩ :=
    sectionHeader_eq_some_iff.1 (mem_occurrences isLocal_sectionHeader ho)
  have hle : o.start ≤ o.stop := Nat.le_trans (Nat.le_of_lt hlt) hstop
  rw [List.take_append_of_le_length (Nat.le_of_lt hlt)] at hb
  rw [← Text.slice_append_drop (u ++ w) hle] at hx
  obtain rfl := List.append_cancel_right hx
  rw [Text.slice, List.take_append, List.take_of_length_le hstop,
    List.drop_append_of_le_length (Nat.le_of_lt hlt)] at hnamed
  exact ⟨hb, n, hnamed⟩

/-- No header that counts reaches over a bracket in code. -/
theorem stop_le_of_bracket {u v : Text} (hu : (Lex.code.run u).isCode = true)
    {o : Occurrence Unit} (ho : o ∈ sectionHeader.live (u ++ '[' :: v)) (hlt : o.start < u.length) :
    o.stop ≤ u.length := by
  refine Nat.le_of_not_lt fun hstop => ?_
  obtain ⟨hocc, hcode⟩ := (startsPlain_sectionHeader.mem_live_iff isLocal_sectionHeader).1 ho
  obtain ⟨c, hc, hplain, -⟩ := startsPlain_sectionHeader.getElem? isLocal_sectionHeader hocc
  obtain ⟨-, n, hnamed⟩ := named_of_mem_occurrences hocc hlt (Nat.le_of_lt hstop)
  obtain ⟨i, hi⟩ := Nat.exists_eq_add_of_lt hstop
  rw [hi, Nat.add_assoc, Nat.add_sub_cancel_left, List.take_succ_cons] at hnamed
  have hstring := hnamed.run_of_bracket (by decide) (by decide) (by decide) (by decide)
  rw [List.take_append_of_le_length (Nat.le_of_lt hlt)] at hcode
  rw [List.getElem?_append_left hlt] at hc
  rw [Lex.run_eq_run_drop hc hplain hcode, hstring] at hu
  cases hu

/-! ## The first header -/

/-- An occurrence that ends in the first of two pieces is one of this piece alone. -/
theorem Pattern.mem_live_of_append {α : Type} {p : Pattern α} (hp : p.IsLocal)
    (hs : p.StartsPlain) {u v : Text} {o : Occurrence α} (ho : o ∈ p.live (u ++ v))
    (hstop : o.stop ≤ u.length) : o ∈ p.live u := by
  obtain ⟨hocc, hcode⟩ := (hs.mem_live_iff hp).1 ho
  have hbounds := Pattern.live_bounds hp ho
  rw [List.take_append_of_le_length (by omega)] at hcode
  exact (hs.mem_live_iff hp).2 ⟨mem_occurrences_of_append hp hocc hstop, hcode⟩

theorem sectionHeader_seam {b : Option Char} (hb : startsWord b = true) (v : Text) :
    sectionHeader b v = sectionHeader none v := by
  rw [sectionHeader, sectionHeader, hb]
  rfl

/-- **What holds at the first header**: it is read in code, and nothing reaches over its
beginning. -/
theorem header_of_sectionHeader? {u v : Text} (hh : sectionHeader? (u ++ v) = some u.length) :
    (Lex.code.run u).isCode = true ∧ (∃ r, sectionHeader u.getLast? v = some ((), r)) ∧
      Unreached sectionHeader u v := by
  rw [sectionHeader?_eq, Option.map_eq_some_iff] at hh
  obtain ⟨h, hhead, hstart⟩ := hh
  obtain ⟨hocc, hcode⟩ :=
    (startsPlain_sectionHeader.mem_live_iff isLocal_sectionHeader).1 (List.mem_of_head? hhead)
  have hmatch := mem_occurrences isLocal_sectionHeader hocc
  rw [hstart, List.take_left] at hcode hmatch
  rw [List.drop_left] at hmatch
  exact ⟨hcode, ⟨_, hmatch⟩, unreached_of_mem isLocal_sectionHeader hocc hstart⟩

/-- No header that counts begins before the first. -/
theorem le_start_of_sectionHeader? {t : Text} {i : Nat} (hh : sectionHeader? t = some i)
    {o : Occurrence Unit} (ho : o ∈ sectionHeader.live t) : i ≤ o.start := by
  rw [sectionHeader?_eq, Option.map_eq_some_iff] at hh
  obtain ⟨h, hhead, rfl⟩ := hh
  obtain ⟨rest, hlive⟩ := List.head?_eq_some_iff.1 hhead
  have hpair := Pattern.live_pairwise isLocal_sectionHeader t
  have hbounds := Pattern.live_bounds isLocal_sectionHeader (List.mem_of_head? hhead)
  rw [hlive] at ho hpair
  rcases List.mem_cons.1 ho with rfl | hrest
  · exact Nat.le_refl _
  · have := (List.pairwise_cons.1 hpair).1 o hrest
    omega

/-- A header that counts is the first when none counts before it. -/
theorem sectionHeader?_of_first {t : Text} {o : Occurrence Unit} (ho : o ∈ sectionHeader.live t)
    (hfirst : ∀ o' ∈ sectionHeader.live t, o.start ≤ o'.start) :
    sectionHeader? t = some o.start := by
  cases hh : sectionHeader? t with
  | none =>
    rw [sectionHeader?_eq, Option.map_eq_none_iff, List.head?_eq_none_iff] at hh
    rw [hh] at ho
    cases ho
  | some i =>
    have hle := le_start_of_sectionHeader? hh ho
    rw [sectionHeader?_eq, Option.map_eq_some_iff] at hh
    obtain ⟨h, hhead, rfl⟩ := hh
    rw [Nat.le_antisymm hle (hfirst h (List.mem_of_head? hhead))]

section

variable {u v : Text} (hh : sectionHeader? (u ++ v) = some u.length)

include hh

/-- With a bracket in front of what was the first header, no header begins before the bracket. -/
theorem length_le_start_of_live {w : Text} {o : Occurrence Unit}
    (ho : o ∈ sectionHeader.live (u ++ '[' :: w)) : u.length ≤ o.start := by
  refine Nat.le_of_not_lt fun hlt => ?_
  obtain ⟨hcode, ⟨r, hmatch⟩, hreach⟩ := header_of_sectionHeader? hh
  -- it would be found in the text in front, and so in front of the first header
  have hfront := Pattern.mem_live_of_append isLocal_sectionHeader startsPlain_sectionHeader ho
    (stop_le_of_bracket hcode ho hlt)
  obtain ⟨c, v, rfl, hplain, -⟩ := startsPlain_sectionHeader hmatch
  rw [← leavesNothingOpen_eq] at hcode
  have happend := Pattern.live_append isLocal_sectionHeader startsPlain_sectionHeader
    (readsAfresh_of_isPlain hcode hplain v) hreach
    (sectionHeader_seam (sectionHeader_eq_some_iff.1 hmatch).1 _)
  have hle := le_start_of_sectionHeader? hh (happend ▸ List.mem_append_left _ hfront)
  omega

variable {a : Text} (hopened : a.head? = some '[')
  (hmark : (keywordMark (text "section")).isIn a = false)

include hopened hmark

/-- No header begins in an unmarked attribute that a header follows, nor in the line break between
them. -/
theorem sectionHeader_eq_none_in_line {p q : Text} {c : Char} (hpq : a ++ lineBreak = p ++ c :: q) :
    sectionHeader (u ++ p).getLast? (c :: (q ++ v)) = none := by
  refine sectionHeader_eq_none_iff.2 ?_
  rcases append_eq_append_cases hpq with ⟨p, rfl, hbreak⟩ | ⟨d, q, rfl, hq⟩
  · refine named_eq_none_of_isBlank isKeyword_section ?_
    have hblank : Text.allBlank lineBreak = true := by decide
    exact List.all_eq_true.1 hblank c (hbreak ▸ List.mem_append_right p List.mem_cons_self)
  · obtain ⟨rfl, rfl⟩ := List.cons.inj hq
    rcases List.eq_nil_or_concat p with rfl | ⟨p, d, rfl⟩
    · obtain rfl : c = '[' := Option.some.inj hopened
      exact named_eq_none_of_cons isKeyword_section (by decide)
    · obtain ⟨-, ⟨r, hmatch⟩, -⟩ := header_of_sectionHeader? hh
      obtain ⟨-, y, n, rfl, hy⟩ := sectionHeader_eq_some_iff.1 hmatch
      have hsome := isSome_eq_false_of_foundAfter hmark
      rw [List.concat_eq_append] at hsome ⊢
      rw [Option.or_none, List.getLast?_concat] at hsome
      rw [← List.append_assoc u, List.getLast?_concat, ← List.cons_append, ← List.cons_append,
        List.append_assoc]
      exact named_eq_none_of_unmarked isKeyword_section (by decide) (by decide) hsome (by decide)
        (by decide) hy

/-- So headers that do not begin in front of the attribute begin behind it. -/
theorem le_start_of_line {o : Occurrence Unit}
    (ho : o ∈ occurrences sectionHeader (u ++ (a ++ lineBreak) ++ v)) (hle : u.length ≤ o.start) :
    (u ++ (a ++ lineBreak)).length ≤ o.start := by
  rw [List.append_assoc u] at ho
  have hmatch := mem_occurrences isLocal_sectionHeader ho
  obtain ⟨i, hi⟩ := Nat.exists_eq_add_of_le hle
  refine Nat.le_of_not_lt fun hlt => ?_
  rw [List.length_append, hi, Nat.add_lt_add_iff_left] at hlt
  rw [hi, List.take_length_add_append, List.drop_length_add_append,
    List.take_append_of_le_length (Nat.le_of_lt hlt),
    List.drop_append_of_le_length (Nat.le_of_lt hlt)] at hmatch
  obtain ⟨c, q, hq⟩ := List.exists_cons_of_ne_nil (mt List.drop_eq_nil_iff.1 (Nat.not_le.2 hlt))
  have hnone := sectionHeader_eq_none_in_line hh hopened hmark
    (hq ▸ (List.take_append_drop i (a ++ lineBreak)).symm)
  rw [hq, List.cons_append, hnone] at hmatch
  cases hmatch

/-- **When an attribute was put in front of the first header**, the headers that count lie behind
it. -/
theorem le_start_of_live {o : Occurrence Unit}
    (ho : o ∈ sectionHeader.live (u ++ (a ++ lineBreak) ++ v)) :
    (u ++ (a ++ lineBreak)).length ≤ o.start := by
  refine le_start_of_line hh hopened hmark (List.mem_filter.1 ho).1 ?_
  obtain ⟨a, rfl⟩ := List.head?_eq_some_iff.1 hopened
  rw [List.append_assoc] at ho
  exact length_le_start_of_live hh ho

end

/-! ## Writing the attribute -/

/-- **What is written.** -/
theorem withSectionAttribute_cases {t : Text} {attr : Option Text} {a : Text}
    (hgiven : Attribute.given? attr = some a) :
    (withSectionAttribute t attr = t ∧
        ∀ i, sectionHeader? t = some i → hasSectionAttribute t i a = true) ∨
      ∃ u v, t = u ++ v ∧ sectionHeader? (u ++ v) = some u.length ∧
        hasSectionAttribute (u ++ v) u.length a = false ∧
        withSectionAttribute t attr = u ++ (a ++ lineBreak) ++ v := by
  cases hh : sectionHeader? t with
  | none => exact .inl ⟨by simp only [withSectionAttribute, hgiven, hh], nofun⟩
  | some i =>
    cases hhas : hasSectionAttribute t i a with
    | true =>
      refine .inl ⟨by simp only [withSectionAttribute, hgiven, hh, hhas, if_true], ?_⟩
      rintro _ ⟨⟩
      exact hhas
    | false =>
      have hlen : (t.take i).length = i := by
        rw [sectionHeader?_eq, Option.map_eq_some_iff] at hh
        obtain ⟨o, hhead, rfl⟩ := hh
        have := Pattern.live_bounds isLocal_sectionHeader (List.mem_of_head? hhead)
        rw [List.length_take]
        omega
      refine .inr ⟨t.take i, t.drop i, (List.take_append_drop i t).symm, ?_, ?_, ?_⟩
      · rw [List.take_append_drop, hlen, hh]
      · rw [List.take_append_drop, hlen, hhas]
      · simp [withSectionAttribute, hgiven, hh, hhas]

/-- A header with the attribute in front is not given another one. -/
theorem withSectionAttribute_of_front {attr : Option Text} {a u v : Text}
    (hgiven : Attribute.given? attr = some a) (ha : IsSectionAttribute a)
    (hh : sectionHeader? (u ++ v) = some u.length) :
    withSectionAttribute (u ++ (a ++ lineBreak) ++ v) attr = u ++ (a ++ lineBreak) ++ v := by
  rcases withSectionAttribute_cases (t := u ++ (a ++ lineBreak) ++ v) hgiven with
    ⟨hsame, -⟩ | ⟨w, v', ht, hfound, hhas, -⟩
  · exact hsame
  · -- the first header lies behind the attribute, where it is found
    exfalso
    rw [sectionHeader?_eq, Option.map_eq_some_iff] at hfound
    obtain ⟨o, hhead, hstart⟩ := hfound
    have hle := le_start_of_live hh ha.opened ha.unmarked (ht ▸ List.mem_of_head? hhead)
    obtain ⟨z, rfl⟩ := List.prefix_of_prefix_length_le (List.prefix_append _ v)
      (ht ▸ List.prefix_append w v') (hstart ▸ hle)
    have hoccurs : Text.occursIn a (u ++ (a ++ lineBreak) ++ z) = true :=
      Text.occursIn_iff.2 ⟨u, lineBreak ++ z, by simp⟩
    rw [hasSectionAttribute, List.take_left, hoccurs, Bool.true_or] at hhas
    cases hhas

/-- **An attribute is written once.** -/
theorem withSectionAttribute_idem {t : Text} {attr : Option Text}
    (h : ∀ a, Attribute.given? attr = some a → IsSectionAttribute a) :
    withSectionAttribute (withSectionAttribute t attr) attr = withSectionAttribute t attr := by
  cases hgiven : Attribute.given? attr with
  | none => simp only [withSectionAttribute, hgiven]
  | some a =>
    rcases withSectionAttribute_cases (t := t) hgiven with ⟨hsame, -⟩ | ⟨u, v, rfl, hh, -, hput⟩
    · rw [hsame, hsame]
    · rw [hput, withSectionAttribute_of_front hgiven (h a hgiven) hh]

/-! ## Attributes without the word -/

/-- A keyword with a blank behind it is a word of its own. -/
theorem word_of_keywordMark {letters : Text} (b : Option Char) (t : Text)
    (h : (keywordMark letters b t).isSome = true) : (Pattern.word letters b t).isSome = true := by
  obtain ⟨hb, k, c, r, rfl, hk, hc⟩ := keywordMark_isSome_iff.1 h
  have hends : endsWord (c :: r) = true := by simp [endsWord, isWord_of_isBlank hc]
  rw [Pattern.word, hb, keyword?_append hk]
  simp only [Option.bind_eq_bind, Option.bind_some, hends]
  rfl

/-- **A section attribute in brackets that does not have the word `section` in it** does not stack:
the second time nothing changes. -/
theorem withSectionAttribute_withSectionAttribute {t a : Text} {attr : Option Text}
    (hgiven : Attribute.given? attr = some a) (hopened : a.head? = some '[')
    (hended : a.getLast? = some ']') (hword : (Pattern.word (text "section")).isIn a = false) :
    withSectionAttribute (withSectionAttribute t attr) attr = withSectionAttribute t attr := by
  refine withSectionAttribute_idem fun a' ha' => ?_
  obtain rfl : a = a' := Option.some.inj (hgiven.symm.trans ha')
  refine ⟨hopened, hended, Bool.eq_false_iff.2 fun hmark => ?_⟩
  exact Bool.eq_false_iff.1 hword (Pattern.foundAfter_mono word_of_keywordMark hmark)

/-- A marker that belongs to the section. -/
def stagingMarker : Text := text "[StagingDefinition = [Kind = \"FastCopy\"]]"

/-- A document with a header in a comment, and another one in code. -/
def headedDocument : Text :=
  text "// section Old;\r\nsection Section1;\r\nshared A = 1;"

theorem withSectionAttribute_withSectionAttribute_headedDocument :
    withSectionAttribute headedDocument (some stagingMarker) =
        text "// section Old;\r\n" ++
          (stagingMarker ++ text "\r\nsection Section1;\r\nshared A = 1;") ∧
      withSectionAttribute (withSectionAttribute headedDocument (some stagingMarker))
          (some stagingMarker) =
        withSectionAttribute headedDocument (some stagingMarker) :=
  ⟨by decide +kernel, @withSectionAttribute_withSectionAttribute headedDocument stagingMarker _
    (by decide +kernel) (by decide) (by decide) (by decide +kernel)⟩

end Mashup
end Dataflow
