import Dataflow.Proofs.SectionAttribute
import Dataflow.Proofs.Written

/-!
# The key of the section

An attribute that is put in front of the section header is found there again by its key: the header
that comes behind it is still the first one (`sectionHeader?_put`).  For this nothing may begin in
the attribute or at its seams, and nothing that began before may reach over it.  A header-like text
that reaches over the attribute does so with a quoted name; the same text without the attribute in
it (`Named.exists_without`) would have reached over the header, which it did not.

So the key is missing afterwards just when nothing was written, and that is decided by looking for
the attribute in all of the text before the header, comments included.  `BearsKey`, in contrast,
asks for an attribute in code.
-/

set_option autoImplicit false

namespace Dataflow
namespace Mashup

/-! ## A header with a gap -/

theorem untilQuote?_cons_of_ne {c : Char} (hc : c ≠ '"') (t : Text) :
    untilQuote? (c :: t) = (untilQuote? t).map fun (body, rest) => (c :: body, rest) := by
  simp [untilQuote?, hc]

/-- A quoted name that has not ended goes on to the end of the name in what follows. -/
theorem untilQuote?_append_of_open {y z : Text} {c : Char} (hc : c ≠ '"')
    (h : untilQuote? (y ++ c :: z) = some (y ++ c :: z, [])) (w : Text) :
    untilQuote? (y ++ w) = (untilQuote? w).map fun (body, rest) => (y ++ body, rest) := by
  have hnil : untilQuote? ([] ++ w) =
      (untilQuote? w).map fun (body, rest) => ([] ++ body, rest) := by
    simp
  generalize ht : y ++ c :: z = t at h
  fun_induction untilQuote? t generalizing y with
  | case1 => cases h
  | case2 rest ih =>
    rcases y with _ | ⟨d, _ | ⟨e, y⟩⟩
    · exact hnil
    · exact absurd (by simp_all) hc
    · simp only [List.cons_append, List.cons.injEq] at ht
      obtain ⟨rfl, rfl, ht'⟩ := ht
      have hrest : untilQuote? rest = some (rest, []) := by simpa [Option.map_eq_some_iff] using h
      simp only [List.cons_append, untilQuote?, ih ht' hrest, Option.map_map]
      rfl
  | case3 rest =>
    obtain rfl : rest = [] := by simpa using congrArg (Option.map Prod.snd) h
    rcases y with _ | ⟨d, y⟩
    · exact hnil
    · simp at ht
  | case4 d rest _ hd ih =>
    rcases y with _ | ⟨e, y⟩
    · exact hnil
    · rw [List.cons_append, List.cons.injEq] at ht
      obtain ⟨rfl, ht'⟩ := ht
      have hrest : untilQuote? rest = some (rest, []) := by simpa [Option.map_eq_some_iff] using h
      rw [List.cons_append, untilQuote?_cons_of_ne fun h => hd h, ih ht' hrest, Option.map_map]
      rfl

/-- A quoted name stays one without a stretch of it that lies between two of its characters. -/
theorem untilQuote?_without {y z t : Text} {b c : Char} (hb : b ≠ '"') (hc : c ≠ '"')
    (h : untilQuote? (y ++ b :: (z ++ c :: t)) = some (y ++ b :: (z ++ c :: t), [])) :
    untilQuote? (y ++ c :: t) = some (y ++ c :: t, []) := by
  have hopen := untilQuote?_append_of_open hb h (c :: t)
  have hend : untilQuote? (c :: t) = some (c :: t, []) := by
    rw [← List.cons_append, ← List.append_assoc] at h
    have hwhole := untilQuote?_append_of_open hc h (c :: t)
    rw [h, eq_comm, Option.map_eq_some_iff] at hwhole
    obtain ⟨⟨body, rest⟩, hend, heq⟩ := hwhole
    simp only [Prod.mk.injEq, List.append_cancel_left_eq] at heq
    rw [hend, heq.1, heq.2]
  rw [hopen, hend, Option.map_some]

/-- **A header that reaches over a stretch from a bracket on**, and over the character behind it,
is a header without this stretch as well: both stand in its name. -/
theorem Named.exists_without {letters n u w v : Text} {sign c : Char}
    (h : Named letters sign (u ++ '[' :: (w ++ c :: v)) n) (hbracket : avoids letters '[' = true)
    (hs : sign ≠ '[') (hc : isBlank c = false) (hquote : c ≠ '"') (hsign : c ≠ sign) :
    ∃ n', Named letters sign (u ++ c :: v) n' := by
  obtain ⟨k, ws, y, z, ws', hk, hne, hws, hb, hws', rfl, hv⟩ := h.exists_of_bracket hbracket hs
  have hend : c ∉ ws' ++ [sign] := by
    rw [List.mem_append, List.mem_singleton, not_or]
    exact ⟨not_mem_of_allBlank hws' hc, hsign⟩
  rcases append_eq_append_cases hv.symm with ⟨t, rfl, ht⟩ | ⟨d, t, rfl, ht⟩
  · -- the character would stand behind the name
    exact absurd (by rw [ht]; simp) hend
  · obtain ⟨rfl, rfl⟩ := List.cons.inj ht
    have hbody := untilQuote?_without (by decide) hquote hb
    have hname : IsNameToken ('#' :: '"' :: (y ++ c :: t)) := by
      refine .quoted hbody fun hquoted => hquote ?_
      have hmem : c ∈ y ++ c :: t := List.mem_append_right y List.mem_cons_self
      rw [hquoted] at hmem
      exact List.mem_singleton.1 hmem
    refine ⟨'#' :: '"' :: (y ++ c :: t), ?_⟩
    simpa using Named.mk hk hne hws hname hws'

/-! ## The header behind the attribute -/

/-- A line with a bracket at its beginning ends in code when it leaves nothing open. -/
theorem isCode_run_line {a u : Text} (hopened : a.head? = some '[')
    (hclosed : leavesNothingOpen a = true) (hcode : (Lex.code.run u).isCode = true) :
    (Lex.code.run (u ++ (a ++ lineBreak))).isCode = true := by
  obtain ⟨a, rfl⟩ := List.head?_eq_some_iff.1 hopened
  rw [Lex.run_append, List.cons_append, Lex.run_cons_of_isPlain (by decide) hcode,
    ← List.cons_append]
  exact congrArg Lex.isCode (run_line hclosed)

section

variable {a u v : Text} (hh : sectionHeader? (u ++ v) = some u.length)
  (hopened : a.head? = some '[')

include hh hopened

/-- **No header reaches over the attribute**, be it one in a literal or comment. -/
theorem length_le_start_of_line {o : Occurrence Unit}
    (ho : o ∈ occurrences sectionHeader (u ++ (a ++ lineBreak) ++ v))
    (hstop : (u ++ (a ++ lineBreak)).length < o.stop) : u.length ≤ o.start := by
  refine Nat.le_of_not_lt fun hlt => ?_
  obtain ⟨-, ⟨r, hmatch⟩, hreach⟩ := header_of_sectionHeader? hh
  obtain ⟨c, v, rfl, hplain, hblank⟩ := startsPlain_sectionHeader hmatch
  have hquote : c ≠ '"' := by
    rintro rfl
    cases hplain
  have hsign : c ≠ ';' := by
    rintro rfl
    rw [sectionHeader_eq_none_iff.2 (named_eq_none_of_cons isKeyword_section (by decide))] at hmatch
    cases hmatch
  obtain ⟨a, rfl⟩ := List.head?_eq_some_iff.1 hopened
  rw [List.append_assoc u] at ho
  obtain ⟨hb, n, hnamed⟩ := named_of_mem_occurrences ho hlt (by
    simp only [List.length_append] at hstop
    omega)
  obtain ⟨i, hi⟩ := Nat.exists_eq_add_of_lt hstop
  have hsize : o.stop - u.length = ('[' :: a ++ lineBreak).length + (i + 1) := by
    rw [hi, @List.length_append _ u]
    omega
  rw [hsize, List.take_length_add_append, List.take_succ_cons, List.cons_append,
    List.cons_append] at hnamed
  -- without the attribute it would have reached over the header
  obtain ⟨n', hnamed'⟩ := hnamed.exists_without (by decide) (by decide) hblank hquote hsign
  have hsome : sectionHeader (u.take o.start).getLast? (u.drop o.start ++ c :: v) =
      some ((), v.drop i) := by
    refine sectionHeader_eq_some_iff.2 ⟨hb, _, n', ?_, hnamed'⟩
    rw [List.append_assoc, List.cons_append, List.take_append_drop]
  have hle := length_le_of_unreached isLocal_sectionHeader hreach ho hlt hsome
  simp only [List.length_cons, List.length_drop] at hle
  omega

/-- **The header behind an attribute that is put in front of it** is the first one. -/
theorem sectionHeader?_put (hmark : (keywordMark (text "section")).isIn a = false)
    (hclosed : leavesNothingOpen a = true) :
    sectionHeader? (u ++ (a ++ lineBreak) ++ v) = some (u ++ (a ++ lineBreak)).length := by
  obtain ⟨hcode, ⟨r, hmatch⟩, -⟩ := header_of_sectionHeader? hh
  -- there it is found, and nothing reaches over it
  have hat : sectionHeader.At (u ++ (a ++ lineBreak) ++ v) (u ++ (a ++ lineBreak)).length := by
    have hline : (u ++ (a ++ lineBreak)).getLast? = some '\n' := by
      rw [← List.append_assoc, List.getLast?_append]
      rfl
    rw [Pattern.At, List.take_left, List.drop_left, hline, sectionHeader_seam (by decide),
      ← sectionHeader_seam (sectionHeader_eq_some_iff.1 hmatch).1, hmatch]
    rfl
  obtain ⟨o, ho, hle, hlt⟩ := exists_mem_occurrences isLocal_sectionHeader hat
  have hstart : o.start = (u ++ (a ++ lineBreak)).length :=
    Nat.le_antisymm hle
      (le_start_of_line hh hopened hmark ho (length_le_start_of_line hh hopened ho hlt))
  have hlive : o ∈ sectionHeader.live (u ++ (a ++ lineBreak) ++ v) := by
    refine (startsPlain_sectionHeader.mem_live_iff isLocal_sectionHeader).2 ⟨ho, ?_⟩
    rw [hstart, List.take_left]
    exact isCode_run_line hopened hclosed hcode
  rw [← hstart]
  exact sectionHeader?_of_first hlive fun o' ho' => hstart ▸ le_start_of_live hh hopened hmark ho'

end

/-! ## The key of a section -/

/-- An attribute of a key is opened in code, in front of the first section header. -/
def BearsKey (t : Text) (key : WideText) : Prop :=
  ∃ header, sectionHeader? t = some header ∧ ∃ i < header, t[i]? = some '[' ∧
    isCode (literalSpans t) i = true ∧ Attribute.key? (Text.slice t i header) = some key

instance (t : Text) (key : WideText) : Decidable (BearsKey t key) :=
  decidable_of_iff
    ((sectionHeader? t).any fun header => decide (∃ i < header, t[i]? = some '[' ∧
      isCode (literalSpans t) i = true ∧ Attribute.key? (Text.slice t i header) = some key))
    ((Option.any_eq_true _ _).trans
      (exists_congr fun _ => and_congr_right fun _ => decide_eq_true_iff))

theorem Attribute.head?_of_key? {a : Text} {key : WideText} (hkey : Attribute.key? a = some key)
    (hstrip : Text.strip a = a) : a.head? = some '[' := by
  rw [Attribute.key?, hstrip] at hkey
  obtain ⟨rest, hsign, -⟩ := Option.bind_eq_some_iff.1 hkey
  rw [sign?_eq_some_iff.1 hsign, List.head?_cons]

theorem hasSectionAttribute_iff {t a : Text} {header : Nat} {key : WideText}
    (hkey : Attribute.key? a = some key) :
    hasSectionAttribute t header a = true ↔
      a <:+: t.take header ∨ attributeKeyBefore? t header = some key := by
  rw [hasSectionAttribute, Bool.or_eq_true, Text.occursIn_iff, hkey]
  refine or_congr_right ?_
  cases attributeKeyBefore? t header with
  | none => simp
  | some key' => exact beq_iff_eq.trans eq_comm

/-- A section bears the key of an attribute that was put in front of its header. -/
theorem bearsKey_put {a u v : Text} {key : WideText} (hstrip : Text.strip a = a)
    (hkey : Attribute.key? a = some key)
    (hmark : (keywordMark (text "section")).isIn a = false) (hclosed : leavesNothingOpen a = true)
    (hh : sectionHeader? (u ++ v) = some u.length) :
    BearsKey (u ++ (a ++ lineBreak) ++ v) key := by
  have hopened := Attribute.head?_of_key? hkey hstrip
  have hbracket : (u ++ (a ++ lineBreak) ++ v)[u.length]? = some '[' := by
    obtain ⟨a, rfl⟩ := List.head?_eq_some_iff.1 hopened
    simp
  refine ⟨_, sectionHeader?_put hh hopened hmark hclosed, u.length, ?_, hbracket, ?_, ?_⟩
  · simp [lineBreak]
  · rw [isCode_literalSpans hbracket (by decide), List.append_assoc, List.take_left]
    exact (header_of_sectionHeader? hh).1
  · rw [Text.slice, List.take_left, List.drop_left, Attribute.key?,
      Text.strip_append_of_allBlank a (by decide)]
    exact hkey

/-- **A section bears the key of an attribute it was given, unless it was taken to have it
already**, by its text anywhere before the header or by the key right before it. -/
theorem bearsKey_withSectionAttribute_iff {t a : Text} {attr : Option Text} {header : Nat}
    {key : WideText} (hheader : sectionHeader? t = some header)
    (hgiven : Attribute.given? attr = some a) (hkey : Attribute.key? a = some key)
    (hmark : (keywordMark (text "section")).isIn a = false)
    (hclosed : leavesNothingOpen a = true) :
    BearsKey (withSectionAttribute t attr) key ↔
      BearsKey t key ∨ (¬a <:+: t.take header ∧ attributeKeyBefore? t header ≠ some key) := by
  rw [← not_or, ← hasSectionAttribute_iff hkey]
  rcases withSectionAttribute_cases (t := t) hgiven with ⟨hsame, hhas⟩ | ⟨u, v, rfl, hh, hhas, hput⟩
  · rw [hsame, or_iff_left (not_not.2 (hhas header hheader))]
  · obtain rfl : u.length = header := Option.some.inj (hh.symm.trans hheader)
    rw [hput, Bool.not_eq_true]
    have hstrip := (Attribute.given?_eq_some hgiven).2
    exact iff_of_true (bearsKey_put hstrip hkey hmark hclosed hh) (.inr hhas)

theorem bearsKey_withSectionAttribute_iff_headedDocument :
    sectionHeader? headedDocument = some 17 ∧
      Attribute.key? stagingMarker = some (wide "stagingdefinition") ∧
      ¬BearsKey headedDocument (wide "stagingdefinition") ∧
      BearsKey (withSectionAttribute headedDocument (some stagingMarker))
        (wide "stagingdefinition") := by
  have hheader : sectionHeader? headedDocument = some 17 := by decide +kernel
  have hkey : Attribute.key? stagingMarker = some (wide "stagingdefinition") := by decide +kernel
  refine ⟨hheader, hkey, by decide +kernel, ?_⟩
  exact (@bearsKey_withSectionAttribute_iff headedDocument stagingMarker _ _ _ hheader
    (by decide +kernel) hkey (by decide +kernel) (by decide +kernel)).2 (.inr (by decide +kernel))

/-- A document whose marker is commented out. -/
def commentedMarkerDocument : Text :=
  text "// " ++ (stagingMarker ++ text "\r\nsection Section1;\r\nshared A = 1;")

/-- **A marker in a comment passes for the attribute of the section**, which is left without. -/
theorem not_bearsKey_commentedMarkerDocument :
    sectionHeader? commentedMarkerDocument = some 46 ∧
      Attribute.given? (some stagingMarker) = some stagingMarker ∧
      Attribute.key? stagingMarker = some (wide "stagingdefinition") ∧
      (keywordMark (text "section")).isIn stagingMarker = false ∧
      leavesNothingOpen stagingMarker = true ∧
      withSectionAttribute commentedMarkerDocument (some stagingMarker) =
        commentedMarkerDocument ∧
      ¬BearsKey (withSectionAttribute commentedMarkerDocument (some stagingMarker))
        (wide "stagingdefinition") := by
  decide +kernel

end Mashup
end Dataflow
