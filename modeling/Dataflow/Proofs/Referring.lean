import Dataflow.Proofs.Hiding
import Mathlib.Data.List.TakeWhile

/-!
# References to a query

The attribute of a query refers to another one by its name in quotes.  Everywhere in a document a
quote inside quotes is written twice, but the pattern that finds the name in an attribute takes it
to end at the first quote.  So of a name with a quote in it only the part in front of the quote is
read, and the query that is meant stays visible (`Metadata.isHidden_referenceTo_iff`).

Any other name is read as it is, whatever it looks like, since the pattern cannot begin anew inside
a doubled text.  That is `Mashup.Attribute.firstAfter_double`, and it is shown piece by piece:
`Mashup.PassesQuotes` holds of the readers for which it does not matter whether quotes are doubled.
-/

set_option autoImplicit false

namespace Dataflow
namespace Mashup

/-! ## Reading through doubled quotes -/

/-- A reader stops in front of the first quote, so it does not matter whether quotes are doubled. -/
def PassesQuotes (read : Text → Option Text) : Prop :=
  ∀ n w, read (Text.double '"' n ++ '"' :: w) =
    (read n).map fun r => Text.double '"' r ++ '"' :: w

theorem passesQuotes_sign? {s : Char} (hs : s ≠ '"') : PassesQuotes (sign? s) := by
  intro n w
  cases n with
  | nil => exact if_neg hs.symm
  | cons c n =>
    by_cases hc : c = '"'
    · subst hc
      rw [Text.double_cons_self, List.cons_append, sign?, sign?, if_neg hs.symm, if_neg hs.symm]
      rfl
    · rw [Text.double_cons_of_ne hc, List.cons_append, sign?, sign?]
      split <;> rfl

theorem passesQuotes_keyword? {letters : Text} (h : IsPlainWord letters) :
    PassesQuotes (keyword? letters) := by
  intro n w
  induction letters generalizing n with
  | nil => rfl
  | cons letter letters ih =>
    obtain ⟨hletter, hletters⟩ := List.forall_mem_cons.1 h
    have hquote : matchesLetter letter '"' = false :=
      Bool.eq_false_iff.2 fun hmatch => Bool.noConfusion (isPlain_of_matchesLetter hletter hmatch).1
    cases n with
    | nil =>
      have hnil : Text.double '"' [] = [] := rfl
      rw [hnil, List.nil_append, keyword?, hquote]
      rfl
    | cons c n =>
      by_cases hc : c = '"'
      · subst hc
        rw [Text.double_cons_self, List.cons_append, keyword?, keyword?, hquote]
        rfl
      · rw [Text.double_cons_of_ne hc, List.cons_append, keyword?, keyword?]
        split
        · exact ih hletters n
        · rfl

theorem blanks_double (n w : Text) :
    blanks (Text.double '"' n ++ '"' :: w) = Text.double '"' (blanks n) ++ '"' :: w := by
  have hquote : isBlank '"' = false := by decide
  induction n with
  | nil => exact List.dropWhile_cons_of_neg (by simp [hquote])
  | cons c n ih =>
    by_cases hc : c = '"'
    · subst hc
      have hstay : blanks ('"' :: n) = '"' :: n := List.dropWhile_cons_of_neg (by simp [hquote])
      rw [hstay, Text.double_cons_self]
      exact List.dropWhile_cons_of_neg (by simp [hquote])
    · rw [Text.double_cons_of_ne hc, List.cons_append, blanks, blanks, List.dropWhile_cons,
        List.dropWhile_cons]
      split
      · exact ih
      · rw [Text.double_cons_of_ne hc]
        rfl

/-- Blanks may be passed over first. -/
theorem PassesQuotes.blanks {read : Text → Option Text} (h : PassesQuotes read) :
    PassesQuotes fun t => read (blanks t) := by
  intro n w
  simp only [blanks_double]
  exact h _ w

/-! ## What is found first -/

namespace Attribute

theorem destination?_of_marker {a : Text} (h : destinationMarker.isIn a = true) :
    destination? (some a) = queryNameField.firstAfter none a := by
  rw [destination?_some]
  exact if_pos h

/-- No field begins with a quote. -/
theorem queryNameField_quote (b : Option Char) (t : Text) :
    queryNameField b ('"' :: t) = none := rfl

/-- **No field begins inside a doubled text**, nor at the quote behind it. -/
theorem queryNameField_double {w : Text} (hw : '"' ∉ w) (b : Option Char) (n : Text) :
    queryNameField b (Text.double '"' n ++ '"' :: w) = none := by
  have hword : PassesQuotes (keyword? (text "queryname")) := passesQuotes_keyword? (by decide)
  have hequals : PassesQuotes fun t => sign? '=' (blanks t) :=
    (passesQuotes_sign? (by decide)).blanks
  rw [queryNameField_eq, hword n w]
  cases keyword? (text "queryname") n with
  | none => rfl
  | some r =>
    have hsign := hequals r w
    simp only [Option.map_some, Option.bind_some] at hsign ⊢
    rw [hsign]
    cases sign? '=' (blanks r) with
    | none => rfl
    | some r =>
      simp only [Option.map_some, Option.bind_some, blanks_double]
      -- the quote that opens a value is followed by another one, or by no further quote
      cases blanks r with
      | nil => exact quotedName_eq_none hw
      | cons c r =>
        by_cases hc : c = '"'
        · subst hc
          rw [Text.double_cons_self]
          exact quotedName_of_quote (n := []) List.not_mem_nil _
        · rw [Text.double_cons_of_ne hc, List.cons_append, sign?, if_neg hc]
          rfl

/-- **Nothing is found in a doubled text.** -/
theorem firstAfter_double {w : Text} (hw : '"' ∉ w)
    (hnone : queryNameField.firstAfter (some '"') w = none) (b : Option Char) (n : Text) :
    queryNameField.firstAfter b (Text.double '"' n ++ '"' :: w) = none := by
  have hskip : ∀ {b c t}, queryNameField b (c :: t) = none →
      queryNameField.firstAfter b (c :: t) = queryNameField.firstAfter (some c) t := fun h => by
    rw [Pattern.firstAfter, h, Option.map_none, Option.none_or]
  induction n generalizing b with
  | nil => exact (hskip (queryNameField_quote b w)).trans hnone
  | cons c n ih =>
    have hfirst := queryNameField_double hw b (c :: n)
    by_cases hc : c = '"'
    · subst hc
      rw [Text.double_cons_self, List.cons_append, List.cons_append] at hfirst ⊢
      rw [hskip hfirst, hskip (queryNameField_quote _ _), ih]
    · rw [Text.double_cons_of_ne hc, List.cons_append] at hfirst ⊢
      rw [hskip hfirst, ih]

/-! ## References -/

/-- The attribute that refers to a query. -/
def referenceTo (name : Text) : Text :=
  text "[DataDestinations = \x7b[Definition = [Kind = \"Reference\", QueryName = \"" ++
    (Text.double '"' name ++ '"' :: text "]]\x7d]")

/-- What stands in front of the first quote of a name. -/
def stem (name : Text) : Text := name.takeWhile (· ≠ '"')

theorem not_mem_stem (n : Text) : '"' ∉ stem n := fun h => by
  simpa using List.mem_takeWhile_imp h

theorem stem_eq_self_iff {n : Text} : stem n = n ↔ '"' ∉ n := by
  constructor
  · intro h
    exact h ▸ not_mem_stem n
  · intro h
    exact List.takeWhile_eq_self_iff.2 fun c hc => decide_eq_true fun heq => h (heq ▸ hc)

/-- Behind the stem of a name there is a quote, when the name is doubled and in quotes. -/
theorem exists_double_eq (n w : Text) :
    ∃ r, Text.double '"' n ++ '"' :: w = stem n ++ '"' :: r := by
  induction n with
  | nil => exact ⟨w, rfl⟩
  | cons c n ih =>
    by_cases hc : c = '"'
    · subst hc
      exact ⟨'"' :: (Text.double '"' n ++ '"' :: w), by simp [Text.double_cons_self, stem]⟩
    · obtain ⟨r, hr⟩ := ih
      exact ⟨r, by rw [Text.double_cons_of_ne hc, List.cons_append, hr]; simp [stem, hc]⟩

/-- **Of a name what is read is what stands in front of its first quote**, and nothing when it
begins with one. -/
theorem destination?_referenceTo (n : Text) :
    destination? (some (referenceTo n)) = if stem n = [] then none else some (stem n) := by
  have hmarker : destinationMarker.isIn (referenceTo n) = true := rfl
  have hfirst : queryNameField.firstAfter none (referenceTo n) =
      ((quotedName (Text.double '"' n ++ '"' :: text "]]\x7d]")).map Prod.fst).or
        (queryNameField.firstAfter (some '"') (Text.double '"' n ++ '"' :: text "]]\x7d]")) := rfl
  obtain ⟨r, hr⟩ := exists_double_eq n (text "]]\x7d]")
  rw [destination?_of_marker hmarker, hfirst, firstAfter_double (by decide) rfl, Option.or_none, hr,
    quotedName_of_quote (not_mem_stem n)]
  cases stem n <;> rfl

end Attribute
end Mashup

/-! ## Folding -/

/-- A run whose images all lie beyond a number does not lead to it. -/
theorem CaseShift.image_eq {shifts : List CaseShift} {k n : Nat}
    (h : ∀ s ∈ shifts, (k : Int) < s.first + s.offset) (hn : image shifts n = k) : n = k := by
  induction shifts with
  | nil => exact hn
  | cons s shifts ih =>
    obtain ⟨hs, hshifts⟩ := List.forall_mem_cons.1 h
    rw [image] at hn
    split at hn
    · exact hn
    · split at hn
      · split at hn
        · omega
        · exact hn
      · exact ih hshifts hn

theorem toNat_of_ofNat_quote {n : Nat} (h : Char.ofNat n = '"') : n = 34 := by
  have hcode := congrArg Char.toNat h
  by_cases hn : n.isValidChar
  · rw [Char.ofNat, dif_pos hn] at hcode
    exact hcode
  · rw [Char.ofNat, dif_neg hn] at hcode
    cases hcode

/-- Nothing else folds to a quote. -/
theorem mem_foldChar_iff {c : Char} : '"' ∈ foldChar c ↔ c = '"' := by
  have hexpansions : ∀ e ∈ foldExpansions, '"' ∉ e.2.map Char.ofNat := by decide +kernel
  have hshifts : ∀ s ∈ foldShifts, ((34 : Nat) : Int) < s.first + s.offset := by decide +kernel
  constructor
  · intro h
    rw [foldChar, CaseShift.expand] at h
    split at h
    · rename_i codes hcodes
      obtain ⟨before, behind, hsplit, -⟩ := List.lookup_eq_some_iff.1 hcodes
      exact absurd h (hexpansions (c.toNat, codes) (by simp [hsplit]))
    · have hself := CaseShift.image_eq hshifts (toNat_of_ofNat_quote (List.mem_singleton.1 h).symm)
      rw [← Char.ofNat_toNat c, hself]
  · rintro rfl
    decide

/-- The same for wide texts: a half folds to itself. -/
theorem mem_fold_iff {t : WideText} : .scalar '"' ∈ WideText.fold t ↔ .scalar '"' ∈ t := by
  rw [WideText.fold, List.mem_flatMap]
  constructor
  · rintro ⟨p, hp, hmem⟩
    cases p with
    | scalar c =>
      obtain ⟨e, he, heq⟩ := List.mem_map.1 hmem
      obtain rfl := CodePoint.scalar.inj heq
      rwa [← mem_foldChar_iff.1 he]
    | surrogate half => cases List.mem_singleton.1 hmem
  · exact fun hmem => ⟨_, hmem, List.mem_map_of_mem (mem_foldChar_iff.2 rfl)⟩

theorem mem_widen_iff {c : Char} {t : Text} : .scalar c ∈ Text.widen t ↔ c ∈ t := by
  rw [Text.widen, List.mem_map]
  constructor
  · rintro ⟨d, hd, heq⟩
    exact CodePoint.scalar.inj heq ▸ hd
  · exact fun hc => ⟨c, hc, rfl⟩

/-- There is no quote in a destination, whatever the attribute holds. -/
theorem Mashup.Wide.not_mem_of_destination? {attr : Option WideText} {target : WideText}
    (h : destination? attr = some target) : .scalar '"' ∉ target := by
  intro hmem
  have houtline := outline_destination? attr
  rw [h, Option.map_some] at houtline
  exact Attribute.not_mem_of_destination? houtline.symm (List.mem_map_of_mem hmem)

namespace Metadata

open Mashup (WideQuery)
open Mashup.Attribute (destination? referenceTo destination?_referenceTo stem_eq_self_iff
  not_mem_of_destination?)

/-- **A reference is taken as it is meant just when there is no quote in the name.**  Only then is
the name read from the attribute, and only then does building the entries anew hide the query of
that name, whatever else is in the list. -/
theorem isHidden_referenceTo_iff {n : Text} (hn : n ≠ []) :
    (destination? (some (referenceTo n)) = some n ↔ '"' ∉ n) ∧
      ∀ (m : Metadata) (queries : List WideQuery) (defaults : Defaults) (ids : IdSupply),
        (∃ q ∈ queries, q.attr = Text.widen (referenceTo n)) →
        Text.widen n ∈ queries.map WideQuery.name →
        ((m.rebuild queries defaults ids).1.isHidden (Text.widen n) = true ↔ '"' ∉ n) := by
  have hread : '"' ∉ n → destination? (some (referenceTo n)) = some n := by
    intro hquote
    rw [destination?_referenceTo, stem_eq_self_iff.2 hquote, if_neg hn]
  refine ⟨⟨not_mem_of_destination?, hread⟩, ?_⟩
  rintro m queries defaults ids ⟨q, hq, hattr⟩ hname
  rw [rebuild_isHidden hname]
  constructor
  · rintro ⟨p, -, target, htarget, hfold⟩
    have hquote := mem_fold_iff.not.2 (Mashup.Wide.not_mem_of_destination? htarget)
    rwa [hfold, mem_fold_iff, mem_widen_iff] at hquote
  · intro hquote
    have htarget := Mashup.Wide.destination?_widen (some (referenceTo n))
    rw [hread hquote] at htarget
    exact ⟨q, hq, Text.widen n, hattr ▸ htarget, rfl⟩

/-- A name that looks like the end of an attribute and the beginning of another reference. -/
def misleadingName : Text := text "\u00c4]]\x7d] [DataDestinations QueryName = B"

/-- Two queries, of which one refers to the other. -/
def referringQueries (name : Text) : List WideQuery :=
  [⟨wide "A", wide "1", Text.widen (referenceTo name)⟩, ⟨Text.widen name, wide "2", []⟩]

theorem isHidden_referenceTo_iff_misleadingName :
    let n := misleadingName
    let m := (Metadata.rebuild [] (referringQueries n) .standard (.random 7)).1
    n ≠ [] ∧ '"' ∉ n ∧ destination? (some (referenceTo n)) = some n ∧
      (∃ q ∈ referringQueries n, q.attr = Text.widen (referenceTo n)) ∧
      Text.widen n ∈ (referringQueries n).map WideQuery.name ∧ m.isHidden (Text.widen n) = true ∧
      m.isHidden (wide "A") = false := by
  intro n m
  have hn : n ≠ [] := by decide
  have hquote : '"' ∉ n := by decide
  have hrefers : ∃ q ∈ referringQueries n, q.attr = Text.widen (referenceTo n) :=
    ⟨_, List.mem_cons_self, rfl⟩
  have hname : Text.widen n ∈ (referringQueries n).map WideQuery.name := by decide
  obtain ⟨hread, hhidden⟩ := isHidden_referenceTo_iff hn
  exact ⟨hn, hquote, hread.2 hquote, hrefers, hname, (hhidden [] _ _ _ hrefers hname).2 hquote,
    by decide +kernel⟩

/-- A name with a quote in it. -/
def quotedPart : Text := text "a\"b"

/-- What is read from the reference is the part of the name in front of the quote, and the query is
not hidden. -/
theorem not_isHidden_referenceTo_quotedPart :
    quotedPart ≠ [] ∧ destination? (some (referenceTo quotedPart)) = some (text "a") ∧
      destination? (some (referenceTo quotedPart)) ≠ some quotedPart ∧
      (Metadata.rebuild [] (referringQueries quotedPart) .standard (.random 7)).1.isHidden
        (Text.widen quotedPart) = false := by
  decide +kernel

end Metadata
end Dataflow
