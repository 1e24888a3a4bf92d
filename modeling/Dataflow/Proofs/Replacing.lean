import Dataflow.Proofs.Naming
import Dataflow.Proofs.Rendering
import Dataflow.Proofs.Seat

/-!
# Replacing a query where it stands

An upsert of a name that the document declares cuts the old declaration out and puts the new one in.
It should change that one query and nothing else, and it does, except that the cut is made where the
attribute of the old declaration begins, and an attribute is found backwards by brackets alone.  The
text in front of the cut may end inside a comment, in which the new declaration then disappears.
`queries_upsert_found_iff` says when nothing is lost.
-/

set_option autoImplicit false

namespace Dataflow
namespace Mashup

theorem name_ne_nil_of_mem {t : Text} {d : Declaration} (h : d ∈ declarations t) : d.name ≠ [] := by
  obtain ⟨o, ho, hname⟩ := exists_heading_of_mem_declarations h
  have hmatch := mem_occurrences isLocal_heading (List.mem_filter.1 ho).1
  obtain ⟨-, x, ws, -, ⟨-, -, -, htoken, -⟩, -⟩ := heading_eq_some_iff.1 hmatch
  rw [← hname]
  exact htoken.plain_ne_nil

theorem upsert_found {d name code : Text} {old : Declaration}
    (hold : declaration? d name = some old) (hname : Text.hasPrefix name ['#', '"'] = false)
    (hlet : isLetBlock (Text.strip code) = true) :
    upsert d name code none none =
      d.take old.start ++ (declared (Name.written name) (Text.strip code) none ++
        d.drop old.stop) := by
  have hdecl : declare name code none = declared (Name.written name) (Text.strip code) none := by
    rw [declare_eq, letBlock_of_isLetBlock hlet]
    rfl
  rw [upsert]
  simp only [settleAttributes, Attribute.given?, Name.plain_eq_self hname, hold, hdecl,
    withSectionAttribute, List.append_assoc]

/-- **Replacing one query in place loses nothing just when** the new declaration is seated between
what stands before and behind the old one, and these two are read alone as they are read in the
document. -/
theorem queries_upsert_found_iff {d name code : Text} {old : Declaration}
    (hold : declaration? d name = some old) (hname : Text.hasPrefix name ['#', '"'] = false)
    (hlet : isLetBlock (Text.strip code) = true)
    (hclosed : leavesNothingOpen (Text.strip code) = true)
    (hmark : (keywordMark (text "shared")).isIn (Text.strip code) = false) :
    (queries (upsert d name code none none) =
        record (queries d) ⟨name, Text.strip code, []⟩ ∧
      writtenAt old.start (Name.written name) (Text.strip code) none ∈
        declarations (upsert d name code none none)) ↔
    Seated (d.take old.start) (Name.written name) (Text.strip code) none (d.drop old.stop) ∧
      record (queries d) ⟨name, Text.strip code, []⟩ =
        queries (d.take old.start) ++ ⟨name, Text.strip code, []⟩ ::
          queries (d.drop old.stop) := by
  have hmem : old ∈ declarations d := List.mem_of_find?_eq_some hold
  have hbounds := mem_declarations_bounds hmem
  have hne : name ≠ [] := by
    have := List.find?_some hold
    rw [← eq_of_beq this]
    exact name_ne_nil_of_mem hmem
  have hw : Writable (Name.written name) (Text.strip code) none :=
    ⟨Name.isNameToken_written hne hname, letBlock_of_isLetBlock hlet ▸ letBlock_isSolid code,
      hclosed, hmark, nofun⟩
  have hlen : (d.take old.start).length = old.start := by
    rw [List.length_take]
    omega
  have hlive : writtenAt (d.take old.start).length (Name.written name) (Text.strip code) none ∈
      declarations (d.take old.start ++ (declared (Name.written name) (Text.strip code) none ++
        d.drop old.stop)) ↔ _ :=
    mem_declarations_iff_seated hw.legible nofun
  rw [hlen] at hlive
  rw [upsert_found hold hname hlet, hlive, and_comm]
  refine and_congr_right fun hseated => ?_
  rw [hseated.queries_eq hw, Name.plain_written, Name.plain_eq_self hname, eq_comm]

/-- A document in which a query can be replaced. -/
def sampleDocument : Text :=
  text "section Section1;\r\n[Kind = 1]\r\nshared A = let x = 1 in x;\r\nshared B = A;"

theorem queries_upsert_found_iff_sampleDocument :
    declaration? sampleDocument (text "A") =
        some ⟨text "A", text "let x = 1 in x", text "[Kind = 1]", 19, 57⟩ ∧
      queries (upsert sampleDocument (text "A") (text "let y = 2 in y") none none) =
        [⟨text "A", text "let y = 2 in y", []⟩, ⟨text "B", text "A", []⟩] ∧
      Seated (sampleDocument.take 19) (text "A") (text "let y = 2 in y") none
        (sampleDocument.drop 57) := by
  have hold : declaration? sampleDocument (text "A") =
      some ⟨text "A", text "let x = 1 in x", text "[Kind = 1]", 19, 57⟩ := by decide +kernel
  have hqueries : queries (upsert sampleDocument (text "A") (text "let y = 2 in y") none none) =
      [⟨text "A", text "let y = 2 in y", []⟩, ⟨text "B", text "A", []⟩] := by decide +kernel
  have hiff := @queries_upsert_found_iff _ _ (text "let y = 2 in y") _ hold (by decide)
    (by decide +kernel) (by decide +kernel) (by decide +kernel)
  exact ⟨hold, hqueries, (hiff.1 (by decide +kernel)).1⟩

/-- A comment with brackets in front of the query. -/
def commentedDocument : Text :=
  text "section Section1;\r\n// see [docs]\r\nshared A = let x = 1 in x;"

/-- The comment is taken for the attribute, and the new declaration is written into it. -/
theorem queries_upsert_commentedDocument :
    queries commentedDocument = [⟨text "A", text "let x = 1 in x", text "[docs]"⟩] ∧
      queries (upsert commentedDocument (text "A") (text "let y = 2 in y") none none) = [] ∧
      record (queries commentedDocument) ⟨text "A", text "let y = 2 in y", []⟩ =
        [⟨text "A", text "let y = 2 in y", []⟩] := by
  decide +kernel

end Mashup
end Dataflow
