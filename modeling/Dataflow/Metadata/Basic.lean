import Dataflow.Json.Basic
import Dataflow.Text.Basic
import Dataflow.Text.Wide

/-!
# Query metadata

The metadata of a dataflow is a JSON object of which three fields matter here: the locale of the
document, the entries of the queries by name, and the registered connections.  All other fields, and
all that an entry holds beyond the fields set here, are carried along.  So `Metadata` is the list of
fields as it is, and what is missing in it comes from `Defaults`.

New entries need ids.  Where they come from is left open: an `IdSupply` is any sequence of texts
together with a count of how many were drawn.  Whoever draws passes the supply on, so an id that was
drawn stays drawn, whatever becomes of the edit that asked for it.  The program itself draws
universally unique identifiers of version 4: 122 random bits, written as 32 hexadecimal digits in
five groups.  `IdSupply.random` takes the bits of each id from a generator of its own, so that a
seed determines the whole sequence.
-/

set_option autoImplicit false

namespace Dataflow

/-- The fields of a metadata object. -/
abbrev Metadata := Fields

/-- The values for what metadata does not say. -/
structure Defaults where
  /-- The locale in which dates and numbers of the document are read. -/
  locale : Text
  /-- Whether the data of a new query is loaded. -/
  loadEnabled : Bool
deriving DecidableEq

namespace Defaults

/-- The locale when none is configured. -/
def standardLocale : Text := text "en-US"

/-- The defaults when nothing is configured. -/
def standard : Defaults := ⟨standardLocale, false⟩

end Defaults

namespace Metadata

/-- The name of the field for the locale. -/
def localeKey : WideText := wide "documentLocale"

/-- The name of the field for the entries. -/
def entriesKey : WideText := wide "queriesMetadata"

/-- The name of the field for the connections. -/
def connectionsKey : WideText := wide "connections"

/-- The metadata with a locale. -/
def withLocale (m : Metadata) (defaults : Defaults) : Metadata :=
  Fields.setIfMissing m localeKey (.string (Text.widen defaults.locale))

/-- The entries by name, none when the field holds something else than an object. -/
def entriesOf (m : Metadata) : Fields :=
  match Fields.get? m entriesKey with
  | some (.object entries) => entries
  | _ => []

/-- A new entry.  Whether a query is hidden is only said of hidden ones. -/
def newEntry (name id : WideText) (defaults : Defaults) (hidden : Bool) : Json :=
  .object
    ([(wide "queryId", .string id), (wide "queryName", .string name),
      (wide "loadEnabled", .bool defaults.loadEnabled)]
      ++ if hidden then [(wide "isHidden", .bool true)] else [])

end Metadata

/-! ## Ids -/

/-- A sequence of ids, the first of which were drawn. -/
structure IdSupply where
  /-- The ids in order. -/
  id : Nat → WideText
  /-- How many of them were drawn. -/
  drawn : Nat

namespace IdSupply

/-- The supply of a sequence of which none was drawn. -/
def ofSequence (id : Nat → WideText) : IdSupply := ⟨id, 0⟩

/-- The next id, and the supply without it. -/
def draw (s : IdSupply) : WideText × IdSupply := (s.id s.drawn, { s with drawn := s.drawn + 1 })

theorem id_draw (s : IdSupply) : s.draw.2.id = s.id := rfl

end IdSupply

/-! ## Random ids -/

/-- The identifier of version 4 with the given bits, of which six are overwritten by the version
and the variant. -/
def uuidOfBits (bits : Nat) : Text :=
  let group (width shift : Nat) : Text := hexadecimal width (bits / Nat.pow 2 shift)
  group 8 96 ++ ['-'] ++ group 4 80 ++ ['-', '4'] ++ group 3 64
    ++ ['-'] ++ hexadecimal 1 (8 + bits / Nat.pow 2 60 % 4) ++ group 3 48 ++ ['-'] ++ group 12 0

theorem length_uuidOfBits (bits : Nat) : (uuidOfBits bits).length = 36 := by
  simp [uuidOfBits, length_hexadecimal]

/-- The random identifier number `n` for a seed. -/
def randomUuid (seed n : Nat) : Text :=
  let (low, gen) := randNat (mkStdGen (seed + n)) 0 (Nat.pow 2 64 - 1)
  let (high, _) := randNat gen 0 (Nat.pow 2 64 - 1)
  uuidOfBits (high * Nat.pow 2 64 + low)

/-- The supply of random ids for a seed. -/
def IdSupply.random (seed : Nat) : IdSupply :=
  .ofSequence fun n => Text.widen (randomUuid seed n)

end Dataflow
