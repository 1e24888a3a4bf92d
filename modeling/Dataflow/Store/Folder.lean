import Dataflow.Text.Utf8

/-!
# A folder of files

A path is kept in a plain form: the slashes in front of it and the names between its slashes.  Empty
names and single dots are left out, two dots are kept.  One or two slashes in front are kept as they
are, and more of them count as one.

A `Folder` is a map from the texts of paths to bytes.  Directories are not kept: a directory is
there when a file lies below it.  Files are read as UTF-8 text in which every kind of line end
becomes a single line feed.
-/

set_option autoImplicit false

namespace Dataflow

/-! ## Paths -/

/-- A path in plain form. -/
structure Path where
  /-- The slashes in front. -/
  root : Text
  /-- The names, from the outside in. -/
  names : List Text
deriving DecidableEq

namespace Path

/-- The names between the slashes of a text; `current` is the one that is being read. -/
def split (current : Text) : Text → List Text
  | [] => [current]
  | '/' :: rest => current :: split [] rest
  | c :: rest => split (current ++ [c]) rest

/-- Whether a name leads anywhere. -/
def counts (name : Text) : Bool := name != [] && name != ['.']

/-- The slashes that stay in front of a path. -/
def rootOf (t : Text) : Text :=
  match (t.takeWhile (· == '/')).length with
  | 0 => []
  | 2 => ['/', '/']
  | _ => ['/']

/-- The path that a text names. -/
def ofText (t : Text) : Path := ⟨rootOf t, (split [] t).filter counts⟩

/-- The text of a path. -/
def toText (p : Path) : Text :=
  match p.root, p.names with
  | [], [] => ['.']
  | root, names => root ++ List.intercalate ['/'] names

/-- The path of a name inside a directory. -/
def child (p : Path) (name : Text) : Path := { p with names := p.names ++ [name] }

end Path

/-! ## Folders -/

/-- Files by the texts of their paths. -/
structure Folder where
  /-- The files in the order in which they were first written. -/
  files : List (Text × Bytes)

namespace Folder

/-- No file. -/
def empty : Folder := ⟨[]⟩

/-- The bytes of a file. -/
def bytes? (f : Folder) (path : Text) : Option Bytes := f.files.lookup path

/-- The files with one written. -/
def writeIn (path : Text) (bytes : Bytes) : List (Text × Bytes) → List (Text × Bytes)
  | [] => [(path, bytes)]
  | (p, b) :: rest => if p = path then (p, bytes) :: rest else (p, b) :: writeIn path bytes rest

/-- The folder with a file written. -/
def write (f : Folder) (path : Text) (bytes : Bytes) : Folder := ⟨writeIn path bytes f.files⟩

/-- What was written is what is there. -/
theorem bytes?_write_self (f : Folder) (path : Text) (bytes : Bytes) :
    (f.write path bytes).bytes? path = some bytes := by
  obtain ⟨files⟩ := f
  simp only [write, bytes?]
  induction files with
  | nil => simp [writeIn]
  | cons x rest ih =>
    obtain ⟨p, b⟩ := x
    by_cases h : p = path
    · simp [writeIn, h]
    · have h' : (path == p) = false := by simpa using Ne.symm h
      simp [writeIn, h, List.lookup_cons, h', ih]

/-- No other file changes. -/
theorem bytes?_write_other (f : Folder) {path other : Text} (h : other ≠ path) (bytes : Bytes) :
    (f.write path bytes).bytes? other = f.bytes? other := by
  obtain ⟨files⟩ := f
  simp only [write, bytes?]
  have h' : (other == path) = false := by simpa using h
  induction files with
  | nil => simp [writeIn, List.lookup_cons, h']
  | cons x rest ih =>
    obtain ⟨p, b⟩ := x
    by_cases hp : p = path
    · subst hp; simp [writeIn, List.lookup_cons, h']
    · simp only [writeIn, hp, if_false, List.lookup_cons]
      split
      · rfl
      · exact ih

/-- Whether a path is that of a directory. -/
def isDirectory (f : Folder) (path : Text) : Bool :=
  path == ['.'] || f.files.any fun file => (path ++ ['/']).isPrefixOf file.1

/-- Whether a path leads through a file as if it were a directory. -/
def isBelowFile (f : Folder) (path : Text) : Bool :=
  f.files.any fun file => (file.1 ++ ['/']).isPrefixOf path

/-- A text with a line feed for every line end. -/
def unifyLines : Text → Text
  | [] => []
  | '\r' :: '\n' :: rest => '\n' :: unifyLines rest
  | '\r' :: rest => '\n' :: unifyLines rest
  | c :: rest => c :: unifyLines rest

/-- The text of bytes that were read from a file. -/
def textOf (bytes : Bytes) : Except Utf8.DecodeFault Text := (Utf8.decode bytes).map unifyLines

end Folder

end Dataflow
