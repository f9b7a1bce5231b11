import CommandUrl.Text.Split

/-!
# Paths

A path is read by its components: the names between slashes, with empty pieces
and single dots passed over. Two things are not passed over. A slash at the
start makes the path absolute, and a dot at the start of a path that is not
absolute is a component of its own. Taking the last name off leaves the rest of
the path as it was written, so paths are kept as pieces and not as names.
-/

namespace CommandUrl

/-- How a path starts. -/
inductive Path.Lead where
  /-- With a slash. -/
  | root
  /-- With a single dot. -/
  | current
  /-- With a name, or not at all. -/
  | plain
  deriving Repr, DecidableEq

/-- A path as written: its start, and the pieces between the slashes after it. -/
structure Path where
  lead : Path.Lead
  /-- The pieces, the last one first. -/
  pieces : List (List Char)
  deriving Repr, DecidableEq

namespace Path

/-- Reads a path. -/
def ofChars : List Char → Path
  | '/' :: rest => ⟨.root, (Text.split '/' rest).reverse⟩
  | ['.'] => ⟨.current, []⟩
  | '.' :: '/' :: rest => ⟨.current, (Text.split '/' rest).reverse⟩
  | text => ⟨.plain, (Text.split '/' text).reverse⟩

/-- Writes a path. -/
def chars (path : Path) : List Char :=
  let body := Text.join '/' path.pieces.reverse
  match path.lead, path.pieces with
  | .root, _ => '/' :: body
  | .current, [] => ['.']
  | .current, _ => '.' :: '/' :: body
  | .plain, _ => body

/-- The path of a text. -/
def ofText (text : String) : Path :=
  ofChars text.toList

/-- The text of a path. -/
def text (path : Path) : String :=
  String.ofList path.chars

/-- Reading and writing a path gives back its text. -/
theorem chars_ofChars (text : List Char) : (ofChars text).chars = text := by
  fun_cases ofChars text with
  | case1 rest => simp [chars]
  | case2 => rfl
  | case3 rest =>
    have nonempty : (Text.split '/' rest).reverse ≠ [] := by
      simpa using Text.split_ne_nil '/' rest
    obtain ⟨last, pieces, h⟩ := List.exists_cons_of_ne_nil nonempty
    simp only [chars, h]
    rw [← h]
    simp
  | case4 text => simp [chars]

/-- A piece that is no component. -/
def isEmptyPiece (piece : List Char) : Bool :=
  piece = [] || piece = ['.']

/-- The path starts at the root. -/
def isAbsolute (path : Path) : Bool :=
  path.lead = .root

/-- The names of a path in order; two dots are a name. -/
def names (path : Path) : List (List Char) :=
  (path.pieces.filter (!isEmptyPiece ·)).reverse

/-- The path without its last component. The root and the empty path have none to take off. -/
def parent? (path : Path) : Option Path :=
  match path.pieces.dropWhile isEmptyPiece with
  | _ :: pieces => some ⟨path.lead, pieces.dropWhile isEmptyPiece⟩
  | [] =>
    match path.lead with
    | .current => some ⟨.plain, []⟩
    | .root | .plain => none

/-- The paths that are left when the components are taken off one by one, the longest first. -/
def enclosing (lead : Lead) : List (List Char) → List Path
  | [] => []
  | piece :: pieces =>
    if isEmptyPiece piece then enclosing lead pieces
    else ⟨lead, pieces.dropWhile isEmptyPiece⟩ :: enclosing lead pieces

/-- The last name, unless it is two dots. -/
def fileName? (path : Path) : Option (List Char) :=
  match path.pieces.dropWhile isEmptyPiece with
  | name :: _ => if name = ['.', '.'] then none else some name
  | [] => none

/-- The last name up to its last dot, a dot at the start not counting. -/
def stem? (path : Path) : Option (List Char) :=
  path.fileName?.map fun name =>
    match Text.cutLast? '.' name with
    | some (before, _) => if before = [] then name else before
    | none => name

/-- The last name after its last dot, a dot at the start not counting. -/
def extension? (path : Path) : Option (List Char) :=
  path.fileName?.bind fun name =>
    match Text.cutLast? '.' name with
    | some (before, after) => if before = [] then none else some after
    | none => none

/-- A path as seen from a folder: itself if it is absolute, and otherwise the two with one slash
between them at least. -/
def join (folder path : String) : String :=
  if (ofText path).isAbsolute then path
  else if folder.toList.getLast?.all (· = '/') then folder ++ path
  else folder ++ "/" ++ path

end Path

end CommandUrl
