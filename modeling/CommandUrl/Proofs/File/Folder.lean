import CommandUrl.Proofs.File.Rewriting

/-!
# The folder of a file

A path that leads to a regular file has a last component, and that is the name of
the file. The path around it leads to the directory that the file is in, however
the path is spelled: with slashes in a row, with dots, or outwards and in again.
There is one path around a file that leads nowhere, which is the empty one. A bare
name has it, and where a bare name is looked up is not said by its path.
-/

namespace CommandUrl

namespace Path

variable {path : Path} {name : List Char}

/-- The name of a file up to its last dot, a dot at the start not counting. -/
def withoutExtension (name : List Char) : List Char :=
  match Text.cutLast? '.' name with
  | some (before, _) => if before = [] then name else before
  | none => name

theorem stem?_eq (path : Path) : path.stem? = path.fileName?.map withoutExtension :=
  rfl

theorem dropWhile_of_filter {pieces rest : List (List Char)}
    (kept : pieces.filter (· ≠ []) = name :: rest) (counted : isEmptyPiece name = false) :
    ∃ more, pieces.dropWhile isEmptyPiece = name :: more := by
  induction pieces with
  | nil => cases kept
  | cons piece pieces ih =>
      by_cases empty : piece = []
      · subst empty
        apply ih
        simpa using kept
      · rw [List.filter_cons_of_pos (by simpa using empty)] at kept
        cases kept
        exact ⟨pieces, by simp [counted]⟩

/-- The last name that is walked is the name of the file, unless it is dots. -/
theorem fileName?_of_steps (cut : path.Cut) (last : (steps path.chars).getLast? = some name)
    (notSelf : name ≠ ['.']) (notParent : name ≠ ['.', '.']) : path.fileName? = some name := by
  rw [steps_chars cut, List.filter_reverse] at last
  cases kept : path.pieces.filter (· ≠ []) with
  | nil =>
      rw [kept] at last
      cases lead : path.lead <;> simp [lead, leadSteps] at last
      exact absurd last.symm notSelf
  | cons piece rest =>
      rw [kept] at last
      have same : piece = name := by simpa using last
      subst same
      have named : piece ≠ [] := by
        have mem : piece ∈ path.pieces.filter (· ≠ []) := by
          rw [kept]
          exact List.mem_cons_self
        simpa using (List.mem_filter.mp mem).2
      rcases dropWhile_of_filter kept (by simp [isEmptyPiece, named, notSelf]) with ⟨more, whole⟩
      simp [fileName?, whole, notParent]

theorem exists_parent?_of_fileName? (named : path.fileName? = some name) :
    ∃ outer, path.parent? = some outer := by
  simp only [fileName?] at named
  split at named
  · next last pieces whole =>
      refine ⟨⟨path.lead, pieces.dropWhile isEmptyPiece⟩, ?_⟩
      simp only [parent?, whole]
  · cases named

end Path

namespace FileTree

variable {tree : FileTree} {path : String}

theorem exists_of_isFile (file : tree.isFile path) :
    ∃ target bytes, tree.find path = .ok target ∧ tree.nodeAt target = some (.file bytes) := by
  simp only [isFile, look] at file
  cases found : tree.find path with
  | error cause => simp [found] at file
  | ok target =>
      simp only [found] at file
      split at file
      · next bytes node => exact ⟨target, bytes, rfl, node⟩
      · cases file

theorem pathExists_of_isFile (file : tree.isFile path) : tree.pathExists path := by
  rcases exists_of_isFile file with ⟨target, bytes, found, node⟩
  simp [pathExists, look, found, node]

/-- A file is in a directory under a name, its path ends with that name, and the path around it
leads to that directory, unless it is empty. -/
theorem folder_of_isFile (rooted : tree.Rooted) (file : tree.isFile path) :
    ∃ outer folder name, (Path.ofText path).parent? = some outer ∧
      tree.find path = .ok (name :: folder) ∧ (Path.ofText path).fileName? = some name ∧
      (outer.text = "" ∨ tree.find outer.text = .ok folder) := by
  rcases exists_of_isFile file with ⟨target, bytes, found, node⟩
  rcases lastStep_of_file rooted found node with
    ⟨route, folder, name, routed, stepped, rfl, _, _⟩
  rcases lastStep_cases stepped with ⟨whole, notSelf, notParent, _, _⟩
  have named : (Path.ofText path).fileName? = some name := by
    apply Path.fileName?_of_steps (Path.cut_ofChars _) _ notSelf notParent
    rw [Path.chars_ofChars, ← names_of_route routed, whole, List.getLast?_concat]
  rcases Path.exists_parent?_of_fileName? named with ⟨outer, up⟩
  exact ⟨outer, folder, name, up, found, named, find_of_parent routed stepped up⟩

end FileTree

end CommandUrl
