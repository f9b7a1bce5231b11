import CommandUrl.Proofs.File.Writing
import Mathlib.Data.List.DropRight

/-!
# Making directories and storing a file

The directories around a file are made from the outside in, and each of them only
where there was nothing before. So whatever becomes of it, the files of the tree are
the ones there were. If it succeeds then the directory of the file is there, and making
it again does nothing. What is stored a second time under the same path therefore
leaves what it would have left without the first time.
-/

namespace CommandUrl

namespace Path

/-- The outer path is one that is left when components are taken off the path. -/
inductive Within : Path → Path → Prop where
  | parent {path outer : Path} (up : path.parent? = some outer) : Within path outer
  | further {path between outer : Path} (up : path.parent? = some between)
    (rest : Within between outer) : Within path outer

variable {lead : Lead} {pieces : List (List Char)} {path other outer : Path}

theorem Within.of_parent?_eq (within : path.Within outer) (same : other.parent? = path.parent?) :
    other.Within outer := by
  cases within with
  | parent up => exact .parent (same.trans up)
  | further up rest => exact .further (same.trans up) rest

theorem within_of_mem_enclosing (mem : outer ∈ enclosing lead pieces) :
    Within ⟨lead, pieces⟩ outer := by
  induction pieces with
  | nil => simp [enclosing] at mem
  | cons piece pieces ih =>
      unfold enclosing at mem
      split at mem
      · next skipped =>
          apply (ih mem).of_parent?_eq
          simp [parent?, skipped]
      · next counted =>
          have up : parent? ⟨lead, piece :: pieces⟩ =
              some ⟨lead, pieces.dropWhile isEmptyPiece⟩ := by
            simp [parent?, counted]
          rcases List.mem_cons.mp mem with rfl | further
          · exact .parent up
          · apply Within.further up
            apply (ih further).of_parent?_eq
            simp only [parent?, List.dropWhile_idempotent]

end Path

namespace FileTree

/-- The other tree is the tree with directories made where there was nothing, each of them at one
of the paths. -/
structure Gains (paths : List Path) (tree other : FileTree) : Prop where
  working : other.working = tree.working
  nodes : ∀ location, other.nodeAt location = tree.nodeAt location ∨
    tree.nodeAt location = none ∧ other.nodeAt location = some .directory ∧
      ∃ path ∈ paths, other.find path.text = .ok location

variable {tree between other : FileTree} {location target : Location} {name : List Char}
  {path : String}

theorem isDirectory_iff :
    tree.isDirectory path = true ↔
      ∃ location, tree.find path = .ok location ∧ tree.nodeAt location = some .directory := by
  unfold isDirectory look
  cases found : tree.find path with
  | error cause => simp
  | ok location => simp

theorem isDirectory_within (within : tree.Within other) (directory : tree.isDirectory path) :
    other.isDirectory path := by
  rw [isDirectory_iff] at directory ⊢
  rcases directory with ⟨location, found, node⟩
  exact ⟨location, find_within within found, within.directories location node⟩

section Steps

variable {route : Route}

/-- A name leads to the directory itself, out of it, or to something in it. -/
theorem enter_cases (entered : tree.enter location name = .ok target) :
    tree.checkDirectory location = .ok () ∧
      ((name = ['.'] ∧ target = location) ∨ (name = ['.', '.'] ∧ target = location.tail) ∨
        name ≠ ['.'] ∧ name ≠ ['.', '.'] ∧ byteLength name ≤ 255 ∧
          (tree.nodeAt (name :: location)).isSome ∧ target = name :: location) := by
  unfold enter at entered
  rcases ok_of_bind entered with ⟨_, checked, entered⟩
  refine ⟨checked, ?_⟩
  split at entered
  · next self =>
      cases entered
      exact Or.inl ⟨self, rfl⟩
  · next notSelf =>
      split at entered
      · next outwards =>
          cases entered
          exact Or.inr (Or.inl ⟨outwards, rfl⟩)
      · next notParent =>
          split at entered
          · cases entered
          · next short =>
              split at entered
              · next there =>
                  cases entered
                  exact Or.inr (Or.inr ⟨notSelf, notParent, Nat.le_of_not_lt short, there, rfl⟩)
              · cases entered

/-- A path without names is made of slashes. -/
theorem start_of_nameless (routed : tree.route path = .ok route) (nameless : route.names = []) :
    route.start = [] := by
  unfold FileTree.route at routed
  dsimp only at routed
  split at routed
  · cases routed
  · split at routed
    · cases routed
    · next some =>
        split at routed
        · cases routed
        · cases routed
          dsimp only at nameless ⊢
          cases text : path.toList with
          | nil => simp [text] at some
          | cons c rest =>
              by_cases slash : c = '/'
              · simp [slash]
              · rw [text, Text.split, if_neg slash] at nameless
                split at nameless
                · simp at nameless
                · simp at nameless

/-- A walk that comes to its end has been at the directory of the last name. -/
theorem lastStep_of_walk (routed : tree.route path = .ok route)
    (walked : tree.walk route.start route.names = .ok target) :
    (∃ location, tree.lastStep route = .ok (location, none) ∧
      tree.checkDirectory location = .ok () ∧ (target = location ∨ target = location.tail)) ∨
    ∃ location name, tree.lastStep route = .ok (location, some name) ∧
      target = name :: location ∧ byteLength name ≤ 255 ∧ (tree.nodeAt target).isSome := by
  unfold lastStep
  rcases List.eq_nil_or_concat route.names with nameless | ⟨names, name, named⟩
  · have start := start_of_nameless routed nameless
    rw [nameless, start] at walked
    cases walked
    left
    refine ⟨[], ?_, rfl, Or.inl rfl⟩
    rw [nameless, start]
    rfl
  · unfold walk at walked
    rw [named, List.concat_eq_append, List.foldlM_append] at walked
    rcases ok_of_bind walked with ⟨location, before, last⟩
    rw [List.foldlM_cons] at last
    rcases ok_of_bind last with ⟨reached, entered, last⟩
    cases last
    rcases enter_cases entered with ⟨checked, step⟩
    have reach : tree.walk route.start route.names.dropLast = .ok location := by
      rw [named, List.concat_eq_append, List.dropLast_concat]
      exact before
    have ends : route.names.getLast? = some name := by simp [named]
    simp only [reach, checked, ends, bind, Except.bind, pure, Except.pure]
    rcases step with ⟨rfl, rfl⟩ | ⟨rfl, rfl⟩ | ⟨notSelf, notParent, short, there, rfl⟩
    · exact Or.inl ⟨_, rfl, checked, Or.inl rfl⟩
    · exact Or.inl ⟨_, rfl, checked, Or.inr rfl⟩
    · right
      refine ⟨location, name, ?_, rfl, short, there⟩
      simp [notSelf, notParent]

end Steps

namespace Gains

variable {paths more : List Path}

theorem refl (paths : List Path) (tree : FileTree) : Gains paths tree tree :=
  ⟨rfl, fun _ => Or.inl rfl⟩

theorem within (gains : Gains paths tree other) : tree.Within other where
  working := gains.working
  directories location directory := by
    rcases gains.nodes location with same | ⟨_, made, _⟩
    · exact same.trans directory
    · exact made
  nodes location there := by
    rcases gains.nodes location with same | ⟨_, made, _⟩
    · rw [same]
      exact there
    · rw [made]
      rfl

theorem trans (first : Gains paths tree between) (second : Gains paths between other) :
    Gains paths tree other where
  working := second.working.trans first.working
  nodes location := by
    rcases second.nodes location with same | ⟨nothing, made, path, mem, found⟩
    · rcases first.nodes location with kept | ⟨nothing, made, path, mem, found⟩
      · exact Or.inl (same.trans kept)
      · exact Or.inr ⟨nothing, same.trans made, path, mem, find_within second.within found⟩
    · rcases first.nodes location with kept | ⟨_, was, _⟩
      · exact Or.inr ⟨kept.symm.trans nothing, made, path, mem, found⟩
      · rw [was] at nothing
        cases nothing

theorem mono (gains : Gains paths tree other) (sub : paths ⊆ more) : Gains more tree other where
  working := gains.working
  nodes location := by
    rcases gains.nodes location with same | ⟨nothing, made, path, mem, found⟩
    · exact Or.inl same
    · exact Or.inr ⟨nothing, made, path, sub mem, found⟩

theorem file_iff (gains : Gains paths tree other) (location : Location) (bytes : List UInt8) :
    other.nodeAt location = some (.file bytes) ↔ tree.nodeAt location = some (.file bytes) := by
  rcases gains.nodes location with same | ⟨nothing, made, _⟩
  · rw [same]
  · simp [nothing, made]

end Gains

theorem makeDirectory_cases (made : tree.makeDirectory path = .ok other) :
    ∃ route location name, tree.route path = .ok route ∧
      tree.lastStep route = .ok (location, some name) ∧ byteLength name ≤ 255 ∧
      tree.nodeAt (name :: location) = none ∧
      other = tree.put (name :: location) .directory := by
  unfold makeDirectory at made
  rcases ok_of_bind made with ⟨route, routed, made⟩
  rcases ok_of_bind made with ⟨⟨location, last⟩, stepped, made⟩
  cases last with
  | none => cases made
  | some name =>
      refine ⟨route, location, name, routed, stepped, ?_⟩
      dsimp only at made
      split at made
      · cases made
      · next short =>
          split at made
          · cases made
          · next free =>
              cases made
              exact ⟨Nat.le_of_not_lt short, by simpa using free, rfl⟩

theorem gains_of_makeDirectory {path : Path} (made : tree.makeDirectory path.text = .ok other) :
    Gains [path] tree other ∧ other.isDirectory path.text := by
  rcases makeDirectory_cases made with ⟨route, location, name, routed, stepped, short, free, rfl⟩
  have node := nodeAt_put tree name location .directory
  have within : tree.Within (tree.put (name :: location) .directory) := by
    apply within_put
    simp [free]
  have found :
      (tree.put (name :: location) .directory).find path.text = .ok (name :: location) := by
    apply find_of_lastStep within routed stepped short
    · simp [node]
    · simp [node]
  constructor
  · refine ⟨rfl, ?_⟩
    intro target
    by_cases same : target = name :: location
    · subst same
      exact Or.inr ⟨free, node, path, List.mem_singleton_self path, found⟩
    · exact Or.inl (nodeAt_put_of_ne same)
  · rw [isDirectory_iff]
    exact ⟨name :: location, found, node⟩

section MakeDirectories

variable {first : Path} {outer : List Path} {outcome : Except FileError Unit}

/-- Making a directory either finds nothing to do, or makes the directory, before or after the ones
around it. -/
theorem makeDirectories_cases (made : tree.makeDirectories (first :: outer) = (outcome, other)) :
    ∃ between, (between = tree ∨ ∃ result, tree.makeDirectories outer = (result, between)) ∧
      (between.makeDirectory first.text = .ok other ∨
        other = between ∧ (outcome = .ok () → first.text = "" ∨ between.isDirectory first.text)) := by
  unfold makeDirectories at made
  dsimp only at made
  split at made
  · next nowhere =>
      cases made
      exact ⟨tree, Or.inl rfl, Or.inr ⟨rfl, fun _ => Or.inl nowhere⟩⟩
  · split at made
    · next done =>
        cases made
        exact ⟨tree, Or.inl rfl, Or.inl done⟩
    · split at made
      · next around =>
          cases made
          exact ⟨other, Or.inr ⟨_, around⟩, Or.inr ⟨rfl, nofun⟩⟩
      · next between around =>
          refine ⟨between, Or.inr ⟨_, around⟩, ?_⟩
          split at made
          · next done =>
              cases made
              exact Or.inl done
          · split at made
            · next there =>
                cases made
                exact Or.inr ⟨rfl, fun _ => Or.inr there⟩
            · cases made
              exact Or.inr ⟨rfl, nofun⟩
    · refine ⟨tree, Or.inl rfl, ?_⟩
      split at made
      · next there =>
          cases made
          exact Or.inr ⟨rfl, fun _ => Or.inr there⟩
      · cases made
        exact Or.inr ⟨rfl, nofun⟩

theorem gains_of_makeDirectories {paths : List Path}
    (made : tree.makeDirectories paths = (outcome, other)) :
    Gains paths tree other := by
  induction paths generalizing outcome other with
  | nil =>
      cases made
      exact .refl _ _
  | cons first outer ih =>
      rcases makeDirectories_cases made with ⟨between, around, last⟩
      have before : Gains (first :: outer) tree between := by
        rcases around with rfl | ⟨result, around⟩
        · exact .refl _ _
        · apply (ih around).mono
          simp
      rcases last with done | ⟨rfl, _⟩
      · apply before.trans
        apply (gains_of_makeDirectory done).1.mono
        simp
      · exact before

theorem isDirectory_of_makeDirectories
    (made : tree.makeDirectories (first :: outer) = (.ok (), other)) :
    first.text = "" ∨ other.isDirectory first.text := by
  rcases makeDirectories_cases made with ⟨between, _, done | ⟨rfl, ready⟩⟩
  · exact Or.inr (gains_of_makeDirectory done).2
  · exact ready rfl

theorem makeDirectory_of_isDirectory (directory : tree.isDirectory path) :
    tree.makeDirectory path = .error .alreadyExists := by
  rw [isDirectory_iff] at directory
  rcases directory with ⟨target, found, _⟩
  rcases find_cases found with ⟨route, routed, walked, _⟩
  unfold makeDirectory
  rcases lastStep_of_walk routed walked with
    ⟨location, stepped, _⟩ | ⟨location, name, stepped, rfl, short, there⟩
  · simp only [routed, stepped, bind, Except.bind]
    rfl
  · simp only [routed, stepped, there, Nat.not_lt.mpr short, bind, Except.bind]
    rfl

theorem makeDirectories_of_isDirectory (directory : first.text = "" ∨ tree.isDirectory first.text)
    (outer : List Path) : tree.makeDirectories (first :: outer) = (.ok (), tree) := by
  unfold makeDirectories
  rcases directory with nowhere | there
  · simp [nowhere]
  · simp [makeDirectory_of_isDirectory there, there]

end MakeDirectories

/-- The directories around a file that is to be written, as far as they can be made. -/
def prepare (tree : FileTree) (path : String) : Except FileError Unit × FileTree :=
  match (Path.ofText path).parent? with
  | none => (.ok (), tree)
  | some parent => tree.makeDirectories (parent :: Path.enclosing parent.lead parent.pieces)

theorem store_eq (tree : FileTree) (path : String) (bytes : List UInt8) :
    tree.store path bytes =
      match tree.prepare path with
      | (.error error, tree) => (.error error, tree)
      | (.ok (), tree) =>
        match tree.writeBytes path bytes with
        | .ok tree => (.ok (), tree)
        | .error error => (.error error, tree) := rfl

section Storing

variable {bytes : List UInt8}

theorem prepare_again (prepared : tree.prepare path = (.ok (), between))
    (within : between.Within other) : other.prepare path = (.ok (), other) := by
  unfold prepare at prepared ⊢
  split at prepared
  · rfl
  · apply makeDirectories_of_isDirectory
    rcases isDirectory_of_makeDirectories prepared with nowhere | there
    · exact Or.inl nowhere
    · exact Or.inr (isDirectory_within within there)

theorem writeBytes_of_lastStep {route : Route} (routed : tree.route path = .ok route)
    (stepped : tree.lastStep route = .ok (location, some name)) (unslashed : route.slashed = false)
    (short : byteLength name ≤ 255) (free : tree.nodeAt (name :: location) ≠ some .directory)
    (bytes : List UInt8) :
    tree.writeBytes path bytes = .ok (tree.put (name :: location) (.file bytes)) := by
  unfold writeBytes
  simp only [routed, stepped, unslashed, free, Nat.not_lt.mpr short, bind, Except.bind]
  rfl

theorem put_put (tree : FileTree) (location : Location) (node again : FileNode) :
    (tree.put location node).put location again = tree.put location again := by
  unfold put
  congr
  funext target
  dsimp only
  split <;> rfl

theorem writeBytes_again (written : tree.writeBytes path bytes = .ok other) (again : List UInt8) :
    ∃ last, tree.writeBytes path again = .ok last ∧ other.writeBytes path again = .ok last := by
  rcases writeBytes_cases written with
    ⟨route, location, name, routed, stepped, unslashed, short, free, rfl⟩
  have within : tree.Within (tree.put (name :: location) (.file bytes)) := within_put free
  refine ⟨tree.put (name :: location) (.file again), ?_, ?_⟩
  · exact writeBytes_of_lastStep routed stepped unslashed short free again
  · rw [← put_put tree (name :: location) (.file bytes) (.file again)]
    apply writeBytes_of_lastStep _ (lastStep_within within stepped) unslashed short
    · simp [nodeAt_put]
    · rw [route_within within]
      exact routed

/-- What is stored after something else under the same path leaves what it leaves alone. -/
theorem store_again (stored : tree.store path bytes = (.ok (), other)) (again : List UInt8) :
    ∃ last, tree.store path again = (.ok (), last) ∧ other.store path again = (.ok (), last) := by
  rw [store_eq] at stored
  split at stored
  · cases stored
  · next between prepared =>
      split at stored
      · next written =>
          cases stored
          rcases writeBytes_cases written with ⟨_, _, _, _, _, _, _, free, same⟩
          rcases writeBytes_again written again with ⟨last, once, twice⟩
          have within : between.Within other := by
            rw [same]
            exact within_put free
          refine ⟨last, ?_, ?_⟩
          · simp only [store_eq, prepared, once]
          · simp only [store_eq, prepare_again prepared within, twice]
      · cases stored

theorem gains_of_store {cause : FileError} (failed : tree.store path bytes = (.error cause, other)) :
    ∃ paths : List Path, (∀ outer ∈ paths, (Path.ofText path).Within outer) ∧
      Gains paths tree other := by
  have prepared : ∃ outcome, tree.prepare path = (outcome, other) := by
    rw [store_eq] at failed
    split at failed
    · next prepared =>
        cases failed
        exact ⟨_, prepared⟩
    · next prepared =>
        split at failed
        · cases failed
        · cases failed
          exact ⟨_, prepared⟩
  rcases prepared with ⟨outcome, prepared⟩
  unfold prepare at prepared
  split at prepared
  · cases prepared
    exact ⟨[], nofun, .refl _ _⟩
  · next parent up =>
      refine ⟨_, ?_, gains_of_makeDirectories prepared⟩
      intro outer mem
      rcases List.mem_cons.mp mem with rfl | further
      · exact .parent up
      · exact .further up (Path.within_of_mem_enclosing further)

end Storing

end FileTree

end CommandUrl
