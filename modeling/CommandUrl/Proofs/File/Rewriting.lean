import CommandUrl.Proofs.File.Path
import CommandUrl.Proofs.File.Storing

/-!
# A file that is there can be written over

In the trees that come of making directories and writing files, everything is in a
directory. There a file that can be read under a path can also be stored under it: the
walk to the file goes through the directory that it is in, so that nothing has to be
made, and the last name of the path is the name of the file.
-/

namespace CommandUrl.FileTree

/-- Everything is in a directory. -/
def Rooted (tree : FileTree) : Prop :=
  ∀ name location, (tree.nodeAt (name :: location)).isSome → tree.nodeAt location = some .directory

variable {tree other : FileTree} {location target : Location} {name : List Char} {path : String}
  {bytes : List UInt8}

section Invariant

theorem rooted_ofWorking (working : Location) : (ofWorking working).Rooted := by
  intro name location there
  have inside : name :: location <:+ working := by simpa [nodeAt, ofWorking] using there
  cases location with
  | nil => rfl
  | cons next location => simpa [nodeAt, ofWorking] using (List.suffix_cons name _).trans inside

theorem rooted_put {node : FileNode} (rooted : tree.Rooted)
    (directory : tree.nodeAt location = some .directory)
    (free : tree.nodeAt (name :: location) ≠ some .directory) :
    (tree.put (name :: location) node).Rooted := by
  intro first outer there
  have different : outer ≠ name :: location := by
    rintro rfl
    apply free
    apply rooted first
    rwa [nodeAt_put_of_ne (by simp)] at there
  rw [nodeAt_put_of_ne different]
  by_cases same : first :: outer = name :: location
  · cases same
    exact directory
  · rw [nodeAt_put_of_ne same] at there
    exact rooted first outer there

theorem rooted_makeDirectory (rooted : tree.Rooted) (made : tree.makeDirectory path = .ok other) :
    other.Rooted := by
  rcases makeDirectory_cases made with ⟨route, location, name, _, stepped, _, free, rfl⟩
  rcases lastStep_cases stepped with ⟨_, _, _, _, checked⟩
  apply rooted_put rooted (nodeAt_of_checkDirectory checked)
  simp [free]

theorem rooted_writeBytes (rooted : tree.Rooted) (written : tree.writeBytes path bytes = .ok other) :
    other.Rooted := by
  rcases writeBytes_cases written with ⟨route, location, name, _, stepped, _, _, free, rfl⟩
  rcases lastStep_cases stepped with ⟨_, _, _, _, checked⟩
  exact rooted_put rooted (nodeAt_of_checkDirectory checked) free

theorem rooted_makeDirectories {paths : List Path} {outcome : Except FileError Unit}
    (rooted : tree.Rooted) (made : tree.makeDirectories paths = (outcome, other)) :
    other.Rooted := by
  induction paths generalizing outcome other with
  | nil =>
      cases made
      exact rooted
  | cons first outer ih =>
      rcases makeDirectories_cases made with ⟨between, around, last⟩
      have before : between.Rooted := by
        rcases around with rfl | ⟨result, around⟩
        · exact rooted
        · exact ih around
      rcases last with done | ⟨rfl, _⟩
      · exact rooted_makeDirectory before done
      · exact before

theorem rooted_store (rooted : tree.Rooted) (path : String) (bytes : List UInt8) :
    (tree.store path bytes).2.Rooted := by
  have prepared : (tree.prepare path).2.Rooted := by
    unfold prepare
    split
    · exact rooted
    · exact rooted_makeDirectories rooted rfl
  rw [store_eq]
  split
  · next failed =>
      rw [failed] at prepared
      exact prepared
  · next ready =>
      rw [ready] at prepared
      split
      · next written => exact rooted_writeBytes prepared written
      · exact prepared

end Invariant

section Parent

variable {route : Route} {outer : Path}

theorem walk_of_dots {names dots : List (List Char)} (dotted : ∀ step ∈ dots, step = ['.'])
    (walked : tree.walk location (names ++ dots) = .ok target) :
    tree.walk location names = .ok target := by
  unfold walk at walked ⊢
  rw [List.foldlM_append] at walked
  rcases ok_of_bind walked with ⟨reached, first, rest⟩
  have stays : reached = target := by
    clear first walked
    induction dots with
    | nil =>
        cases rest
        rfl
    | cons step dots ih =>
        cases dotted step (by simp)
        rw [List.foldlM_cons] at rest
        rcases ok_of_bind rest with ⟨next, entered, further⟩
        rcases enter_cases entered with ⟨_, ⟨_, rfl⟩ | ⟨differs, _⟩ | ⟨differs, _⟩⟩
        · exact ih (fun other mem => dotted other (by simp [mem])) further
        · cases differs
        · exact absurd rfl differs
  rw [← stays]
  exact first

theorem byteLength_append (text rest : List Char) :
    byteLength (text ++ rest) = byteLength text + byteLength rest := by
  simp [byteLength, Utf8.encode_append]

theorem names_of_route (routed : tree.route path = .ok route) :
    route.names = Path.steps path.toList := by
  unfold FileTree.route at routed
  dsimp only at routed
  split at routed
  · cases routed
  · split at routed
    · cases routed
    · split at routed
      · cases routed
      · cases routed
        rfl

/-- A beginning of the text of a path is a path from the same place. -/
theorem route_of_prefix {text : List Char} (routed : tree.route path = .ok route)
    (some : text ≠ []) (whole : text <+: path.toList) :
    ∃ slashed, tree.route (String.ofList text) = .ok ⟨route.start, Path.steps text, slashed⟩ := by
  rcases whole with ⟨rest, whole⟩
  unfold FileTree.route at routed ⊢
  dsimp only at routed ⊢
  rw [← whole] at routed
  split at routed
  · cases routed
  · next clean =>
      split at routed
      · cases routed
      · split at routed
        · cases routed
        · next fits =>
            cases routed
            have start : (text ++ rest).head? = text.head? := by
              rcases List.exists_cons_of_ne_nil some with ⟨first, more, rfl⟩
              rfl
            have cleanText : ¬ text.contains '\x00' = true := by
              intro mem
              rw [List.contains_iff_mem] at clean mem
              exact clean (List.mem_append_left rest mem)
            have fitsText : ¬ 4096 ≤ byteLength text := by
              rw [byteLength_append] at fits
              omega
            refine ⟨text.getLast? = Option.some '/', ?_⟩
            rw [String.toList_ofList, if_neg cleanText, if_neg (by simpa using some),
              if_neg fitsText, start]
            rfl

/-- What the last name of a path is looked up in is where the path around it leads. -/
theorem find_of_parent (routed : tree.route path = .ok route)
    (stepped : tree.lastStep route = .ok (location, some name))
    (up : (Path.ofText path).parent? = some outer) :
    outer.text = "" ∨ tree.find outer.text = .ok location := by
  by_cases nowhere : outer.chars = []
  · left
    simp [Path.text, nowhere]
  · right
    have text : (Path.ofText path).chars = path.toList := Path.chars_ofChars _
    have cut : (Path.ofText path).Cut := Path.cut_ofChars _
    have around := Path.prefix_of_parent? up
    rcases Path.steps_of_parent? cut up nowhere with ⟨dots, last, more, whole, dotted⟩
    rw [text] at around whole
    rcases route_of_prefix routed nowhere around with ⟨slashed, routedOuter⟩
    rcases lastStep_cases stepped with ⟨ends, notSelf, _, walked, checked⟩
    rw [names_of_route routed, whole] at ends walked
    rcases List.eq_nil_or_concat more with rfl | ⟨between, step, rfl⟩
    · rw [← List.append_assoc, List.dropLast_concat] at walked
      have reached := walk_of_dots (fun step mem => dotted step (by simp [mem])) walked
      exact find_of_walk routedOuter reached (fun _ => checked)
    · -- the last name would be a dot
      have same : step = name := by
        have lasts := congrArg List.getLast? ends
        simpa [List.getLast?_cons] using lasts
      rw [← same] at notSelf
      exact absurd (dotted step (by simp)) notSelf

theorem isDirectory_of_parent (routed : tree.route path = .ok route)
    (stepped : tree.lastStep route = .ok (location, some name))
    (up : (Path.ofText path).parent? = some outer) :
    outer.text = "" ∨ tree.isDirectory outer.text := by
  rcases find_of_parent routed stepped up with nowhere | found
  · exact Or.inl nowhere
  · rcases lastStep_cases stepped with ⟨_, _, _, _, checked⟩
    right
    apply isDirectory_iff.mpr
    exact ⟨location, found, nodeAt_of_checkDirectory checked⟩

end Parent

/-- A path that leads to a file ends with the name of the file, and not with dots or a slash. -/
theorem lastStep_of_file (rooted : tree.Rooted) (found : tree.find path = .ok target)
    (file : tree.nodeAt target = some (.file bytes)) :
    ∃ route location name, tree.route path = .ok route ∧
      tree.lastStep route = .ok (location, some name) ∧ target = name :: location ∧
      route.slashed = false ∧ byteLength name ≤ 255 := by
  rcases find_cases found with ⟨route, routed, walked, closed⟩
  rcases lastStep_of_walk routed walked with
    ⟨location, _, checked, outwards⟩ | ⟨location, name, stepped, same, short, _⟩
  · -- with no name at its end the path leads to a directory
    have directory : tree.nodeAt target = some .directory := by
      have here := nodeAt_of_checkDirectory checked
      rcases outwards with rfl | rfl
      · exact here
      · cases location with
        | nil => exact here
        | cons name outer => exact rooted name outer (by simp [here])
    rw [file] at directory
    cases directory
  · refine ⟨route, location, name, routed, stepped, same, ?_, short⟩
    by_contra slashed
    have directory := nodeAt_of_checkDirectory (closed (by simpa using slashed))
    rw [file] at directory
    cases directory

theorem store_of_readBytes (rooted : tree.Rooted) (readable : tree.readBytes path = .ok bytes)
    (again : List UInt8) : ∃ other, tree.store path again = (.ok (), other) := by
  unfold readBytes at readable
  rcases ok_of_bind readable with ⟨target, found, readable⟩
  have file : ∃ bytes, tree.nodeAt target = some (.file bytes) := by
    split at readable
    · exact ⟨_, by assumption⟩
    · cases readable
    · cases readable
  rcases file with ⟨held, file⟩
  rcases lastStep_of_file rooted found file with
    ⟨route, location, name, routed, stepped, rfl, unslashed, short⟩
  have written := writeBytes_of_lastStep routed stepped unslashed short (by simp [file]) again
  have prepared : tree.prepare path = (.ok (), tree) := by
    unfold prepare
    split
    · rfl
    · next up =>
        apply makeDirectories_of_isDirectory
        exact isDirectory_of_parent routed stepped up
  refine ⟨tree.put (name :: location) (.file again), ?_⟩
  simp only [store_eq, prepared, written]

end CommandUrl.FileTree
