import CommandUrl.File.Tree
import CommandUrl.Proofs.Text.Utf8

/-!
# What is written is read

Writing a file puts one node into the tree, at a location that is no directory.
Walks go through directories alone, so a walk that came to its end before the
file was written comes to the same end after it. This is what makes the file
that is read under a path the one that was written under it, wherever the path
led and whatever was there.
-/

namespace CommandUrl

section Outcomes

variable {ε α β : Type} {result : β}

/-- What a failing step would have broken off was done. -/
theorem ok_of_bind {step : Except ε α} {next : α → Except ε β} (done : step >>= next = .ok result) :
    ∃ value, step = .ok value ∧ next value = .ok result := by
  cases step with
  | error cause => cases done
  | ok value => exact ⟨value, rfl, done⟩

theorem ok_of_map {change : α → β} {outcome : Except ε α} (mapped : outcome.map change = .ok result) :
    ∃ value, outcome = .ok value ∧ change value = result := by
  cases outcome with
  | error cause => cases mapped
  | ok value =>
      cases mapped
      exact ⟨value, rfl, rfl⟩

end Outcomes

namespace FileTree

/-- Whatever can be walked in the tree can be walked in the other one. -/
structure Within (tree other : FileTree) : Prop where
  working : other.working = tree.working
  directories : ∀ location, tree.nodeAt location = some .directory →
    other.nodeAt location = some .directory
  nodes : ∀ location, (tree.nodeAt location).isSome → (other.nodeAt location).isSome

variable {tree other : FileTree} {location target : Location} {name : List Char} {path : String}

theorem nodeAt_put (tree : FileTree) (name : List Char) (location : Location) (node : FileNode) :
    (tree.put (name :: location) node).nodeAt (name :: location) = some node := by
  simp [nodeAt, put]

theorem nodeAt_put_of_ne {node : FileNode} (different : target ≠ location) :
    (tree.put location node).nodeAt target = tree.nodeAt target := by
  cases target with
  | nil => rfl
  | cons first rest => simp [nodeAt, put, different]

theorem within_put {node : FileNode} (free : tree.nodeAt (name :: location) ≠ some .directory) :
    tree.Within (tree.put (name :: location) node) where
  working := rfl
  directories target directory := by
    have different : target ≠ name :: location := by
      rintro rfl
      exact free directory
    rw [nodeAt_put_of_ne different]
    exact directory
  nodes target there := by
    by_cases same : target = name :: location
    · rw [same, nodeAt_put]
      rfl
    · rw [nodeAt_put_of_ne same]
      exact there

theorem nodeAt_of_checkDirectory (checked : tree.checkDirectory location = .ok ()) :
    tree.nodeAt location = some .directory := by
  unfold checkDirectory at checked
  split at checked
  · assumption
  · cases checked
  · cases checked

section Walks

variable (within : tree.Within other)

include within

theorem checkDirectory_within (checked : tree.checkDirectory location = .ok ()) :
    other.checkDirectory location = .ok () := by
  rw [checkDirectory, within.directories location (nodeAt_of_checkDirectory checked)]

theorem enter_within (entered : tree.enter location name = .ok target) :
    other.enter location name = .ok target := by
  unfold enter at entered ⊢
  rcases ok_of_bind entered with ⟨_, checked, entered⟩
  rw [checkDirectory_within within checked]
  simp only [bind, Except.bind]
  -- the names with dots and the lengths of names have nothing to do with the tree
  split at entered
  · next self =>
      rw [if_pos self]
      exact entered
  · next notSelf =>
      rw [if_neg notSelf]
      split at entered
      · next parent =>
          rw [if_pos parent]
          exact entered
      · next notParent =>
          rw [if_neg notParent]
          split at entered
          · cases entered
          · next short =>
              rw [if_neg short]
              split at entered
              · next there =>
                  rw [if_pos (within.nodes _ there)]
                  exact entered
              · cases entered

theorem walk_within {names : List (List Char)} (walked : tree.walk location names = .ok target) :
    other.walk location names = .ok target := by
  induction names generalizing location with
  | nil => exact walked
  | cons name names ih =>
      rw [walk, List.foldlM_cons] at walked ⊢
      rcases ok_of_bind walked with ⟨next, entered, rest⟩
      rw [enter_within within entered]
      exact ih rest

theorem route_within (path : String) : other.route path = tree.route path := by
  simp only [route, within.working]

end Walks

section Finding

variable {route : Route}

theorem find_cases (found : tree.find path = .ok target) :
    ∃ route, tree.route path = .ok route ∧ tree.walk route.start route.names = .ok target ∧
      (route.slashed = true → tree.checkDirectory target = .ok ()) := by
  unfold find at found
  rcases ok_of_bind found with ⟨route, routed, found⟩
  rcases ok_of_bind found with ⟨reached, walked, found⟩
  refine ⟨route, routed, ?_⟩
  cases slashed : route.slashed with
  | false =>
      simp only [slashed] at found
      cases found
      exact ⟨walked, nofun⟩
  | true =>
      simp only [slashed, if_true] at found
      rcases ok_of_bind found with ⟨_, checked, found⟩
      cases found
      exact ⟨walked, fun _ => checked⟩

theorem find_of_walk (routed : tree.route path = .ok route)
    (walked : tree.walk route.start route.names = .ok target)
    (closed : route.slashed = true → tree.checkDirectory target = .ok ()) :
    tree.find path = .ok target := by
  unfold find
  simp only [routed, walked, bind, Except.bind]
  cases slashed : route.slashed with
  | false => rfl
  | true =>
      simp only [closed slashed]
      rfl

theorem find_within (within : tree.Within other) (found : tree.find path = .ok location) :
    other.find path = .ok location := by
  rcases find_cases found with ⟨route, routed, walked, closed⟩
  rw [← route_within within] at routed
  exact find_of_walk routed (walk_within within walked) fun slashed =>
    checkDirectory_within within (closed slashed)

end Finding

/-- The last step of a route that can be written at. -/
theorem lastStep_cases {route : Route} (stepped : tree.lastStep route = .ok (location, some name)) :
    route.names = route.names.dropLast ++ [name] ∧ name ≠ ['.'] ∧ name ≠ ['.', '.'] ∧
      tree.walk route.start route.names.dropLast = .ok location ∧
      tree.checkDirectory location = .ok () := by
  unfold lastStep at stepped
  rcases ok_of_bind stepped with ⟨reached, walked, stepped⟩
  rcases ok_of_bind stepped with ⟨_, checked, stepped⟩
  split at stepped
  · cases stepped
  · next last ends =>
      simp only [pure, Except.pure, Except.ok.injEq, Prod.mk.injEq] at stepped
      rcases stepped with ⟨rfl, named⟩
      split at named
      · cases named
      · next proper =>
          rw [not_or] at proper
          cases named
          have whole : route.names = route.names.dropLast ++ [name] := by
            rcases List.getLast?_eq_some_iff.mp ends with ⟨names, same⟩
            rw [same, List.dropLast_concat]
          exact ⟨whole, proper.1, proper.2, walked, checked⟩

theorem writeBytes_cases {bytes : List UInt8}
    (written : tree.writeBytes path bytes = .ok other) :
    ∃ route location name, tree.route path = .ok route ∧
      tree.lastStep route = .ok (location, some name) ∧ route.slashed = false ∧
      byteLength name ≤ 255 ∧ tree.nodeAt (name :: location) ≠ some .directory ∧
      other = tree.put (name :: location) (.file bytes) := by
  unfold writeBytes at written
  rcases ok_of_bind written with ⟨route, routed, written⟩
  rcases ok_of_bind written with ⟨⟨location, last⟩, stepped, written⟩
  cases last with
  | none => cases written
  | some name =>
      refine ⟨route, location, name, routed, stepped, ?_⟩
      dsimp only at written
      split at written
      · cases written
      · next unslashed =>
          split at written
          · cases written
          · next short =>
              split at written
              · cases written
              · next free =>
                  cases written
                  exact ⟨by simpa using unslashed, Nat.le_of_not_lt short, free, rfl⟩

section LastStep

variable {route : Route}

theorem lastStep_within (within : tree.Within other) {step : Location × Option (List Char)}
    (stepped : tree.lastStep route = .ok step) : other.lastStep route = .ok step := by
  unfold lastStep at stepped ⊢
  rcases ok_of_bind stepped with ⟨reached, walked, stepped⟩
  rcases ok_of_bind stepped with ⟨_, checked, stepped⟩
  simp only [walk_within within walked, checkDirectory_within within checked, bind, Except.bind]
  exact stepped

/-- Once there is something at the end of a path, the path leads to it. -/
theorem find_of_lastStep (within : tree.Within other) (routed : tree.route path = .ok route)
    (stepped : tree.lastStep route = .ok (location, some name)) (short : byteLength name ≤ 255)
    (there : (other.nodeAt (name :: location)).isSome)
    (closed : route.slashed = true → other.nodeAt (name :: location) = some .directory) :
    other.find path = .ok (name :: location) := by
  rcases lastStep_cases stepped with ⟨whole, notSelf, notParent, walked, checked⟩
  have entered : other.enter location name = .ok (name :: location) := by
    unfold enter
    rw [checkDirectory_within within checked, if_neg notSelf, if_neg notParent,
      if_neg (Nat.not_lt.mpr short), there]
    rfl
  have reached : other.walk route.start route.names = .ok (name :: location) := by
    have before : other.walk route.start route.names.dropLast = .ok location :=
      walk_within within walked
    unfold walk at before ⊢
    rw [whole, List.foldlM_append, before]
    simp only [bind, Except.bind, List.foldlM_cons, List.foldlM_nil, entered]
    rfl
  apply find_of_walk _ reached
  · intro slashed
    rw [checkDirectory, closed slashed]
  · rw [route_within within]
    exact routed

end LastStep

/-- The file that was written under a path is what is read under that path. -/
theorem readBytes_of_writeBytes {bytes : List UInt8}
    (written : tree.writeBytes path bytes = .ok other) : other.readBytes path = .ok bytes := by
  rcases writeBytes_cases written with
    ⟨route, location, name, routed, stepped, unslashed, short, free, rfl⟩
  have node := nodeAt_put tree name location (.file bytes)
  have found : (tree.put (name :: location) (.file bytes)).find path = .ok (name :: location) := by
    apply find_of_lastStep (within_put free) routed stepped short
    · simp [node]
    · simp [unslashed]
  unfold readBytes
  rw [found]
  simp only [bind, Except.bind, node]
  rfl

theorem readText_of_readBytes {bytes : List UInt8} {text : List Char}
    (readable : tree.readBytes path = .ok bytes) (decoded : Utf8.decode? bytes = some text) :
    tree.readText path = .ok text := by
  unfold readText
  simp only [readable, decoded, bind, Except.bind]
  rfl

theorem readText_of_writeBytes {text : List Char}
    (written : tree.writeBytes path (Utf8.encode text) = .ok other) :
    other.readText path = .ok text :=
  readText_of_readBytes (readBytes_of_writeBytes written) (Utf8.decode?_encode text)

/-- Making the directories around a file first makes no difference to what is read. -/
theorem readText_of_store {text : List Char}
    (stored : tree.store path (Utf8.encode text) = (.ok (), other)) :
    other.readText path = .ok text := by
  unfold store at stored
  dsimp only at stored
  split at stored
  · cases stored
  · next prepared _ =>
      split at stored
      · next written =>
          cases stored
          exact readText_of_writeBytes written
      · cases stored

end FileTree

end CommandUrl
