import Mathlib.Algebra.GroupWithZero.Nat
import Mathlib.Data.List.Nodup
import OperatorShell.Proofs.Command.Registration
import OperatorShell.Proofs.Command.Tree

/-!
# What a registry holds

A registry that was built by registering holds the trees that were taken in, and nothing
else: each of their commands under the joined names on the way to it.  A tree is turned
down for the first of its names that no command can have or, if there is none, for the
first way that is taken already; then the call leaves no trace.
-/

namespace OperatorShell.Command

variable {σ : Type}

section Fresh

variable {α β : Type} {taken entries : List α}

/-- Nothing comes twice, and nothing is taken already. -/
def Fresh (taken entries : List α) : Prop :=
  entries.Nodup ∧ ∀ entry ∈ entries, entry ∉ taken

theorem fresh_nil (taken : List α) : Fresh taken [] := by simp [Fresh]

/-- What comes first is taken for all that come later. -/
theorem fresh_cons_iff {entry : α} :
    Fresh taken (entry :: entries) ↔ entry ∉ taken ∧ Fresh (entry :: taken) entries := by
  simp only [Fresh, List.nodup_cons, List.mem_cons, not_or]
  constructor
  · rintro ⟨⟨apart, nodup⟩, fresh⟩
    refine ⟨fresh entry (.inl rfl), nodup, ?_⟩
    intro other member
    exact ⟨fun same => apart (same ▸ member), fresh other (.inr member)⟩
  · rintro ⟨free, nodup, fresh⟩
    refine ⟨⟨fun member => (fresh entry member).1 rfl, nodup⟩, ?_⟩
    rintro other (rfl | member)
    · exact free
    · exact (fresh other member).2

/-- All is new, or something is the first that is not. -/
theorem fresh_or_exists_append [DecidableEq α] (taken entries : List α) :
    Fresh taken entries ∨
      ∃ front entry back, entries = front ++ entry :: back ∧ Fresh taken front ∧
        (entry ∈ taken ∨ entry ∈ front) := by
  induction entries generalizing taken with
  | nil => exact .inl (fresh_nil taken)
  | cons first rest ih =>
      by_cases used : first ∈ taken
      · exact .inr ⟨[], first, rest, rfl, fresh_nil taken, .inl used⟩
      · rcases ih (first :: taken) with fresh | ⟨front, entry, back, split, fresh, repeats⟩
        · exact .inl (fresh_cons_iff.mpr ⟨used, fresh⟩)
        · right
          refine ⟨first :: front, entry, back, by rw [split]; rfl,
            fresh_cons_iff.mpr ⟨used, fresh⟩, ?_⟩
          simp only [List.mem_cons] at repeats ⊢
          tauto

/-- Renaming keeps apart what it does not confuse. -/
theorem Fresh.map {image : α → β}
    (injective : ∀ entry ∈ entries, ∀ other ∈ taken ++ entries,
      image entry = image other → entry = other)
    (fresh : Fresh taken entries) : Fresh (taken.map image) (entries.map image) := by
  constructor
  · apply fresh.1.map_on
    intro entry member other member'
    exact injective entry member other (List.mem_append_right _ member')
  · intro renamed member used
    obtain ⟨entry, inEntries, rfl⟩ := List.mem_map.mp member
    obtain ⟨other, inTaken, same⟩ := List.mem_map.mp used
    have equal := injective entry inEntries other (List.mem_append_left _ inTaken) same.symm
    exact fresh.2 entry inEntries (equal ▸ inTaken)

end Fresh

namespace Registry

variable {taken ids : List String}

theorem firstTaken?_eq_none (fresh : Fresh taken ids) : firstTaken? taken ids = none := by
  induction ids generalizing taken with
  | nil => rfl
  | cons id rest ih =>
      obtain ⟨free, later⟩ := fresh_cons_iff.mp fresh
      rw [firstTaken?, if_neg (by simpa using free)]
      exact ih later

/-- The search stops at the first id that is not new. -/
theorem firstTaken?_append {front : List String} {id : String}
    (fresh : Fresh taken front) (repeats : id ∈ taken ∨ id ∈ front) (back : List String) :
    firstTaken? taken (front ++ id :: back) = some id := by
  induction front generalizing taken with
  | nil =>
      have used : id ∈ taken := by simpa using repeats
      rw [List.nil_append, firstTaken?, if_pos (by simpa using used)]
  | cons first front ih =>
      obtain ⟨free, later⟩ := fresh_cons_iff.mp fresh
      rw [List.cons_append, firstTaken?, if_neg (by simpa using free)]
      apply ih later
      simp only [List.mem_cons] at repeats ⊢
      tauto

end Registry

/-- Names that no command can have. -/
def IsMalformed (name : String) : Prop :=
  name = "" ∨ ':' ∈ name.toList ∨ ' ' ∈ name.toList

theorem isValidName_eq_true_iff {name : String} :
    isValidName name = true ↔ ¬IsMalformed name := by
  simp [isValidName, IsMalformed, idSeparator, and_assoc]

theorem isValidName_eq_false_iff {name : String} :
    isValidName name = false ↔ IsMalformed name := by
  rw [← Bool.not_eq_true, isValidName_eq_true_iff, not_not]

/-- All commands of the tree have names that they can have. -/
def IsWellFormed (command : Command σ) : Prop :=
  ∀ node ∈ command.nodes, ¬IsMalformed node.2.name

theorem isWellFormed_iff {command : Command σ} :
    command.IsWellFormed ↔
      (command.nodes.find? fun node => !isValidName node.2.name) = none := by
  rw [List.find?_eq_none]
  apply forall₂_congr
  intro node member
  rw [← isValidName_eq_true_iff]
  simp

/-- The ways to the commands of some trees. -/
def pathsOf (trees : List (Command σ)) : List (List String) := trees.flatMap paths

section Ids

variable {command : Command σ} {trees : List (Command σ)}

theorem plain_of_mem_paths (wellFormed : command.IsWellFormed) {path : List String}
    (member : path ∈ command.paths) :
    path ≠ [] ∧ ∀ name ∈ path, idSeparator ∉ name.toList := by
  obtain ⟨node, inTree, rfl⟩ := List.mem_map.mp member
  constructor
  · obtain ⟨rest, path_eq⟩ := exists_path_eq_cons inTree
    simp [path_eq]
  · intro name onTheWay
    have allowed : ¬IsMalformed name :=
      forall_mem_path (¬IsMalformed ·) command wellFormed node inTree name onTheWay
    exact separator_not_mem_of_isValidName (isValidName_eq_true_iff.mpr allowed)

/-- In trees with well-formed names, different ways have different ids. -/
theorem qualifiedId_inj_of_mem_pathsOf (wellFormed : ∀ tree ∈ trees, tree.IsWellFormed)
    {left right : List String} (left_mem : left ∈ pathsOf trees)
    (right_mem : right ∈ pathsOf trees) (equal : qualifiedId left = qualifiedId right) :
    left = right := by
  obtain ⟨tree, inTrees, inTree⟩ := List.mem_flatMap.mp left_mem
  obtain ⟨tree', inTrees', inTree'⟩ := List.mem_flatMap.mp right_mem
  obtain ⟨left_ne_nil, left_plain⟩ := plain_of_mem_paths (wellFormed tree inTrees) inTree
  obtain ⟨right_ne_nil, right_plain⟩ :=
    plain_of_mem_paths (wellFormed tree' inTrees') inTree'
  exact qualifiedId_inj left_ne_nil right_ne_nil left_plain right_plain equal

theorem map_fst_entries (command : Command σ) :
    (command.entries none).map Prod.fst = command.paths.map qualifiedId := by
  rw [entries_eq_map_nodes, paths, List.map_map, List.map_map]
  rfl

theorem find?_entries (accept : Command σ → Bool) (command : Command σ) :
    ((command.entries none).find? fun entry => accept entry.2) =
      (command.nodes.find? fun node => accept node.2).map fun node =>
        (qualifiedId node.1, node.2) := by
  rw [entries_eq_map_nodes, List.find?_map]
  rfl

end Ids

/-- A tree cannot be registered next to others, and this is why. -/
inductive Refused (trees : List (Command σ)) (command : Command σ) : RegistryError → Prop
  | invalidName {front back : List (List String × Command σ)}
      {node : List String × Command σ} (split : command.nodes = front ++ node :: back)
      (earlier : ∀ other ∈ front, ¬IsMalformed other.2.name)
      (malformed : IsMalformed node.2.name) :
      Refused trees command (.invalidName node.2.name)
  | duplicate {front back : List (List String)} {path : List String}
      (wellFormed : command.IsWellFormed)
      (split : command.paths = front ++ path :: back)
      (earlier : Fresh (pathsOf trees) front)
      (repeats : path ∈ pathsOf trees ∨ path ∈ front) :
      Refused trees command (.duplicate (qualifiedId path))

/-- A tree is refused, or its names are well formed and its ways are new. -/
theorem refused_or_fresh (trees : List (Command σ)) (command : Command σ) :
    (∃ error, Refused trees command error) ∨
      command.IsWellFormed ∧ Fresh (pathsOf trees) command.paths := by
  cases found : command.nodes.find? fun node => !isValidName node.2.name with
  | some node =>
      obtain ⟨invalid, front, back, split, earlier⟩ := List.find?_eq_some_iff_append.mp found
      left
      refine ⟨.invalidName node.2.name, .invalidName split ?_ ?_⟩
      · intro other member
        rw [← isValidName_eq_true_iff]
        simpa using earlier other member
      · rw [← isValidName_eq_false_iff]
        simpa using invalid
  | none =>
      have wellFormed := isWellFormed_iff.mpr found
      rcases fresh_or_exists_append (pathsOf trees) command.paths with
        fresh | ⟨front, path, back, split, earlier, repeats⟩
      · exact .inr ⟨wellFormed, fresh⟩
      · exact .inl ⟨_, .duplicate wellFormed split earlier repeats⟩

namespace Registry

/-- The registry holds the given trees, in this order. -/
structure IsBuiltFrom (registry : Registry σ) (trees : List (Command σ)) : Prop where
  entries_eq : registry.entries = trees.flatMap (Command.entries none)
  topLevel_eq : registry.topLevel = trees.map Command.name
  wellFormed : ∀ tree ∈ trees, tree.IsWellFormed
  paths_nodup : (pathsOf trees).Nodup

variable {registry next : Registry σ} {trees : List (Command σ)} {command : Command σ}

namespace IsBuiltFrom

theorem ids_eq (built : registry.IsBuiltFrom trees) :
    registry.ids = (pathsOf trees).map qualifiedId := by
  simp only [ids, built.entries_eq, pathsOf, List.map_flatMap, map_fst_entries]

/-- New ways of a tree are new ids. -/
theorem fresh_ids (built : registry.IsBuiltFrom trees) (wellFormed : command.IsWellFormed)
    {front : List (List String)} (inTree : front ⊆ command.paths)
    (fresh : Fresh (pathsOf trees) front) :
    Fresh registry.ids (front.map qualifiedId) := by
  rw [built.ids_eq]
  apply fresh.map
  intro path member other member'
  have all : ∀ tree ∈ trees ++ [command], tree.IsWellFormed := by
    simpa [or_imp, forall_and] using ⟨built.wellFormed, wellFormed⟩
  have in_pathsOf {path : List String} (member : path ∈ pathsOf trees ++ front) :
      path ∈ pathsOf (trees ++ [command]) := by
    rw [pathsOf, List.flatMap_append, List.flatMap_singleton, List.mem_append]
    exact (List.mem_append.mp member).imp_right fun inFront => inTree inFront
  apply qualifiedId_inj_of_mem_pathsOf all
  · exact in_pathsOf (List.mem_append_right _ member)
  · exact in_pathsOf member'

/-- What is refused is not registered. -/
theorem register_of_refused (built : registry.IsBuiltFrom trees) {error : RegistryError}
    (refused : Refused trees command error) :
    registry.register command = .error error := by
  have search := find?_entries (fun command => !isValidName command.name) command
  cases refused with
  | @invalidName front back node split earlier malformed =>
      have found : (command.nodes.find? fun node => !isValidName node.2.name) =
          some node := by
        rw [List.find?_eq_some_iff_append]
        refine ⟨?_, front, back, split, ?_⟩
        · simpa [isValidName_eq_false_iff] using malformed
        · simpa [isValidName_eq_true_iff] using earlier
      rw [found] at search
      simp only [register, search, Option.map_some]
  | @duplicate front back path wellFormed split earlier repeats =>
      have inTree : front ⊆ command.paths := by simp [split]
      have repeats_id : qualifiedId path ∈ registry.ids ∨
          qualifiedId path ∈ front.map qualifiedId := by
        rw [built.ids_eq]
        exact repeats.imp List.mem_map_of_mem List.mem_map_of_mem
      have taken : firstTaken? registry.ids ((command.entries none).map Prod.fst) =
          some (qualifiedId path) := by
        rw [map_fst_entries, split, List.map_append, List.map_cons]
        exact firstTaken?_append (built.fresh_ids wellFormed inTree earlier) repeats_id _
      rw [isWellFormed_iff.mp wellFormed] at search
      rw [ids] at taken
      simp only [register, search, Option.map_none, taken]

/-- A tree with well-formed names and new ways is taken in behind the others. -/
theorem register_of_fresh (built : registry.IsBuiltFrom trees)
    (wellFormed : command.IsWellFormed) (fresh : Fresh (pathsOf trees) command.paths) :
    ∃ next, registry.register command = .ok next ∧
      next.IsBuiltFrom (trees ++ [command]) := by
  have search := find?_entries (fun command => !isValidName command.name) command
  have free : firstTaken? registry.ids ((command.entries none).map Prod.fst) = none := by
    rw [map_fst_entries]
    exact firstTaken?_eq_none (built.fresh_ids wellFormed (List.Subset.refl _) fresh)
  rw [isWellFormed_iff.mp wellFormed] at search
  rw [ids] at free
  refine ⟨⟨registry.entries ++ command.entries none,
    registry.topLevel ++ [command.name]⟩, ?_, ?_⟩
  · simp only [register, search, Option.map_none, free]
  · constructor
    · simp [built.entries_eq]
    · simp [built.topLevel_eq]
    · simpa [or_imp, forall_and] using ⟨built.wellFormed, wellFormed⟩
    · rw [pathsOf, List.flatMap_append, List.flatMap_singleton]
      refine List.nodup_append'.mpr ⟨built.paths_nodup, fresh.1, ?_⟩
      exact List.disjoint_right.mpr fresh.2

/-- A call fails just when its tree is refused. -/
theorem register_eq_error_iff (built : registry.IsBuiltFrom trees) {error : RegistryError} :
    registry.register command = .error error ↔ Refused trees command error := by
  constructor
  · intro failed
    rcases refused_or_fresh trees command with ⟨other, refused⟩ | ⟨wellFormed, fresh⟩
    · rw [built.register_of_refused refused] at failed
      cases failed
      exact refused
    · obtain ⟨next, registered, -⟩ := built.register_of_fresh wellFormed fresh
      rw [registered] at failed
      cases failed
  · exact built.register_of_refused

/-- A call that succeeds adds its tree. -/
theorem register (built : registry.IsBuiltFrom trees)
    (registered : registry.register command = .ok next) :
    next.IsBuiltFrom (trees ++ [command]) := by
  rcases refused_or_fresh trees command with ⟨error, refused⟩ | ⟨wellFormed, fresh⟩
  · rw [built.register_of_refused refused] at registered
    cases registered
  · obtain ⟨other, registered', built'⟩ := built.register_of_fresh wellFormed fresh
    rw [registered] at registered'
    cases registered'
    exact built'

end IsBuiltFrom

/-- The trees that a sequence of calls adds to a registry. -/
def accepted (registry : Registry σ) : List (Command σ) → List (Command σ)
  | [] => []
  | command :: rest =>
      match registry.register command with
      | .ok next => command :: next.accepted rest
      | .error _ => registry.accepted rest

theorem isBuiltFrom_empty : (empty : Registry σ).IsBuiltFrom [] := by
  constructor <;> simp [empty, pathsOf]

/-- The trees of a run are added behind those that were there. -/
theorem isBuiltFrom_foldl (built : registry.IsBuiltFrom trees)
    (commands : List (Command σ)) :
    (commands.foldl tryRegister registry).IsBuiltFrom
      (trees ++ registry.accepted commands) := by
  induction commands generalizing registry trees with
  | nil => simpa [accepted] using built
  | cons command rest ih =>
      rw [List.foldl_cons, tryRegister, accepted]
      cases registered : registry.register command with
      | error error => exact ih built
      | ok next =>
          have step := ih (built.register registered)
          rwa [List.append_assoc] at step

theorem isBuiltFrom_afterCalls (commands : List (Command σ)) :
    (afterCalls commands).IsBuiltFrom (empty.accepted commands) :=
  isBuiltFrom_foldl isBuiltFrom_empty commands

/-- Where no id comes twice, every entry can be looked up. -/
theorem get?_eq_some_iff_mem (nodup : registry.ids.Nodup) {id : String} :
    registry.get? id = some command ↔ (id, command) ∈ registry.entries := by
  rw [get?, List.lookup_eq_some_iff]
  constructor
  · rintro ⟨front, back, split, -⟩
    simp [split]
  · intro member
    obtain ⟨front, back, split⟩ := List.append_of_mem member
    refine ⟨front, back, split, ?_⟩
    intro other earlier
    rw [ids, split, List.map_append, List.map_cons, List.nodup_middle,
      List.nodup_cons] at nodup
    have absent : id ∉ front.map Prod.fst := by
      intro inFront
      exact nodup.1 (List.mem_append_left _ inFront)
    have apart : id ≠ other.1 := by
      intro same
      apply absent
      rw [same]
      exact List.mem_map_of_mem earlier
    simpa using apart

/-- The registry is the forest of the given trees, laid out by ids. -/
structure HoldsForest (registry : Registry σ) (trees : List (Command σ)) : Prop where
  /-- The entries are the joined ways to the commands of the trees, each with the command
  that it leads to. -/
  get?_iff : ∀ id command, registry.get? id = some command ↔
    ∃ tree ∈ trees, ∃ node ∈ tree.nodes, id = qualifiedId node.1 ∧ command = node.2
  paths_nodup : (pathsOf trees).Nodup
  ids_nodup : registry.ids.Nodup
  mem_of_isBelow : ∀ root id, IsBelow root id → id ∈ registry.ids → root ∈ registry.ids
  topLevel_eq : registry.topLevel = trees.map Command.name
  topLevel_nodup : registry.topLevel.Nodup
  size_eq : registry.size = (trees.map fun tree => tree.nodes.length).sum

namespace IsBuiltFrom

theorem ids_nodup (built : registry.IsBuiltFrom trees) : registry.ids.Nodup := by
  rw [built.ids_eq]
  apply built.paths_nodup.map_on
  intro path member other member' equal
  exact qualifiedId_inj_of_mem_pathsOf built.wellFormed member member' equal

/-- Roots of one name would have one way. -/
theorem topLevel_nodup (built : registry.IsBuiltFrom trees) : registry.topLevel.Nodup := by
  rw [built.topLevel_eq]
  have nodup := built.paths_nodup
  clear built
  induction trees with
  | nil => simp
  | cons tree rest ih =>
      rw [pathsOf, List.flatMap_cons, List.nodup_append'] at nodup
      obtain ⟨-, others, apart⟩ := nodup
      refine List.nodup_cons.mpr ⟨?_, ih others⟩
      intro member
      obtain ⟨other, inRest, same⟩ := List.mem_map.mp member
      have root_mem (command : Command σ) : [command.name] ∈ command.paths := by
        simp [paths, nodes_eq_cons]
      apply apart (root_mem tree)
      rw [← same]
      exact List.mem_flatMap.mpr ⟨other, inRest, root_mem other⟩

theorem holdsForest (built : registry.IsBuiltFrom trees) (forest : registry.IsForest) :
    registry.HoldsForest trees := by
  constructor
  case get?_iff =>
    intro id command
    rw [get?_eq_some_iff_mem built.ids_nodup, built.entries_eq, List.mem_flatMap]
    apply exists_congr
    intro tree
    rw [entries_eq_map_nodes, List.mem_map]
    simp [childId, eq_comm]
  case paths_nodup => exact built.paths_nodup
  case ids_nodup => exact built.ids_nodup
  case mem_of_isBelow =>
    intro root id below member
    exact forest.mem_of_isBelow below member
  case topLevel_eq => exact built.topLevel_eq
  case topLevel_nodup => exact built.topLevel_nodup
  case size_eq => simp [size, built.entries_eq, entries_eq_map_nodes]

end IsBuiltFrom

/-- After any calls the registry is the forest of the trees that were accepted.  The next
call fails just when its tree is refused, and then changes nothing; any other call adds
its tree. -/
theorem afterCalls_holdsForest (commands : List (Command σ)) :
    let registry := afterCalls commands
    let trees := empty.accepted commands
    registry.HoldsForest trees ∧
      ∀ command,
        (∀ error, registry.register command = .error error ↔
          Refused trees command error) ∧
        (∀ error, Refused trees command error → registry.tryRegister command = registry) ∧
        ((∀ error, ¬Refused trees command error) →
          (registry.tryRegister command).HoldsForest (trees ++ [command])) := by
  intro registry trees
  have built : registry.IsBuiltFrom trees := isBuiltFrom_afterCalls commands
  have forest : registry.IsForest := isForest_afterCalls commands
  refine ⟨built.holdsForest forest, ?_⟩
  intro command
  refine ⟨fun error => built.register_eq_error_iff, ?_, ?_⟩
  · intro error refused
    rw [tryRegister, built.register_of_refused refused]
  · intro accepted
    rcases refused_or_fresh trees command with ⟨error, refused⟩ | ⟨wellFormed, fresh⟩
    · exact (accepted error refused).elim
    · obtain ⟨next, registered, built'⟩ := built.register_of_fresh wellFormed fresh
      rw [tryRegister, registered]
      exact built'.holdsForest (isForest_register forest registered)

/-- A name that no command can have counts before a way that is taken twice. -/
example :
    (empty : Registry Unit).register
      { Command.ofName "a" "A" with
        subcommands := [.ofName "b" "B", .ofName "b" "B", .ofName "c:d" "C"] } =
      .error (.invalidName "c:d") := rfl

end Registry

end OperatorShell.Command
