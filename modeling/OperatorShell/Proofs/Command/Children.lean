import OperatorShell.Proofs.Command.Forest
import OperatorShell.Proofs.Command.LongestMatch

/-!
# Commands and what is below them

The subcommands of a registered command are registered one level below it, and whatever
is registered below it comes from one of them.  So the tree that completion lists and the
ids that resolving looks up tell the same: a further word leads on just when it names a
subcommand, and words behind a command without subcommands lead nowhere.
-/

namespace OperatorShell.Command

variable {σ : Type}

section Trees

variable {tree command : Command σ} {path more : List String} {name : String}

theorem nodesBelow_eq_flatMap (name : String) (commands : List (Command σ)) :
    nodesBelow name commands =
      commands.flatMap fun command => command.nodes.map fun node => (name :: node.1, node.2) := by
  induction commands with
  | nil => rfl
  | cons command rest ih => rw [nodesBelow, ih, List.flatMap_cons]

/-- The subcommands of the root come in order among the nodes below it. -/
theorem children_sublist_nodesBelow (name : String) (commands : List (Command σ)) :
    (commands.map fun child => ([name, child.name], child)).Sublist
      (nodesBelow name commands) := by
  induction commands with
  | nil => exact List.nil_sublist _
  | cons command rest ih =>
      rw [List.map_cons, nodesBelow, nodes_eq_cons, List.map_cons, List.cons_append]
      exact (ih.trans (List.sublist_append_right _ _)).cons_cons _

/-- The subcommands of a node come in order among the nodes of the tree. -/
theorem children_sublist_nodes (node : (path, command) ∈ tree.nodes) :
    (command.subcommands.map fun child => (path ++ [child.name], child)).Sublist
      tree.nodes := by
  induction path generalizing tree with
  | nil =>
      obtain ⟨rest, path_eq⟩ := exists_path_eq_cons node
      cases path_eq
  | cons first rest ih =>
      rw [nodes_eq_cons] at node ⊢
      rcases List.mem_cons.mp node with root | below
      · cases root
        exact (children_sublist_nodesBelow _ _).cons _
      · obtain ⟨child, inTree, other, inChild, node_eq⟩ :=
          exists_eq_cons_of_mem_nodesBelow below
        cases node_eq
        have moved := (ih inChild).map fun node => (tree.name :: node.1, node.2)
        rw [List.map_map] at moved
        refine .cons _ (moved.trans ?_)
        rw [nodesBelow_eq_flatMap]
        exact List.sublist_flatten_of_mem (List.mem_map_of_mem inTree)

/-- A node that is not the root has a parent, of which it is a subcommand or below one. -/
theorem exists_parent (nonempty : path ≠ [])
    (node : (path ++ name :: more, command) ∈ tree.nodes) :
    ∃ parent, (path, parent) ∈ tree.nodes ∧
      ∃ child ∈ parent.subcommands, child.name = name := by
  induction path generalizing tree with
  | nil => exact (nonempty rfl).elim
  | cons first rest ih =>
      rw [nodes_eq_cons] at node ⊢
      rcases List.mem_cons.mp node with root | below
      · simp at root
      · obtain ⟨child, inTree, other, inChild, node_eq⟩ :=
          exists_eq_cons_of_mem_nodesBelow below
        obtain ⟨otherPath, otherCommand⟩ := other
        obtain ⟨path_eq, rfl⟩ := Prod.mk.inj node_eq
        obtain ⟨rfl, rfl⟩ := List.cons.inj path_eq
        cases rest with
        | nil =>
            obtain ⟨others, others_eq⟩ := exists_path_eq_cons inChild
            obtain ⟨rfl, -⟩ := List.cons.inj others_eq
            exact ⟨tree, List.mem_cons_self, child, inTree, rfl⟩
        | cons second rest =>
            obtain ⟨parent, inChild', found⟩ := ih (List.cons_ne_nil second rest) inChild
            refine ⟨parent, List.mem_cons_of_mem _ ?_, found⟩
            rw [nodesBelow_eq_flatMap, List.mem_flatMap]
            exact ⟨child, inTree, List.mem_map.mpr ⟨_, inChild', rfl⟩⟩

end Trees

/-- The id of names with one more behind them. -/
theorem qualifiedId_concat {names : List String} (nonempty : names ≠ []) (name : String) :
    qualifiedId (names ++ [name]) = childId (some (qualifiedId names)) name := by
  cases names with
  | nil => exact (nonempty rfl).elim
  | cons first rest =>
      rw [← String.toList_inj]
      simp [childId, toList_qualifiedId]

/-- Words behind a name lie below its id. -/
theorem isBelow_qualifiedId_append {words : List String} (nonempty : words ≠ []) (name : String)
    (more : List String) : IsBelow (qualifiedId words) (qualifiedId (words ++ name :: more)) := by
  cases words with
  | nil => exact (nonempty rfl).elim
  | cons first rest =>
      refine ⟨name.toList ++ more.flatMap fun word => idSeparator :: word.toList, ?_⟩
      simp [toList_qualifiedId]

namespace Registry

variable {commands : List (Command σ)} {store : σ} {command child : Command σ} {id : String}

theorem holdsForest_accepted (commands : List (Command σ)) :
    (afterCalls commands).HoldsForest (empty.accepted commands) :=
  (isBuiltFrom_afterCalls commands).holdsForest (isForest_afterCalls commands)

/-- A registered command is a node of an accepted tree, and the names on the way to it are
plain. -/
theorem exists_node_of_get? (known : (afterCalls commands).get? id = some command) :
    ∃ tree ∈ empty.accepted commands, ∃ path, (path, command) ∈ tree.nodes ∧
      id = qualifiedId path ∧ path ≠ [] ∧ ∀ name ∈ path, idSeparator ∉ name.toList := by
  obtain ⟨tree, accepted, ⟨path, _⟩, node, id_eq, rfl⟩ :=
    ((holdsForest_accepted commands).get?_iff id command).mp known
  have wellFormed := (isBuiltFrom_afterCalls commands).wellFormed tree accepted
  exact ⟨tree, accepted, path, node, id_eq,
    plain_of_mem_paths wellFormed (List.mem_map_of_mem node)⟩

/-- A subcommand is registered right below its parent. -/
theorem get?_childId (known : (afterCalls commands).get? id = some command)
    (member : child ∈ command.subcommands) :
    (afterCalls commands).get? (childId (some id) child.name) = some child := by
  obtain ⟨tree, accepted, path, node, rfl, nonempty, -⟩ := exists_node_of_get? known
  have below : (path ++ [child.name], child) ∈ tree.nodes :=
    (children_sublist_nodes node).subset (List.mem_map.mpr ⟨child, member, rfl⟩)
  rw [← qualifiedId_concat nonempty]
  exact ((holdsForest_accepted commands).get?_iff _ _).mpr
    ⟨tree, accepted, _, below, rfl, rfl⟩

/-- The subcommands of a registered command have different names. -/
theorem nodup_subcommand_names (known : (afterCalls commands).get? id = some command) :
    (command.subcommands.map Command.name).Nodup := by
  obtain ⟨tree, accepted, path, node, -⟩ := exists_node_of_get? known
  have paths_nodup := (holdsForest_accepted commands).paths_nodup
  have within : (command.subcommands.map fun child => path ++ [child.name]).Sublist
      (pathsOf (empty.accepted commands)) := by
    have inTree := (children_sublist_nodes node).map Prod.fst
    rw [List.map_map] at inTree
    exact inTree.trans (List.sublist_flatten_of_mem (List.mem_map_of_mem accepted))
  refine List.Nodup.of_map (fun name => path ++ [name]) ?_
  rw [List.map_map]
  exact paths_nodup.sublist within

/-- What is registered below a command comes from one of its subcommands. -/
theorem subcommands_ne_nil_of_isBelow (known : (afterCalls commands).get? id = some command)
    {other : String} {deeper : Command σ} (below : IsBelow id other)
    (known' : (afterCalls commands).get? other = some deeper) : command.subcommands ≠ [] := by
  obtain ⟨tree, accepted, path, node, rfl, nonempty, plain⟩ := exists_node_of_get? known
  obtain ⟨tree', accepted', path', node', rfl, -, plain'⟩ := exists_node_of_get? known'
  obtain ⟨name, more, rfl⟩ := exists_eq_append_of_isBelow nonempty plain plain' below
  obtain ⟨parent, inTree, child, member, -⟩ := exists_parent nonempty node'
  have same : (afterCalls commands).get? (qualifiedId path) = some parent :=
    ((holdsForest_accepted commands).get?_iff _ _).mpr ⟨tree', accepted', _, inTree, rfl, rfl⟩
  rw [known] at same
  cases same
  exact List.ne_nil_of_mem member

theorem get?_name_of_accepted {tree : Command σ} (accepted : tree ∈ empty.accepted commands) :
    (afterCalls commands).get? tree.name = some tree := by
  refine ((holdsForest_accepted commands).get?_iff _ _).mpr
    ⟨tree, accepted, ([tree.name], tree), ?_, (qualifiedId_singleton _).symm, rfl⟩
  rw [nodes_eq_cons]
  exact List.mem_cons_self

/-- The top level holds the accepted trees in the order in which they came. -/
theorem filterMap_get?_topLevel (commands : List (Command σ)) :
    (afterCalls commands).topLevel.filterMap (afterCalls commands).get? =
      empty.accepted commands := by
  rw [(holdsForest_accepted commands).topLevel_eq, List.filterMap_map]
  calc (empty.accepted commands).filterMap ((afterCalls commands).get? ∘ Command.name)
      = (empty.accepted commands).filterMap some :=
        List.filterMap_congr fun tree accepted => get?_name_of_accepted accepted
    _ = empty.accepted commands := List.filterMap_some

section Resolving

variable {words : List String} {anchor : Resolution σ}

theorem ne_nil_of_resolve (resolved : (afterCalls commands).resolve store words = .ok anchor) :
    words ≠ [] := by
  rintro rfl
  cases resolved

/-- Words that are used up by a command make up its id. -/
theorem id_eq_of_resolve (resolved : (afterCalls commands).resolve store words = .ok anchor)
    (whole : anchor.depth = words.length) :
    anchor.id = qualifiedId words ∧
      (afterCalls commands).get? anchor.id = some anchor.command := by
  obtain ⟨-, -, -, -, longest⟩ := resolve_eq_ok resolved
  have id_eq := longest.id_eq
  rw [whole, List.take_length] at id_eq
  exact ⟨id_eq, (enabled?_eq_some_iff.mp longest.enabled).1⟩

/-- Nothing is registered below a command without subcommands. -/
theorem get?_append_of_childless (nonempty : words ≠ [])
    (known : (afterCalls commands).get? (qualifiedId words) = some command)
    (childless : command.subcommands = []) (name : String) (more : List String) :
    (afterCalls commands).get? (qualifiedId (words ++ name :: more)) = none := by
  rw [Option.eq_none_iff_forall_ne_some]
  intro other known'
  have below := isBelow_qualifiedId_append nonempty name more
  exact subcommands_ne_nil_of_isBelow known below known' childless

/-- Behind a command without subcommands no word leads on. -/
theorem resolve_append_of_childless
    (resolved : (afterCalls commands).resolve store words = .ok anchor)
    (whole : anchor.depth = words.length) (childless : anchor.command.subcommands = [])
    (more : List String) :
    (afterCalls commands).resolve store (words ++ more) = .ok anchor := by
  obtain ⟨id_eq, known⟩ := id_eq_of_resolve resolved whole
  have nonempty := ne_nil_of_resolve resolved
  rw [id_eq] at known
  obtain ⟨first, rest, rfl, shown, longest⟩ := resolve_eq_ok resolved
  rw [List.cons_append, resolve_eq_ok_iff, ← List.cons_append]
  refine ⟨shown, longest.toIsMatch.append more, ?_⟩
  intro depth deeper within
  rw [whole] at deeper
  obtain ⟨extra, rfl⟩ := Nat.exists_eq_add_of_lt deeper
  rw [Nat.add_assoc, List.take_length_add_append, enabled?]
  cases more with
  | nil =>
      rw [List.append_nil] at within
      omega
  | cons name more =>
      rw [List.take_succ_cons, get?_append_of_childless nonempty known childless]
      rfl

/-- The name of a subcommand that is not hidden leads one step down. -/
theorem resolve_concat (resolved : (afterCalls commands).resolve store words = .ok anchor)
    (whole : anchor.depth = words.length)
    (member : child ∈ anchor.command.enabledSubcommands store) :
    (afterCalls commands).resolve store (words ++ [child.name]) =
      .ok ⟨words.length + 1, childId (some anchor.id) child.name, child⟩ := by
  obtain ⟨id_eq, known⟩ := id_eq_of_resolve resolved whole
  have nonempty := ne_nil_of_resolve resolved
  obtain ⟨inTree, shown⟩ := List.mem_filter.mp member
  obtain ⟨first, rest, rfl, visible, -⟩ := resolve_eq_ok resolved
  rw [List.cons_append, resolve_eq_ok_iff, ← List.cons_append]
  refine ⟨visible, ⟨Nat.succ_pos _, by simp, ?_, ?_⟩, ?_⟩
  · rw [id_eq, ← qualifiedId_concat nonempty, List.take_of_length_le (by simp)]
  · exact enabled?_eq_some_iff.mpr ⟨get?_childId known inTree, by simpa using shown⟩
  · intro depth deeper within
    simp only [List.length_append, List.length_singleton] at deeper within
    omega

/-- The name of a tree that is not hidden leads to its root. -/
theorem resolve_name_of_accepted {tree : Command σ}
    (accepted : tree ∈ empty.accepted commands) (shown : tree.isDisabled store = false) :
    (afterCalls commands).resolve store [tree.name] = .ok ⟨1, tree.name, tree⟩ := by
  have enabled := enabled?_eq_some_iff.mpr ⟨get?_name_of_accepted accepted, shown⟩
  refine resolve_eq_ok_iff.mpr
    ⟨hides_of_enabled? enabled, ⟨Nat.one_pos, Nat.le_refl _, ?_, enabled⟩, ?_⟩
  · simp
  · intro depth deeper within
    simp at deeper within
    omega

end Resolving

end Registry

end OperatorShell.Command
