import OperatorShell.Command.Registry
import OperatorShell.Proofs.Command.Ids

/-!
# Trees of commands

The nodes of a tree are its commands together with the names on the way to them.  The
registry keeps the names joined by colons, and since a name that is allowed has no colon
in it, the joined names tell the nodes apart as well as the names themselves.
-/

namespace OperatorShell.Command

variable {σ : Type}

mutual

/-- The commands of a tree with the names on the way to them, each before those below
it. -/
def nodes : Command σ → List (List String × Command σ)
  | ⟨name, description, longDescription, arguments, options, disabled, body,
      subcommands⟩ =>
      ([name], ⟨name, description, longDescription, arguments, options, disabled, body,
        subcommands⟩) :: nodesBelow name subcommands

/-- The commands of some trees with the names on the way to them, below a name. -/
def nodesBelow (name : String) : List (Command σ) → List (List String × Command σ)
  | [] => []
  | command :: rest =>
      (command.nodes.map fun node => (name :: node.1, node.2)) ++ nodesBelow name rest

end

/-- The ways to the commands of a tree. -/
def paths (command : Command σ) : List (List String) := command.nodes.map Prod.fst

theorem nodes_eq_cons (command : Command σ) :
    command.nodes =
      ([command.name], command) :: nodesBelow command.name command.subcommands := by
  cases command
  rfl

theorem exists_eq_cons_of_mem_nodesBelow {name : String} {commands : List (Command σ)}
    {node : List String × Command σ} (member : node ∈ nodesBelow name commands) :
    ∃ command ∈ commands, ∃ other ∈ command.nodes, node = (name :: other.1, other.2) := by
  induction commands with
  | nil => simp [nodesBelow] at member
  | cons command rest ih =>
      rw [nodesBelow] at member
      rcases List.mem_append.mp member with here | there
      · obtain ⟨other, inTree, rfl⟩ := List.mem_map.mp here
        exact ⟨command, List.mem_cons_self, other, inTree, rfl⟩
      · obtain ⟨command, inRest, found⟩ := ih there
        exact ⟨command, List.mem_cons_of_mem _ inRest, found⟩

/-- The way to a command starts with the name of the tree. -/
theorem exists_path_eq_cons {command : Command σ} {node : List String × Command σ}
    (member : node ∈ command.nodes) : ∃ rest, node.1 = command.name :: rest := by
  rw [nodes_eq_cons] at member
  rcases List.mem_cons.mp member with rfl | below
  · exact ⟨[], rfl⟩
  · obtain ⟨_, _, other, _, rfl⟩ := exists_eq_cons_of_mem_nodesBelow below
    exact ⟨other.1, rfl⟩

section Joining

/-- Joining the names below a name. -/
theorem childId_qualifiedId (parent : Option String) (name second : String)
    (rest : List String) :
    childId (some (childId parent name)) (qualifiedId (second :: rest)) =
      childId parent (qualifiedId (name :: second :: rest)) := by
  have step : qualifiedId (name :: second :: rest) =
      name ++ String.singleton idSeparator ++ qualifiedId (second :: rest) :=
    String.intercalate_cons_cons
  cases parent with
  | none => exact step.symm
  | some parent =>
      rw [← String.toList_inj]
      simp [childId, step]

mutual

/-- A tree is registered under its ways, joined by colons. -/
theorem entries_eq_map_nodes (parent : Option String) : (command : Command σ) →
    command.entries parent =
      command.nodes.map fun node => (childId parent (qualifiedId node.1), node.2)
  | ⟨name, description, longDescription, arguments, options, disabled, body,
      subcommands⟩ => by
      rw [entries, nodes, List.map_cons, qualifiedId_singleton,
        entriesAll_eq_map_nodesBelow parent name subcommands]

theorem entriesAll_eq_map_nodesBelow (parent : Option String) (name : String) :
    (commands : List (Command σ)) →
    entriesAll (childId parent name) commands =
      (nodesBelow name commands).map fun node =>
        (childId parent (qualifiedId node.1), node.2)
  | [] => rfl
  | command :: rest => by
      rw [entriesAll, nodesBelow, List.map_append, List.map_map,
        entries_eq_map_nodes _ command, entriesAll_eq_map_nodesBelow parent name rest]
      congr 1
      apply List.map_congr_left
      intro node member
      obtain ⟨others, path_eq⟩ := exists_path_eq_cons member
      simp [path_eq, childId_qualifiedId]

end

/-- Names without colons can be read off the id that they make up. -/
theorem splitOn_qualifiedId {names : List String} (ne_nil : names ≠ [])
    (plain : ∀ name ∈ names, idSeparator ∉ name.toList) :
    (qualifiedId names).toList.splitOn idSeparator = names.map String.toList := by
  rw [qualifiedId, String.toList_intercalate, String.toList_singleton]
  apply List.splitOn_intercalate
  · simpa using plain
  · simpa using ne_nil

/-- Lists of such names with one id are equal. -/
theorem qualifiedId_inj {left right : List String} (left_ne_nil : left ≠ [])
    (right_ne_nil : right ≠ []) (plainLeft : ∀ name ∈ left, idSeparator ∉ name.toList)
    (plainRight : ∀ name ∈ right, idSeparator ∉ name.toList)
    (equal : qualifiedId left = qualifiedId right) : left = right := by
  have parts : left.map String.toList = right.map String.toList := by
    rw [← splitOn_qualifiedId left_ne_nil plainLeft,
      ← splitOn_qualifiedId right_ne_nil plainRight, equal]
  exact List.map_injective_iff.mpr (fun _ _ => String.toList_inj.mp) parts

/-- What lies below an id was made up of its names and more. -/
theorem exists_eq_append_of_isBelow {left right : List String} (left_ne_nil : left ≠ [])
    (plainLeft : ∀ name ∈ left, idSeparator ∉ name.toList)
    (plainRight : ∀ name ∈ right, idSeparator ∉ name.toList)
    (below : IsBelow (qualifiedId left) (qualifiedId right)) :
    ∃ name more, right = left ++ name :: more := by
  obtain ⟨behind, whole⟩ := below
  rw [List.append_assoc, List.singleton_append] at whole
  have right_ne_nil : right ≠ [] := by
    rintro rfl
    simp [qualifiedId] at whole
  have parts : right.map String.toList =
      left.map String.toList ++ behind.splitOn idSeparator := by
    rw [← splitOn_qualifiedId right_ne_nil plainRight, ← whole,
      List.splitOn_append_cons_self, splitOn_qualifiedId left_ne_nil plainLeft]
  obtain ⟨front, back, rfl, sameFront, sameBack⟩ := List.map_eq_append_iff.mp parts
  have front_eq : front = left :=
    List.map_injective_iff.mpr (fun _ _ => String.toList_inj.mp) sameFront
  subst front_eq
  cases back with
  | nil => exact (List.splitOn_ne_nil _ _ sameBack.symm).elim
  | cons name more => exact ⟨name, more, rfl⟩

end Joining

section Names

variable (allowed : String → Prop)

mutual

/-- The way to a command goes through names of commands. -/
theorem forall_mem_path : (command : Command σ) →
    (∀ node ∈ command.nodes, allowed node.2.name) →
    ∀ node ∈ command.nodes, ∀ name ∈ node.1, allowed name
  | ⟨name, description, longDescription, arguments, options, disabled, body,
      subcommands⟩ => by
      intro every node member
      rw [nodes_eq_cons] at every member
      obtain ⟨root, below⟩ := List.forall_mem_cons.mp every
      rcases List.mem_cons.mp member with rfl | deeper
      · simpa using root
      · exact forall_mem_path_of_nodesBelow name subcommands root below node deeper

theorem forall_mem_path_of_nodesBelow (parent : String) :
    (commands : List (Command σ)) → allowed parent →
    (∀ node ∈ nodesBelow parent commands, allowed node.2.name) →
    ∀ node ∈ nodesBelow parent commands, ∀ name ∈ node.1, allowed name
  | [] => by simp [nodesBelow]
  | command :: rest => by
      intro root every node member
      rw [nodesBelow] at every member
      obtain ⟨first, others⟩ := List.forall_mem_append.mp every
      rcases List.mem_append.mp member with here | there
      · obtain ⟨inner, inTree, rfl⟩ := List.mem_map.mp here
        rw [List.forall_mem_map] at first
        exact List.forall_mem_cons.mpr
          ⟨root, forall_mem_path command first inner inTree⟩
      · exact forall_mem_path_of_nodesBelow parent rest root others node there

end

end Names

end OperatorShell.Command
