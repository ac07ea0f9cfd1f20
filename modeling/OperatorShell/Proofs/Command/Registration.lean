import OperatorShell.Command.Registry
import OperatorShell.Proofs.Command.Ids

/-!
# Registries that were built by registering

Every registry in use starts empty and grows by calls that register a command, some of
which may fail.  Registering takes whole trees with valid names, so two things hold of
such a registry: with an id it has every id above it, and no name at the top level has
a colon.
-/

namespace OperatorShell.Command

variable {σ : Type}

namespace Registry

/-- The ids of the registered commands. -/
def ids (registry : Registry σ) : List String := registry.entries.map Prod.fst

/-- Register a command; a call that fails changes nothing. -/
def tryRegister (registry : Registry σ) (command : Command σ) : Registry σ :=
  match registry.register command with
  | .ok next => next
  | .error _ => registry

/-- The registry after a sequence of calls that may fail. -/
def afterCalls (commands : List (Command σ)) : Registry σ :=
  commands.foldl tryRegister empty

/-- The ids are closed under going up, and the top level is named by plain names. -/
structure IsForest (registry : Registry σ) : Prop where
  mem_of_isBelow : ∀ {root id : String},
    IsBelow root id → id ∈ registry.ids → root ∈ registry.ids
  plain_of_mem_topLevel : ∀ {name : String},
    name ∈ registry.topLevel → idSeparator ∉ name.toList

/-- An id is registered just when it can be looked up. -/
theorem mem_ids_iff {registry : Registry σ} {id : String} :
    id ∈ registry.ids ↔ ∃ command, registry.get? id = some command := by
  rw [← Option.isSome_iff_exists, get?, List.lookup_isSome_iff]
  simp only [ids, List.mem_map, beq_iff_eq]
  exact exists_congr fun entry => and_congr_right fun _ => eq_comm

/-- All that a call that registers a command can do: it adds the whole tree behind the
other entries and the name behind the other names. -/
theorem register_eq_ok {registry next : Registry σ} {command : Command σ}
    (registered : registry.register command = .ok next) :
    (∀ entry ∈ command.entries none, isValidName entry.2.name = true) ∧
      firstTaken? registry.ids ((command.entries none).map Prod.fst) = none ∧
      next =
        ⟨registry.entries ++ command.entries none,
          registry.topLevel ++ [command.name]⟩ := by
  simp only [register] at registered
  split at registered
  · cases registered
  · rename_i valid
    split at registered
    · cases registered
    · rename_i free
      cases registered
      refine ⟨?_, free, rfl⟩
      intro entry member
      simpa using List.find?_eq_none.mp valid entry member

end Registry

/-- The first entry of a tree is the command itself. -/
theorem entries_eq_cons (parent : Option String) (command : Command σ) :
    command.entries parent =
      (childId parent command.name, command) ::
        entriesAll (childId parent command.name) command.subcommands := by
  cases command
  rfl

mutual

/-- What an id of a tree lies below is an id of the tree or above the whole tree. -/
theorem mem_entries_or_above (root parent : String) :
    (command : Command σ) →
    (∀ entry ∈ command.entries (some parent), isValidName entry.2.name = true) →
    ∀ entry ∈ command.entries (some parent), IsBelow root entry.1 →
      root ∈ (command.entries (some parent)).map Prod.fst ∨ IsWithin root parent
  | ⟨name, description, longDescription, arguments, options, disabled, body,
      subcommands⟩ => by
      intro valid entry member below
      rw [entries_eq_cons] at valid member ⊢
      obtain ⟨validName, validBelow⟩ := List.forall_mem_cons.mp valid
      have plain := separator_not_mem_of_isValidName validName
      rcases List.mem_cons.mp member with rfl | deeper
      · exact .inr ((isBelow_childId_iff plain).mp below)
      · rcases mem_entriesAll_or_above root (childId (some parent) name) subcommands
          validBelow entry deeper below with inside | rfl | above
        · exact .inl (List.mem_cons_of_mem _ inside)
        · exact .inl List.mem_cons_self
        · exact .inr ((isBelow_childId_iff plain).mp above)

/-- What an id of a list of trees lies below is an id of the trees or above them. -/
theorem mem_entriesAll_or_above (root parent : String) :
    (commands : List (Command σ)) →
    (∀ entry ∈ entriesAll parent commands, isValidName entry.2.name = true) →
    ∀ entry ∈ entriesAll parent commands, IsBelow root entry.1 →
      root ∈ (entriesAll parent commands).map Prod.fst ∨ IsWithin root parent
  | [] => by
      intro _ entry member
      cases member
  | command :: rest => by
      intro valid entry member below
      rw [entriesAll] at valid member ⊢
      rw [List.map_append, List.mem_append]
      rcases List.mem_append.mp member with here | there
      · exact (mem_entries_or_above root parent command
          (fun entry member => valid entry (List.mem_append_left _ member))
          entry here below).imp_left .inl
      · exact (mem_entriesAll_or_above root parent rest
          (fun entry member => valid entry (List.mem_append_right _ member))
          entry there below).imp_left .inr

end

/-- The ids of a tree at the top level are closed under going up. -/
theorem mem_entries_of_isBelow {command : Command σ} {root : String}
    (valid : ∀ entry ∈ command.entries none, isValidName entry.2.name = true)
    {entry : String × Command σ} (member : entry ∈ command.entries none)
    (below : IsBelow root entry.1) : root ∈ (command.entries none).map Prod.fst := by
  rw [entries_eq_cons] at valid member ⊢
  obtain ⟨validName, validBelow⟩ := List.forall_mem_cons.mp valid
  have plain := separator_not_mem_of_isValidName validName
  rcases List.mem_cons.mp member with rfl | deeper
  · exact (not_isBelow_of_not_mem plain below).elim
  · rcases mem_entriesAll_or_above root command.name command.subcommands validBelow entry
      deeper below with inside | rfl | above
    · exact List.mem_cons_of_mem _ inside
    · exact List.mem_cons_self
    · exact (not_isBelow_of_not_mem plain above).elim

namespace Registry

theorem isForest_empty : (empty : Registry σ).IsForest where
  mem_of_isBelow _ member := by cases member
  plain_of_mem_topLevel member := by cases member

/-- Registering keeps a registry in order. -/
theorem isForest_register {registry next : Registry σ} {command : Command σ}
    (forest : registry.IsForest) (registered : registry.register command = .ok next) :
    next.IsForest := by
  obtain ⟨valid, -, rfl⟩ := register_eq_ok registered
  constructor
  · intro root id below member
    simp only [ids, List.map_append, List.mem_append] at member ⊢
    rcases member with old | new
    · exact .inl (forest.mem_of_isBelow below old)
    · obtain ⟨entry, inTree, rfl⟩ := List.mem_map.mp new
      exact .inr (mem_entries_of_isBelow valid inTree below)
  · intro name member
    rcases List.mem_append.mp member with old | new
    · exact forest.plain_of_mem_topLevel old
    · rw [List.mem_singleton.mp new]
      have first : (childId none command.name, command) ∈ command.entries none := by
        rw [entries_eq_cons]
        exact List.mem_cons_self
      exact separator_not_mem_of_isValidName (valid _ first)

theorem isForest_tryRegister {registry : Registry σ} (command : Command σ)
    (forest : registry.IsForest) : (registry.tryRegister command).IsForest := by
  rw [tryRegister]
  split
  · rename_i registered
    exact isForest_register forest registered
  · exact forest

/-- Every registry that was built by registering is in order. -/
theorem isForest_afterCalls (commands : List (Command σ)) :
    (afterCalls commands).IsForest :=
  List.foldlRecOn commands tryRegister isForest_empty fun _ forest command _ =>
    isForest_tryRegister command forest

end Registry

end OperatorShell.Command
