/-!
# Options of an invocation

A finite map from option names to what the operator gave for them.  Entries are kept
in the order of their names, so two maps with the same content are equal.
-/

namespace OperatorShell.Command

/-- What the operator gave for an option. -/
inductive OptionValue where
  /-- The key alone. -/
  | flag
  /-- The key and a value. -/
  | value (text : String)
  deriving DecidableEq, Repr

/-- Options by name. -/
structure OptionMap where
  entries : List (String × OptionValue)
  deriving DecidableEq, Repr

namespace OptionMap

/-- The map without entries. -/
def empty : OptionMap := ⟨[]⟩

/-- What the map holds for a name. -/
def get? (map : OptionMap) (name : String) : Option OptionValue :=
  map.entries.lookup name

/-- Put an entry in its place, over an older one of the same name. -/
def insertEntry (name : String) (value : OptionValue) :
    List (String × OptionValue) → List (String × OptionValue)
  | [] => [(name, value)]
  | (other, old) :: rest =>
      if name = other then (name, value) :: rest
      else if name < other then (name, value) :: (other, old) :: rest
      else (other, old) :: insertEntry name value rest

/-- Set what the map holds for a name. -/
def insert (map : OptionMap) (name : String) (value : OptionValue) : OptionMap :=
  ⟨insertEntry name value map.entries⟩

@[simp] theorem get?_empty (name : String) : empty.get? name = none := rfl

/-- An insertion changes what the map holds for its own name only. -/
theorem get?_insert (map : OptionMap) (name other : String)
    (value : OptionValue) :
    (map.insert name value).get? other =
      if other = name then some value else map.get? other := by
  obtain ⟨entries⟩ := map
  simp only [insert, get?]
  induction entries with
  | nil =>
      by_cases equal : other = name
      · simp [insertEntry, equal]
      · simp [insertEntry, List.lookup_cons, beq_false_of_ne equal, equal]
  | cons entry rest ih =>
      obtain ⟨key, old⟩ := entry
      unfold insertEntry
      by_cases equal : other = name
      · subst equal
        split
        · simp
        · split
          · simp
          · rename_i differs _
            simp [List.lookup_cons, beq_false_of_ne differs, ih]
      · split
        · rename_i same
          subst same
          simp [List.lookup_cons, beq_false_of_ne equal]
        · split <;>
            simp [List.lookup_cons, beq_false_of_ne equal, equal, ih]

end OptionMap

end OperatorShell.Command
