/-!
# Candidates

What a completion offers and a question lists: a value, and maybe a word on what it
is.
-/

namespace OperatorShell

/-- One suggestion. -/
structure Candidate where
  /-- Text that goes into the line. -/
  value : String
  description : Option String
  deriving DecidableEq, Repr

/-- Whether a text begins with a stem. -/
def isStemOf (stem text : String) : Bool :=
  stem.toList.isPrefixOf text.toList

@[simp] theorem isStemOf_empty (text : String) : isStemOf "" text = true := by
  simp [isStemOf]

namespace Candidate

/-- A candidate without a description. -/
def plain (value : String) : Candidate := ⟨value, none⟩

/-- The candidates whose value begins with what has been typed. -/
def matching (typed : String) (candidates : List Candidate) : List Candidate :=
  candidates.filter (isStemOf typed ·.value)

@[simp] theorem matching_empty (candidates : List Candidate) :
    matching "" candidates = candidates := by
  simp [matching]

end Candidate

end OperatorShell
