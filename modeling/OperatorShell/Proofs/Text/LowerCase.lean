import Mathlib.Data.List.Lattice
import OperatorShell.Text.Case

/-!
# Lower case

Lowering a character once lowers it for good: no image of the mapping has an image other than
itself.  Every character but one has a lower case of one character.
-/

namespace OperatorShell.Text

/-- A set of numbers as the bits of one number. -/
def bitsOf (numbers : List Nat) : Nat :=
  numbers.foldr (fun number bits => bits ||| 1 <<< number) 0

section Bits

variable {left right : List Nat}

theorem testBit_bitsOf (numbers : List Nat) (number : Nat) :
    (bitsOf numbers).testBit number = true ↔ number ∈ numbers := by
  induction numbers with
  | nil => simp [bitsOf]
  | cons first rest ih =>
      have first_bit : (1 <<< first).testBit number = true ↔ number = first := by
        rw [Nat.one_shiftLeft, Nat.testBit_two_pow, decide_eq_true_iff, eq_comm]
      rw [bitsOf, List.foldr_cons, Nat.testBit_or, Bool.or_eq_true, first_bit, List.mem_cons,
        or_comm]
      exact or_congr_right ih

/-- Sets without a common bit have no common member. -/
theorem disjoint_of_bitsOf (separate : bitsOf left &&& bitsOf right = 0) :
    List.Disjoint left right := by
  intro number inLeft inRight
  have common : (bitsOf left &&& bitsOf right).testBit number = true := by
    rw [Nat.testBit_and, (testBit_bitsOf left number).mpr inLeft,
      (testBit_bitsOf right number).mpr inRight, Bool.and_self]
  rw [separate, Nat.zero_testBit] at common
  cases common

end Bits

namespace CaseRun

variable {run : CaseRun} {code image : Nat}

/-- The code points of a run. -/
def codes (run : CaseRun) : List Nat :=
  List.range' run.first ((run.last - run.first) / run.step + 1) run.step

/-- The images of the code points of a run. -/
def images (run : CaseRun) : List Nat := run.codes.map (run.image + · - run.first)

theorem mem_codes_of_image? (mapped : run.image? code = some image) : code ∈ run.codes := by
  unfold image? at mapped
  split at mapped
  · rename_i held
    obtain ⟨notBefore, notBehind, aligned⟩ := held
    have multiple := Nat.mul_div_cancel' (Nat.dvd_of_mod_eq_zero aligned)
    have within : (code - run.first) / run.step ≤ (run.last - run.first) / run.step :=
      Nat.div_le_div_right (Nat.sub_le_sub_right notBehind run.first)
    exact List.mem_range'.mpr ⟨_, Nat.lt_succ_of_le within, by omega⟩
  · cases mapped

theorem mem_images_of_image? (mapped : run.image? code = some image) : image ∈ run.images := by
  have held := mem_codes_of_image? mapped
  unfold image? at mapped
  split at mapped
  · rename_i inRange
    obtain rfl := Option.some.inj mapped
    exact List.mem_map.mpr ⟨code, held, Nat.add_sub_assoc inRange.1 run.image⟩
  · cases mapped

end CaseRun

section Lowering

/-- A character that does not expand has the image that a run gives it, if one does. -/
theorem toLower_of_ne {character : Char} (single : character ≠ 'İ') :
    toLower character =
      [((lowerRuns.findSome? (·.image? character.toNat)).map Char.ofNat).getD character] := by
  have unexpanded : lowerExpansions.lookup character.toNat = none := by
    rw [List.lookup_eq_none_iff]
    intro expansion member
    obtain rfl := List.mem_singleton.mp member
    rw [bne_iff_ne]
    exact fun same => single (Char.toNat_inj.mp same)
  rw [toLower, CaseMap.map, lowerCase, unexpanded]
  cases lowerRuns.findSome? (·.image? character.toNat) <;> rfl

/-- No image is lowered again, by a run or by the expansion. -/
theorem disjoint_images_codes :
    List.Disjoint (lowerRuns.flatMap CaseRun.images)
      ('İ'.toNat :: lowerRuns.flatMap CaseRun.codes) := by
  apply disjoint_of_bitsOf
  decide +kernel

theorem isValidChar_of_mem_images :
    ∀ run ∈ lowerRuns, ∀ image ∈ run.images, image.isValidChar ∧ ' '.toNat < image := by
  decide +kernel

/-- An image is its own lower case, and it is not a space. -/
theorem toLower_of_mem_images {run : CaseRun} (member : run ∈ lowerRuns) {image : Nat}
    (isImage : image ∈ run.images) :
    toLower (Char.ofNat image) = [Char.ofNat image] ∧ Char.ofNat image ≠ ' ' := by
  obtain ⟨valid, behindSpace⟩ := isValidChar_of_mem_images run member image isImage
  have code_eq : (Char.ofNat image).toNat = image := by
    rw [Char.ofNat, dif_pos valid]
    rfl
  have final := disjoint_images_codes (List.mem_flatMap.mpr ⟨run, member, isImage⟩)
  obtain ⟨notExpanding, notHeld⟩ := not_or.mp (mt List.mem_cons.mpr final)
  constructor
  · have single : Char.ofNat image ≠ 'İ' := by
      intro same
      rw [same] at code_eq
      exact notExpanding code_eq.symm
    have unmapped : lowerRuns.findSome? (·.image? (Char.ofNat image).toNat) = none := by
      rw [code_eq, List.findSome?_eq_none_iff]
      intro other held
      rw [Option.eq_none_iff_forall_ne_some]
      intro next again
      exact notHeld (List.mem_flatMap.mpr ⟨other, held, CaseRun.mem_codes_of_image? again⟩)
    rw [toLower_of_ne single, unmapped]
    rfl
  · intro space
    rw [space] at code_eq
    exact Nat.ne_of_lt behindSpace code_eq

/-- Every character but one has a lower case of one character, which is its own lower case.  Only a
space has the space. -/
theorem exists_toLower_eq {character : Char} (single : character ≠ 'İ') :
    ∃ lowered, toLower character = [lowered] ∧ toLower lowered = [lowered] ∧
      (character ≠ ' ' → lowered ≠ ' ') := by
  have lower := toLower_of_ne single
  cases mapped : lowerRuns.findSome? (·.image? character.toNat) with
  | none =>
      rw [mapped] at lower
      exact ⟨character, lower, lower, id⟩
  | some image =>
      rw [mapped] at lower
      obtain ⟨run, member, found⟩ := List.exists_of_findSome?_eq_some mapped
      obtain ⟨final, visible⟩ := toLower_of_mem_images member (CaseRun.mem_images_of_image? found)
      exact ⟨Char.ofNat image, lower, final, fun _ => visible⟩

end Lowering

end OperatorShell.Text
