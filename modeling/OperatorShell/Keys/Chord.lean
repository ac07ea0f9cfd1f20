import OperatorShell.Keys.Event
import OperatorShell.Text.Case
import OperatorShell.Text.Digits

/-!
# Chord names

A chord is the canonical name of a key press, such as `ctrl+a`, `shift+tab`, `f5` or
`A`.  Key maps bind chords, so presses with one chord are one and the same to every
widget.  A printable character without Ctrl and Meta is named by itself, whatever
Shift did to it.
-/

namespace OperatorShell.Keys

namespace KeyCode

/-- The keys that have a name of their own. -/
def named : List (String × KeyCode) :=
  [("space", .char ' '), ("return", .enter), ("tab", .tab), ("left", .left),
   ("right", .right), ("up", .up), ("down", .down), ("home", .home), ("end", .endKey),
   ("backspace", .backspace), ("delete", .delete), ("pageup", .pageUp),
   ("pagedown", .pageDown), ("escape", .escape), ("insert", .insert)]

/-- The name of a key without its modifiers. -/
def name (code : KeyCode) (lowered : Bool) : List Char :=
  match code with
  | .char ' ' => "space".toList
  | .char character => if lowered then Text.toLower character else [character]
  | .function number => 'f' :: Nat.toDigits 10 number.toNat
  | .enter => "return".toList
  | .tab | .backTab => "tab".toList
  | .left => "left".toList
  | .right => "right".toList
  | .up => "up".toList
  | .down => "down".toList
  | .home => "home".toList
  | .endKey => "end".toList
  | .backspace => "backspace".toList
  | .delete => "delete".toList
  | .pageUp => "pageup".toList
  | .pageDown => "pagedown".toList
  | .escape => "escape".toList
  | .insert => "insert".toList
  | .null | .capsLock | .scrollLock | .numLock | .printScreen | .pause | .menu
  | .keypadBegin | .media _ | .modifier _ => "unknown".toList

/-- Whether the key types a character that is not a space. -/
def isPrintable : KeyCode → Bool
  | .char character => character != ' '
  | _ => false

end KeyCode

/-- A modifier at the start of a chord. -/
def modifierMark (held : Bool) (mark : String) : List Char :=
  if held then mark.toList else []

/-- The chord of a key press. -/
def chord (event : KeyEvent) : List Char :=
  let modifiers := event.modifiers
  if modifiers.isPlain && event.code.isPrintable then event.code.name false
  else
    modifierMark modifiers.ctrl "ctrl+" ++ modifierMark modifiers.altOrMeta "meta+" ++
      modifierMark (modifiers.shift || event.code == .backTab) "shift+" ++
      event.code.name (!modifiers.isPlain)

/-- A text after a mark that it starts with. -/
def afterMark? : (mark text : List Char) → Option (List Char)
  | [], text => some text
  | expected :: mark, character :: text =>
      if character = expected then afterMark? mark text else none
  | _ :: _, [] => none

/-- Take a modifier off the start of a chord. -/
def readMark? (text : List Char) (modifiers : Modifiers) :
    Option (List Char × Modifiers) :=
  match afterMark? "ctrl+".toList text with
  | some rest => some (rest, { modifiers with ctrl := true })
  | none =>
      match afterMark? "meta+".toList text with
      | some rest => some (rest, { modifiers with alt := true })
      | none =>
          match afterMark? "shift+".toList text with
          | some rest => some (rest, { modifiers with shift := true })
          | none => none

theorem length_of_afterMark? {mark text rest : List Char}
    (found : afterMark? mark text = some rest) :
    text.length = mark.length + rest.length := by
  induction mark generalizing text with
  | nil => simp_all [afterMark?]
  | cons expected mark ih =>
      cases text with
      | nil => simp [afterMark?] at found
      | cons character text =>
          unfold afterMark? at found
          split at found
          · have shorter := ih found
            simp only [List.length_cons]
            omega
          · cases found

theorem length_of_readMark? {text rest : List Char} {modifiers later : Modifiers}
    (found : readMark? text modifiers = some (rest, later)) :
    rest.length < text.length := by
  unfold readMark? at found
  split at found
  · rename_i equal
    have := length_of_afterMark? equal
    cases found
    simp at this
    omega
  · split at found
    · rename_i equal
      have := length_of_afterMark? equal
      cases found
      simp at this
      omega
    · split at found
      · rename_i equal
        have := length_of_afterMark? equal
        cases found
        simp at this
        omega
      · cases found

/-- Take all modifiers off the start of a chord. -/
def readMarks (text : List Char) (modifiers : Modifiers) : List Char × Modifiers :=
  match _found : readMark? text modifiers with
  | some (rest, modifiers) => readMarks rest modifiers
  | none => (text, modifiers)
termination_by text.length
decreasing_by exact length_of_readMark? (by assumption)

/-- A number of decimal digits that fits into one byte. -/
def byteOfDigits? (digits : List Char) : Option UInt8 :=
  if digits = [] then none
  else
    ((Text.number? 10 digits).filter (· < 256)).map UInt8.ofNat

/-- A number of a function key, with or without a plus sign. -/
def functionNumber? : List Char → Option UInt8
  | '+' :: digits => byteOfDigits? digits
  | digits => byteOfDigits? digits

/-- The key that a name without modifiers stands for. -/
def readKey? (name : List Char) (shift : Bool) : Option KeyCode :=
  match KeyCode.named.lookup (String.ofList name) with
  | some .tab => if shift then some .backTab else some .tab
  | some code => some code
  | none =>
      match name with
      | [character] => some (.char character)
      | 'f' :: number => (functionNumber? number).map .function
      | _ => none

/-- The key press that a chord stands for. -/
def parseChord (text : List Char) : Option KeyEvent :=
  let (name, modifiers) := readMarks text .none
  (readKey? name modifiers.shift).map fun code => ⟨code, modifiers⟩

end OperatorShell.Keys
