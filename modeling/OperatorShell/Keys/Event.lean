/-!
# Key events

A key press as a terminal reports it: the key, and the modifiers held with it.
-/

namespace OperatorShell.Keys

/-- A key that controls a player. -/
inductive MediaKey where
  | play | pause | playPause | reverse | stop | fastForward | rewind | trackNext
  | trackPrevious | record | lowerVolume | raiseVolume | muteVolume
  deriving DecidableEq, Repr

/-- A modifier that is pressed on its own. -/
inductive ModifierKey where
  | leftShift | leftControl | leftAlt | leftSuper | leftHyper | leftMeta
  | rightShift | rightControl | rightAlt | rightSuper | rightHyper | rightMeta
  | isoLevel3Shift | isoLevel5Shift
  deriving DecidableEq, Repr

/-- A key. -/
inductive KeyCode where
  | char (character : Char)
  /-- A function key. -/
  | function (number : UInt8)
  | backspace | enter | left | right | up | down | home | endKey | pageUp | pageDown
  | tab | backTab | delete | insert | null | escape | capsLock | scrollLock | numLock
  | printScreen | pause | menu | keypadBegin
  | media (key : MediaKey)
  | modifier (key : ModifierKey)
  deriving DecidableEq, Repr

/-- The modifiers held with a key. -/
structure Modifiers where
  alt : Bool
  ctrl : Bool
  hyper : Bool
  metaKey : Bool
  shift : Bool
  super : Bool
  deriving DecidableEq, Repr

namespace Modifiers

/-- No modifier. -/
def none : Modifiers := ⟨false, false, false, false, false, false⟩

/-- Whether Alt or Meta is held; the two count as one. -/
def altOrMeta (modifiers : Modifiers) : Bool := modifiers.alt || modifiers.metaKey

/-- Whether the key is pressed without Ctrl, Alt and Meta. -/
def isPlain (modifiers : Modifiers) : Bool :=
  !modifiers.ctrl && !modifiers.altOrMeta

end Modifiers

/-- A key press. -/
structure KeyEvent where
  code : KeyCode
  modifiers : Modifiers
  deriving DecidableEq, Repr

namespace KeyEvent

/-- A key without modifiers. -/
def plain (code : KeyCode) : KeyEvent := ⟨code, .none⟩

end KeyEvent

end OperatorShell.Keys
