import OperatorShell.Keys.Action
import OperatorShell.Keys.Chord

/-!
# Key maps

A key map gives chords their meaning.  What no chord matches falls back to a rule for
typed characters, if the map has one, as long as neither Ctrl nor Alt nor Meta is
held.
-/

namespace OperatorShell.Keys

/-- Bindings of chords, and a rule for characters that no chord matches. -/
structure KeyMap where
  name : String
  /-- Newer bindings come first and hide older ones of the same chord. -/
  bindings : List (String × Action)
  fallback : Option (Char → Action)

namespace KeyMap

/-- A map without bindings. -/
def ofName (name : String) : KeyMap := ⟨name, [], none⟩

/-- The map with one more binding. -/
def bind (map : KeyMap) (chord : String) (action : Action) : KeyMap :=
  { map with bindings := (chord, action) :: map.bindings }

/-- The map with more bindings, the last of which counts most. -/
def bindAll (map : KeyMap) (bindings : List (String × Action)) : KeyMap :=
  bindings.foldl (fun map binding => map.bind binding.1 binding.2) map

/-- The meaning of a key press, if the map gives it one. -/
def lookup (map : KeyMap) (event : KeyEvent) : Option Action :=
  match map.bindings.lookup (String.ofList (chord event)) with
  | some action => some action
  | none =>
      match event.code, map.fallback with
      | .char character, some rule =>
          if event.modifiers.isPlain then some (rule character) else none
      | _, _ => none

/-- Line editing, for every widget that takes text. -/
def editing : KeyMap :=
  { (ofName "editing").bindAll
      [("ctrl+c", .interrupt), ("return", .submit),
       ("backspace", .deleteLeft), ("delete", .deleteRight), ("ctrl+d", .deleteRight),
       ("ctrl+w", .deleteWordLeft), ("ctrl+backspace", .deleteWordLeft),
       ("meta+backspace", .deleteWordLeft), ("meta+d", .deleteWordRight),
       ("ctrl+delete", .deleteWordRight),
       ("left", .moveLeft), ("ctrl+b", .moveLeft),
       ("right", .moveRight), ("ctrl+f", .moveRight),
       ("ctrl+left", .moveWordLeft), ("meta+b", .moveWordLeft),
       ("ctrl+right", .moveWordRight), ("meta+f", .moveWordRight),
       ("home", .moveHome), ("ctrl+a", .moveHome),
       ("end", .moveEnd), ("ctrl+e", .moveEnd), ("space", .insert ' ')] with
    fallback := some .insert }

/-- Line editing with history and completion. -/
def commandPrompt : KeyMap :=
  { editing.bindAll
      [("up", .historyPrevious), ("ctrl+p", .historyPrevious),
       ("down", .historyNext), ("ctrl+n", .historyNext),
       ("ctrl+d", .endOfInput), ("tab", .complete)] with
    name := "command-prompt" }

/-- Going through a list.  A digit goes to a row of the visible page. -/
def picker : KeyMap :=
  ((ofName "picker").bindAll
    [("ctrl+c", .interrupt), ("return", .submit), ("escape", .cancel),
     ("down", .next), ("tab", .next), ("ctrl+n", .next),
     ("up", .previous), ("shift+tab", .previous), ("ctrl+p", .previous),
     ("home", .first), ("end", .last),
     ("pagedown", .pageForward), ("pageup", .pageBack)]).bindAll
    ((List.range 10).map fun digit => (toString digit, .jump digit))

/-- Yes or no. -/
def confirmation : KeyMap :=
  (ofName "confirmation").bindAll
    [("ctrl+c", .interrupt), ("return", .submit), ("y", .answer true),
     ("Y", .answer true), ("n", .answer false), ("N", .answer false)]

end KeyMap

end OperatorShell.Keys
