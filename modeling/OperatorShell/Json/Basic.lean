import OperatorShell.Json.Token

/-!
# JSON documents

A document is a value; reading goes through its tokens with a stack of the brackets
that are open, so nothing is read twice and the depth of nesting has no limit.
-/

namespace OperatorShell

/-- A JSON value.  Numbers other than natural ones are not told apart, and a string
that denotes no text is `none`. -/
inductive Json where
  | null
  | bool (value : Bool)
  | natural (value : Nat)
  | number
  | string (text : Option String)
  | array (items : List Json)
  | object (members : List (Option String × Json))

namespace Json

/-- An open bracket with what has been read behind it, newest first. -/
inductive Frame where
  | array (items : List Json)
  | object (members : List (Option String × Json)) (key : Option String)

/-- What the reader can take next. -/
inductive Expected where
  | value
  /-- A value, or the end of the array that has just been opened. -/
  | firstItem
  /-- A key, or the end of the object that has just been opened. -/
  | firstKey (members : List (Option String × Json))
  | key (members : List (Option String × Json))
  | colon (members : List (Option String × Json)) (key : Option String)
  /-- A separator or closing bracket after a value. -/
  | afterValue (value : Json)

/-- A reader between two tokens. -/
structure Reader where
  stack : List Frame
  expected : Expected

namespace Reader

/-- The value of a token that is one by itself. -/
def scalar? : Token → Option Json
  | .null => some .null
  | .bool value => some (.bool value)
  | .natural value => some (.natural value)
  | .number => some .number
  | .string text => some (.string text)
  | _ => none

/-- Take a token where a value can stand. -/
def takeValue? (stack : List Frame) (token : Token) : Option Reader :=
  match token with
  | .openArray => some ⟨.array [] :: stack, .firstItem⟩
  | .openObject => some ⟨stack, .firstKey []⟩
  | token => (scalar? token).map fun value => ⟨stack, .afterValue value⟩

/-- Take a token where a key can stand. -/
def takeKey? (stack : List Frame) (members : List (Option String × Json)) :
    Token → Option Reader
  | .string key => some ⟨stack, .colon members key⟩
  | _ => none

/-- Take a token after a value. -/
def takeAfter? (stack : List Frame) (value : Json) (token : Token) : Option Reader :=
  match stack, token with
  | .array items :: outer, .comma => some ⟨.array (value :: items) :: outer, .value⟩
  | .array items :: outer, .closeArray =>
      some ⟨outer, .afterValue (.array (value :: items).reverse)⟩
  | .object members key :: outer, .comma =>
      some ⟨outer, .key ((key, value) :: members)⟩
  | .object members key :: outer, .closeObject =>
      some ⟨outer, .afterValue (.object ((key, value) :: members).reverse)⟩
  | _, _ => none

/-- Take the next token, if it can stand here. -/
def step? (reader : Reader) (token : Token) : Option Reader :=
  match reader.expected with
  | .value => takeValue? reader.stack token
  | .firstItem =>
      match reader.stack, token with
      | .array _ :: outer, .closeArray => some ⟨outer, .afterValue (.array [])⟩
      | stack, token => takeValue? stack token
  | .firstKey members =>
      match token with
      | .closeObject => some ⟨reader.stack, .afterValue (.object [])⟩
      | token => takeKey? reader.stack members token
  | .key members => takeKey? reader.stack members token
  | .colon members key =>
      if token = .colon then some ⟨.object members key :: reader.stack, .value⟩
      else none
  | .afterValue value => takeAfter? reader.stack value token

/-- The document, when all brackets are closed. -/
def result? (reader : Reader) : Option Json :=
  match reader.stack, reader.expected with
  | [], .afterValue value => some value
  | _, _ => none

end Reader

/-- Read a document. -/
def parse? (text : String) : Option Json := do
  let tokens ← tokens? text.toList
  let reader ← tokens.foldlM Reader.step? ⟨[], .value⟩
  reader.result?

/-- The texts of an array of strings. -/
def strings? : Json → Option (List String)
  | .array items => items.mapM fun item =>
      match item with
      | .string text => text
      | _ => none
  | _ => none

end Json

end OperatorShell
