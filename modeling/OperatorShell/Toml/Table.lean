/-!
# Tables of a TOML document

The statements of a document build up tables in tables.  A table can be opened by a
header of its own, stand above one that has a header, or be spelled out by dotted
keys, and each way allows different additions later on.  Every operation here refuses
what would define something twice.
-/

namespace OperatorShell.Toml

/-- The value of a key, as far as a setting can use it. -/
inductive Value where
  | text (value : String)
  | integer (value : Int)
  /-- Any other value: truth values, other numbers, dates, arrays and inline tables. -/
  | other
  deriving DecidableEq, Repr

/-- How a table came about. -/
inductive Origin where
  /-- By a header of its own. -/
  | header
  /-- As a table above one with a header. -/
  | above
  /-- By a dotted key. -/
  | dotted
  deriving DecidableEq, Repr

/-- What a key stands for. -/
inductive Node where
  | value (value : Value)
  | table (origin : Origin) (entries : List (String × Node))
  /-- Tables under one repeated header.  Only the last of them can still grow, so only
  that one is kept. -/
  | tables (last : List (String × Node))

/-- The content of a table, in the order in which keys appear. -/
abbrev Entries := List (String × Node)

namespace Entries

/-- What a key stands for, if it is there. -/
def get? (entries : Entries) (key : String) : Option Node := entries.lookup key

/-- Let a key stand for something else, or add it at the end. -/
def put (key : String) (node : Node) : Entries → Entries
  | [] => [(key, node)]
  | (other, old) :: rest =>
      if other = key then (key, node) :: rest else (other, old) :: put key node rest

/-- The origin of tables that a path makes on its way. -/
def originOnWay (dotted : Bool) : Origin := if dotted then .dotted else .above

/-- Change the table at a path.  Tables that are missing on the way are made; a dotted
path does not go into tables that have a header. -/
def change? (dotted : Bool) (change : Origin → Entries → Option Entries) :
    List String → Origin → Entries → Option Entries
  | [], origin, entries => change origin entries
  | key :: path, _, entries =>
      match entries.get? key with
      | none =>
          let origin := originOnWay dotted
          (change? dotted change path origin []).map fun inner =>
            entries.put key (.table origin inner)
      | some (.value _) => none
      | some (.tables last) =>
          (change? dotted change path .header last).map fun inner =>
            entries.put key (.tables inner)
      | some (.table origin inner) =>
          if dotted ∧ origin = .header then none
          else
            (change? dotted change path origin inner).map fun inner =>
              entries.put key (.table origin inner)

/-- Give a key in a table its value.  A dotted path ends in a table that only dotted
keys have made, and a key has one value. -/
def assign? (path : List String) (key : String) (value : Value) (origin : Origin)
    (entries : Entries) : Option Entries :=
  entries.change? true (fun origin entries =>
    if origin = .dotted ↔ path = [] then none
    else if (entries.get? key).isSome then none
    else some (entries.put key (.value value))) path origin

/-- Open a table by a header.  A table can be opened once. -/
def open? (path : List String) (key : String) (root : Entries) : Option Entries :=
  root.change? false (fun _ entries =>
    match entries.get? key with
    | none => some (entries.put key (.table .header []))
    | some (.table .above inner) => some (entries.put key (.table .header inner))
    | some _ => none) path .header

/-- Open one more table under a repeated header. -/
def openNext? (path : List String) (key : String) (root : Entries) :
    Option Entries :=
  root.change? false (fun _ entries =>
    match entries.get? key with
    | none | some (.tables _) => some (entries.put key (.tables []))
    | some _ => none) path .header

end Entries

end OperatorShell.Toml
