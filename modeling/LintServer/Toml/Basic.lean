/-
  LintServer.Toml.Basic — documents of the TOML data format, while they are read.

  A document grows statement by statement. Beside the values it keeps marks on key paths:
  a path is declared when it has had a header or dotted keys of its own, and frozen when its
  value was written out in one piece, which closes the whole namespace below it. Dotted keys
  under a header declare their prefixes only from the next header on.
-/

import LintServer.Json.Basic

namespace LintServer.Toml

inductive Value where
  | bool (b : Bool)
  | int (n : Int)
  | float (x : Double)
  | str (s : String)
  | stamp (s : Stamp)
  | arr (items : List Value)
  | table (fields : List (String × Value))
  deriving Repr, Inhabited

mutual

/-- The value as data. -/
def Value.toJson : Value → Json
  | .bool b => .bool b
  | .int n => .int n
  | .float x => .float x
  | .str s => .str s
  | .stamp s => .stamp s
  | .arr items => .arr (itemsToJson items)
  | .table fields => .obj (fieldsToJson fields)

def itemsToJson : List Value → List Json
  | [] => []
  | v :: vs => v.toJson :: itemsToJson vs

def fieldsToJson : List (String × Value) → List (String × Json)
  | [] => []
  | (k, v) :: fields => (k, v.toJson) :: fieldsToJson fields

end

abbrev Fields := List (String × Value)

abbrev Key := List String

/-- Changes the table at the end of a path, making tables that are missing on the way. The
path goes through the last table of an array unless `throughArrays` is off. None if something
else is in the way, or if `change` refuses. -/
def modify (throughArrays : Bool) (change : Fields → Option Fields) :
    Key → Fields → Option Fields
  | [], fields => change fields
  | k :: key, fields =>
    match Table.get? fields k with
    | none => (modify throughArrays change key []).map fun t => Table.put k (.table t) fields
    | some (.table inner) =>
      (modify throughArrays change key inner).map fun t => Table.put k (.table t) fields
    | some (.arr items) =>
      if throughArrays then
        match items.getLast? with
        | some (.table inner) =>
          (modify throughArrays change key inner).map fun t =>
            Table.put k (.arr (items.dropLast ++ [.table t])) fields
        | _ => none
      else none
    | some _ => none

/-- Adds a field that is not there yet. -/
def addField (name : String) (v : Value) (fields : Fields) : Option Fields :=
  if Table.has fields name then none else some (Table.put name v fields)

/-- Adds an empty table to the array under a name. -/
def addItem (name : String) (fields : Fields) : Option Fields :=
  match Table.get? fields name with
  | none => some (Table.put name (.arr [.table []]) fields)
  | some (.arr items) => some (Table.put name (.arr (items ++ [.table []])) fields)
  | some _ => none

/-- The marks on key paths. -/
structure Marks where
  declared : List Key := []
  frozen : List Key := []
  /-- Prefixes of dotted keys, to be declared at the next header. -/
  pending : List Key := []
  deriving Repr, Inhabited

namespace Marks

def isDeclared (m : Marks) (key : Key) : Bool := m.declared.contains key

/-- Whether a path or a namespace around it is closed. -/
def isFrozen (m : Marks) (key : Key) : Bool :=
  m.frozen.any fun f => !f.isEmpty && f.isPrefixOf key

def declare (m : Marks) (key : Key) : Marks := { m with declared := key :: m.declared }

def freeze (m : Marks) (key : Key) : Marks := { m with frozen := key :: m.frozen }

/-- Forgets every mark on a path and below it. -/
def free (m : Marks) (key : Key) : Marks :=
  { m with declared := m.declared.filter (!key.isPrefixOf ·)
           frozen := m.frozen.filter (!key.isPrefixOf ·) }

def settle (m : Marks) : Marks := { m with declared := m.pending ++ m.declared, pending := [] }

end Marks

/-- A document as far as it has been read: its values, its marks, and the header that the
next keys belong to. -/
structure State where
  fields : Fields := []
  marks : Marks := {}
  header : Key := []
  deriving Repr, Inhabited

namespace State

/-- A header in single brackets. -/
def openTable (s : State) (key : Key) : Option State :=
  let marks := s.marks.settle
  if marks.isDeclared key || marks.isFrozen key then none
  else (modify true some key s.fields).map fun fields =>
    { fields, marks := marks.declare key, header := key }

/-- A header in double brackets. -/
def openItem (s : State) (key : Key) : Option State := do
  let marks := s.marks.settle
  if marks.isFrozen key then none
  else
    let name ← key.getLast?
    let fields ← modify true (addItem name) key.dropLast s.fields
    return { fields, marks := (marks.free key).declare key, header := key }

def isClosed : Value → Bool
  | .table _ | .arr _ => true
  | _ => false

/-- The paths of a dotted key before its last part, under a header. -/
def dottedPaths (header : Key) (key : Key) : List Key :=
  (List.range (key.length - 1)).map fun i => header ++ key.take (i + 1)

/-- A key with its value. -/
def assign (s : State) (key : Key) (v : Value) : Option State := do
  let paths := dottedPaths s.header key
  if paths.any s.marks.isDeclared then none
  let marks := { s.marks with pending := paths ++ s.marks.pending }
  let place := s.header ++ key.dropLast
  if marks.isFrozen place then none
  let name ← key.getLast?
  let fields ← modify true (addField name v) place s.fields
  return { s with fields, marks := if isClosed v then marks.freeze (s.header ++ key) else marks }

end State

end LintServer.Toml
