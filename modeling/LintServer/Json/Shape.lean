/-
  LintServer.Json.Shape — values taken apart, and what is said of those of another shape.
-/

import LintServer.Failure
import LintServer.Text.Digit

namespace LintServer.Json

/-- What sort of value it is, as messages call it. -/
def typeName : Json → String
  | .null => "NoneType"
  | .bool _ => "bool"
  | .int _ => "int"
  | .float _ => "float"
  | .str _ => "str"
  | .stamp s => s.typeName
  | .arr _ => "list"
  | .obj _ => "dict"

def isNumber : Json → Bool
  | .bool _ | .int _ | .float _ => true
  | _ => false

def wrong {α : Type} (kind : Failure.Kind) (text : String) : Except Failure α :=
  .error (.saying kind text)

/-- The fields of an object, for a use that only objects have. -/
def fieldsTo (use : String) : Json → Except Failure (List (String × Json))
  | .obj fields => .ok fields
  | v => wrong .missingField ("'" ++ v.typeName ++ "' object has no attribute '" ++ use ++ "'")

/-- The fields of an object, to look some of them up. -/
def fields (v : Json) : Except Failure (List (String × Json)) := v.fieldsTo "get"

/-- What a value holds one after another: items, code points, or names of fields. -/
def members? : Json → Option (List Json)
  | .arr items => some items
  | .str s => some ((Text.pointsOf s.toList).map fun p => .str (String.ofList (Text.codesOf p)))
  | .obj fields => some (fields.map fun f => .str f.1)
  | _ => none

def members (v : Json) : Except Failure (List Json) :=
  match v.members? with
  | some members => .ok members
  | none => wrong .wrongType ("'" ++ v.typeName ++ "' object is not iterable")

/-- The two members of a value that holds two. -/
def pair (v : Json) : Except Failure (Json × Json) :=
  match v.members? with
  | some [a, b] => .ok (a, b)
  | some (_ :: _ :: _) => wrong .badValue "too many values to unpack (expected 2)"
  | some few =>
    wrong .badValue ("not enough values to unpack (expected 2, got " ++ toString few.length ++ ")")
  | none => wrong .wrongType ("cannot unpack non-iterable " ++ v.typeName ++ " object")

/-- The value under a name that has to be there. -/
def entry (name : String) : Json → Except Failure Json
  | .obj fields =>
    match Table.get? fields name with
    | some v => .ok v
    | none => wrong .missingKey name
  | .str _ => wrong .wrongType "string indices must be integers, not 'str'"
  | .arr _ => wrong .wrongType "list indices must be integers or slices, not str"
  | v => wrong .wrongType ("'" ++ v.typeName ++ "' object is not subscriptable")

/-- What is said of a number with too many digits to be written. -/
def unwritable : Failure :=
  .saying .badValue ("Exceeds the limit (4300 digits) for integer string conversion; " ++
    "use sys.set_int_max_str_digits() to increase the limit")

mutual

/-- Refuses a value in which a number has too many digits to be written. -/
def checkWritten : Json → Except Failure Unit
  | .int n => if Text.isWritable n.natAbs then .ok () else .error unwritable
  | .arr items => checkItems items
  | .obj fields => checkFields fields
  | _ => .ok ()

def checkItems : List Json → Except Failure Unit
  | [] => .ok ()
  | v :: vs => do checkWritten v; checkItems vs

def checkFields : List (String × Json) → Except Failure Unit
  | [] => .ok ()
  | (_, v) :: fields => do checkWritten v; checkFields fields

end

/-- What is said of a field that had to be a text: in short, and with all that is known of the
field. -/
def noText (name : String) (v : Json) : Failure :=
  let text := "<class 'str'>"
  let short := "'" ++ name ++ "' must be " ++ text ++ " (got " ++ v.shown ++ " that is a <class '" ++
    v.typeName ++ "'>)."
  let field := "Attribute(name='" ++ name ++ "', default=NOTHING, validator=<instance_of validator " ++
    "for type " ++ text ++ ">, repr=True, eq=True, eq_key=None, order=True, order_key=None, " ++
    "hash=None, init=True, metadata=mappingproxy(\x7b\x7d), type=" ++ text ++ ", converter=None, " ++
    "kw_only=False, inherited=False, on_setattr=None, alias='" ++ name ++ "')"
  { kind := .wrongType
    details := [.str short]
    words := some ("(" ++ Text.joined ", " [Text.quoted short, field, text, v.shown] ++ ")") }

end LintServer.Json
