import TypedCalls.Binary64.Shortest
import TypedCalls.Text.Quoted

/-!
# Data to decode

Settings and value types are read from data: null, truth values, numbers, texts, lists and maps.
A map keeps its entries in order and may repeat a key. Decoding looks at data entry by entry and
tells the first thing that it does not accept.
-/

namespace TypedCalls

/-- A piece of data. -/
inductive Datum where
  | null
  | bool (value : Bool)
  | int (value : Int)
  | real (value : Binary64)
  | text (value : String)
  | list (items : List Datum)
  | map (entries : List (String × Datum))
  deriving Inhabited

namespace Datum

/-- What a message tells of a piece of data: its kind, and the value of a simple one. -/
inductive Shape where
  | null
  | bool (value : Bool)
  | int (value : Int)
  | real (value : Binary64)
  | text (value : String)
  | list
  | map
  deriving DecidableEq, Repr

/-- The shape of a piece of data. -/
def shape : Datum → Shape
  | null => .null
  | bool value => .bool value
  | int value => .int value
  | real value => .real value
  | text value => .text value
  | list _ => .list
  | map _ => .map

/-- The wording of a shape. -/
def Shape.describe : Shape → String
  | null => "null"
  | bool value => s!"boolean `{value}`"
  | int value => s!"integer `{value}`"
  | real value => s!"floating point `{value.toText}`"
  | text value => s!"string {Text.quote value}"
  | list => "sequence"
  | map => "map"

end Datum

/-- Why data is not accepted. -/
inductive DecodeError where
  /-- The name is none of the known variants. -/
  | unknownVariant (name : String) (known : List String)
  /-- The key is none of the known fields. -/
  | unknownField (name : String) (known : List String)
  /-- The key of an earlier entry is repeated. -/
  | duplicateField (name : String)
  /-- Data of another kind is expected. -/
  | wrongKind (found : Datum.Shape) (expected : String)
  /-- Data of this kind, but with another value, is expected. -/
  | wrongValue (found : Datum.Shape) (expected : String)
  /-- A list has more items than are read. -/
  | tooLong (length : Nat)
  deriving DecidableEq, Repr

namespace DecodeError

/-- The known names of a message: two are joined by a word, more are listed. -/
def oneOf : List String → String
  | [] => "nothing"
  | [name] => s!"`{name}`"
  | [first, second] => s!"`{first}` or `{second}`"
  | names => "one of " ++ ", ".intercalate (names.map fun name => s!"`{name}`")

/-- The wording of an error. -/
def message : DecodeError → String
  | unknownVariant name known => s!"unknown variant `{name}`, expected {oneOf known}"
  | unknownField name known => s!"unknown field `{name}`, expected {oneOf known}"
  | duplicateField name => s!"duplicate field `{name}`"
  | wrongKind found expected => s!"invalid type: {found.describe}, expected {expected}"
  | wrongValue found expected => s!"invalid value: {found.describe}, expected {expected}"
  | tooLong length => s!"invalid length {length}, expected fewer elements in array"

end DecodeError

end TypedCalls
