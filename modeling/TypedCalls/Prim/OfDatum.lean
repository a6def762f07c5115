import TypedCalls.Prim.Basic
import TypedCalls.Datum.Basic

/-!
# Value types as data

A value type is written as its name, and read from its name or from a map whose only key is its
name and whose only value is null. That a map may stand for a name, and that its key is looked at
before its value, is the general rule for decoding one of several names, and is taken as given.

Main statement: a value type is read back from either form.
-/

namespace TypedCalls

namespace Prim

/-- Read a name. -/
def ofKnownName (name : String) : Except DecodeError Prim :=
  match ofName? name with
  | some p => .ok p
  | none => .error (.unknownVariant name (all.map Prim.name))

/-- Read a value type. The key of a map is looked at before its value. -/
def ofDatum : Datum → Except DecodeError Prim
  | .text name => ofKnownName name
  | .map [(name, value)] =>
    match ofKnownName name, value with
    | .error e, _ => .error e
    | .ok p, .null => .ok p
    | .ok _, value => .error (.wrongKind value.shape "unit")
  | .map _ => .error (.wrongValue .map "map with a single key")
  | d => .error (.wrongKind d.shape "string or map")

/-- A value type as data. -/
def toDatum (p : Prim) : Datum :=
  .text p.name

/-! ### Reading back -/

@[simp] theorem ofKnownName_name (p : Prim) : ofKnownName p.name = .ok p := by
  simp [ofKnownName]

@[simp] theorem ofDatum_toDatum (p : Prim) : ofDatum p.toDatum = .ok p := by
  simp [toDatum, ofDatum]

@[simp] theorem ofDatum_map_name (p : Prim) : ofDatum (.map [(p.name, .null)]) = .ok p := by
  simp [ofDatum]

end Prim

end TypedCalls
