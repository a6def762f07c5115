import TypedCalls.Settings.Basic
import TypedCalls.Datum.Basic

/-!
# Settings as data

Settings are read from a map with the keys `capacity` and `limit`, or from a list with these two
values in this order. Either may be missing and is then the standard one. The entries of a map
are read in order, and each is checked in three steps: its key is known, no earlier entry has
that key, its value is accepted.

That a list may stand for a map, and in which order the checks are made, is the general rule for
decoding a record, and is taken as given. What belongs to settings are the two keys, what they take,
what is standard, and that no other key is allowed.

Main statement: settings are read back from the map that they are written as.
-/

namespace TypedCalls

namespace Settings

/-- What an entry of a map of settings sets. -/
inductive Field where
  | capacity
  | limit
  deriving DecidableEq, Repr

/-- The key of a field. -/
def Field.key : Field → String
  | capacity => "capacity"
  | limit => "limit"

/-- The fields in the order of a list of settings. -/
def Field.all : List Field := [capacity, limit]

/-- The field of a key. -/
def Field.ofKey? (key : String) : Option Field :=
  Field.all.find? (·.key = key)

/-- Read a natural of 64 bits. -/
def readWord : Datum → Except DecodeError UInt64
  | .int value =>
    if 0 ≤ value ∧ value.toNat < UInt64.size then
      .ok (UInt64.ofNat value.toNat)
    else
      .error (.wrongValue (.int value) "usize")
  | d => .error (.wrongKind d.shape "usize")

/-- Read a limit, which null takes away. -/
def readLimit : Datum → Except DecodeError (Option UInt64)
  | .null => .ok none
  | d => (readWord d).map some

/-- The fields read so far. -/
structure Fields where
  capacity : Option UInt64 := none
  limit : Option (Option UInt64) := none
  deriving DecidableEq, Repr

/-- A field has been read. -/
def Fields.has (f : Fields) : Field → Bool
  | .capacity => f.capacity.isSome
  | .limit => f.limit.isSome

/-- Read the value of a field. -/
def Fields.set (f : Fields) (field : Field) (value : Datum) : Except DecodeError Fields :=
  match field with
  | .capacity => (readWord value).map fun n => { f with capacity := some n }
  | .limit => (readLimit value).map fun n => { f with limit := some n }

/-- Read one entry. -/
def Fields.read (f : Fields) (entry : String × Datum) : Except DecodeError Fields :=
  match Field.ofKey? entry.1 with
  | none => .error (.unknownField entry.1 (Field.all.map Field.key))
  | some field =>
    if f.has field then
      .error (.duplicateField field.key)
    else
      f.set field entry.2

/-- Read entries in order, up to the first that is not accepted. -/
def Fields.readAll (f : Fields) : List (String × Datum) → Except DecodeError Fields
  | [] => .ok f
  | entry :: rest =>
    match f.read entry with
    | .error e => .error e
    | .ok f => f.readAll rest

/-- The settings with the standard values for fields that have not been read. -/
def Fields.toSettings (f : Fields) : Settings :=
  ⟨f.capacity.getD standard.capacity, f.limit.getD standard.limit⟩

/-- Read settings from the entries of a map. -/
def ofEntries (entries : List (String × Datum)) : Except DecodeError Settings :=
  (Fields.readAll {} entries).map Fields.toSettings

/-- Read settings from a list. A list that is too long is refused after its first two items have
been read. -/
def ofList : List Datum → Except DecodeError Settings
  | [] => .ok standard
  | [capacity] =>
    match readWord capacity with
    | .error e => .error e
    | .ok capacity => .ok { standard with capacity }
  | capacity :: limit :: rest =>
    match readWord capacity with
    | .error e => .error e
    | .ok capacity =>
      match readLimit limit with
      | .error e => .error e
      | .ok limit =>
        if rest.isEmpty then .ok ⟨capacity, limit⟩ else .error (.tooLong (rest.length + 2))

/-- Read settings. -/
def ofDatum : Datum → Except DecodeError Settings
  | .map entries => ofEntries entries
  | .list items => ofList items
  | d => .error (.wrongKind d.shape "struct Config")

/-- Settings as a map with both fields. -/
def toDatum (s : Settings) : Datum :=
  let limit : Datum := match s.limit with
    | none => .null
    | some limit => .int limit.toNat
  .map [("capacity", .int s.capacity.toNat), ("limit", limit)]

/-! ### Reading back -/

@[simp] theorem readWord_int_toNat (n : UInt64) : readWord (.int n.toNat) = .ok n := by
  simp [readWord, n.toNat_lt]

/-- Settings are read back from the map that they are written as. -/
theorem ofDatum_toDatum (s : Settings) : ofDatum s.toDatum = .ok s := by
  obtain ⟨capacity, limit⟩ := s
  have hc : Field.ofKey? "capacity" = some .capacity := by decide
  have hl : Field.ofKey? "limit" = some .limit := by decide
  cases limit <;>
    simp [toDatum, ofDatum, ofEntries, Fields.readAll, Fields.read, hc, hl, Fields.has, Fields.set,
      readLimit, Except.map, Fields.toSettings]

end Settings

end TypedCalls
