import Mathlib.Data.List.Nodup
import TypedCalls.Settings.OfDatum

/-!
# Schema of settings

Settings are read from entries one after another, and reading stops at the first entry that is
wrong. What is wrong with an entry depends on the keys before it only, and what the entries say does
not depend on their order. So the outcome can be told without reading: entries are accepted if they
follow the schema, and the error is that of the first entry that does not follow it after those
before it. A list is read as the entries that it stands for, and then its length is looked at.

Main statement: which entries and lists are accepted, which settings they are read as, and which
error is told of any others.
-/

namespace TypedCalls

section

variable {ε α β : Type} {x : Except ε α} {f : α → β}

theorem map_eq_ok_iff {y : β} : x.map f = .ok y ↔ ∃ a, x = .ok a ∧ f a = y := by
  cases x <;> simp [Except.map]

theorem map_eq_error_iff {e : ε} : x.map f = .error e ↔ x = .error e := by
  cases x <;> simp [Except.map]

end

namespace Settings

/-! ### What settings should look like -/

/-- A whole number that 64 bits can hold. -/
def IsWord (d : Datum) : Prop :=
  ∃ n : Int, d = .int n ∧ 0 ≤ n ∧ n < UInt64.size

/-- The values that a field takes: a number, or null for the limit. -/
def Field.Takes : Field → Datum → Prop
  | capacity, d => IsWord d
  | limit, d => d = .null ∨ IsWord d

/-- The entries have known keys, none of them twice, and values that their fields take. -/
structure FollowsSchema (entries : List (String × Datum)) : Prop where
  known : ∀ entry ∈ entries, ∃ field : Field, entry.1 = field.key
  distinct : (entries.map Prod.fst).Nodup
  taken : ∀ field : Field, ∀ value, (field.key, value) ∈ entries → field.Takes value

/-- A limit as data. -/
def limitDatum : Option UInt64 → Datum
  | none => .null
  | some n => .int n.toNat

/-- The entries say what the settings are, and leave out only what is standard. -/
structure Describes (entries : List (String × Datum)) (s : Settings) : Prop where
  capacity : ∀ value, ("capacity", value) ∈ entries → value = .int s.capacity.toNat
  limit : ∀ value, ("limit", value) ∈ entries → value = limitDatum s.limit
  capacity_missing : "capacity" ∉ entries.map Prod.fst → s.capacity = 64
  limit_missing : "limit" ∉ entries.map Prod.fst → s.limit = none

/-- What is wrong with data in the place of a number. -/
inductive WordFault : Datum → DecodeError → Prop where
  | range {n : Int} (outside : n < 0 ∨ UInt64.size ≤ n) :
      WordFault (.int n) (.wrongValue (.int n) "usize")
  | kind {d : Datum} (other : ∀ n, d ≠ .int n) : WordFault d (.wrongKind d.shape "usize")

/-- What is wrong with an entry that comes after others. Its value is looked at only if its key is
known and new. -/
inductive EntryFault (before : List (String × Datum)) : String × Datum → DecodeError → Prop where
  | unknown {key : String} {value : Datum} (stranger : ∀ field : Field, key ≠ field.key) :
      EntryFault before (key, value) (.unknownField key ["capacity", "limit"])
  | repeated {field : Field} {value : Datum} (again : field.key ∈ before.map Prod.fst) :
      EntryFault before (field.key, value) (.duplicateField field.key)
  | value {field : Field} {value : Datum} {e : DecodeError}
      (first : field.key ∉ before.map Prod.fst) (nonnull : field = .limit → value ≠ .null)
      (fault : WordFault value e) : EntryFault before (field.key, value) e

/-- The error of the first entry that is wrong. -/
def FirstFault (entries : List (String × Datum)) (e : DecodeError) : Prop :=
  ∃ before entry after, entries = before ++ entry :: after ∧ FollowsSchema before ∧
    EntryFault before entry e

/-- The entries that a list stands for: the first two items are a capacity and a limit. -/
def listedEntries (items : List Datum) : List (String × Datum) :=
  ["capacity", "limit"].zip items

/-! ### Values -/

section

variable {d : Datum} {e : DecodeError}

theorem readWord_eq_ok_iff {n : UInt64} : readWord d = .ok n ↔ d = .int n.toNat := by
  constructor
  · intro read
    unfold readWord at read
    split at read
    · rename_i value
      split at read
      · rename_i inRange
        obtain rfl := Except.ok.inj read
        rw [UInt64.toNat_ofNat_of_lt' inRange.2, Int.toNat_of_nonneg inRange.1]
      · cases read
    · cases read
  · rintro rfl
    exact readWord_int_toNat n

theorem isWord_iff : IsWord d ↔ ∃ n : UInt64, d = .int n.toNat := by
  constructor
  · rintro ⟨n, rfl, nonneg, below⟩
    have inRange : n.toNat < UInt64.size := by omega
    refine ⟨UInt64.ofNat n.toNat, ?_⟩
    rw [UInt64.toNat_ofNat_of_lt' inRange, Int.toNat_of_nonneg nonneg]
  · rintro ⟨n, rfl⟩
    have below : n.toNat < UInt64.size := n.toNat_lt
    exact ⟨n.toNat, rfl, by omega, by omega⟩

theorem readWord_eq_error_iff : readWord d = .error e ↔ WordFault d e := by
  constructor
  · intro refused
    unfold readWord at refused
    split at refused
    · rename_i value
      split at refused
      · cases refused
      · rename_i outside
        obtain rfl := Except.error.inj refused
        exact .range (by omega)
    · rename_i other
      obtain rfl := Except.error.inj refused
      exact .kind other
  · rintro (outside | other)
    · rw [readWord, if_neg (by omega)]
    · unfold readWord
      split
      · rename_i n
        exact absurd rfl (other n)
      · rfl

/-- What is wrong with a number is not a number. -/
theorem WordFault.not_isWord (h : WordFault d e) : ¬ IsWord d := by
  rintro ⟨n, rfl, nonneg, below⟩
  rcases h with outside | other
  · omega
  · exact other n rfl

/-- A limit other than null is a number. -/
theorem readLimit_of_ne_null (nonnull : d ≠ .null) : readLimit d = (readWord d).map some := by
  unfold readLimit
  split
  · exact absurd rfl nonnull
  · rfl

theorem readLimit_eq_ok_iff {l : Option UInt64} : readLimit d = .ok l ↔ d = limitDatum l := by
  by_cases null : d = .null
  · subst null
    cases l with
    | none => exact iff_of_true rfl rfl
    | some n => exact iff_of_false (by simp [readLimit]) (by simp [limitDatum])
  · rw [readLimit_of_ne_null null, map_eq_ok_iff]
    cases l with
    | none => exact iff_of_false (by simp) null
    | some n => simp [readWord_eq_ok_iff, limitDatum]

theorem readLimit_eq_error_iff : readLimit d = .error e ↔ d ≠ .null ∧ WordFault d e := by
  by_cases null : d = .null
  · subst null
    simp [readLimit]
  · rw [readLimit_of_ne_null null, map_eq_error_iff, readWord_eq_error_iff]
    exact (and_iff_right null).symm

theorem word_injective : Function.Injective fun n : UInt64 => Datum.int n.toNat := by
  intro n m same
  exact UInt64.toNat_inj.1 (Int.ofNat.inj (Datum.int.inj same))

theorem limitDatum_injective : Function.Injective limitDatum := by
  intro l l' same
  exact Except.ok.inj ((readLimit_eq_ok_iff.2 rfl).symm.trans (readLimit_eq_ok_iff.2 same))

/-- Null and the numbers are the limits. -/
theorem null_or_isWord_iff : d = .null ∨ IsWord d ↔ ∃ l, d = limitDatum l := by
  rw [isWord_iff]
  constructor
  · rintro (null | ⟨n, word⟩)
    · exact ⟨none, null⟩
    · exact ⟨some n, word⟩
  · rintro ⟨l, rfl⟩
    cases l with
    | none => exact .inl rfl
    | some n => exact .inr ⟨n, rfl⟩

end

/-! ### Fields -/

theorem Field.key_injective {field other : Field} (h : field.key = other.key) : field = other := by
  revert h
  cases field <;> cases other <;> simp [key]

theorem Field.ofKey?_key (field : Field) : ofKey? field.key = some field := by
  cases field <;> decide

theorem Field.ofKey?_eq_some_iff {key : String} {field : Field} :
    ofKey? key = some field ↔ key = field.key := by
  constructor
  · intro found
    have same : field.key = key := by simpa using List.find?_some found
    exact same.symm
  · rintro rfl
    exact ofKey?_key field

theorem Field.ofKey?_eq_none_iff {key : String} :
    ofKey? key = none ↔ ∀ field : Field, key ≠ field.key := by
  simp only [Option.eq_none_iff_forall_ne_some, ne_eq, ofKey?_eq_some_iff]

/-- The value that has been read for a field, as data. -/
def Fields.value? (f : Fields) : Field → Option Datum
  | .capacity => f.capacity.map fun n => .int n.toNat
  | .limit => f.limit.map limitDatum

/-- The fields have been read from entries. -/
def Fields.ReadFrom (f : Fields) (entries : List (String × Datum)) : Prop :=
  ∀ field value, f.value? field = some value ↔ (field.key, value) ∈ entries

section

variable {f g : Fields} {field : Field} {value : Datum} {e : DecodeError}

theorem Fields.has_iff : f.has field = true ↔ ∃ value, f.value? field = some value := by
  rw [← Option.isSome_iff_exists]
  cases field <;> simp [has, value?]

/-- A field that is set is set to what it takes, and the others stay as they are. -/
theorem Fields.of_set_eq_ok (h : f.set field value = .ok g) :
    field.Takes value ∧ g.value? field = some value ∧
      ∀ other, other ≠ field → g.value? other = f.value? other := by
  cases field with
  | capacity =>
    obtain ⟨n, read, rfl⟩ := map_eq_ok_iff.1 h
    obtain rfl := readWord_eq_ok_iff.1 read
    refine ⟨isWord_iff.2 ⟨n, rfl⟩, rfl, fun other differs => ?_⟩
    cases other with
    | capacity => exact absurd rfl differs
    | limit => rfl
  | limit =>
    obtain ⟨l, read, rfl⟩ := map_eq_ok_iff.1 h
    obtain rfl := readLimit_eq_ok_iff.1 read
    refine ⟨null_or_isWord_iff.2 ⟨l, rfl⟩, rfl, fun other differs => ?_⟩
    cases other with
    | capacity => rfl
    | limit => exact absurd rfl differs

/-- A field is not set to what is no number, unless it is the limit and the value null. -/
theorem Fields.set_eq_error_iff :
    f.set field value = .error e ↔ (field = .limit → value ≠ .null) ∧ WordFault value e := by
  cases field with
  | capacity => simp [set, map_eq_error_iff, readWord_eq_error_iff]
  | limit => simp [set, map_eq_error_iff, readLimit_eq_error_iff]

end

/-! ### One entry -/

section

variable {f g : Fields} {before : List (String × Datum)} {e : DecodeError}

theorem followsSchema_nil : FollowsSchema [] :=
  ⟨by simp, List.nodup_nil, by simp⟩

/-- One more entry follows the schema if its key is known and new and its field takes its value. -/
theorem followsSchema_concat {key : String} {value : Datum} :
    FollowsSchema (before ++ [(key, value)]) ↔ FollowsSchema before ∧
      ∃ field : Field, key = field.key ∧ field.key ∉ before.map Prod.fst ∧ field.Takes value := by
  constructor
  · rintro ⟨known, distinct, taken⟩
    rw [List.map_append, List.nodup_append] at distinct
    obtain ⟨field, rfl⟩ : ∃ field : Field, key = field.key := known (key, value) (by simp)
    refine ⟨⟨fun entry hentry => known entry (List.mem_append_left _ hentry), distinct.1,
      fun field value held => taken field value (List.mem_append_left _ held)⟩, field, rfl, ?_, ?_⟩
    · intro again
      exact distinct.2.2 _ again _ (by simp) rfl
    · exact taken field value (by simp)
  · rintro ⟨⟨known, distinct, taken⟩, field, rfl, first, takes⟩
    refine ⟨?_, ?_, ?_⟩
    · intro entry hentry
      rcases List.mem_append.1 hentry with held | last
      · exact known entry held
      · exact ⟨field, congrArg Prod.fst (List.mem_singleton.1 last)⟩
    · rw [List.map_append, List.nodup_append]
      refine ⟨distinct, List.nodup_singleton _, fun key held last hlast same => ?_⟩
      have own : last = field.key := List.mem_singleton.1 hlast
      exact first (own ▸ same ▸ held)
    · intro other value' hentry
      rcases List.mem_append.1 hentry with held | last
      · exact taken other value' held
      · obtain ⟨same, rfl⟩ := Prod.mk.inj (List.mem_singleton.1 last)
        exact Field.key_injective same ▸ takes

/-- A wrong entry does not follow the schema. -/
theorem EntryFault.not_followsSchema {entry : String × Datum} (h : EntryFault before entry e) :
    ¬ FollowsSchema (before ++ [entry]) := by
  obtain ⟨key, value⟩ := entry
  rw [followsSchema_concat]
  rintro ⟨-, field, rfl, first, takes⟩
  generalize same : field.key = key at h
  rcases h with stranger | again | ⟨-, nonnull, fault⟩
  · exact stranger field same.symm
  · exact first (same ▸ again)
  · obtain rfl := Field.key_injective same
    cases field with
    | capacity => exact fault.not_isWord takes
    | limit => exact takes.elim (nonnull rfl) fault.not_isWord

/-- A field has been read exactly if its key has come before. -/
theorem Fields.ReadFrom.has_iff (h : f.ReadFrom before) (field : Field) :
    f.has field = true ↔ field.key ∈ before.map Prod.fst := by
  simp [Fields.has_iff, h field]

/-- Fields that have been read from the same entries are the same. -/
theorem Fields.ReadFrom.unique (hf : f.ReadFrom before) (hg : g.ReadFrom before) : f = g := by
  have same : ∀ field, f.value? field = g.value? field := by
    intro field
    refine Option.ext fun value => ?_
    rw [hf field value, hg field value]
  have capacity : f.capacity = g.capacity := Option.map_injective word_injective (same .capacity)
  have limit : f.limit = g.limit := Option.map_injective limitDatum_injective (same .limit)
  obtain ⟨_, _⟩ := f
  subst capacity limit
  rfl

/-- An entry is refused exactly if it is wrong, with what is wrong. -/
theorem Fields.ReadFrom.read_eq_error_iff (h : f.ReadFrom before) {entry : String × Datum} :
    f.read entry = .error e ↔ EntryFault before entry e := by
  obtain ⟨key, value⟩ := entry
  unfold Fields.read
  constructor
  · intro refused
    split at refused
    · rename_i stranger
      obtain rfl := Except.error.inj refused
      exact .unknown (Field.ofKey?_eq_none_iff.1 stranger)
    · rename_i field found
      obtain rfl := Field.ofKey?_eq_some_iff.1 found
      split at refused
      · rename_i again
        obtain rfl := Except.error.inj refused
        exact .repeated ((h.has_iff field).1 again)
      · rename_i first
        obtain ⟨nonnull, fault⟩ := Fields.set_eq_error_iff.1 refused
        exact .value (fun again => first ((h.has_iff field).2 again)) nonnull fault
  · intro wrong
    rcases wrong with stranger | again | ⟨first, nonnull, fault⟩
    · rw [Field.ofKey?_eq_none_iff.2 stranger]
      rfl
    · simp only [Field.ofKey?_key, (h.has_iff _).2 again, if_true]
    · have new : ¬ f.has _ = true := fun again => first ((h.has_iff _).1 again)
      simp only [Field.ofKey?_key, new, Bool.false_eq_true, if_false]
      exact Fields.set_eq_error_iff.2 ⟨nonnull, fault⟩

/-- An entry that is accepted follows the schema after those before, and sets its field. -/
theorem Fields.ReadFrom.of_read_eq_ok (h : f.ReadFrom before) (schema : FollowsSchema before)
    {entry : String × Datum} (accepted : f.read entry = .ok g) :
    FollowsSchema (before ++ [entry]) ∧ g.ReadFrom (before ++ [entry]) := by
  obtain ⟨key, value⟩ := entry
  unfold Fields.read at accepted
  split at accepted
  · cases accepted
  · rename_i field found
    obtain rfl := Field.ofKey?_eq_some_iff.1 found
    split at accepted
    · cases accepted
    · rename_i first
      rw [h.has_iff field] at first
      obtain ⟨takes, mine, others⟩ := Fields.of_set_eq_ok accepted
      refine ⟨followsSchema_concat.2 ⟨schema, field, rfl, first, takes⟩, fun other value' => ?_⟩
      rw [List.mem_append, List.mem_singleton, Prod.mk.injEq]
      by_cases same : other = field
      · subst same
        have new : (other.key, value') ∉ before := fun held =>
          first (List.mem_map_of_mem (f := Prod.fst) held)
        rw [mine, Option.some.injEq, or_iff_right new, and_iff_right rfl, @eq_comm _ value]
      · have differs : other.key ≠ field.key := fun keys => same (Field.key_injective keys)
        rw [others other same, h other value', or_iff_left fun last => differs last.1]

end

/-! ### Entries one after another -/

section

variable {f g : Fields} {before rest : List (String × Datum)} {e : DecodeError}

theorem FollowsSchema.of_append (h : FollowsSchema (before ++ rest)) : FollowsSchema before := by
  obtain ⟨known, distinct, taken⟩ := h
  rw [List.map_append] at distinct
  exact ⟨fun entry held => known entry (List.mem_append_left rest held), distinct.of_append_left,
    fun field value held => taken field value (List.mem_append_left rest held)⟩

/-- Entries are read exactly if they follow the schema. -/
theorem Fields.ReadFrom.readAll_eq_ok_iff (h : f.ReadFrom before) (schema : FollowsSchema before) :
    f.readAll rest = .ok g ↔ FollowsSchema (before ++ rest) ∧ g.ReadFrom (before ++ rest) := by
  induction rest generalizing f before with
  | nil =>
    rw [Fields.readAll, Except.ok.injEq, List.append_nil, and_iff_right schema]
    constructor
    · rintro rfl
      exact h
    · exact h.unique
  | cons entry rest ih =>
    rw [Fields.readAll, List.append_cons]
    rcases outcome : f.read entry with e | g'
    · refine iff_of_false (by simp) ?_
      rintro ⟨follows, -⟩
      exact (h.read_eq_error_iff.1 outcome).not_followsSchema follows.of_append
    · obtain ⟨follows, read⟩ := h.of_read_eq_ok schema outcome
      exact ih read follows

/-- The error of a run of entries is that of the first that is wrong. -/
theorem Fields.ReadFrom.readAll_eq_error_iff (h : f.ReadFrom before)
    (schema : FollowsSchema before) :
    f.readAll rest = .error e ↔ ∃ between entry after, rest = between ++ entry :: after ∧
      FollowsSchema (before ++ between) ∧ EntryFault (before ++ between) entry e := by
  induction rest generalizing f before with
  | nil => simp [Fields.readAll]
  | cons entry rest ih =>
    have shift := List.append_cons before entry
    rw [Fields.readAll]
    rcases outcome : f.read entry with e' | g'
    · have wrong : EntryFault before entry e' := h.read_eq_error_iff.1 outcome
      constructor
      · intro same
        obtain rfl := Except.error.inj same
        exact ⟨[], entry, rest, rfl, by simpa using schema, by simpa using wrong⟩
      · rintro ⟨between, other, after, place, follows, fault⟩
        cases between with
        | nil =>
          obtain ⟨rfl, rfl⟩ := List.cons.inj place
          rw [List.append_nil, ← h.read_eq_error_iff, outcome] at fault
          exact fault
        | cons first between =>
          -- The entry that is wrong would stand among those that follow the schema.
          obtain ⟨rfl, rfl⟩ := List.cons.inj place
          rw [shift] at follows
          exact absurd follows.of_append wrong.not_followsSchema
    · obtain ⟨follows, read⟩ := h.of_read_eq_ok schema outcome
      refine (ih read follows).trans ?_
      constructor
      · rintro ⟨between, other, after, rfl, follows, fault⟩
        exact ⟨entry :: between, other, after, rfl, shift between ▸ follows, shift between ▸ fault⟩
      · rintro ⟨between, other, after, place, follows, fault⟩
        cases between with
        | nil =>
          obtain ⟨rfl, rfl⟩ := List.cons.inj place
          rw [List.append_nil, ← h.read_eq_error_iff, outcome] at fault
          cases fault
        | cons first between =>
          obtain ⟨rfl, rfl⟩ := List.cons.inj place
          exact ⟨between, other, after, rfl, shift between ▸ follows, shift between ▸ fault⟩

end

/-! ### Settings from entries and lists -/

section

variable {entries others : List (String × Datum)} {e : DecodeError} {s : Settings}

theorem readFrom_nil : ({} : Fields).ReadFrom [] := by
  intro field value
  cases field <;> simp [Fields.value?]

/-- The settings that are made of fields are what the entries say. -/
theorem Fields.ReadFrom.describes {f : Fields} (h : f.ReadFrom entries) :
    Describes entries f.toSettings := by
  have absent : ∀ field : Field, field.key ∉ entries.map Prod.fst → f.value? field = none := by
    intro field missing
    refine Option.eq_none_iff_forall_ne_some.2 fun value read => missing ?_
    exact List.mem_map_of_mem (f := Prod.fst) ((h field value).1 read)
  refine ⟨?_, ?_, ?_, ?_⟩
  · intro value held
    obtain ⟨n, read, rfl⟩ := Option.map_eq_some_iff.1 ((h .capacity value).2 held)
    rw [toSettings, read, Option.getD_some]
  · intro value held
    obtain ⟨l, read, rfl⟩ := Option.map_eq_some_iff.1 ((h .limit value).2 held)
    rw [toSettings, read, Option.getD_some]
  · intro missing
    rw [toSettings, Option.map_eq_none_iff.1 (absent .capacity missing)]
    rfl
  · intro missing
    rw [toSettings, Option.map_eq_none_iff.1 (absent .limit missing)]
    rfl

/-- Entries describe no two settings. -/
theorem Describes.unique {s' : Settings} (h : Describes entries s) (h' : Describes entries s') :
    s = s' := by
  have given : ∀ key, key ∈ entries.map Prod.fst → ∃ value, (key, value) ∈ entries := by
    intro key listed
    simpa using listed
  have capacity : s.capacity = s'.capacity := by
    by_cases listed : "capacity" ∈ entries.map Prod.fst
    · obtain ⟨value, held⟩ := given _ listed
      exact word_injective ((h.capacity value held).symm.trans (h'.capacity value held))
    · rw [h.capacity_missing listed, h'.capacity_missing listed]
  have limit : s.limit = s'.limit := by
    by_cases listed : "limit" ∈ entries.map Prod.fst
    · obtain ⟨value, held⟩ := given _ listed
      exact limitDatum_injective ((h.limit value held).symm.trans (h'.limit value held))
    · rw [h.limit_missing listed, h'.limit_missing listed]
  obtain ⟨_, _⟩ := s
  subst capacity limit
  rfl

theorem ofEntries_eq_error_iff : ofEntries entries = .error e ↔ FirstFault entries e := by
  rw [ofEntries, map_eq_error_iff, readFrom_nil.readAll_eq_error_iff followsSchema_nil]
  simp only [List.nil_append, FirstFault]

/-- Entries among which one is wrong do not follow the schema. -/
theorem FirstFault.not_followsSchema (h : FirstFault entries e) : ¬ FollowsSchema entries := by
  obtain ⟨before, entry, after, rfl, -, wrong⟩ := h
  intro follows
  rw [List.append_cons] at follows
  exact wrong.not_followsSchema follows.of_append

theorem exists_ofEntries_iff : (∃ s, ofEntries entries = .ok s) ↔ FollowsSchema entries := by
  constructor
  · rintro ⟨s, read⟩
    obtain ⟨f, run, -⟩ := map_eq_ok_iff.1 read
    exact ((readFrom_nil.readAll_eq_ok_iff followsSchema_nil).1 run).1
  · intro follows
    rcases outcome : ofEntries entries with e | s
    · exact absurd follows (ofEntries_eq_error_iff.1 outcome).not_followsSchema
    · exact ⟨s, rfl⟩

/-- Entries are read as the settings that they describe, if they follow the schema. -/
theorem ofEntries_eq_ok_iff :
    ofEntries entries = .ok s ↔ FollowsSchema entries ∧ Describes entries s := by
  have read_describes : ∀ s, ofEntries entries = .ok s → Describes entries s := by
    intro s read
    obtain ⟨f, run, rfl⟩ := map_eq_ok_iff.1 read
    exact ((readFrom_nil.readAll_eq_ok_iff followsSchema_nil).1 run).2.describes
  constructor
  · intro read
    exact ⟨exists_ofEntries_iff.1 ⟨s, read⟩, read_describes s read⟩
  · rintro ⟨follows, describes⟩
    obtain ⟨s', read⟩ := exists_ofEntries_iff.2 follows
    rw [read, describes.unique (read_describes s' read)]

theorem FollowsSchema.of_perm (h : FollowsSchema entries) (reordered : entries.Perm others) :
    FollowsSchema others :=
  ⟨fun entry held => h.known entry (reordered.mem_iff.2 held),
    (reordered.map Prod.fst).nodup_iff.1 h.distinct,
    fun field value held => h.taken field value (reordered.mem_iff.2 held)⟩

theorem Describes.of_perm (h : Describes entries s) (reordered : entries.Perm others) :
    Describes others s := by
  have keys : ∀ key, key ∈ others.map Prod.fst ↔ key ∈ entries.map Prod.fst :=
    fun key => (reordered.map Prod.fst).mem_iff.symm
  refine ⟨fun value held => h.capacity value (reordered.mem_iff.2 held),
    fun value held => h.limit value (reordered.mem_iff.2 held), ?_, ?_⟩
  · rw [keys]
    exact h.capacity_missing
  · rw [keys]
    exact h.limit_missing

/-- The order of entries that are accepted does not matter. -/
theorem ofEntries_of_perm (read : ofEntries entries = .ok s) (reordered : entries.Perm others) :
    ofEntries others = .ok s := by
  obtain ⟨follows, describes⟩ := ofEntries_eq_ok_iff.1 read
  exact ofEntries_eq_ok_iff.2 ⟨follows.of_perm reordered, describes.of_perm reordered⟩

/-- A list is read as the entries that it stands for, and refused after that if it is too long. -/
theorem ofList_eq (items : List Datum) :
    ofList items = match ofEntries (listedEntries items) with
      | .error e => .error e
      | .ok s => if items.length ≤ 2 then .ok s else .error (.tooLong items.length) := by
  have hc : Field.ofKey? "capacity" = some .capacity := Field.ofKey?_key .capacity
  have hl : Field.ofKey? "limit" = some .limit := Field.ofKey?_key .limit
  rcases items with _ | ⟨capacity, _ | ⟨limit, rest⟩⟩
  · rfl
  · simp only [ofList, listedEntries, List.zip_cons_cons, List.zip_nil_right, ofEntries,
      Fields.readAll, Fields.read, hc, Fields.has, Fields.set]
    rcases readWord capacity with e | n
    · rfl
    · rfl
  · simp only [ofList, listedEntries, List.zip_cons_cons, List.zip_nil_left, ofEntries,
      Fields.readAll, Fields.read, hc, hl, Fields.has, Fields.set]
    rcases readWord capacity with e | n
    · rfl
    · rcases readLimit limit with e | l
      · simp [Except.map]
      · simp [Except.map, Fields.toSettings, List.isEmpty_iff]

theorem ofList_eq_ok_iff {items : List Datum} :
    ofList items = .ok s ↔ items.length ≤ 2 ∧ ofEntries (listedEntries items) = .ok s := by
  rw [ofList_eq]
  rcases ofEntries (listedEntries items) with e | s'
  · simp
  · by_cases short : items.length ≤ 2 <;> simp [short]

theorem ofList_eq_error_iff {items : List Datum} :
    ofList items = .error e ↔ ofEntries (listedEntries items) = .error e ∨
      (∃ s, ofEntries (listedEntries items) = .ok s) ∧ 3 ≤ items.length ∧
        e = .tooLong items.length := by
  rw [ofList_eq]
  rcases ofEntries (listedEntries items) with e' | s'
  · simp
  · by_cases short : items.length ≤ 2
    · simp [short, Nat.not_le_of_lt (Nat.lt_succ_of_le short)]
    · have long : 3 ≤ items.length := Nat.lt_of_not_le short
      simp [short, long, @eq_comm _ e]

/-- Settings are written as a map of both fields. -/
theorem toDatum_eq (s : Settings) :
    s.toDatum = .map [("capacity", .int s.capacity.toNat), ("limit", limitDatum s.limit)] := by
  obtain ⟨capacity, _ | limit⟩ := s <;> rfl

end

/-! ### What is read -/

/-- Entries are accepted exactly if they follow the schema: all keys are known, none comes twice, a
capacity is a number of 64 bits, and a limit is such a number or null. They are read as the settings
that they describe, with the capacity 64 and no limit where they do not say, and so they are in any
other order. The error of any other entries is that of the first entry that is wrong: its key is
unknown, or else was there before, or else its value is no number for its field. A list is read as a
capacity and a limit, and only then refused if it has three items or more. So settings are read back
from a map of both fields in any order, and from the list of both. -/
theorem ofDatum_exact :
    (∀ entries, (∃ s, ofDatum (.map entries) = .ok s) ↔ FollowsSchema entries) ∧
    (∀ entries s, ofDatum (.map entries) = .ok s ↔ FollowsSchema entries ∧ Describes entries s) ∧
    (∀ (entries others : List (String × Datum)) s, entries.Perm others →
      ofDatum (.map entries) = .ok s → ofDatum (.map others) = .ok s) ∧
    (∀ entries e, ofDatum (.map entries) = .error e ↔ FirstFault entries e) ∧
    (∀ items s, ofDatum (.list items) = .ok s ↔
      items.length ≤ 2 ∧ ofDatum (.map (listedEntries items)) = .ok s) ∧
    (∀ items e, ofDatum (.list items) = .error e ↔
      ofDatum (.map (listedEntries items)) = .error e ∨
        (∃ s, ofDatum (.map (listedEntries items)) = .ok s) ∧ 3 ≤ items.length ∧
          e = .tooLong items.length) ∧
    ∀ s : Settings,
      (∀ entries : List (String × Datum),
        entries.Perm [("capacity", .int s.capacity.toNat), ("limit", limitDatum s.limit)] →
          ofDatum (.map entries) = .ok s) ∧
      ofDatum (.list [.int s.capacity.toNat, limitDatum s.limit]) = .ok s := by
  refine ⟨fun _ => exists_ofEntries_iff, fun _ _ => ofEntries_eq_ok_iff,
    fun _ _ _ reordered read => ofEntries_of_perm read reordered, fun _ _ => ofEntries_eq_error_iff,
    fun _ _ => ofList_eq_ok_iff, fun _ _ => ofList_eq_error_iff, fun s => ?_⟩
  have written := ofDatum_toDatum s
  rw [toDatum_eq] at written
  constructor
  · intro entries reordered
    exact ofEntries_of_perm written reordered.symm
  · have short : [Datum.int s.capacity.toNat, limitDatum s.limit].length ≤ 2 := Nat.le_refl 2
    exact ofList_eq_ok_iff.2 ⟨short, written⟩

/-- Three of these four entries are wrong. The first of them is told, for its key, and not for its
value, which is no number either. -/
theorem repeated_limit_told_first :
    ofDatum (.map [("limit", .null), ("capacity", .int 8)]) = .ok ⟨8, none⟩ ∧
      [("capacity", .int 8), ("limit", .null)].Perm [("limit", .null), ("capacity", Datum.int 8)] ∧
      ofDatum (.map
        [("limit", .int 5), ("limit", .text ""), ("size", .null), ("capacity", .null)]) =
        .error (.duplicateField "limit") := by
  obtain ⟨-, -, reorder, faults, -, -, written⟩ := ofDatum_exact
  have reordered : [("capacity", .int 8), ("limit", .null)].Perm
      [("limit", .null), ("capacity", Datum.int 8)] := .swap _ _ _
  have read : ofDatum (.map [("capacity", .int 8), ("limit", .null)]) = .ok ⟨8, none⟩ :=
    (written ⟨8, none⟩).1 _ (.refl _)
  have follows : FollowsSchema ([] ++ [("limit", .int 5)]) :=
    followsSchema_concat.2
      ⟨followsSchema_nil, .limit, rfl, by simp, .inr ⟨5, rfl, by decide, by decide⟩⟩
  have wrong : EntryFault [("limit", .int 5)] ("limit", .text "") (.duplicateField "limit") :=
    @EntryFault.repeated _ .limit _ (by decide)
  exact ⟨reorder _ _ _ reordered read, reordered, (faults _ _).2 ⟨_, _, _, rfl, follows, wrong⟩⟩

end Settings

end TypedCalls
