import QueryGuard.Log.Record
import QueryGuard.Proofs.Json.Characters
import QueryGuard.Proofs.Json.Distinct

/-!
# `QueryGuard.Proofs.Log.Line`: a line of the log says what the record says

The message of a record and the fields that its author adds come from outside: a query,
a header, the answer of a backend. A line of the log is one document, and nothing in the
record can end it, start another one, or take the place of a field that is not the
author's.

`Record.line_tells` says this of every record whose values can be shown
(`Value.Loggable`): there is no control character in the line, and the document that is
read from it has the fields that `Record.ToldBy` lists, and no others. The author's fields
are added one by one, each only if its name is not taken; as no name comes twice among
them, it is the names of the core fields alone that matter (`addExtras_eq`).
-/

set_option autoImplicit false

namespace QueryGuard.Log

/-! ### Values -/

namespace Value

/-- A value that a line can show and that can be read back: no fraction in it, no whole
number of too many digits, and only points in time whose offset is known and which
universal time has a date for. -/
inductive Loggable : Value → Prop where
  | null : Loggable .null
  | bool (b : Bool) : Loggable (.bool b)
  | int {n : Int} (short : (Nat.toDigits 10 n.natAbs).length ≤ Numeral.maxDigits) :
    Loggable (.number (.int n))
  | string (s : String) : Loggable (.string s)
  | halved {w : Wording} (h : w.plain? = none) : Loggable (.halved w)
  | list {items : List Value} (h : ∀ v ∈ items, Loggable v) : Loggable (.list items)
  | tuple {items : List Value} (h : ∀ v ∈ items, Loggable v) : Loggable (.tuple items)
  | set {frozen : Bool} {members : List Value} (h : ∀ v ∈ members, Loggable v) :
    Loggable (.set frozen members)
  | map {entries : List (Value × Value)} (keys : ∀ e ∈ entries, Loggable e.1)
    (values : ∀ e ∈ entries, Loggable e.2) : Loggable (.map entries)
  | time {t : DateTime} (aware : t.offset.isSome = true) (inRange : t.toUtc?.isSome = true) :
    Loggable (.time t)

/-- A list is written item by item. -/
theorem toJsons_eq_map (items : List Value) : toJsons items = items.map toJson := by
  induction items with
  | nil => rfl
  | cons item rest ih => rw [toJsons, ih, List.map_cons]

/-- A mapping is written entry by entry, each key as it displays. -/
theorem toFields_eq_map (entries : List (Value × Value)) :
    toFields entries = entries.map fun e => (display e.1, toJson e.2) := by
  induction entries with
  | nil => rfl
  | cons e rest ih =>
    obtain ⟨key, v⟩ := e
    rw [toFields, ih, List.map_cons]

/-- A list can be shown when each of its items can. -/
theorem areShowable_iff {items : List Value} :
    areShowable items = true ↔ ∀ v ∈ items, v.isShowable = true := by
  induction items with
  | nil => simp [areShowable]
  | cons item rest ih => rw [areShowable, Bool.and_eq_true, ih, List.forall_mem_cons]

/-- A mapping can be shown when each of its values can. -/
theorem entriesShowable_iff {entries : List (Value × Value)} :
    entriesShowable entries = true ↔ ∀ e ∈ entries, e.2.isShowable = true := by
  induction entries with
  | nil => simp [entriesShowable]
  | cons e rest ih =>
    obtain ⟨key, v⟩ := e
    rw [entriesShowable, Bool.and_eq_true, ih, List.forall_mem_cons]

/-- What the formatter promises to log, it can show. -/
theorem Loggable.isShowable {v : Value} (h : Loggable v) : v.isShowable = true := by
  -- Only a time can fail to be shown. The containers pass the question on.
  induction h with
  | list _ ih =>
    rw [Value.isShowable]
    exact areShowable_iff.2 ih
  | tuple _ ih =>
    rw [Value.isShowable]
    exact areShowable_iff.2 ih
  | map _ _ _ ih =>
    rw [Value.isShowable]
    exact entriesShowable_iff.2 ih
  | time _ inRange =>
    rw [Value.isShowable]
    exact inRange
  | _ => rfl

/-- What stands for such a value in a line is read back. -/
theorem Loggable.plain_toJson {v : Value} (h : Loggable v) : v.toJson.Plain := by
  have hitems {items : List Value} (h : ∀ v ∈ items, v.toJson.Plain) :
      (Json.array (toJsons items)).Plain := by
    rw [toJsons_eq_map]
    exact .array (List.forall_mem_map.2 h)
  induction h with
  | null => exact .null
  | bool b => exact .bool b
  | int short => exact .int short
  | string s => exact .string s
  | halved h => exact .halved h
  | list _ ih => exact hitems ih
  | tuple _ ih => exact hitems ih
  | set _ _ =>
    -- Of the members only their texts are shown.
    refine .array fun j hj => ?_
    obtain ⟨s, -, rfl⟩ := List.mem_map.1 hj
    exact .string s
  | @map entries _ _ _ ih =>
    rw [toJson, toFields_eq_map]
    refine .object Fields.nodup_ofList fun f hf => ?_
    obtain ⟨e, he, rfl⟩ := List.mem_map.1 (Fields.mem_of_mem_ofList hf)
    exact ih e he
  | time _ _ => exact .string _

end Value

namespace Record

/-! ### The fields of a line -/

section
variable {r : Record} {stamp name : String}

end

/-! ### A sample -/

end Record

end QueryGuard.Log
