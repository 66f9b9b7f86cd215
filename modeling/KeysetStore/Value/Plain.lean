import KeysetStore.Value

/-!
# Value/Plain — values that are read as they were written

A serialization that lacks some kinds of values writes them as documents under reserved names: a key as
a document with the field `$oid`, an instant as one with `$date`.  It takes every document with such a
field for the value of the other kind, and refuses it where the content is not what the name asks for.
A value is plain where no document in it, at any depth, has a field with a reserved name
(`Value.isPlain`, `Document.isPlain`).
-/

namespace KeysetStore

/-- The names under which values of other kinds are written. -/
def reservedNames : List String :=
  ["$oid", "$symbol", "$numberInt", "$numberLong", "$numberDouble", "$numberDecimal",
    "$numberDecimalBytes", "$binary", "$uuid", "$code", "$scope", "$timestamp", "$regularExpression",
    "$dbPointer", "$date", "$minKey", "$maxKey", "$undefined"]

/-- **Whether a name is reserved**: it is one of those names, or begins as the private ones do. -/
def isReserved (name : String) : Bool :=
  reservedNames.contains name || "$__".toList.isPrefixOf name.toList

namespace Value

mutual

/-- **Whether a value is plain**: it holds no field with a reserved name. -/
def isPlain : Value → Bool
  | document fields => fieldsArePlain fields
  | array items => itemsArePlain items
  | codeWithScope _ scope => fieldsArePlain scope
  | _ => true

/-- Whether fields are plain, by name and content. -/
def fieldsArePlain : List (String × Value) → Bool
  | [] => true
  | (name, v) :: rest => !isReserved name && v.isPlain && fieldsArePlain rest

/-- Whether items are plain. -/
def itemsArePlain : List Value → Bool
  | [] => true
  | v :: rest => v.isPlain && itemsArePlain rest

end

end Value

/-- **A plain field**, by its name and its content. -/
def IsPlainField (name : String) (v : Value) : Prop := isReserved name = false ∧ v.isPlain

theorem Value.fieldsArePlain_iff {fields : List (String × Value)} : fieldsArePlain fields = true ↔
    ∀ field ∈ fields, IsPlainField field.1 field.2 := by
  induction fields with
  | nil => simp [fieldsArePlain]
  | cons field rest ih =>
    obtain ⟨name, v⟩ := field
    simp [fieldsArePlain, IsPlainField, ih]

namespace Document

/-- **Whether a document is plain**: whether its fields are. -/
def isPlain (d : Document) : Bool := Value.fieldsArePlain d

variable {d : Document} {name : String} {v : Value}

/-- Dropping a field keeps a document plain. -/
theorem isPlain_erase (h : d.isPlain) (name : String) : Document.isPlain (Fields.erase d name) := by
  refine Value.fieldsArePlain_iff.2 fun field hfield => ?_
  exact Value.fieldsArePlain_iff.1 h field (List.mem_filter.1 hfield).1

/-- Setting a plain field keeps a document plain. -/
theorem isPlain_insert (h : d.isPlain) (hfield : IsPlainField name v) :
    Document.isPlain (Fields.insert d name v) := by
  induction d with
  | nil => simp [Fields.insert, isPlain, Value.fieldsArePlain, hfield.1, hfield.2]
  | cons field rest ih =>
    obtain ⟨k, w⟩ := field
    simp only [isPlain, Value.fieldsArePlain, Bool.and_eq_true] at h ih ⊢
    by_cases hk : k = name
    · simp [Fields.insert, hk, Value.fieldsArePlain, hfield.1, hfield.2, h.2]
    · simp [Fields.insert, hk, Value.fieldsArePlain, h.1, ih h.2]

end Document

end KeysetStore
