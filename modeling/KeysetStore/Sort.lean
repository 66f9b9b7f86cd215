import KeysetStore.Error
import KeysetStore.Value.Order

/-!
# Sort — total orders of documents

A sort specification names fields with directions.  Compiled, it is an order without ties among
stored documents: every field counts once, under its first direction, and the primary key comes
last (`SortOrder.compile`).  Documents compare key by key (`compareBy`), and sorting is stable
(`sortBy`).
-/

namespace KeysetStore

/-- Which way a field orders. -/
inductive Direction where
  | ascending
  | descending
deriving DecidableEq, Inhabited

namespace Direction

/-- An ordering, in a direction. -/
def apply : Direction → Ordering → Ordering
  | ascending, o => o
  | descending, o => o.swap

/-- A direction as a sort document writes it. -/
def toValue : Direction → Value
  | ascending => .int32 1
  | descending => .int32 (-1)

/-- A text in the small letters of ASCII. -/
def lowered (s : String) : String := String.ofList (s.toList.map Char.toLower)

/-- **The direction a value stands for**: one or minus one in any numeric type, or a word. -/
def ofValue? : Value → Option Direction
  | .int32 n => if n = 1 then some ascending else if n = -1 then some descending else none
  | .int64 n => if n = 1 then some ascending else if n = -1 then some descending else none
  | .double x =>
    if x = .ofInt 1 then some ascending else if x = .ofInt (-1) then some descending else none
  | .string s =>
    if lowered s = "asc" then some ascending
    else if lowered s = "desc" then some descending
    else none
  | _ => none

/-- The direction a value stands for, or the error that it stands for none. -/
def ofValue (v : Value) : Except Error Direction :=
  match ofValue? v with
  | some direction => .ok direction
  | none => .error (.sortDirection v)

@[simp] theorem ofValue_toValue (d : Direction) : ofValue d.toValue = .ok d := by
  cases d <;> rfl

end Direction

/-- A field with a direction. -/
structure SortKey where
  field : String
  direction : Direction
deriving DecidableEq, Inhabited

namespace SortKey

/-- Ascending by a field. -/
def ascending (field : String) : SortKey := ⟨field, .ascending⟩

/-- Descending by a field. -/
def descending (field : String) : SortKey := ⟨field, .descending⟩

/-- The keys of a sort document. -/
def ofDocument : Document → Except Error (List SortKey)
  | [] => .ok []
  | (field, v) :: rest => do
    let direction ← Direction.ofValue v
    let keys ← ofDocument rest
    .ok (⟨field, direction⟩ :: keys)

/-- The keys, each field once, as first mentioned. -/
def firstMentions : List SortKey → List SortKey
  | [] => []
  | key :: rest => key :: (firstMentions rest).filter (·.field ≠ key.field)

end SortKey

/-! ## Compiled orders -/

/-- A compiled order. -/
structure SortOrder where
  /-- The keys, in the order in which they decide. -/
  keys : List SortKey
deriving DecidableEq

namespace SortOrder

/-- A specification with the identifier field under the name of the primary key. -/
def named (spec : List SortKey) (idField : String) : List SortKey :=
  spec.map fun key => if key.field = idField then { key with field := primaryKey } else key

/-- **The order a specification asks for.**  The fields come in the order of their first mention,
and the primary key comes last, in the direction of its own first mention or ascending. -/
def compile (spec : List SortKey) (idField : String) : SortOrder :=
  let keys := named spec idField
  let others := SortKey.firstMentions (keys.filter (·.field ≠ primaryKey))
  let last := ((keys.find? (·.field = primaryKey)).map (·.direction)).getD .ascending
  ⟨others ++ [⟨primaryKey, last⟩]⟩

/-- The order a sort document asks for. -/
def ofDocument (spec : Document) (idField : String) : Except Error SortOrder :=
  (SortKey.ofDocument spec).map (compile · idField)

/-- The order as a sort document. -/
def toDocument (order : SortOrder) : Document :=
  Fields.ofList (order.keys.map fun key => (key.field, key.direction.toValue))

end SortOrder

/-! ## Sorting -/

/-- **The order of two documents**, key by key. -/
def compareBy (keys : List SortKey) (a b : Document) : Ordering :=
  match keys with
  | [] => .eq
  | key :: rest =>
    (key.direction.apply ((a.orderKeyAt key.field).compare (b.orderKeyAt key.field))).then
      (compareBy rest a b)

/-- **The documents in order**; those that tie stay as they were.

A NaN ties with every number, so where a sorted field holds one (at any depth) the comparison is not
transitive.  A sort that finds no order is free to give the documents in any order, and on longer lists
to fail; what stands here is then one outcome of several.  Results about sorted documents leave NaNs
out, or ask of sorting only that it permutes. -/
def sortBy (keys : List SortKey) (documents : List Document) : List Document :=
  documents.mergeSort fun a b => compareBy keys a b ≠ .gt

/-- Sorting neither loses nor repeats a document. -/
theorem sortBy_perm (keys : List SortKey) (documents : List Document) :
    (sortBy keys documents).Perm documents :=
  List.mergeSort_perm ..

@[simp] theorem mem_sortBy {keys : List SortKey} {documents : List Document} {d : Document} :
    d ∈ sortBy keys documents ↔ d ∈ documents :=
  (sortBy_perm keys documents).mem_iff

end KeysetStore
