import KeysetStore.Selector.Scoped
import KeysetStore.Sort

/-!
# Keyset — what comes after a document

A page continues after a reference document: under an order of keys, a document comes after the
reference when it ties on some first keys and goes beyond on the next one.  Each key therefore gives
a clause, and the clauses exclude each other.

Null comes first of all values and range operators do not cross kinds, so null takes clauses of its
own: going up from null, every other value is beyond; going down, nothing is below null, and below
any other value come the nulls as well.
-/

namespace KeysetStore.Keyset

/-- The value of the reference at a key; a missing value counts as null. -/
def referenceValue (reference : Document) (field : String) : Value :=
  (reference.lookup? field).getD .null

/-- The condition of a tie. -/
def tie (v : Value) : Value := .document [("$eq", v)]

/-- **The condition of going beyond a value**, where anything can. -/
def beyond? (direction : Direction) (v : Value) : Option Value :=
  match direction, v.isNull with
  | .ascending, false => some (.document [("$gt", v)])
  | .ascending, true => some (.document [("$ne", .null)])
  | .descending, false => some (.document [("$lt", v)])
  | .descending, true => none

/-- The condition of a null below a value.  A primary key is never null. -/
def nullBelow? (key : SortKey) (v : Value) : Option Value :=
  if key.direction = .descending ∧ ¬ v.isNull ∧ key.field ≠ primaryKey then some (tie .null)
  else none

/-- The clauses of the keys under a choice of the last condition, after the ties that stand before
them. -/
def clauses (reference : Document) (last? : SortKey → Value → Option Value) (ties : Document) :
    List SortKey → List Document
  | [] => []
  | key :: rest =>
    let v := referenceValue reference key.field
    let following := clauses reference last? (ties ++ [(key.field, tie v)]) rest
    match last? key v with
    | some condition => (ties ++ [(key.field, condition)]) :: following
    | none => following

/-- **The selector of what comes after a reference**: the clauses that go beyond, then those of the
nulls below. -/
def after (order : SortOrder) (reference : Document) : Document :=
  let strict := clauses reference (fun key v => beyond? key.direction v) [] order.keys
  let nulls := clauses reference nullBelow? [] order.keys
  [("$or", .array ((strict ++ nulls).map .document))]

/-- **Narrows a selector document to what comes after a reference.** -/
def continueAfter (selector : Document) (order : SortOrder) (reference : Document) :
    Except Error Document :=
  Document.conjoin selector (after order reference)

end KeysetStore.Keyset
