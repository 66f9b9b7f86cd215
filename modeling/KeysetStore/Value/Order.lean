import KeysetStore.Value

/-!
# Value/Order — how values order

A value orders by its *order key*: the kind comes first, then the content.  Integers and doubles are
one kind, ordered as doubles; null and undefined are one kind, shared by a missing value; the kinds
without an order of their own share the last place.  Sorting compares any two values (`compare`),
range operators only two of one ordered kind (`compareWithin?`), and equality is that comparison
coming out even (`equals`).
-/

namespace KeysetStore

/-- What a value orders by. -/
inductive OrderKey where
  /-- Null, undefined, or no value at all. -/
  | null
  /-- The place of a number on the line, none for a NaN. -/
  | number (position : Option Int)
  /-- Text, by its code points. -/
  | string (s : String)
  /-- An embedded document, field by field, a name before its value. -/
  | document (fields : List (String × OrderKey))
  /-- An array, item by item. -/
  | array (items : List OrderKey)
  /-- A primary key, by its bytes. -/
  | objectId (id : ObjectId)
  /-- False before true. -/
  | boolean (b : Bool)
  /-- An instant. -/
  | dateTime (millis : Int)
  /-- A value of a kind that has no order. -/
  | other
deriving Inhabited

namespace OrderKey

/-- The place of a kind among the kinds. -/
def rank : OrderKey → Nat
  | null => 0
  | number _ => 1
  | string _ => 2
  | document _ => 3
  | array _ => 4
  | objectId _ => 5
  | boolean _ => 6
  | dateTime _ => 7
  | other => 8

/-- The order of two places on the line.  A NaN, which has no place, ties with every number. -/
def comparePositions : Option Int → Option Int → Ordering
  | some a, some b => Ord.compare a b
  | _, _ => .eq

mutual

/-- **The order of any two values.** -/
def compare : OrderKey → OrderKey → Ordering
  | number a, number b => comparePositions a b
  | string a, string b => Ord.compare a b
  | document a, document b => compareFields a b
  | array a, array b => compareItems a b
  | objectId a, objectId b => a.compare b
  | boolean a, boolean b => Ord.compare a b
  | dateTime a, dateTime b => Ord.compare a b
  | a, b => Ord.compare a.rank b.rank

/-- Field by field: the first difference decides, and a beginning comes before the whole. -/
def compareFields : List (String × OrderKey) → List (String × OrderKey) → Ordering
  | [], [] => .eq
  | [], _ :: _ => .lt
  | _ :: _, [] => .gt
  | (k, a) :: as, (l, b) :: bs =>
    (Ord.compare k l).then ((compare a b).then (compareFields as bs))

/-- Item by item: the first difference decides, and a beginning comes before the whole. -/
def compareItems : List OrderKey → List OrderKey → Ordering
  | [], [] => .eq
  | [], _ :: _ => .lt
  | _ :: _, [] => .gt
  | a :: as, b :: bs => (compare a b).then (compareItems as bs)

end

/-- **The order of two values of one ordered kind**; values of two kinds, and values of the kinds
without an order, do not compare. -/
def compareWithin? (a b : OrderKey) : Option Ordering :=
  if a.rank = b.rank ∧ a.rank ≠ other.rank then some (compare a b) else none

/-- Whether two values of one ordered kind tie. -/
def equals (a b : OrderKey) : Bool := compareWithin? a b = some .eq

end OrderKey

namespace Value

mutual

/-- **What a value orders by.** -/
def orderKey : Value → OrderKey
  | null => .null
  | undefined => .null
  | int32 n => .number (Double.ofInt n.toInt).position?
  | int64 n => .number (Double.ofInt n.toInt).position?
  | double x => .number x.position?
  | string s => .string s
  | document fields => .document (fieldKeys fields)
  | array items => .array (itemKeys items)
  | objectId id => .objectId id
  | boolean b => .boolean b
  | dateTime millis => .dateTime millis.toInt
  | _ => .other

/-- The order keys of fields, under the same names. -/
def fieldKeys : List (String × Value) → List (String × OrderKey)
  | [] => []
  | (name, v) :: rest => (name, v.orderKey) :: fieldKeys rest

/-- The order keys of items. -/
def itemKeys : List Value → List OrderKey
  | [] => []
  | v :: rest => v.orderKey :: itemKeys rest

end

end Value

/-- What the value at a path orders by; a missing value orders as null. -/
def Document.orderKeyAt (d : Document) (path : String) : OrderKey :=
  ((d.lookup? path).map Value.orderKey).getD .null

end KeysetStore
