import KeysetStore.Double
import KeysetStore.Fields
import KeysetStore.ObjectId

/-!
# Value — what a document holds

Documents are ordered associations of field names with values, and values nest documents and arrays.
A dotted path leads through both (`Document.lookup?`): a segment names a field of a document or
counts the items of an array.
-/

namespace KeysetStore

/-- A value of the document model.  The deprecated pointer to a document of another collection is left
out. -/
inductive Value where
  /-- The null value. -/
  | null
  /-- The deprecated undefined value. -/
  | undefined
  /-- The least key. -/
  | minKey
  /-- The greatest key. -/
  | maxKey
  /-- A truth value. -/
  | boolean (b : Bool)
  /-- A 32-bit integer. -/
  | int32 (n : Int32)
  /-- A 64-bit integer. -/
  | int64 (n : Int64)
  /-- A binary64 number. -/
  | double (x : Double)
  /-- Text. -/
  | string (s : String)
  /-- Values in order. -/
  | array (items : List Value)
  /-- An embedded document. -/
  | document (fields : List (String × Value))
  /-- A primary key. -/
  | objectId (id : ObjectId)
  /-- An instant, in milliseconds since the epoch. -/
  | dateTime (millis : Int64)
  /-- A regular expression with its option letters. -/
  | regex (pattern options : String)
  /-- Bytes, tagged with a subtype. -/
  | binary (subtype : UInt8) (bytes : List UInt8)
  /-- A replication timestamp. -/
  | timestamp (time increment : UInt32)
  /-- An interned name. -/
  | symbol (s : String)
  /-- A script. -/
  | code (source : String)
  /-- A script with the variables it sees. -/
  | codeWithScope (source : String) (scope : List (String × Value))
  /-- A decimal floating point number, by its bits. -/
  | decimal128 (bits : BitVec 128)
deriving Inhabited

/-- A document: fields in order. -/
abbrev Document := Fields Value

/-- The field that holds a document's primary key. -/
def primaryKey : String := "_id"

namespace Value

/-- The name of a value's type. -/
def typeName : Value → String
  | null => "Null"
  | undefined => "Undefined"
  | minKey => "MinKey"
  | maxKey => "MaxKey"
  | boolean _ => "Boolean"
  | int32 _ => "Int32"
  | int64 _ => "Int64"
  | double _ => "Double"
  | string _ => "String"
  | array _ => "Array"
  | document _ => "EmbeddedDocument"
  | objectId _ => "ObjectId"
  | dateTime _ => "DateTime"
  | regex .. => "RegularExpression"
  | binary .. => "Binary"
  | timestamp .. => "Timestamp"
  | symbol _ => "Symbol"
  | code _ => "JavaScriptCode"
  | codeWithScope .. => "JavaScriptCodeWithScope"
  | decimal128 _ => "Decimal128"

/-- Whether a value is the null value.  The undefined value is not. -/
def isNull : Value → Bool
  | null => true
  | _ => false

/-- **Whether a value reads as true**: a truth value as itself, a number unless it is zero, null and
undefined never, everything else always. -/
def truthy : Value → Bool
  | boolean b => b
  | int32 n => n ≠ 0
  | int64 n => n ≠ 0
  | double x => x.magnitude ≠ 0
  | null => false
  | undefined => false
  | _ => true

/-! ## Paths -/

/-- The parts of a path between its dots. -/
def segments (path : String) : List String :=
  let cut (c : Char) : List (List Char) → List (List Char)
    | [] => [[c]]
    | part :: parts => if c = '.' then [] :: part :: parts else (c :: part) :: parts
  (path.toList.foldr cut [[]]).map String.ofList

/-- The position a segment names in an array: decimal digits, which a plus sign may precede. -/
def index? (segment : String) : Option Nat :=
  let digits := match segment.toList with
    | '+' :: rest => rest
    | all => all
  if digits = [] ∨ ¬ digits.all Char.isDigit then none
  else some (digits.foldl (fun n c => 10 * n + (c.toNat - '0'.toNat)) 0)

/-- The value that segments lead to. -/
def follow? : Value → List String → Option Value
  | v, [] => some v
  | document fields, segment :: rest =>
    (Fields.get? fields segment).bind fun v => v.follow? rest
  | array items, segment :: rest =>
    (index? segment).bind fun i => items[i]?.bind fun v => v.follow? rest
  | _, _ :: _ => none

end Value

/-- **The value at a dotted path.** -/
def Document.lookup? (d : Document) (path : String) : Option Value :=
  (Value.document d).follow? (Value.segments path)

/-- The primary key of a document, where it has one of the right type. -/
def Document.key? (d : Document) : Option ObjectId :=
  match Fields.get? d primaryKey with
  | some (.objectId id) => some id
  | _ => none

end KeysetStore
