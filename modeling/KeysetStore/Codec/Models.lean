import KeysetStore.Codec

/-!
# Codec/Models — models of a catalogue, of tasks and of labels

Each model is a record, and its codec reads the fields it knows and leaves the others alone.  A label
is read leniently, and from text alone.
-/

namespace KeysetStore

/-! ## Fields of records -/

/-- **The text of a value**: text as it stands, and plain bytes where they encode a text. -/
def Value.toText? : Value → Option String
  | string s => some s
  | binary subtype bytes => if subtype = 0 then String.fromUTF8? ⟨bytes.toArray⟩ else none
  | _ => none

/-- A field of text. -/
def Document.textField (d : Document) (name : String) : Except Error String :=
  match Fields.get? d name with
  | some v =>
    match v.toText? with
    | some s => .ok s
    | none => .error (.shape ("field " ++ name ++ " holds " ++ v.typeName))
  | none => .error (.shape ("field " ++ name ++ " is missing"))

/-- A field of text that may be missing. -/
def Document.textFieldD (d : Document) (name default : String) : Except Error String :=
  if (Fields.get? d name).isSome then d.textField name else .ok default

/-- A 32-bit integer, in either width. -/
def Value.toInt32 : Value → Except Error Int32
  | int32 n => .ok n
  | int64 n =>
    if -2 ^ (31 : Nat) ≤ n.toInt ∧ n.toInt < 2 ^ (31 : Nat) then .ok (Int32.ofInt n.toInt)
    else .error (.shape "integer out of range")
  | v => .error (.shape ("no integer: " ++ v.typeName))

/-- A field of an integer. -/
def Document.int32Field (d : Document) (name : String) : Except Error Int32 :=
  match Fields.get? d name with
  | some v => v.toInt32
  | none => .error (.shape ("field " ++ name ++ " is missing"))

/-- A field of an integer that may be missing or null. -/
def Document.int32Field? (d : Document) (name : String) : Except Error (Option Int32) :=
  match Fields.get? d name with
  | none => .ok none
  | some .null => .ok none
  | some v => v.toInt32.map some

/-! ## Products -/

/-- An item of a catalogue. -/
structure Product where
  id : String
  name : String
  category : String
  price : Int32
deriving DecidableEq

/-- Products as documents. -/
def Product.codec : Codec Product where
  decode d := do
    let id ← d.textFieldD "id" ""
    let name ← d.textField "name"
    let category ← d.textField "category"
    let price ← d.int32Field "price"
    .ok ⟨id, name, category, price⟩
  encode p :=
    .ok [("id", .string p.id), ("name", .string p.name), ("category", .string p.category),
      ("price", .int32 p.price)]

/-! ## Tasks -/

/-- Something to be done, with a rank or without. -/
structure Task where
  id : String
  name : String
  rank : Option Int32
deriving DecidableEq

/-- Tasks as documents; a task without a rank has no field for it. -/
def Task.codec : Codec Task where
  decode d := do
    let id ← d.textFieldD "id" ""
    let name ← d.textField "name"
    let rank ← d.int32Field? "rank"
    .ok ⟨id, name, rank⟩
  encode t :=
    .ok ([("id", .string t.id), ("name", .string t.name)]
      ++ (t.rank.map fun rank => ("rank", Value.int32 rank)).toList)

/-! ## Labels -/

/-- A label. -/
structure Label where
  id : String
  label : String
deriving DecidableEq

/-- Labels as documents: whatever is no text reads as empty, and only the label is written. -/
def Label.codec : Codec Label where
  decode d :=
    let text (name : String) : String :=
      match Fields.get? d name with
      | some (.string s) => s
      | _ => ""
    .ok ⟨text "id", text "label"⟩
  encode l := .ok [("label", .string l.label)]

end KeysetStore
