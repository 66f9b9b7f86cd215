import KeysetStore.Error
import KeysetStore.Value.Plain

/-!
# Codec — models and the documents they are stored as

A codec turns models into documents and back.  The primary key is not its business: a stored
document holds it under its own name and type, a model as text in a field of the caller's choice
(`load`, `body`).
-/

namespace KeysetStore

/-- Two ways between models and documents. -/
structure Codec (α : Type) where
  /-- Reads a model. -/
  decode : Document → Except Error α
  /-- Writes a model. -/
  encode : α → Except Error Document

namespace Codec

variable {α : Type}

/-- A stored document with its key as text in the identifier field. -/
def withIdentifier (idField : String) (d : Document) : Except Error Document :=
  match Fields.get? d primaryKey with
  | none => .ok d
  | some (.objectId id) =>
    .ok (Fields.insert (Fields.erase d primaryKey) idField (.string id.toHex))
  | some v => .error (.storedKey v)

/-- **The model of a stored document.** -/
def load (codec : Codec α) (idField : String) (d : Document) : Except Error α :=
  match withIdentifier idField d with
  | .ok d => codec.decode d
  | .error e => .error e

/-- **The body of the document of a model**: everything but its identifier and its key. -/
def body (codec : Codec α) (idField : String) (model : α) : Except Error Document :=
  (codec.encode model).map fun d => Fields.erase (Fields.erase d idField) primaryKey

/-- The model of a body that is stored under a key. -/
def loadAs (codec : Codec α) (idField : String) (body : Document) (id : ObjectId) :
    Except Error α :=
  codec.load idField (Fields.insert body primaryKey (.objectId id))

/-- **Values as models of themselves**; only documents can be stored.  A document with a reserved name
in it is refused.  A serialization may read it as a value of another kind, where its content is what
the name asks for; what holds of this codec and of such ones is stated for both
(`ValueSerialization`). -/
def value : Codec Value where
  decode d :=
    if d.isPlain then .ok (.document d) else .error (.shape "a field has a reserved name")
  encode
    | .document d => .ok d
    | v => .error (.modelType v.typeName)

theorem value_decode {d : Document} (h : d.isPlain) : value.decode d = .ok (.document d) :=
  if_pos h

end Codec

end KeysetStore
