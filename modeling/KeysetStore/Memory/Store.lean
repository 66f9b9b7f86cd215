import KeysetStore.Backend
import KeysetStore.Memory.Pipeline

/-!
# Memory/Store — collections of documents in memory

A store keeps the documents of each collection in the order in which they were inserted.  Every
document begins with its primary key, and no two of a collection share one.  Reading operations give
an outcome or an error; writing ones also give the store afterwards.

A collection comes into being with the first attempt to insert into it, also with one that fails.
-/

namespace KeysetStore

/-- Collections of documents, and whether they can be reached. -/
structure Store where
  ready : Bool := true
  collections : Fields (List Document) := []

namespace Store

/-- The documents of a collection, where it is there. -/
def documents? (s : Store) (collection : String) : Option (List Document) :=
  Fields.get? s.collections collection

/-- The store with other documents in a collection. -/
def withDocuments (s : Store) (collection : String) (documents : List Document) : Store :=
  { s with collections := Fields.insert s.collections collection documents }

@[simp] theorem documents?_withDocuments (s : Store) (collection other : String)
    (documents : List Document) :
    (s.withDocuments collection documents).documents? other
      = if collection = other then some documents else s.documents? other :=
  Fields.get?_insert ..

/-- An outcome of a store that can be reached. -/
def whenReady {α : Type} (s : Store) (outcome : Except Error α) : Except Error α :=
  if s.ready then outcome else .error .notConnected

/-! ## Reading -/

/-- The documents in the order of a sort document, where there is one. -/
def sorted (sort : Option Document) (documents : List Document) : Except Error (List Document) :=
  match sort with
  | none => .ok documents
  | some spec => (SortKey.ofDocument spec).map fun keys => sortBy keys documents

/-- The first documents, where there is a limit. -/
def limited (limit : Option Nat) (documents : List Document) : List Document :=
  match limit with
  | none => documents
  | some n => documents.take n

/-- **The documents of a search**: those that meet the selector, in order, up to the limit. -/
def find (s : Store) (collection : String) (query : Query) : Except Error (List Document) :=
  s.whenReady <|
    match s.documents? collection with
    | none => .ok []
    | some documents => do
      let found ← (Selector.ofDocument query.selector).select documents
      let found ← sorted query.sort found
      .ok (limited query.limit found)

/-- The place of the first document that meets a selector. -/
def locate (selector : Selector) : List Document → Except Error (Option Nat)
  | [] => .ok none
  | d :: rest =>
    match Selector.holds d selector with
    | .ok true => .ok (some 0)
    | .ok false => (locate selector rest).map fun place => place.map (· + 1)
    | .error e => .error e

/-- **The first document that meets a selector.** -/
def findOne (s : Store) (collection : String) (selector : Document) :
    Except Error (Option Document) :=
  s.whenReady <|
    match s.documents? collection with
    | none => .ok none
    | some documents =>
      (locate (Selector.ofDocument selector) documents).map fun place =>
        place.bind fun i => documents[i]?

/-- How many documents meet a selector. -/
def count (s : Store) (collection : String) (selector : Document) : Except Error Nat :=
  s.whenReady <|
    match s.documents? collection with
    | none => .ok 0
    | some documents => ((Selector.ofDocument selector).select documents).map List.length

/-- What a pipeline makes of a collection. -/
def aggregate (s : Store) (collection : String) (pipeline : List Document) :
    Except Error (List Document) :=
  s.whenReady (runPipeline pipeline ((s.documents? collection).getD []))

/-- Scans need no index, so only its keys are checked. -/
def createIndex (s : Store) (keys : Document) : Except Error Unit :=
  s.whenReady ((SortKey.ofDocument keys).map fun _ => ())

/-! ## Writing -/

/-- A document as it is stored: the key first, then the body without a key of its own. -/
def stored (id : Value) (body : Document) : Document :=
  (primaryKey, id) :: Fields.erase body primaryKey

/-- A stored document has the key it was stored under. -/
@[simp] theorem key?_stored (id : ObjectId) (body : Document) :
    Document.key? (stored (.objectId id) body) = some id := by
  simp [Document.key?, stored, Fields.get?_cons]

/-- Fields other than the key are those of the body. -/
theorem get?_stored (id : Value) (body : Document) {name : String} (h : name ≠ primaryKey) :
    Fields.get? (stored id body) name = Fields.get? body name := by
  simp [stored, Fields.get?_cons, h.symm]

/-- The key a document brings along, or the fresh one where it brings none. -/
def keyFor (fresh : ObjectId) (document : Document) : Except Error ObjectId :=
  match Fields.get? document primaryKey with
  | none => .ok fresh
  | some (.objectId id) => .ok id
  | some v => .error (.primaryKey v)

/-- **Stores a document at the end of a collection**, under its own key or a fresh one. -/
def insertOne (s : Store) (fresh : ObjectId) (collection : String) (document : Document) :
    Except Error ObjectId × Store :=
  if s.ready then
    let documents := (s.documents? collection).getD []
    let opened := s.withDocuments collection documents
    match keyFor fresh document with
    | .error e => (.error e, opened)
    | .ok id =>
      if documents.any fun d => d.key? = some id then
        (.error (.duplicateKey id collection), opened)
      else
        (.ok id, s.withDocuments collection (documents ++ [stored (.objectId id) document]))
  else (.error .notConnected, s)

/-- An operation on the first document that meets a selector; it counts what it changed. -/
def changeFirst (s : Store) (collection : String) (selector : Document)
    (change : List Document → Nat → List Document) : Except Error Nat × Store :=
  if s.ready then
    match s.documents? collection with
    | none => (.ok 0, s)
    | some documents =>
      match locate (Selector.ofDocument selector) documents with
      | .error e => (.error e, s)
      | .ok none => (.ok 0, s)
      | .ok (some place) => (.ok 1, s.withDocuments collection (change documents place))
  else (.error .notConnected, s)

/-- **Replaces the first document that meets a selector**, under the key and in the place it has. -/
def replaceOne (s : Store) (collection : String) (selector replacement : Document) :
    Except Error Nat × Store :=
  s.changeFirst collection selector fun documents place =>
    documents.modify place fun old =>
      stored ((Fields.get? old primaryKey).getD .null) replacement

/-- **Deletes the first document that meets a selector.** -/
def deleteOne (s : Store) (collection : String) (selector : Document) :
    Except Error Nat × Store :=
  s.changeFirst collection selector fun documents place => documents.eraseIdx place

/-- Drops a collection. -/
def dropCollection (s : Store) (collection : String) : Except Error Unit × Store :=
  if s.ready then
    (.ok (), { s with collections := Fields.erase s.collections collection })
  else (.error .notConnected, s)

end Store

end KeysetStore
