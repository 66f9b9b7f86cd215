import KeysetStore.Backend
import KeysetStore.Codec
import KeysetStore.Config
import KeysetStore.Keyset
import KeysetStore.Page

/-!
# Repository — models of one collection, page by page

A repository stores models in a collection of a backend, each operation on behalf of an owner or of
nobody in particular.  Arguments are checked before the backend is asked whether it is ready, and
that comes before any call.

A listing is cut into pages by look-ahead: one document more than the page holds is fetched, and if
it is there the page has a successor, which continues after the last document of the page.
-/

namespace KeysetStore

/-- A repository over a backend with a state of type `σ`. -/
structure Repository (σ α : Type) where
  config : Config
  backend : Backend σ
  codec : Codec α

/-- A listing whose arguments have been checked. -/
structure Listing where
  /-- The size of a page. -/
  limit : Nat
  /-- The documents that are listed. -/
  selector : Document
  /-- Their order. -/
  order : SortOrder
  /-- The key of the document to continue after. -/
  reference : Option ObjectId

namespace Repository

variable {σ α : Type}

/-- **A repository of a usable setup.** -/
def ofConfig (backend : Backend σ) (config : Config) (codec : Codec α) :
    Except Error (Repository σ α) :=
  config.validate.map fun _ => ⟨config, backend, codec⟩

/-! ## Identifiers and cursors -/

/-- The key an identifier names. -/
def keyOf (id : String) : Except Error ObjectId :=
  match ObjectId.ofHex? id with
  | some key => .ok key
  | none => .error (.invalidIdentifier id)

/-- The key a cursor names. -/
def keyOfCursor (cursor : String) : Except Error ObjectId :=
  match ObjectId.ofHex? cursor with
  | some key => .ok key
  | none => .error (.malformedCursor cursor)

/-- The cursor of a document. -/
def cursorOf (d : Document) : Except Error String :=
  match Document.key? d with
  | some key => .ok key.toHex
  | none => .error .cursorKey

/-- The selector of the document under a key, among those of an owner. -/
def keySelector (key : ObjectId) (owner : Option (String × Value)) : Document :=
  Document.ownedBy [(primaryKey, .objectId key)] owner

/-- **The document a cursor names**, among those of an owner. -/
def resolve (backend : Backend σ) (collection : String) (key : ObjectId)
    (owner : Option (String × Value)) : Action σ Document := do
  match ← backend.findOne collection (keySelector key owner) with
  | some reference => pure reference
  | none => throw (.staleCursor key.toHex)

/-! ## Steps of the operations -/

/-- Fails where the backend is not ready. -/
def ensureReady (r : Repository σ α) : Action σ Unit := do
  if r.backend.isReady (← get) then pure () else throw .notConnected

/-- The field and the value that mark an owner's documents. -/
def owner (r : Repository σ α) (scope : Option Value) : Option (String × Value) :=
  scope.map (r.config.scopeField, ·)

/-- The selector of a listing or a count. -/
def selector (r : Repository σ α) (scope : Option Value) (filter : Option Document) :
    Except Error Document :=
  scopedSelector r.config.searchable (r.owner scope) filter

/-- The body of a model, with its owner. -/
def body (r : Repository σ α) (model : α) (scope : Option Value) : Except Error Document :=
  (r.codec.body r.config.idField model).map (Document.ownedBy · (r.owner scope))

/-- **The checks of a listing**, in the order in which their errors win. -/
def listing (r : Repository σ α) (scope : Option Value) (filter : Option Document)
    (sort : List SortKey) (request : Pagination) : Except Error Listing := do
  let limit ← r.config.pageSize request.limit
  if sizeLimit ≤ limit then throw (.pageSizeTooLarge limit)
  let selector ← r.selector scope filter
  let reference ← match request.cursor with
    | some cursor => (keyOfCursor cursor).map some
    | none => pure none
  pure ⟨limit, selector, .compile sort r.config.idField, reference⟩

/-- The models of documents, up to the first that cannot be read. -/
def loadAll (r : Repository σ α) : List Document → Except Error (List α)
  | [] => .ok []
  | d :: rest => do
    let model ← r.codec.load r.config.idField d
    let models ← loadAll r rest
    .ok (model :: models)

/-- **The page of documents that were fetched with one to look ahead.** -/
def pageOf (r : Repository σ α) (limit : Nat) (documents : List Document) :
    Except Error (Page α) := do
  let shown := documents.take limit
  let next ← match shown.getLast? with
    | some last => if limit < documents.length then (cursorOf last).map some else pure none
    | none => pure none
  let items ← r.loadAll shown
  pure (.ofItems items next)

/-! ## Operations -/

/-- **One page of the models of an owner** that meet a filter, in order. -/
def readAll (r : Repository σ α) (scope : Option Value) (filter : Option Document)
    (sort : List SortKey) (request : Pagination) : Action σ (Page α) := do
  let l ← r.listing scope filter sort request
  r.ensureReady
  let selector ← match l.reference with
    | none => pure l.selector
    | some key =>
      let reference ← resolve r.backend r.config.collection key (r.owner scope)
      Keyset.continueAfter l.selector l.order reference
  let documents ← r.backend.find r.config.collection
    { selector, sort := some l.order.toDocument, limit := some (l.limit + 1) }
  r.pageOf l.limit documents

/-- **The model under an identifier.** -/
def read (r : Repository σ α) (id : String) (scope : Option Value) : Action σ α := do
  let key ← keyOf id
  r.ensureReady
  match ← r.backend.findOne r.config.collection (keySelector key (r.owner scope)) with
  | some d => r.codec.load r.config.idField d
  | none => throw (.documentMissing r.config.collection id)

/-- **Stores a model** and gives it back with its identifier. -/
def create (r : Repository σ α) (model : α) (scope : Option Value) : Action σ α := do
  let body ← r.body model scope
  r.ensureReady
  let key ← r.backend.insertOne r.config.collection body
  r.codec.loadAs r.config.idField body key

/-- **Replaces the model under an identifier** and gives it back. -/
def update (r : Repository σ α) (id : String) (model : α) (scope : Option Value) :
    Action σ α := do
  let key ← keyOf id
  let body ← r.body model scope
  r.ensureReady
  let replaced ← r.backend.replaceOne r.config.collection (keySelector key (r.owner scope)) body
  if replaced = 0 then throw (.documentMissing r.config.collection id)
  r.codec.loadAs r.config.idField body key

/-- **Deletes the model under an identifier.** -/
def delete (r : Repository σ α) (id : String) (scope : Option Value) : Action σ Unit := do
  let key ← keyOf id
  r.ensureReady
  let deleted ← r.backend.deleteOne r.config.collection (keySelector key (r.owner scope))
  if deleted = 0 then throw (.documentMissing r.config.collection id)

/-- **Counts the models of an owner** that meet a filter. -/
def count (r : Repository σ α) (scope : Option Value) (filter : Option Document) :
    Action σ Nat := do
  let selector ← r.selector scope filter
  r.ensureReady
  r.backend.count r.config.collection selector

/-- A pipeline that begins with the documents of an owner. -/
def scopedPipeline (owner : Option (String × Value)) (pipeline : List Document) : List Document :=
  match owner with
  | some (field, owner) => [("$match", .document [(field, owner)])] :: pipeline
  | none => pipeline

/-- **The outcome of a pipeline over the documents of an owner.** -/
def aggregate (r : Repository σ α) (pipeline : List Document) (scope : Option Value) :
    Action σ (List Document) := do
  r.ensureReady
  r.backend.aggregate r.config.collection (scopedPipeline (r.owner scope) pipeline)

/-- **Asks for an index that serves an order.** -/
def ensureSortIndex (r : Repository σ α) (sort : List SortKey) : Action σ Unit := do
  let keys := (SortOrder.compile sort r.config.idField).toDocument
  r.ensureReady
  r.backend.createIndex r.config.collection keys false

/-! ## Walks -/

/-- **Page after page**, each requested with the cursor of the one before, until the last one, an
error, or a bound on the pages. -/
def walk (r : Repository σ α) (scope : Option Value) (filter : Option Document)
    (sort : List SortKey) : (pages : Nat) → Pagination → StateM σ (List (Except Error (Page α)))
  | 0, _ => pure []
  | pages + 1, request => do
    let outcome ← (r.readAll scope filter sort request).run
    match outcome with
    | .error _ => pure [outcome]
    | .ok page =>
      match request.after page with
      | none => pure [outcome]
      | some next => (outcome :: ·) <$> walk r scope filter sort pages next

end Repository

end KeysetStore
