import KeysetStore.Memory.Store

/-!
# Memory — a store as a backend

The backend issues keys from a supply, one for every document that is to be stored without a key of
its own, also where storing it fails.
-/

namespace KeysetStore

/-- A store, and how many keys it has issued. -/
structure Memory where
  store : Store := {}
  issued : Nat := 0

namespace Memory

/-- A reading operation. -/
def reading {α : Type} (read : Store → Except Error α) : Action Memory α :=
  fun m => (read m.store, m)

/-- A writing operation. -/
def writing {α : Type} (write : Store → Except Error α × Store) : Action Memory α :=
  fun m =>
    let (outcome, store) := write m.store
    (outcome, { m with store })

/-- **Stores a document**, with the next key of the supply where it has none. -/
def insertOne (supply : Nat → ObjectId) (collection : String) (document : Document) :
    Action Memory ObjectId := fun m =>
  let issued := if (Fields.get? document primaryKey).isSome then m.issued else m.issued + 1
  let (outcome, store) := m.store.insertOne (supply issued) collection document
  (outcome, { store, issued })

/-- **The backend of a store**, over a supply of keys. -/
def backend (supply : Nat → ObjectId) : Backend Memory where
  isReady m := m.store.ready
  find c query := reading fun s => s.find c query
  findOne c selector := reading fun s => s.findOne c selector
  insertOne := insertOne supply
  replaceOne c selector d := writing fun s => s.replaceOne c selector d
  deleteOne c selector := writing fun s => s.deleteOne c selector
  count c selector := reading fun s => s.count c selector
  aggregate c pipeline := reading fun s => s.aggregate c pipeline
  createIndex _ keys _ := reading fun s => s.createIndex keys
  dropCollection c := writing fun s => s.dropCollection c

/-- Stores documents one after the other, up to the first that fails. -/
def insertAll (supply : Nat → ObjectId) (collection : String) :
    List Document → Action Memory Unit
  | [] => pure ()
  | d :: rest => do
    let _ ← insertOne supply collection d
    insertAll supply collection rest

/-- **A store with documents to begin with**, or the first error in storing them. -/
def seeded (supply : Nat → ObjectId) (seed : List (String × List Document)) :
    Except Error Memory :=
  let fill : Action Memory Unit := seed.forM fun (c, documents) => insertAll supply c documents
  match fill {} with
  | (.ok (), m) => .ok m
  | (.error e, _) => .error e

end Memory

end KeysetStore
