import KeysetStore.Error

/-!
# Backend — what a repository asks of a storage

A backend is a handful of operations over its own state, each on a named collection.  An operation
that fails may still have changed the state (`Action`).
-/

namespace KeysetStore

/-- A step over a state that gives an outcome or an error, and the state afterwards in both
cases. -/
abbrev Action (σ α : Type) := ExceptT Error (StateM σ) α

/-- A search: which documents, in which order, and how many at most. -/
structure Query where
  selector : Document
  sort : Option Document := none
  limit : Option Nat := none

/-- A storage with a state of type `σ`. -/
structure Backend (σ : Type) where
  /-- Whether the storage answers now. -/
  isReady : σ → Bool
  /-- The documents of a search. -/
  find (collection : String) (query : Query) : Action σ (List Document)
  /-- Some document that meets a selector. -/
  findOne (collection : String) (selector : Document) : Action σ (Option Document)
  /-- Stores a document and gives its key. -/
  insertOne (collection : String) (document : Document) : Action σ ObjectId
  /-- Replaces some document that meets a selector, and counts it. -/
  replaceOne (collection : String) (selector replacement : Document) : Action σ Nat
  /-- Deletes some document that meets a selector, and counts it. -/
  deleteOne (collection : String) (selector : Document) : Action σ Nat
  /-- Counts the documents that meet a selector. -/
  count (collection : String) (selector : Document) : Action σ Nat
  /-- The outcome of a pipeline. -/
  aggregate (collection : String) (pipeline : List Document) : Action σ (List Document)
  /-- Asks for an index. -/
  createIndex (collection : String) (keys : Document) (unique : Bool) : Action σ Unit
  /-- Drops a collection with its documents. -/
  dropCollection (collection : String) : Action σ Unit

end KeysetStore
