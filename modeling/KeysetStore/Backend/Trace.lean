import KeysetStore.Backend

/-!
# Backend/Trace — a backend that keeps a record of its calls

A traced backend behaves as the one beneath it and notes every call with its arguments, also one
that fails.  Asking whether it is ready is no call.
-/

namespace KeysetStore

/-- A call of a backend operation. -/
inductive Call where
  | find (collection : String) (query : Query)
  | findOne (collection : String) (selector : Document)
  | insertOne (collection : String) (document : Document)
  | replaceOne (collection : String) (selector replacement : Document)
  | deleteOne (collection : String) (selector : Document)
  | count (collection : String) (selector : Document)
  | aggregate (collection : String) (pipeline : List Document)
  | createIndex (collection : String) (keys : Document) (unique : Bool)
  | dropCollection (collection : String)

/-- A state with the calls that led to it. -/
structure Traced (σ : Type) where
  state : σ
  calls : List Call := []

/-- An action that is noted as a call. -/
def Action.noted {σ α : Type} (call : Call) (action : Action σ α) : Action (Traced σ) α :=
  fun t =>
    let (outcome, state) := action t.state
    (outcome, ⟨state, t.calls ++ [call]⟩)

/-- **The same backend, with a record of its calls.** -/
def Backend.traced {σ : Type} (b : Backend σ) : Backend (Traced σ) where
  isReady t := b.isReady t.state
  find c query := (b.find c query).noted (.find c query)
  findOne c selector := (b.findOne c selector).noted (.findOne c selector)
  insertOne c d := (b.insertOne c d).noted (.insertOne c d)
  replaceOne c selector d := (b.replaceOne c selector d).noted (.replaceOne c selector d)
  deleteOne c selector := (b.deleteOne c selector).noted (.deleteOne c selector)
  count c selector := (b.count c selector).noted (.count c selector)
  aggregate c pipeline := (b.aggregate c pipeline).noted (.aggregate c pipeline)
  createIndex c keys unique := (b.createIndex c keys unique).noted (.createIndex c keys unique)
  dropCollection c := (b.dropCollection c).noted (.dropCollection c)

end KeysetStore
