import KeysetStore.Proofs.OwnerIsolation

/-!
# Proofs/Noninterference — what an owner learns of the documents of others

Two memories look alike to an owner when both answer or neither does, and the documents of the owner
are the same, in the same order (`Memory.Alike`).  Reading a model and running a pipeline then give
the same answer.  A count or a listing does so too, unless one of the answers is the error that the
selector of the operation raises on a document of somebody else (`Repository.noninterference`).

The exception is real.  A condition is tested as far as it holds, so a filter may be evaluated to its
end on a document of somebody else and on none of the owner's, and an operator that does not exist
then tells that there is such a document (`Shelf.count_tells`).
-/

namespace KeysetStore

/-- **Memories that look alike to an owner.** -/
structure Memory.Alike {α : Type} (r : Repository Memory α) (owner : Value) (m m' : Memory) :
    Prop where
  ready : m.store.ready = m'.store.ready
  owned : r.owned m.store owner = r.owned m'.store owner

namespace Repository

variable {α : Type} {r : Repository Memory α} {supply : Nat → ObjectId} {owner : Value}
  {m m' : Memory} {filter : Option Document} {sort : List SortKey} {request : Pagination}

/-- **A count that tells of others**: it reports an error that its selector raises on a document of
somebody else. -/
def CountTells (r : Repository Memory α) (owner : Value) (filter : Option Document) (m : Memory) :
    Prop :=
  ∃ selector e, r.selector (some owner) filter = .ok selector ∧
    r.FailsAbroad m.store owner selector e ∧ (r.count (some owner) filter m).1 = .error e

/-- **A listing that tells of others**: it reports an error that its selector, narrowed to what comes
after the cursor, raises on a document of somebody else. -/
def ListingTells (r : Repository Memory α) (owner : Value) (filter : Option Document)
    (sort : List SortKey) (request : Pagination) (m : Memory) : Prop :=
  ∃ l selector e, r.listing (some owner) filter sort request = .ok l ∧
    r.narrowed m.store (some owner) l = .ok selector ∧ r.FailsAbroad m.store owner selector e ∧
    (r.readAll (some owner) filter sort request m).1 = .error e

/-- The owner has the same view of memories that look alike. -/
theorem view_eq (h : m.Alike r owner m') : r.view m.store owner = r.view m'.store owner := by
  rw [view, view, h.ready, h.owned]

section

variable (hfield : isOperator r.config.scopeField = false) (howner : owner.marksOwner = true)
  (hr : r.backend = Memory.backend supply)
include hfield howner hr

theorem read_eq_view (id : String) (m : Memory) :
    (r.read id (some owner) m).1 = r.record (r.view m.store owner) (some owner) id := by
  rw [reads_read hr (some owner) id m]
  exact record_view hfield howner id

/-- A count is that of the view, or tells of others. -/
theorem count_eq_view (filter : Option Document) (m : Memory) :
    (r.count (some owner) filter m).1 = r.countIn (r.view m.store owner) (some owner) filter ∨
      r.CountTells owner filter m := by
  have hcount : (r.count (some owner) filter m).1 = r.countIn m.store (some owner) filter := by
    rw [reads_count hr (some owner) filter m]
  rcases countIn_view (s := m.store) hfield howner with h | ⟨selector, e, hselector, habroad, h⟩
  · exact .inl (hcount.trans h)
  · exact .inr ⟨selector, e, hselector, habroad, hcount.trans h⟩

/-- A page is that of the view, or tells of others. -/
theorem readAll_eq_view (filter : Option Document) (sort : List SortKey) (request : Pagination)
    (m : Memory) :
    (r.readAll (some owner) filter sort request m).1
        = r.page (r.view m.store owner) (some owner) filter sort request ∨
      r.ListingTells owner filter sort request m := by
  have hpage : (r.readAll (some owner) filter sort request m).1
      = r.page m.store (some owner) filter sort request := by
    rw [reads_readAll hr (some owner) filter sort request m]
  rcases page_view (s := m.store) hfield howner with
    h | ⟨l, selector, e, hl, hnarrowed, habroad, h⟩
  · exact .inl (hpage.trans h)
  · exact .inr ⟨l, selector, e, hl, hnarrowed, habroad, hpage.trans h⟩

/-- **Noninterference between owners**, but for the errors of a filter on the documents of others. -/
theorem noninterference (h : m.Alike r owner m') :
    (∀ id : String, (r.read id (some owner) m).1 = (r.read id (some owner) m').1) ∧
    (∀ pipeline : List Document,
      (r.aggregate pipeline (some owner) m).1 = (r.aggregate pipeline (some owner) m').1) ∧
    (∀ filter : Option Document,
      (r.count (some owner) filter m).1 = (r.count (some owner) filter m').1 ∨
        r.CountTells owner filter m ∨ r.CountTells owner filter m') ∧
    ∀ (filter : Option Document) (sort : List SortKey) (request : Pagination),
      (r.readAll (some owner) filter sort request m).1
          = (r.readAll (some owner) filter sort request m').1 ∨
        r.ListingTells owner filter sort request m ∨
        r.ListingTells owner filter sort request m' := by
  refine ⟨fun id => ?_, fun pipeline => ?_, fun filter => ?_, fun filter sort request => ?_⟩
  · rw [read_eq_view hfield howner hr, read_eq_view hfield howner hr, view_eq h]
  · rw [aggregate_owned hfield howner hr, aggregate_owned hfield howner hr, h.owned,
      Store.whenReady, Store.whenReady, h.ready]
  · rcases count_eq_view hfield howner hr filter m with hm | htells
    · rcases count_eq_view hfield howner hr filter m' with hm' | htells
      · rw [hm, hm', view_eq h]
        exact .inl rfl
      · exact .inr (.inr htells)
    · exact .inr (.inl htells)
  · rcases readAll_eq_view hfield howner hr filter sort request m with hm | htells
    · rcases readAll_eq_view hfield howner hr filter sort request m' with hm' | htells
      · rw [hm, hm', view_eq h]
        exact .inl rfl
      · exact .inr (.inr htells)
    · exact .inr (.inl htells)

end

end Repository

/-! ## The shelf without the product of another owner -/

namespace Shelf

/-- The shelf without the product of somebody else. -/
def reduced : Memory := { store := { collections := [("products", documents.eraseIdx 1)] } }

theorem alike_reduced : memory.Alike products (.string "alice") reduced := ⟨rfl, rfl⟩

/-- Alice reads the shelf as if the product of somebody else was not there. -/
theorem noninterference_reduced :
    isOperator products.config.scopeField = false ∧ (Value.string "alice").marksOwner = true ∧
    products.backend = Memory.backend .ofNat ∧ memory.Alike products (.string "alice") reduced ∧
    (∀ id : String, (products.read id (some (.string "alice")) memory).1
      = (products.read id (some (.string "alice")) reduced).1) ∧
    ∀ pipeline : List Document, (products.aggregate pipeline (some (.string "alice")) memory).1
      = (products.aggregate pipeline (some (.string "alice")) reduced).1 :=
  have h := Repository.noninterference (by decide) rfl rfl alike_reduced
  ⟨by decide, rfl, rfl, alike_reduced, h.1, h.2.1⟩

/-- A filter that asks for a price above five, and then for what no operator is there for. -/
def probe : Document := [("price", .document [("$gt", .int32 5), ("$near", .int32 1)])]

/-- **The exception is real**: no product of alice costs more than five, so the count of her products
tells her that one of somebody else does. -/
theorem count_tells :
    memory.store.ready = reduced.store.ready ∧
    products.owned memory.store (.string "alice")
      = products.owned reduced.store (.string "alice") ∧
    (products.count (some (.string "alice")) (some probe) reduced).1 = .ok 0 ∧
    (products.count (some (.string "alice")) (some probe) memory).1
      = .error (.operator "$near") :=
  ⟨rfl, rfl, rfl, rfl⟩

end Shelf

end KeysetStore
