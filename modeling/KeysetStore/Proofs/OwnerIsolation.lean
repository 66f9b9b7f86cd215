import Mathlib.Data.List.Perm.Subperm
import KeysetStore.Proofs.OwnerView
import KeysetStore.Proofs.PageWalk
import KeysetStore.Proofs.StoreWrites

/-!
# Proofs/OwnerIsolation — an owner reads and writes the owner's documents only

What is read from a store is stored there, each document at most once (`Store.find_subperm`), and
what an owner reads is read from the owner's view.  A write whose selector means no document of
others leaves all of them in place, in the order they have (`Write.keeps_apply`).  So no
operation on behalf of an owner, whatever its arguments, shows, counts or changes a document of
somebody else (`Repository.isolates`).
-/

namespace KeysetStore

/-! ## What is read is stored -/

namespace Store

variable {s : Store} {collection : String} {selector : Document}

/-- **Documents that are found are stored**, each as often at least. -/
theorem find_subperm {spec : Document} {keys : List SortKey} {n : Nat} {found : List Document}
    (hkeys : SortKey.ofDocument spec = .ok keys)
    (h : s.find collection { selector, sort := some spec, limit := some n } = .ok found) :
    found.Subperm (s.documents collection) := by
  obtain ⟨-, rfl⟩ := of_find_eq_ok hkeys h
  have hsorted := (sortBy_perm keys ((s.documents collection).filter (Document.fits selector))).subperm
  have htaken := (List.take_sublist n
    (sortBy keys ((s.documents collection).filter (Document.fits selector)))).subperm
  exact (htaken.trans hsorted).trans List.filter_sublist.subperm

end Store

namespace Repository

variable {σ α : Type} {r : Repository σ α} {s : Store} {scope : Option Value}

/-- **A model that is read is that of a stored document.** -/
theorem exists_mem_of_record {id : String} {model : α} (h : r.record s scope id = .ok model) :
    ∃ d ∈ s.documents r.config.collection, r.codec.load r.config.idField d = .ok model := by
  rw [record] at h
  obtain ⟨key, -, h⟩ := bind_eq_ok_iff.1 h
  obtain ⟨_, -, h⟩ := bind_eq_ok_iff.1 h
  obtain ⟨found, hfound, h⟩ := bind_eq_ok_iff.1 h
  cases found with
  | none => cases h
  | some d => exact ⟨d, (Store.of_findOne_eq_some hfound).1, h⟩

/-- **A page shows models of stored documents**, each as often at least. -/
theorem exists_subperm_of_page {filter : Option Document} {sort : List SortKey}
    {request : Pagination} {page : Page α}
    (h : r.page s scope filter sort request = .ok page) :
    ∃ shown, shown.Subperm (s.documents r.config.collection) ∧
      r.loadAll shown = .ok page.items := by
  obtain ⟨l, documents, hl, -, hfetch, hpage⟩ := page_eq_ok_iff.1 h
  rw [fetch] at hfetch
  obtain ⟨selector, -, hfind⟩ := bind_eq_ok_iff.1 hfetch
  rw [pageOf_eq] at hpage
  obtain ⟨next, -, hpage⟩ := bind_eq_ok_iff.1 hpage
  obtain ⟨items, hitems, rfl⟩ := map_eq_ok_iff.1 hpage
  have htaken := (List.take_sublist l.limit documents).subperm
  exact ⟨documents.take l.limit, htaken.trans (Store.find_subperm (sortKeys_of_listing hl) hfind), hitems⟩

end Repository

/-! ## Writes that spare documents -/

/-- **The documents with a property are kept**: in every collection they stay as they are and in
their order. -/
def Memory.Keeps (p : Document → Bool) (before after : Memory) : Prop :=
  ∀ collection,
    ((before.store.documents collection).filter p).Sublist (after.store.documents collection)

namespace Memory

theorem keeps_refl (p : Document → Bool) (m : Memory) : m.Keeps p m :=
  fun _ => List.filter_sublist

/-- What is kept twice in a row is kept. -/
theorem Keeps.trans {p : Document → Bool} {m between after : Memory} (h : m.Keeps p between)
    (hnext : between.Keeps p after) : m.Keeps p after := by
  intro collection
  have hfirst := (h collection).filter p
  rw [List.filter_filter] at hfirst
  simp only [Bool.and_self] at hfirst
  exact hfirst.trans (hnext collection)

end Memory

/-- Where a document without a property is taken out, those with the property stay. -/
theorem filter_sublist_eraseIdx {p : Document → Bool} {documents : List Document} {place : Nat}
    (hplace : place < documents.length) (hp : p documents[place] = false) :
    (documents.filter p).Sublist (documents.eraseIdx place) := by
  have hsplit : documents
      = documents.take place ++ documents[place] :: documents.drop (place + 1) := by
    rw [← List.drop_eq_getElem_cons hplace, List.take_append_drop]
  have hfilter : documents.filter p = (documents.eraseIdx place).filter p := by
    rw [List.eraseIdx_eq_take_drop_succ, List.filter_append]
    conv => lhs; rw [hsplit, List.filter_append, List.filter_cons_of_neg (by simp [hp])]
  rw [hfilter]
  exact List.filter_sublist

theorem eraseIdx_sublist_modify {documents : List Document} {place : Nat}
    (hplace : place < documents.length) (f : Document → Document) :
    (documents.eraseIdx place).Sublist (documents.modify place f) := by
  rw [List.eraseIdx_eq_take_drop_succ, List.modify_eq_take_cons_drop hplace]
  exact (List.Sublist.refl _).append (List.sublist_cons_self _ _)

namespace Write

variable {w : Write} {p : Document → Bool} {supply : Nat → ObjectId} {m : Memory}

/-- **A write keeps the documents that it does not mean.** -/
theorem keeps_apply (h : ∀ d, w.Means d → p d = false) : m.Keeps p (w.apply supply m) := by
  intro collection
  rcases w.documents_apply supply m collection with
    hsame | ⟨id, d, -, hadded⟩ | ⟨place, hplace, hmeans, ⟨d, hreplaced⟩ | hdeleted⟩
  · rw [hsame]
    exact List.filter_sublist
  · rw [hadded]
    exact List.filter_sublist.trans (List.sublist_append_left _ _)
  · rw [hreplaced]
    exact (filter_sublist_eraseIdx hplace (h _ hmeans)).trans (eraseIdx_sublist_modify hplace _)
  · rw [hdeleted]
    exact filter_sublist_eraseIdx hplace (h _ hmeans)

end Write

/-! ## Isolation -/

namespace Repository

variable {α : Type} {r : Repository Memory α} {supply : Nat → ObjectId} {owner : Value}

section

variable (hfield : isOperator r.config.scopeField = false) (howner : owner.marksOwner = true)
  (hr : r.backend = Memory.backend supply)
include hfield howner

/-- **A key selector of an owner means documents of the owner only.** -/
theorem owns_of_meets_keySelector {key : ObjectId} {d : Document}
    (h : d.meets (keySelector key (r.owner (some owner))) = .ok true) :
    (!r.owns owner d) = false := by
  have howned : r.owns owner d = true :=
    Document.isOwnedBy_of_meets hfield howner Document.get?_ownedBy h
  rw [howned]
  rfl

include hr

theorem exists_owned_of_read {id : String} {m : Memory} {model : α}
    (h : (r.read id (some owner) m).1 = .ok model) :
    ∃ d ∈ r.owned m.store owner, r.codec.load r.config.idField d = .ok model := by
  rw [reads_read hr (some owner) id m] at h
  have hview := record_view hfield howner (s := m.store) id
  obtain ⟨d, hd, hload⟩ := exists_mem_of_record (hview.symm.trans h)
  rw [documents_view] at hd
  exact ⟨d, hd, hload⟩

theorem exists_owned_of_readAll {filter : Option Document} {sort : List SortKey}
    {request : Pagination} {m : Memory} {page : Page α}
    (h : (r.readAll (some owner) filter sort request m).1 = .ok page) :
    ∃ shown, shown.Subperm (r.owned m.store owner) ∧ r.loadAll shown = .ok page.items := by
  rw [reads_readAll hr (some owner) filter sort request m] at h
  have hpage : r.page m.store (some owner) filter sort request = .ok page := h
  rcases page_view (s := m.store) hfield howner with hview | ⟨_, _, e, -, -, -, herror⟩
  · rw [hview] at hpage
    obtain ⟨shown, hshown, hload⟩ := exists_subperm_of_page hpage
    rw [documents_view] at hshown
    exact ⟨shown, hshown, hload⟩
  · rw [hpage] at herror
    cases herror

theorem count_owned {filter : Option Document} {m : Memory} {n : Nat}
    (h : (r.count (some owner) filter m).1 = .ok n) :
    ∃ selector, r.selector (some owner) filter = .ok selector ∧
      n = ((r.owned m.store owner).filter (Document.fits selector)).length := by
  rw [reads_count hr (some owner) filter m] at h
  have hcount : r.countIn m.store (some owner) filter = .ok n := h
  rcases countIn_view (s := m.store) hfield howner with hview | ⟨_, e, -, -, herror⟩
  · rw [hview, countIn_eq, documents_view] at hcount
    obtain ⟨selector, hselector, hcount⟩ := bind_eq_ok_iff.1 hcount
    obtain ⟨-, hfound⟩ := Store.whenReady_eq_ok_iff.1 hcount
    obtain ⟨found, hselect, rfl⟩ := map_eq_ok_iff.1 hfound
    exact ⟨selector, hselector, by rw [Selector.select_eq_ok hselect]⟩
  · rw [hcount] at herror
    cases herror

theorem aggregate_owned (pipeline : List Document) (m : Memory) :
    (r.aggregate pipeline (some owner) m).1
      = m.store.whenReady (runPipeline pipeline (r.owned m.store owner)) := by
  rw [reads_aggregate hr (some owner) pipeline m]
  exact aggregateIn_eq hfield howner pipeline

omit hfield howner in
theorem keeps_create (p : Document → Bool) (model : α) (scope : Option Value) (m : Memory) :
    m.Keeps p (r.create model scope m).2 := by
  rcases create_state hr model scope m with h | ⟨body, -, h⟩
  · rw [h]
    exact Memory.keeps_refl p m
  · rw [h]
    exact Write.keeps_apply fun d hd => False.elim hd

theorem keeps_update (id : String) (model : α) (m : Memory) :
    m.Keeps (fun d => !r.owns owner d) (r.update id model (some owner) m).2 := by
  rcases update_state hr id model (some owner) m with h | ⟨key, body, -, h⟩
  · rw [h]
    exact Memory.keeps_refl _ m
  · rw [h]
    exact Write.keeps_apply fun d hd => owns_of_meets_keySelector hfield howner hd

theorem keeps_delete (id : String) (m : Memory) :
    m.Keeps (fun d => !r.owns owner d) (r.delete id (some owner) m).2 := by
  rcases delete_state hr id (some owner) m with h | ⟨key, h⟩
  · rw [h]
    exact Memory.keeps_refl _ m
  · rw [h]
    exact Write.keeps_apply fun d hd => owns_of_meets_keySelector hfield howner hd

end

/-- **The operations on behalf of an owner are confined to the owner's documents**, from a memory and
with whatever arguments. -/
structure Isolates (r : Repository Memory α) (owner : Value) (m : Memory) : Prop where
  /-- A model that is read is that of a document of the owner. -/
  read : ∀ {id : String} {model : α}, (r.read id (some owner) m).1 = .ok model →
    ∃ d ∈ r.owned m.store owner, r.codec.load r.config.idField d = .ok model
  /-- A page shows models of documents of the owner. -/
  readAll : ∀ {filter : Option Document} {sort : List SortKey} {request : Pagination}
    {page : Page α}, (r.readAll (some owner) filter sort request m).1 = .ok page →
    ∃ shown, shown.Subperm (r.owned m.store owner) ∧ r.loadAll shown = .ok page.items
  /-- Those documents of the owner are counted that meet the selector. -/
  count : ∀ {filter : Option Document} {n : Nat}, (r.count (some owner) filter m).1 = .ok n →
    ∃ selector, r.selector (some owner) filter = .ok selector ∧
      n = ((r.owned m.store owner).filter (Document.fits selector)).length
  /-- A pipeline begins with the documents of the owner, in stored order. -/
  aggregate : ∀ pipeline : List Document, (r.aggregate pipeline (some owner) m).1
    = m.store.whenReady (runPipeline pipeline (r.owned m.store owner))
  /-- Creating a model keeps the documents of others. -/
  create : ∀ model : α, m.Keeps (fun d => !r.owns owner d) (r.create model (some owner) m).2
  /-- Replacing a model keeps the documents of others. -/
  update : ∀ (id : String) (model : α),
    m.Keeps (fun d => !r.owns owner d) (r.update id model (some owner) m).2
  /-- Deleting a model keeps the documents of others. -/
  delete : ∀ id : String, m.Keeps (fun d => !r.owns owner d) (r.delete id (some owner) m).2

/-- **Owner isolation**: from every memory, an owner's operations see and change the documents of the
owner only. -/
theorem isolates (hfield : isOperator r.config.scopeField = false)
    (howner : owner.marksOwner = true) (hr : r.backend = Memory.backend supply) (m : Memory) :
    r.Isolates owner m where
  read h := exists_owned_of_read hfield howner hr h
  readAll h := exists_owned_of_readAll hfield howner hr h
  count h := count_owned hfield howner hr h
  aggregate pipeline := aggregate_owned hfield howner hr pipeline m
  create model := keeps_create hr _ model (some owner) m
  update id model := keeps_update hfield howner hr id model m
  delete id := keeps_delete hfield howner hr id m

end Repository

/-- A write that an owner asks of a repository. -/
inductive Request (α : Type) where
  /-- Stores a model. -/
  | create (model : α)
  /-- Replaces the model under an identifier. -/
  | update (id : String) (model : α)
  /-- Deletes the model under an identifier. -/
  | delete (id : String)

namespace Request

variable {α : Type}

/-- The memory after a request on behalf of an owner. -/
def perform (r : Repository Memory α) (owner : Value) (m : Memory) : Request α → Memory
  | create model => (r.create model (some owner) m).2
  | update id model => (r.update id model (some owner) m).2
  | delete id => (r.delete id (some owner) m).2

variable {r : Repository Memory α} {supply : Nat → ObjectId} {owner : Value}
  (hfield : isOperator r.config.scopeField = false) (howner : owner.marksOwner = true)
  (hr : r.backend = Memory.backend supply)
include hfield howner hr

theorem keeps_perform (request : Request α) (m : Memory) :
    m.Keeps (fun d => !r.owns owner d) (request.perform r owner m) := by
  cases request with
  | create model => exact Repository.keeps_create hr _ model (some owner) m
  | update id model => exact Repository.keeps_update hfield howner hr id model m
  | delete id => exact Repository.keeps_delete hfield howner hr id m

/-- **However often an owner writes**, the documents of others are kept. -/
theorem keeps_performAll (requests : List (Request α)) (m : Memory) :
    m.Keeps (fun d => !r.owns owner d) (requests.foldl (perform r owner) m) := by
  induction requests generalizing m with
  | nil => exact Memory.keeps_refl _ m
  | cons request rest ih =>
    have hfirst := keeps_perform hfield howner hr request m
    exact hfirst.trans (ih (request.perform r owner m))

end Request

namespace Shelf

/-- Alice has to do with her own products of the shelf only. -/
theorem isolates_alice : isOperator products.config.scopeField = false ∧
    (Value.string "alice").marksOwner = true ∧ products.backend = Memory.backend .ofNat ∧
    products.Isolates (.string "alice") memory :=
  ⟨by decide, rfl, rfl, Repository.isolates (by decide) rfl rfl memory⟩

end Shelf

end KeysetStore
