import KeysetStore.Proofs.AnsweredPage

/-!
# Proofs/InsertionOrder — what a sorted list tells of the order of insertion

Sorting documents without a NaN puts them in order and keeps those that tie as they stood
(`StableSort`).  So the order of insertion shows in ties and nowhere else, and a compiled order has no
ties among documents with keys of their own: one list is the sorted one, however the documents
stand.

Searches and pages in such an order are therefore the same over every store with the same documents
(`InsertionBlind`).  That they succeed does not depend on the order either: a search evaluates its
selector on every document, and with it the scope by which the document of a cursor is found
(`Repository.narrowed_of_perm`).
-/

namespace KeysetStore

/-- **A stable arrangement of documents**: none is lost or repeated, none stands before one that it
is beyond, and those that tie stand as they stood. -/
structure StableSort (keys : List SortKey) (documents sorted : List Document) : Prop where
  perm : sorted.Perm documents
  rising : sorted.Pairwise fun a b => (compareBy keys a b).isLE
  stable : ∀ d ∈ documents,
    sorted.filter (Document.tiesWith keys d) = documents.filter (Document.tiesWith keys d)

theorem stableSort_sortBy {keys : List SortKey} {documents : List Document}
    (h : ∀ d ∈ documents, d.placedAt keys) : StableSort keys documents (sortBy keys documents) :=
  ⟨sortBy_perm .., pairwise_isLE_sortBy h, fun _ => filter_tiesWith_sortBy h⟩

/-! ## Stores with the same documents -/

section Stores

variable {s s' : Store} (hready : s'.ready)
include hready

/-- **A search in an order without ties finds the same** over a store with the same documents. -/
theorem Store.find_of_perm {collection : String} {selector spec : Document} {keys : List SortKey}
    {limit : Option Nat} {found : List Document}
    (hperm : (s'.documents collection).Perm (s.documents collection))
    (hkeys : SortKey.ofDocument spec = .ok keys) (horderly : Orderly keys (s.documents collection))
    (h : s.find collection { selector, sort := some spec, limit } = .ok found) :
    s'.find collection { selector, sort := some spec, limit } = .ok found := by
  obtain ⟨hevaluates, rfl⟩ := of_find_eq_ok hkeys h
  have hmeets : ∀ d ∈ s'.documents collection, d.meets selector = .ok (Document.fits selector d) :=
    fun d hd => Document.meets_eq_fits (hevaluates d (hperm.subset hd))
  rw [find_eq hready hmeets hkeys, (horderly.filter _).sortBy_of_perm (hperm.filter _)]

namespace Repository

variable {α : Type} {r : Repository Memory α} {scope : Option Value} {filter : Option Document}
  {sort : List SortKey} {request : Pagination} {l : Listing}
  (hfield : r.config.scopeField ≠ primaryKey)
  (hkeyed : Keyed (s.documents r.config.collection))
  (hperm : (s'.documents r.config.collection).Perm (s.documents r.config.collection))
include hfield hkeyed hperm

/-- **A listing is narrowed alike** over a store with the same documents, where the narrowed selector
can be evaluated on all of them: the document of its cursor is found there as well, since no document
before it makes the scope fail. -/
theorem narrowed_of_perm {selector : Document} (hl : r.listing scope filter sort request = .ok l)
    (hevaluates : ∀ d ∈ s.documents r.config.collection, ∃ b, d.meets selector = .ok b)
    (h : r.narrowed s scope l = .ok selector) : r.narrowed s' scope l = .ok selector := by
  cases hreference : l.reference with
  | none =>
    rw [narrowed, hreference] at h ⊢
    exact h
  | some key =>
    obtain ⟨-, -, hselector, -, -⟩ := listing_eq_ok_iff.1 hl
    obtain ⟨d, ⟨hd, hscope⟩, hkey, hconjoin⟩ :=
      exists_reference_of_narrowed hfield hkeyed hreference h
    have hscoped : ∀ e ∈ s'.documents r.config.collection,
        e.meets (Document.ownedBy [] (r.owner scope)) = .ok (e.inScope (r.owner scope)) := by
      intro e he
      obtain ⟨b, hb⟩ := hevaluates e (hperm.subset he)
      exact (scope_of_meets_conjoin hselector hconjoin hscope hb).1
    have hlocate : r.locateIn s' scope key = .ok (some d) :=
      locateIn_eq_some hready hfield (hkeyed.of_perm hperm) hscoped (hperm.symm.subset hd) hkey
        (Document.fits_of_meets hscope)
    rw [narrowed, hreference]
    exact bind_eq_ok_iff.2 ⟨d, bind_eq_ok_iff.2 ⟨_, hlocate, rfl⟩, hconjoin⟩

/-- **A page that was read is the page** over every store with the same documents. -/
theorem page_of_perm {page : Page α}
    (horderly : Orderly (SortOrder.compile sort r.config.idField).keys
      (s.documents r.config.collection))
    (h : r.page s scope filter sort request = .ok page) :
    r.page s' scope filter sort request = .ok page := by
  obtain ⟨l, documents, hl, -, hfetch, hpage⟩ := page_eq_ok_iff.1 h
  obtain ⟨-, -, -, horder, -⟩ := listing_eq_ok_iff.1 hl
  have hkeys := sortKeys_of_listing hl
  obtain ⟨selector, hnarrowed, hfind⟩ := bind_eq_ok_iff.1 hfetch
  have hfind' := Store.find_of_perm hready hperm hkeys (horder ▸ horderly) hfind
  obtain ⟨hevaluates, -⟩ := Store.of_find_eq_ok hkeys hfind
  have hnarrowed' := narrowed_of_perm hready hfield hkeyed hperm hl hevaluates hnarrowed
  exact page_eq_ok_iff.2
    ⟨l, documents, hl, hready, bind_eq_ok_iff.2 ⟨selector, hnarrowed', hfind'⟩, hpage⟩

end Repository

end Stores

/-! ## Sorting -/

/-- **A compiled order that does not tell how documents were inserted**: the sorted list is one for
all orders in which they may stand, and so are the answers of the stores that hold them. -/
structure InsertionBlind (sort : List SortKey) (idField : String)
    (documents sorted : List Document) : Prop where
  /-- The sorted documents rise strictly. -/
  rising : sorted.Pairwise fun a b => compareBy (SortOrder.compile sort idField).keys a b = .lt
  /-- They are the same in whatever order the documents stood. -/
  same : ∀ others : List Document, others.Perm documents →
    Store.sorted (some (SortOrder.compile sort idField).toDocument) others = .ok sorted
  /-- What a search finds over one store it finds over every other one that can be reached. -/
  find : ∀ {s s' : Store} {collection : String} {selector : Document} {limit : Option Nat}
    {found : List Document}, s.documents collection = documents →
    (s'.documents collection).Perm documents → s'.ready →
    s.find collection
      { selector, sort := some (SortOrder.compile sort idField).toDocument, limit } = .ok found →
    s'.find collection
      { selector, sort := some (SortOrder.compile sort idField).toDocument, limit } = .ok found
  /-- What is read from one memory is read from every other one, with any cursor. -/
  readAll : ∀ {α : Type} {r : Repository Memory α} {supply : Nat → ObjectId} {m m' : Memory},
    r.backend = Memory.backend supply → r.config.idField = idField →
    r.config.scopeField ≠ primaryKey → m.store.documents r.config.collection = documents →
    (m'.store.documents r.config.collection).Perm documents → m'.store.ready →
    ∀ (scope : Option Value) (filter : Option Document) (request : Pagination) (page : Page α),
      (r.readAll scope filter sort request m).1 = .ok page →
      (r.readAll scope filter sort request m').1 = .ok page

/-- **A compiled order does not tell how documents with keys of their own were inserted.** -/
theorem insertionBlind_sortBy {sort : List SortKey} {idField : String} {documents : List Document}
    (hkeyed : Keyed documents)
    (hplaced : ∀ d ∈ documents, d.placedAt (SortOrder.compile sort idField).keys) :
    InsertionBlind sort idField documents
      (sortBy (SortOrder.compile sort idField).keys documents) := by
  have horderly : Orderly (SortOrder.compile sort idField).keys documents := .of_keyed hkeyed hplaced
  have hkeys := SortOrder.ofDocument_toDocument_compile sort idField
  refine ⟨horderly.pairwise_sortBy, fun others hperm => ?_, ?_, ?_⟩
  · rw [Store.sorted_eq hkeys, horderly.sortBy_of_perm hperm]
  · rintro s s' collection selector limit found rfl hperm hready h
    exact Store.find_of_perm hready hperm hkeys horderly h
  · rintro α r supply m m' hr rfl hfield rfl hperm hready scope filter request page h
    rw [Repository.reads_readAll hr scope filter sort request] at h ⊢
    exact Repository.page_of_perm hready hfield hkeyed hperm horderly h

/-- **Sorting documents without a NaN arranges them stably**, for every sort document that can be
read; a compiled one does not tell how documents with keys of their own were inserted. -/
theorem Store.sorted_stable {spec : Document} {keys : List SortKey} {documents : List Document}
    (hkeys : SortKey.ofDocument spec = .ok keys)
    (hvalues : ∀ d ∈ documents, ∀ key ∈ keys, (d.lookup? key.field).all fun v => !v.hasNaN) :
    ∃ sorted, Store.sorted (some spec) documents = .ok sorted ∧
      StableSort keys documents sorted ∧
      ∀ (sort : List SortKey) (idField : String),
        spec = (SortOrder.compile sort idField).toDocument → Keyed documents →
        InsertionBlind sort idField documents sorted := by
  have hplaced : ∀ d ∈ documents, d.placedAt keys :=
    fun d hd => Document.placedAt_iff.2 (hvalues d hd)
  refine ⟨sortBy keys documents, sorted_eq hkeys documents, stableSort_sortBy hplaced, ?_⟩
  rintro sort idField rfl hkeyed
  obtain rfl := Except.ok.inj (hkeys.symm.trans (SortOrder.ofDocument_toDocument_compile ..))
  exact insertionBlind_sortBy hkeyed hplaced

namespace Shelf

/-- The shelf, filled from its other end. -/
def refilled : Memory := { store := { collections := [("products", documents.reverse)] } }

/-- The first page of an owner, dearest first. -/
theorem page_documents :
    (products.readAll (some (.string "alice")) none [.descending "price"] { limit := some 2 }
        memory).1
      = .ok ⟨[model documents[0], model documents[3]], true, some (ObjectId.ofNat 4).toHex⟩ := by
  have hr : products.backend = Memory.backend .ofNat := rfl
  have hpage := Repository.page_eq (s := memory.store) rfl (by decide) listing_eq listable_documents
    reference_listing (fun _ h => nomatch h)
  refine (congrArg Prod.fst (Repository.reads_readAll hr _ _ _ _ memory)).trans (hpage.trans ?_)
  change (products.loadAll ((listing.left none documents).take 2)).map
    (fun items => Page.ofItems items (listing.cursorAfter (listing.left none documents))) = _
  rw [left_documents]
  rfl

/-- The shelf by falling price, the products at one price by their keys.  The shelf that was filled
from its other end gives the same list and the same page. -/
theorem sorted_documents :
    let order : SortOrder := .compile [.descending "price"] "id"
    SortKey.ofDocument order.toDocument = .ok order.keys ∧
    (∀ d ∈ documents, ∀ key ∈ order.keys, (d.lookup? key.field).all fun v => !v.hasNaN) ∧
    StableSort order.keys documents [documents[1], documents[0], documents[3], documents[2]] ∧
    Store.sorted (some order.toDocument) documents.reverse
      = .ok [documents[1], documents[0], documents[3], documents[2]] ∧
    (products.readAll (some (.string "alice")) none [.descending "price"] { limit := some 2 }
        refilled).1
      = .ok ⟨[model documents[0], model documents[3]], true, some (ObjectId.ofNat 4).toHex⟩ := by
  intro order
  have hkeys : SortKey.ofDocument order.toDocument = .ok order.keys := rfl
  have hvalues : ∀ d ∈ documents, ∀ key ∈ order.keys,
      (d.lookup? key.field).all fun v => !v.hasNaN := by decide
  obtain ⟨sorted, -, hstable, hblind⟩ := Store.sorted_stable hkeys hvalues
  have hblind := hblind _ _ rfl keyed_documents
  have hperm : (refilled.store.documents products.config.collection).Perm documents :=
    List.reverse_perm documents
  have hsorted : sorted = [documents[1], documents[0], documents[3], documents[2]] := by
    refine eq_of_rising (hstable.perm.trans ?_) hblind.rising (by decide)
    exact (List.Perm.swap ..).trans (.cons _ (.cons _ (.swap ..)))
  rw [hsorted] at hstable hblind
  exact ⟨hkeys, hvalues, hstable, hblind.same _ hperm,
    hblind.readAll (r := products) (m := memory) rfl rfl (by decide) rfl hperm rfl _ _ _ _
      page_documents⟩

end Shelf

end KeysetStore
