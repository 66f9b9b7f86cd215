import KeysetStore.Proofs.BoundedWalk

/-!
# Proofs/FurtherPage — a page that promises more is followed by more

A page has a successor where more documents are left than it shows.  Whether the next page shows them
depends on the keyset of its last document: it has to reach what the order puts next.  It does where
every key holds values of one kind that has an order, besides nulls (`Uniform`), and then the next
page shows something, and nothing of the page before (`Repository.further_of_hasMore`).

A kind without an order of its own has a place in the sort and none in the keyset: of two documents
that tie on such a value the keyset of the first does not reach the second, and the page that was
promised is empty (`Shelf.promised_empty`).
-/

namespace KeysetStore

/-! ## Keys that a keyset reaches across -/

/-- Null and the undefined value order alike, and nothing else does. -/
theorem Value.orderKey_eq_null {v : Value} (h : v.orderKey = .null) :
    v = .null ∨ v = .undefined := by
  cases v
  case null => exact .inl rfl
  case undefined => exact .inr rfl
  all_goals cases h

/-- **Going up, nulls that are there tie with each other**, and none of them is beyond another. -/
theorem Keyset.decides_of_nulls {reference d : Document} {key : SortKey} {v w : Value}
    (hpath : isOperator key.field = false) (hdirection : key.direction = .ascending)
    (hreference : reference.lookup? key.field = some v) (hv : v.orderKey = .null)
    (hd : d.lookup? key.field = some w) (hw : w.orderKey = .null) : Decides reference d key := by
  have htie : compareAt key d reference = .eq := by
    rw [compareAt_eq, referenceValue, hreference, hd, hdirection]
    simp only [Option.getD_some, hv, hw]
    rfl
  refine ⟨hpath, ?_, false, false, ?_, ?_, by rw [htie]; rfl⟩
  · rw [htie, referenceValue, hreference, hd]
    refine holds_operator (by decide) (by decide) ?_
    rcases Value.orderKey_eq_null hv with rfl | rfl <;>
      rcases Value.orderKey_eq_null hw with rfl | rfl <;> rfl
  · rw [hdirection, referenceValue, hreference, hd]
    rcases Value.orderKey_eq_null hv with rfl | rfl <;>
      refine holds_operator (by decide) (by decide) ?_ <;>
      rcases Value.orderKey_eq_null hw with rfl | rfl <;> rfl
  · simp [nullBelow?, hdirection, lastHolds]

theorem SortKind.not_admits_array (kind : SortKind) (items : List Value) :
    ¬ kind.admits (.array items) := by
  rintro (h | h) <;> cases h

theorem SortKind.not_admits_undefined (kind : SortKind) : ¬ kind.admits .undefined := by
  rintro (h | h) <;> cases h

/-- **Values that a key reaches across**: of one kind that has an order, besides nulls and missing
ones.  Going up, nulls and undefined values will do as well, if none is missing. -/
def SortKey.Alike (key : SortKey) (documents : List Document) : Prop :=
  (∃ kind : SortKind, ∀ d ∈ documents, kind.admits (Keyset.referenceValue d key.field)) ∨
    (key.direction = .ascending ∧
      ∀ d ∈ documents, ∃ v, d.lookup? key.field = some v ∧ v.orderKey = .null)

/-- **Documents that keysets reach across**: the fields of the keys are paths, and the values under
each key but the primary one are alike. -/
structure Uniform (keys : List SortKey) (documents : List Document) : Prop where
  path : ∀ key ∈ keys, isOperator key.field = false
  alike : ∀ key ∈ keys, key.field ≠ primaryKey → key.Alike documents

namespace Uniform

variable {keys : List SortKey} {documents : List Document}

/-- Under every key, the primary key included, the values are alike. -/
theorem alike_of_mem (h : Uniform keys documents) (hkeyed : Keyed documents) {key : SortKey}
    (hkey : key ∈ keys) : key.Alike documents := by
  by_cases hid : key.field = primaryKey
  · exact .inl ⟨.objectId, fun d hd => hid ▸ hkeyed.admits_primaryKey hd⟩
  · exact h.alike key hkey hid

theorem decides (h : Uniform keys documents) (hkeyed : Keyed documents)
    {reference d : Document} (hreference : reference ∈ documents) (hd : d ∈ documents)
    {key : SortKey} (hkey : key ∈ keys) : Keyset.Decides reference d key := by
  rcases h.alike_of_mem hkeyed hkey with ⟨kind, hkind⟩ | ⟨hdirection, hnulls⟩
  · exact (hkeyed.comparable hd (h.path key hkey) (hkind _ hreference) (hkind d hd)).decides
  · obtain ⟨v, hv, hnull⟩ := hnulls reference hreference
    obtain ⟨w, hw, hnull'⟩ := hnulls d hd
    exact Keyset.decides_of_nulls (h.path key hkey) hdirection hv hnull hw hnull'

theorem walkable (h : Uniform keys documents) (hkeyed : Keyed documents) :
    Walkable keys documents := by
  refine ⟨h.path, fun d hd key hkey => ?_, fun key hkey d hd items hitems => ?_,
    fun key hkey hdirection d hd hundefined => ?_⟩
  · rw [Keyset.orderKeyAt_eq]
    rcases h.alike_of_mem hkeyed hkey with ⟨kind, hkind⟩ | ⟨-, hnulls⟩
    · exact SortKind.placed_of_admits (hkind d hd)
    · obtain ⟨v, hv, hnull⟩ := hnulls d hd
      rw [Keyset.referenceValue, hv, Option.getD_some, hnull]
      rfl
  · rcases h.alike_of_mem hkeyed hkey with ⟨kind, hkind⟩ | ⟨-, hnulls⟩
    · refine kind.not_admits_array items ?_
      simpa [Keyset.referenceValue, hitems] using hkind d hd
    · obtain ⟨v, hv, hnull⟩ := hnulls d hd
      cases hv.symm.trans hitems
      cases hnull
  · rcases h.alike_of_mem hkeyed hkey with ⟨kind, hkind⟩ | ⟨hascending, -⟩
    · refine kind.not_admits_undefined ?_
      simpa [Keyset.referenceValue, hundefined] using hkind d hd
    · cases hascending.symm.trans hdirection

/-- **The keyset of a document means what comes after it.** -/
theorem meets_after {spec : List SortKey} {idField : String}
    (h : Uniform (SortOrder.compile spec idField).keys documents) (hkeyed : Keyed documents)
    {reference d : Document} (hreference : reference ∈ documents) (hd : d ∈ documents) :
    d.meets (Keyset.after (.compile spec idField) reference)
      = .ok (Document.isAfter (SortOrder.compile spec idField).keys reference d) := by
  obtain ⟨others, direction, hkeys, -⟩ := SortOrder.exists_compile_eq spec idField
  obtain ⟨id, hid⟩ := hkeyed.key reference hreference
  exact Keyset.meets_after ⟨⟨primaryKey, direction⟩, by simp [hkeys], rfl⟩ hid
    fun key hkey => h.decides hkeyed hreference hd hkey

end Uniform

/-! ## The page after a page -/

namespace Repository

variable {α : Type} {r : Repository Memory α} {supply : Nat → ObjectId} {scope : Option Value}
  {filter : Option Document} {sort : List SortKey} {request : Pagination} {m : Memory}
  {page : Page α} {l : Listing} {base : Document} {start : Option Document}

/-- **What follows the last document shown is left behind it**, so the next page shows it. -/
theorem Answers.mem_remaining_next {last idle : Document}
    (h : r.Answers m.store scope filter sort request page l base start)
    (hkeyed : Keyed (m.store.documents r.config.collection))
    (huniform : Uniform (SortOrder.compile sort r.config.idField).keys
      (m.store.documents r.config.collection))
    (hlimit : 0 < l.limit)
    (hmore : l.limit < (l.remaining base start (m.store.documents r.config.collection)).length)
    (hlast : ((l.remaining base start (m.store.documents r.config.collection)).take
      l.limit).getLast? = some last)
    (hidle : ∀ d ∈ m.store.documents r.config.collection,
      Document.fits idle d = Document.fits base d) :
    (l.remaining base start (m.store.documents r.config.collection))[l.limit]
      ∈ ({ l with reference := last.key? } : Listing).remaining idle (some last)
        (m.store.documents r.config.collection) := by
  have hrising := h.pairwise_remaining hkeyed (huniform.walkable hkeyed)
  have hmem : ∀ d ∈ l.remaining base start (m.store.documents r.config.collection), _ ∧ _ ∧ _ :=
    fun d hd => Listing.mem_remaining.1 hd
  generalize l.remaining base start (m.store.documents r.config.collection) = left at *
  have hbound : l.limit - 1 < left.length := by omega
  rw [List.getLast?_take, if_neg (Nat.ne_of_gt hlimit), List.getElem?_eq_getElem hbound,
    Option.some_or] at hlast
  obtain rfl := Option.some.inj hlast
  obtain ⟨hstored, hfits, -⟩ := hmem _ (List.getElem_mem hmore)
  obtain ⟨hreference, -, -⟩ := hmem _ (List.getElem_mem hbound)
  refine Listing.mem_remaining.2 ⟨hstored, (hidle _ hstored).trans hfits, ?_⟩
  rintro reference ⟨⟩
  have hlt := List.pairwise_iff_getElem.1 hrising _ _ hbound hmore (by omega)
  change Document.fits (Keyset.after l.order _) _ = true
  rw [h.order, Document.fits_of_meets (huniform.meets_after hkeyed hreference hstored),
    Document.isAfter, decide_eq_true_eq]
  exact compareBy_eq_gt_iff.2 hlt

/-- A page that follows a page shows nothing of it. -/
theorem Answers.disjoint_shown {request' : Pagination} {page' : Page α} {l' : Listing}
    {base' : Document} {start' : Option Document}
    (h : r.Answers m.store scope filter sort request page l base start)
    (h' : r.Answers m.store scope filter sort request' page' l' base' start')
    (hkeyed : Keyed (m.store.documents r.config.collection))
    (hwalkable : Walkable (SortOrder.compile sort r.config.idField).keys
      (m.store.documents r.config.collection))
    (hafter : request.after page = some request') :
    ∀ d ∈ r.shown scope filter sort ⟨request', m, page'⟩,
      d ∉ r.shown scope filter sort ⟨request, m, page⟩ := by
  have hascends : ∀ s ∈ [r.stretch scope filter sort ⟨request, m, page⟩,
      r.stretch scope filter sort ⟨request', m, page'⟩],
      s.Ascends (SortOrder.compile sort r.config.idField).keys := by
    simpa using ⟨h.ascends hkeyed hwalkable, h'.ascends hkeyed hwalkable⟩
  have hrising := (Stretch.rising_of_ascends hascends ⟨h.follows h' hkeyed hafter, trivial⟩).1
  rw [List.flatMap_cons, List.flatMap_singleton, List.pairwise_append] at hrising
  intro d hd' hd
  have hlt := hrising.2.2 d hd d hd'
  rw [compareBy_self] at hlt
  cases hlt

/-- **A page that promises more is followed by more.**  Where the keys hold values of one kind that
has an order, besides nulls: after a page that has a successor, the cursor it names gives a page that
is not empty and that shows no document of the page before. -/
theorem further_of_hasMore {config : Config} {codec : Codec α} {model : Document → α}
    (hr : ofConfig (Memory.backend supply) config codec = .ok r)
    (hfield : r.config.scopeField ≠ primaryKey)
    (hkeyed : Keyed (m.store.documents r.config.collection))
    (huniform : Uniform (SortOrder.compile sort r.config.idField).keys
      (m.store.documents r.config.collection))
    (hload : ∀ d ∈ m.store.documents r.config.collection,
      r.codec.load r.config.idField d = .ok (model d))
    (hread : (r.readAll scope filter sort request m).1 = .ok page) (hmore : page.hasMore = true) :
    ∃ next page', request.after page = some next ∧
      r.readAll scope filter sort next m = (.ok page', m) ∧ page'.items ≠ [] ∧
      r.loadAll (r.shown scope filter sort ⟨request, m, page⟩) = .ok page.items ∧
      r.loadAll (r.shown scope filter sort ⟨next, m, page'⟩) = .ok page'.items ∧
      ∀ d ∈ r.shown scope filter sort ⟨next, m, page'⟩,
        d ∉ r.shown scope filter sort ⟨request, m, page⟩ := by
  obtain ⟨hvalid, hbackend⟩ := of_ofConfig hr
  have hwalkable := huniform.walkable hkeyed
  have hpage : r.page m.store scope filter sort request = .ok page :=
    (congrArg Prod.fst (reads_readAll hbackend scope filter sort request m)).symm.trans hread
  obtain ⟨l, base, start, h⟩ := exists_answers_of_walkable hkeyed hwalkable hfield hpage
  obtain ⟨items, hitems, hcut⟩ := h.page
  obtain ⟨next, hnext⟩ : ∃ next, request.after page = some next := by
    rw [hcut, Page.hasMore_ofItems] at hmore
    obtain ⟨cursor, hcursor⟩ := Option.isSome_iff_exists.1 hmore
    exact ⟨_, by rw [hcut]; exact congrArg (Option.map _) hcursor⟩
  obtain ⟨page', idle, last, hcount, hlast, hidle, h'⟩ :=
    h.exists_next hfield hkeyed (exists_meets_of_walkable hkeyed hwalkable) hload hnext
  have hlimit : 0 < l.limit :=
    Config.pageSize_pos hvalid (listing_eq_ok_iff.1 h.listing).1
  have hfollowing := h.mem_remaining_next hkeyed huniform hlimit hcount hlast hidle
  obtain ⟨items', hitems', hcut'⟩ := h'.page
  refine ⟨next, page', hnext, (reads_readAll hbackend scope filter sort next m).trans
    (congrArg (·, m) (h'.reads hkeyed)), ?_, ?_, ?_, h.disjoint_shown h' hkeyed hwalkable hnext⟩
  · rw [loadAll_eq_map fun d hd =>
      hload d (Listing.mem_remaining.1 (List.mem_of_mem_take hd)).1] at hitems'
    rw [hcut', ← Except.ok.inj hitems']
    change List.map model _ ≠ []
    rw [Ne, List.map_eq_nil_iff, List.take_eq_nil_iff, not_or]
    exact ⟨Nat.ne_of_gt hlimit, List.ne_nil_of_mem hfollowing⟩
  · rw [h.shown_eq, hitems, hcut]
    rfl
  · rw [h'.shown_eq, hitems', hcut']
    rfl

end Repository

/-! ## Promises kept and broken -/

namespace Shelf

theorem uniform_documents : Uniform listing.order.keys documents :=
  ⟨listable_documents.sortable.path, fun key hkey hid =>
    .inl (listable_documents.sortable.uniform key hkey hid)⟩

/-- Behind the first page of her products, Alice finds another one. -/
theorem further_documents :
    products.readAll (some (.string "alice")) none [.descending "price"] { limit := some 2 } memory
      = (.ok ⟨[model documents[0], model documents[3]], true, some (ObjectId.ofNat 4).toHex⟩,
          memory) ∧
    ∃ page', products.readAll (some (.string "alice")) none [.descending "price"]
        { limit := some 2, cursor := some (ObjectId.ofNat 4).toHex } memory
      = (.ok page', memory) ∧ page'.items ≠ [] := by
  have hr : Repository.ofConfig (Memory.backend .ofNat) products.config Codec.value
      = .ok products := rfl
  obtain ⟨next, page', hnext, hread, hitems, -⟩ := Repository.further_of_hasMore (m := memory) hr
    (by decide) keyed_documents uniform_documents (fun _ hd => load_documents hd)
    (congrArg Prod.fst read_first) rfl
  obtain rfl := Option.some.inj hnext
  exact ⟨read_first, page', hread, hitems⟩

/-- Two products whose prices are sealed in bytes. -/
def sealed : List Document :=
  [[("_id", .objectId (.ofNat 1)), ("price", .binary 0 [1])],
    [("_id", .objectId (.ofNat 2)), ("price", .binary 0 [2])]]

/-- The two products as a collection. -/
def vault : Memory := { store := { collections := [("products", sealed)] } }

/-- The two products, one a page, cheapest first. -/
def singly : Listing := { cheapest with limit := 1 }

theorem sorted_sealed : sortBy singly.order.keys sealed = sealed :=
  (Orderly.eq_sortBy ⟨by decide, by decide⟩ (.refl _) (by decide)).symm

/-- The keyset of the first product lets none through. -/
theorem meets_sealed : ∃ narrowed, Document.conjoin [] (Keyset.after singly.order sealed[0])
    = .ok narrowed ∧ ∀ d ∈ sealed, d.meets narrowed = .ok false := by
  refine ⟨_, rfl, fun d hd => ?_⟩
  rcases List.mem_cons.1 hd with rfl | hd
  · rfl
  · obtain rfl := List.mem_singleton.1 hd
    rfl

theorem listing_singly : products.listing none none [.ascending "price"] { limit := some 1 }
    = .ok singly := rfl

/-- **A kind without an order breaks the promise**: the page of the first product says that there is
more, and its cursor gives an empty page. -/
theorem promised_empty :
    products.readAll none none [.ascending "price"] { limit := some 1 } vault
      = (.ok ⟨[model sealed[0]], true, some (ObjectId.ofNat 1).toHex⟩, vault) ∧
    products.readAll none none [.ascending "price"]
      { limit := some 1, cursor := some (ObjectId.ofNat 1).toHex } vault
      = (.ok ⟨[], false, none⟩, vault) := by
  constructor
  · have hmeets : ∀ d ∈ vault.store.documents products.config.collection,
        d.meets [] = .ok true := fun _ _ => rfl
    rw [Repository.readAll_of_narrowed rfl rfl listing_singly rfl hmeets, List.filter_true]
    exact congrArg (fun found => (products.pageOf 1 (found.take 2), vault)) sorted_sealed
  · obtain ⟨narrowed, hconjoin, hmeets⟩ := meets_sealed
    have hnarrowed : products.narrowed vault.store none
        { singly with reference := some (.ofNat 1) } = .ok narrowed :=
      bind_eq_ok_iff.2 ⟨sealed[0], rfl, hconjoin⟩
    rw [Repository.readAll_of_narrowed rfl rfl (Repository.listing_after listing_singly (.ofNat 1))
      hnarrowed hmeets, List.filter_false]
    exact congrArg (fun found => (products.pageOf 1 (found.take 2), vault)) List.mergeSort_nil

end Shelf

end KeysetStore
