import KeysetStore.Proofs.ListingPage

/-!
# Proofs/PageWalk — a walk is the listing cut by offset

A page names its last document, and the next page continues after it.  Since what is left after that
document is the rest of what was left before (`Listable.left_getElem`), the pages of a walk over a
store that stays as it is are the runs of one sorted list: `Repository.walk_eq_slices` by induction
on the pages asked for, with the documents left as what changes from page to page.
-/

namespace KeysetStore

/-! ## Cutting by offset -/

/-- **How many pages show a number of documents**, `size` on each.  Nothing still has a page. -/
def pageCount (size count : Nat) : Nat := max 1 ((count + size - 1) / size)

theorem pageCount_of_le {size count : Nat} (hsize : 0 < size) (h : count ≤ size) :
    pageCount size count = 1 := by
  have : (count + size - 1) / size < 2 := by
    rw [Nat.div_lt_iff_lt_mul hsize]
    omega
  rw [pageCount]
  omega

/-- Documents that do not fit on a page have one page more than those behind it. -/
theorem pageCount_of_lt {size count : Nat} (hsize : 0 < size) (h : size < count) :
    pageCount size count = pageCount size (count - size) + 1 := by
  have hstep : (count + size - 1) / size = (count - size + size - 1) / size + 1 := by
    rw [← Nat.add_div_right _ hsize]
    congr 1
    omega
  have hpos : 1 ≤ (count - size + size - 1) / size := by
    rw [Nat.le_div_iff_mul_le hsize]
    omega
  rw [pageCount, pageCount, hstep]
  omega

namespace Page

variable {α : Type} {model : Document → α} {size : Nat} {documents : List Document}

/-- **A page cut by offset**: the documents from `k * size` up to `(k + 1) * size`.  Where the list
goes on, the page says so and names its last document. -/
def slice (model : Document → α) (size : Nat) (documents : List Document) (k : Nat) : Page α :=
  let shown := (documents.drop (k * size)).take size
  let more := (k + 1) * size < documents.length
  { items := shown.map model
    hasMore := more
    nextCursor :=
      if more then shown.getLast?.bind fun last => last.key?.map ObjectId.toHex else none }

/-- Behind the first page, the pages are those of the rest. -/
theorem slice_succ (k : Nat) :
    slice model size documents (k + 1) = slice model size (documents.drop size) k := by
  have hoffset : (documents.drop size).drop (k * size) = documents.drop ((k + 1) * size) := by
    rw [List.drop_drop, Nat.succ_mul, Nat.add_comm]
  have hmore : (k + 1) * size < (documents.drop size).length
      ↔ (k + 1 + 1) * size < documents.length := by
    rw [List.length_drop, Nat.succ_mul (k + 1)]
    omega
  simp only [slice, hoffset, hmore]

/-- **The pages of a list that goes on behind the first page**: that page, and those of the rest. -/
theorem slices_of_lt (model : Document → α) (hsize : 0 < size) (h : size < documents.length) (bound : Nat) :
    (List.range (min (bound + 1) (pageCount size documents.length))).map
        (slice model size documents)
      = slice model size documents 0
        :: (List.range (min bound (pageCount size (documents.drop size).length))).map
          (slice model size (documents.drop size)) := by
  rw [pageCount_of_lt hsize h, Nat.add_min_add_right, List.length_drop, List.range_succ_eq_map,
    List.map_cons, List.map_map]
  congr 1
  exact List.map_congr_left fun k _ => slice_succ k

end Page

namespace Listing

variable {l : Listing} {left : List Document}

/-- **A page names a document exactly where more are left.** -/
theorem isSome_cursorAfter (hlimit : 0 < l.limit) (hkeyed : ∀ d ∈ left, ∃ id, d.key? = some id) :
    (l.cursorAfter left).isSome = decide (l.limit < left.length) := by
  rw [cursorAfter]
  split
  · next h =>
    cases hlast : (left.take l.limit).getLast? with
    | none =>
      have hempty := congrArg List.length (List.getLast?_eq_none_iff.1 hlast)
      rw [List.length_take, List.length_nil] at hempty
      omega
    | some last =>
      obtain ⟨key, hkey⟩ := hkeyed last (List.mem_of_mem_take (List.mem_of_getLast? hlast))
      simp [hkey, h]
  · next h => simp [h]

/-- The first page of what a listing has left is cut at offset zero. -/
theorem ofItems_cursorAfter {α : Type} {model : Document → α} (hlimit : 0 < l.limit)
    (hkeyed : ∀ d ∈ left, ∃ id, d.key? = some id) :
    Page.ofItems ((left.take l.limit).map model) (l.cursorAfter left)
      = Page.slice model l.limit left 0 := by
  rw [Page.ofItems, isSome_cursorAfter hlimit hkeyed]
  simp [Page.slice, cursorAfter]

end Listing

/-! ## Walking -/

namespace Repository

variable {α : Type}

section Steps

variable {σ : Type} {r : Repository σ α} {scope : Option Value} {filter : Option Document}
  {sort : List SortKey} {request next : Pagination} {page : Page α} {m m' : σ}

/-- A walk ends with a page that has no successor. -/
theorem walk_last (hpage : r.readAll scope filter sort request m = (.ok page, m'))
    (hafter : request.after page = none) (bound : Nat) :
    r.walk scope filter sort (bound + 1) request m = ([.ok page], m') := by
  have hrun : (r.readAll scope filter sort request).run m = (.ok page, m') := hpage
  rw [walk]
  simp only [bind, StateT.bind, hrun, hafter]
  rfl

/-- A walk goes on from a page to its successor. -/
theorem walk_next (hpage : r.readAll scope filter sort request m = (.ok page, m'))
    (hafter : request.after page = some next) (bound : Nat) :
    r.walk scope filter sort (bound + 1) request m
      = (.ok page :: (r.walk scope filter sort bound next m').1,
          (r.walk scope filter sort bound next m').2) := by
  have hrun : (r.readAll scope filter sort request).run m = (.ok page, m') := hpage
  rw [walk]
  simp only [bind, StateT.bind, hrun, hafter]
  rfl

/-- A repository has a usable setup, and the backend it was given. -/
theorem of_ofConfig {backend : Backend σ} {config : Config} {codec : Codec α}
    (h : ofConfig backend config codec = .ok r) :
    r.config.validate = .ok () ∧ r.backend = backend := by
  obtain ⟨⟨⟩, hvalid, rfl⟩ := map_eq_ok_iff.1 h
  exact ⟨hvalid, rfl⟩

end Steps

section Pages

variable {r : Repository Memory α} {supply : Nat → ObjectId} {m : Memory} {scope : Option Value}
  {filter : Option Document} {sort : List SortKey} {request : Pagination} {l : Listing}
  {start : Option Document} {model : Document → α}

/-- **One page of a listing is the first slice of what it has left.** -/
theorem readAll_eq_slice (hr : r.backend = Memory.backend supply) (hready : m.store.ready)
    (hfield : r.config.scopeField ≠ primaryKey) (hlimit : 0 < l.limit)
    (hl : r.listing scope filter sort request = .ok l)
    (h : Listable l (m.store.documents r.config.collection))
    (hreference : l.reference = start.bind (·.key?))
    (hstart : ∀ reference ∈ start, reference ∈ m.store.documents r.config.collection ∧
      reference.inScope (r.owner scope) = true)
    (hload : ∀ d ∈ l.left start (m.store.documents r.config.collection),
      r.codec.load r.config.idField d = .ok (model d)) :
    r.readAll scope filter sort request m
      = (.ok (.slice model l.limit (l.left start (m.store.documents r.config.collection)) 0), m) := by
  rw [reads_readAll hr scope filter sort request m]
  dsimp only
  rw [page_eq hready hfield hl h hreference hstart,
    loadAll_eq_map fun d hd => hload d (List.mem_of_mem_take hd), Except.map,
    Listing.ofItems_cursorAfter hlimit fun d hd => h.keyed.key d (Listable.mem_left.1 hd).1]

/-- A first slice that holds everything has no successor. -/
theorem after_slice_of_le {left : List Document} {size : Nat} (h : left.length ≤ size) :
    request.after (.slice model size left 0) = none := by
  have hmore : ¬ size < left.length := Nat.not_lt.2 h
  simp [Pagination.after, Page.slice, hmore]

/-- The successor of a first slice continues after the last document of the slice. -/
theorem after_slice_of_lt {left : List Document} {size : Nat} {last : Document} {key : ObjectId}
    (h : size < left.length) (hlast : (left.take size).getLast? = some last)
    (hkey : last.key? = some key) :
    request.after (.slice model size left 0)
      = some { limit := request.limit, cursor := some key.toHex } := by
  simp [Pagination.after, Page.slice, h, hlast, hkey]

end Pages

/-- **A walk is the listing cut by offset.**  Over a store that stays as it is, from the beginning or
from a document in scope, the `k`-th page is the `k`-th slice of the documents left, in order, and
the walk ends with the last slice: nothing is lost, repeated or reordered. -/
theorem walk_eq_slices {supply : Nat → ObjectId} {config : Config} {codec : Codec α}
    {r : Repository Memory α} {m : Memory} {scope : Option Value} {filter : Option Document}
    {sort : List SortKey} {request : Pagination} {l : Listing} {start : Option Document}
    {model : Document → α} (hr : ofConfig (Memory.backend supply) config codec = .ok r)
    (hready : m.store.ready) (hfield : r.config.scopeField ≠ primaryKey)
    (hl : r.listing scope filter sort request = .ok l)
    (h : Listable l (m.store.documents r.config.collection))
    (hreference : l.reference = start.bind (·.key?))
    (hstart : ∀ reference ∈ start, reference ∈ m.store.documents r.config.collection ∧
      reference.inScope (r.owner scope) = true)
    (hload : ∀ d ∈ l.left start (m.store.documents r.config.collection),
      r.codec.load r.config.idField d = .ok (model d)) (bound : Nat) :
    r.walk scope filter sort bound request m
      = ((List.range (min bound
            (pageCount l.limit (l.left start (m.store.documents r.config.collection)).length))).map
          fun k => .ok (.slice model l.limit
            (l.left start (m.store.documents r.config.collection)) k), m) := by
  obtain ⟨hvalid, hbackend⟩ := of_ofConfig hr
  induction bound generalizing request l start with
  | zero => simp [walk]; rfl
  | succ bound ih =>
    obtain ⟨hsize, -, hselector, horder, -⟩ := listing_eq_ok_iff.1 hl
    have hlimit : 0 < l.limit := Config.pageSize_pos hvalid hsize
    have hpage := readAll_eq_slice hbackend hready hfield hlimit hl h hreference hstart hload
    rcases Nat.lt_or_ge l.limit (l.left start (m.store.documents r.config.collection)).length
      with hmore | hall
    · -- The walk goes on after the last document shown, with the rest of what was left.
      obtain ⟨last, hmem, hlast, hrest⟩ :=
        h.exists_last horder (fun d hd => (hstart d hd).1) hlimit hmore
      obtain ⟨hstored, hleaves⟩ := Listable.mem_left.1 hmem
      obtain ⟨key, hkey⟩ := h.keyed.key last hstored
      have hscope := (scope_of_meets hselector (h.meets hstored)).2 (Bool.and_eq_true_iff.1 hleaves).1
      have hnext := ih (listing_after hl key) ⟨h.keyed, h.sortable, h.evaluates⟩
        (show some key = (some last).bind (·.key?) from hkey.symm) (fun d hd => Option.some.inj hd ▸ ⟨hstored, hscope⟩)
        (fun d hd => hload d (List.mem_of_mem_drop (hrest ▸ hd)))
      have hrest' : Listing.left { l with reference := some key } (some last)
          (m.store.documents r.config.collection) = _ := hrest
      rw [walk_next hpage (after_slice_of_lt hmore hlast hkey), hnext, hrest']
      have hslices := congrArg (List.map (Except.ok (ε := Error)))
        (Page.slices_of_lt model hlimit hmore bound)
      rw [List.map_cons, List.map_map, List.map_map] at hslices
      exact congrArg (·, m) hslices.symm
    · rw [walk_last hpage (after_slice_of_le hall), pageCount_of_le hlimit hall,
        Nat.min_eq_right (by omega)]
      rfl

end Repository

/-! ## A shelf of two owners -/

namespace Shelf

/-- A price that ties in two number types, a missing one, and the product of somebody else. -/
def documents : List Document :=
  [[("_id", .objectId (.ofNat 1)), ("userId", .string "alice"), ("price", .int32 5)],
    [("_id", .objectId (.ofNat 2)), ("userId", .string "bob"), ("price", .int32 9)],
    [("_id", .objectId (.ofNat 3)), ("userId", .string "alice")],
    [("_id", .objectId (.ofNat 4)), ("userId", .string "alice"), ("price", .double (.ofInt 5))]]

/-- The shelf as a collection. -/
def memory : Memory := { store := { collections := [("products", documents)] } }

/-- The repository of the shelf. -/
def products : Repository Memory Value :=
  ⟨{ collection := "products" }, Memory.backend .ofNat, Codec.value⟩

/-- The products of one owner, dearest first. -/
def listing : Listing := ⟨2, [("userId", .string "alice")], .compile [.descending "price"] "id", none⟩

/-- The model of a document that can be read. -/
def model (d : Document) : Value :=
  match products.codec.load products.config.idField d with
  | .ok v => v
  | .error _ => .null

theorem mem_documents {d : Document} : d ∈ documents ↔
    d = documents[0] ∨ d = documents[1] ∨ d = documents[2] ∨ d = documents[3] := by
  simp [documents]

theorem keyed_documents : Keyed documents := by
  have hkeys : ∀ d ∈ documents, d.key?.isSome := by decide
  exact ⟨fun d hd => Option.isSome_iff_exists.1 (hkeys d hd), by decide⟩

theorem listable_documents : Listable listing documents := by
  refine ⟨keyed_documents, ⟨by decide, fun key hkey hid => ⟨.number, fun d hd => ?_⟩⟩,
    fun d hd => ?_⟩
  · obtain rfl : key = .descending "price" := by
      rcases List.mem_cons.1 hkey with rfl | hkey
      · rfl
      · exact absurd (congrArg SortKey.field (List.mem_singleton.1 hkey)) hid
    rcases mem_documents.1 hd with rfl | rfl | rfl | rfl
    · exact .inr rfl
    · exact .inr rfl
    · exact .inl rfl
    · exact .inr rfl
  · rcases mem_documents.1 hd with rfl | rfl | rfl | rfl <;> exact ⟨_, rfl⟩

theorem load_documents {d : Document} (hd : d ∈ documents) :
    products.codec.load products.config.idField d = .ok (model d) := by
  rcases mem_documents.1 hd with rfl | rfl | rfl | rfl <;> rfl

theorem left_documents :
    listing.left none documents = [documents[0], documents[3], documents[2]] := by
  refine (Orderly.eq_sortBy ((listable_documents.orderly rfl).filter _) ?_ ?_).symm
  · exact .cons _ (.swap ..)
  · decide

theorem load_left : ∀ d ∈ listing.left none documents,
    products.codec.load products.config.idField d = .ok (model d) :=
  fun _ hd => load_documents (Listable.mem_left.1 hd).1

theorem listing_eq : products.listing (some (.string "alice")) none [.descending "price"]
    { limit := some 2 } = .ok listing := rfl

theorem reference_listing : listing.reference = (none : Option Document).bind (·.key?) := rfl

/-- The two products at one price and the one without a price, on two pages. -/
theorem walk_documents :
    products.walk (some (.string "alice")) none [.descending "price"] 5 { limit := some 2 } memory
      = ([.ok ⟨[model documents[0], model documents[3]], true, some (ObjectId.ofNat 4).toHex⟩,
          .ok ⟨[model documents[2]], false, none⟩], memory) := by
  have hr : Repository.ofConfig (Memory.backend .ofNat) products.config Codec.value
      = .ok products := rfl
  have hwalk := Repository.walk_eq_slices (m := memory) hr rfl (by decide) listing_eq
    listable_documents reference_listing (fun _ h => nomatch h) load_left 5
  rw [hwalk]
  change ((List.range (min 5 (pageCount 2 (listing.left none documents).length))).map
    fun k => Except.ok (Page.slice model 2 (listing.left none documents) k), memory) = _
  rw [left_documents]
  rfl

end Shelf

end KeysetStore
