import KeysetStore.Proofs.StoredReading

/-!
# Proofs/ListingPage — one page of a listing

A listing goes through documents with keys of their own, under an order that can place them, with a
selector that can be evaluated on each (`Listable`).  What it has left after a document is then a
strictly rising list (`Listing.left`, `Listable.pairwise_left`), and what is left after a document of
that list is the rest of it (`Listable.left_getElem`).  A page shows the first documents that are
left and names the last of them where there are more (`Repository.page_eq`).
-/

namespace KeysetStore

/-! ## Accepted listings -/

/-- The page size of a usable setup is not zero. -/
theorem Config.pageSize_pos {c : Config} {requested : Option Nat} {size : Nat}
    (hc : c.validate = .ok ()) (h : c.pageSize requested = .ok size) : 0 < size := by
  have hmost : c.maxPageSize ≠ some 0 := by
    intro hzero
    rw [validate, hzero] at hc
    split at hc
    · cases hc
    · split at hc
      · cases hc
      · simp at hc
  rw [pageSize] at h
  split at h
  · cases h
  · next hsize =>
    split at h
    · next most hsome =>
      obtain rfl := Except.ok.inj h
      have : most ≠ 0 := fun hzero => hmost (by rw [hsome, hzero])
      omega
    · obtain rfl := Except.ok.inj h
      omega

namespace Repository

variable {σ α : Type} {r : Repository σ α} {scope : Option Value} {filter : Option Document}
  {sort : List SortKey} {request : Pagination} {l : Listing}

/-- The key that the cursor of a request names, where it has a cursor. -/
def referenceOf (request : Pagination) : Except Error (Option ObjectId) :=
  match request.cursor with
  | some cursor => (keyOfCursor cursor).map some
  | none => .ok none

theorem referenceOf_toHex (limit : Option Nat) (key : ObjectId) :
    referenceOf { limit, cursor := some key.toHex } = .ok (some key) := by
  simp [referenceOf, keyOfCursor, Except.map]

/-- The checks of a listing, as a chain of steps. -/
theorem listing_eq (r : Repository σ α) (scope : Option Value) (filter : Option Document)
    (sort : List SortKey) (request : Pagination) :
    r.listing scope filter sort request
      = r.config.pageSize request.limit >>= fun limit =>
          if sizeLimit ≤ limit then .error (.pageSizeTooLarge limit)
          else r.selector scope filter >>= fun selector =>
            (referenceOf request).map fun reference =>
              ⟨limit, selector, .compile sort r.config.idField, reference⟩ := by
  rw [listing, referenceOf]
  refine bind_congr fun limit => ?_
  dsimp only
  split
  · rfl
  · refine bind_congr fun selector => ?_
    cases request.cursor with
    | none => rfl
    | some cursor => simp only; cases keyOfCursor cursor <;> rfl

/-- **What the checks of a listing say**, where they all pass. -/
theorem listing_eq_ok_iff :
    r.listing scope filter sort request = .ok l ↔
      r.config.pageSize request.limit = .ok l.limit ∧ l.limit < sizeLimit ∧
      r.selector scope filter = .ok l.selector ∧ l.order = .compile sort r.config.idField ∧
      referenceOf request = .ok l.reference := by
  rw [listing_eq, bind_eq_ok_iff]
  constructor
  · rintro ⟨limit, hlimit, h⟩
    split at h
    · cases h
    · next hbound =>
      obtain ⟨selector, hselector, h⟩ := bind_eq_ok_iff.1 h
      obtain ⟨reference, hreference, rfl⟩ := map_eq_ok_iff.1 h
      exact ⟨hlimit, Nat.lt_of_not_le hbound, hselector, rfl, hreference⟩
  · rintro ⟨hlimit, hbound, hselector, horder, hreference⟩
    refine ⟨l.limit, hlimit, ?_⟩
    rw [if_neg (Nat.not_le_of_lt hbound), bind_eq_ok_iff]
    refine ⟨l.selector, hselector, map_eq_ok_iff.2 ⟨l.reference, hreference, ?_⟩⟩
    rw [← horder]

/-- The sort document of a listing is read back as its keys. -/
theorem sortKeys_of_listing (h : r.listing scope filter sort request = .ok l) :
    SortKey.ofDocument l.order.toDocument = .ok l.order.keys := by
  obtain ⟨-, -, -, horder, -⟩ := listing_eq_ok_iff.1 h
  rw [horder]
  exact SortOrder.ofDocument_toDocument_compile ..

/-- **The listing of the next page** is the same one, after another document. -/
theorem listing_after (h : r.listing scope filter sort request = .ok l) (key : ObjectId) :
    r.listing scope filter sort { limit := request.limit, cursor := some key.toHex }
      = .ok { l with reference := some key } := by
  obtain ⟨hlimit, hbound, hselector, horder, -⟩ := listing_eq_ok_iff.1 h
  exact listing_eq_ok_iff.2 ⟨hlimit, hbound, hselector, horder, referenceOf_toHex _ key⟩

/-- The cursor of a page of documents that were fetched with one to look ahead. -/
def nextOf (limit : Nat) (documents : List Document) : Except Error (Option String) :=
  match (documents.take limit).getLast? with
  | some last => if limit < documents.length then (cursorOf last).map some else .ok none
  | none => .ok none

/-- Cutting a page, as a chain of steps. -/
theorem pageOf_eq (r : Repository σ α) (limit : Nat) (documents : List Document) :
    r.pageOf limit documents
      = nextOf limit documents >>= fun next =>
          (r.loadAll (documents.take limit)).map fun items => .ofItems items next := by
  rw [pageOf, nextOf]
  cases (documents.take limit).getLast? with
  | none => rfl
  | some last =>
    simp only
    split
    · cases cursorOf last <;> rfl
    · rfl

/-- Models of documents that can all be read. -/
theorem loadAll_eq_map {model : Document → α} {documents : List Document}
    (h : ∀ d ∈ documents, r.codec.load r.config.idField d = .ok (model d)) :
    r.loadAll documents = .ok (documents.map model) := by
  induction documents with
  | nil => rfl
  | cons d rest ih =>
    rw [loadAll, h d List.mem_cons_self, ih fun e he => h e (List.mem_cons_of_mem _ he)]
    rfl

end Repository

/-! ## What is left of a listing -/

namespace Listing

/-- Whether a listing has a document left after another one, or at all. -/
def leaves (l : Listing) (start : Option Document) (d : Document) : Bool :=
  Document.fits l.selector d && start.all fun reference => Document.isAfter l.order.keys reference d

/-- **What a listing has left after a document**, or all that it has: the documents that are meant
and come after, in order. -/
def left (l : Listing) (start : Option Document) (documents : List Document) : List Document :=
  sortBy l.order.keys (documents.filter (l.leaves start))

end Listing

/-- **Documents that a listing can go through**: they have keys of their own, the order can place
them, and the selector can be evaluated on each. -/
structure Listable (l : Listing) (documents : List Document) : Prop where
  keyed : Keyed documents
  sortable : Sortable l.order.keys documents
  evaluates : ∀ d ∈ documents, ∃ b, d.meets l.selector = .ok b

namespace Listable

variable {l : Listing} {documents : List Document} {start : Option Document}

theorem meets (h : Listable l documents) {d : Document} (hd : d ∈ documents) :
    d.meets l.selector = .ok (Document.fits l.selector d) :=
  Document.meets_eq_fits (h.evaluates d hd)

theorem sublist {some : List Document} (h : Listable l documents) (hs : some.Sublist documents) :
    Listable l some := by
  refine ⟨h.keyed.sublist hs, ⟨h.sortable.path, fun key hkey hid => ?_⟩,
    fun d hd => h.evaluates d (hs.subset hd)⟩
  obtain ⟨kind, hkind⟩ := h.sortable.uniform key hkey hid
  exact ⟨kind, fun d hd => hkind d (hs.subset hd)⟩

theorem mem_left {d : Document} :
    d ∈ l.left start documents ↔ d ∈ documents ∧ l.leaves start d = true := by
  rw [Listing.left, mem_sortBy, List.mem_filter]

section Compiled

variable {spec : List SortKey} {idField : String} (h : Listable l documents)
  (horder : l.order = .compile spec idField)
include h horder

theorem orderly : Orderly l.order.keys documents := by
  have hsortable := h.sortable
  rw [horder] at hsortable ⊢
  exact hsortable.orderly h.keyed

/-- The documents that are left may be selected after sorting. -/
theorem left_eq_filter (start : Option Document) :
    l.left start documents = (sortBy l.order.keys documents).filter (l.leaves start) :=
  (h.orderly horder).sortBy_filter _

/-- **What is left rises strictly.** -/
theorem pairwise_left (start : Option Document) :
    (l.left start documents).Pairwise fun a b => compareBy l.order.keys a b = .lt :=
  ((h.orderly horder).filter _).pairwise_sortBy

/-- What comes after a document that is left was left before it. -/
theorem leaves_of_isAfter {a d : Document} (hstart : ∀ reference ∈ start, reference ∈ documents)
    (ha : a ∈ l.left start documents) (hd : d ∈ documents)
    (hfits : Document.fits l.selector d = true) (hafter : Document.isAfter l.order.keys a d = true) :
    l.leaves start d = true := by
  have hplaced := (h.orderly horder).placed
  rw [mem_left, Listing.leaves, Bool.and_eq_true] at ha
  rw [Listing.leaves, hfits, Bool.true_and]
  cases start with
  | none => rfl
  | some reference =>
    have hreference : reference ∈ documents := hstart reference rfl
    have hra : compareBy l.order.keys reference a = .lt := by
      simpa [Document.isAfter, compareBy_eq_gt_iff] using ha.2.2
    have had : compareBy l.order.keys a d = .lt := by
      simpa [Document.isAfter, compareBy_eq_gt_iff] using hafter
    simpa [Document.isAfter, compareBy_eq_gt_iff] using
      compareBy_lt_trans (hplaced _ hreference) (hplaced a ha.1) (hplaced d hd) hra had

/-- **What is left after a document that is left is the rest of it.** -/
theorem left_getElem (hstart : ∀ reference ∈ start, reference ∈ documents) {i : Nat}
    (hi : i < (l.left start documents).length) :
    l.left (some (l.left start documents)[i]) documents
      = (l.left start documents).drop (i + 1) := by
  have hmem := List.getElem_mem hi
  generalize hlast : (l.left start documents)[i] = last at hmem
  have hsame : ∀ d ∈ sortBy l.order.keys documents, l.leaves (some last) d
      = (Document.isAfter l.order.keys last d && l.leaves start d) := by
    intro d hd
    rw [mem_sortBy] at hd
    rw [Listing.leaves, Option.all_some, Bool.eq_iff_iff, Bool.and_eq_true, Bool.and_eq_true]
    refine ⟨fun ⟨hfits, hafter⟩ => ⟨hafter, ?_⟩, fun ⟨hafter, hleaves⟩ => ⟨?_, hafter⟩⟩
    · exact h.leaves_of_isAfter horder hstart hmem hd hfits hafter
    · exact (Bool.and_eq_true_iff.1 hleaves).1
  calc l.left (some last) documents
      = (sortBy l.order.keys documents).filter
          fun d => Document.isAfter l.order.keys last d && l.leaves start d := by
        rw [h.left_eq_filter horder, List.filter_congr hsame]
    _ = (l.left start documents).filter (Document.isAfter l.order.keys last) := by
        rw [h.left_eq_filter horder, List.filter_filter]
    _ = (l.left start documents).drop (i + 1) := by
        rw [← hlast, filter_after_eq_drop (h.pairwise_left horder start) hi]

/-- **A listing that has more left than it shows** goes on after the last document shown, with the
rest. -/
theorem exists_last (hstart : ∀ reference ∈ start, reference ∈ documents) (hlimit : 0 < l.limit)
    (hmore : l.limit < (l.left start documents).length) :
    ∃ last ∈ l.left start documents,
      ((l.left start documents).take l.limit).getLast? = some last ∧
      l.left (some last) documents = (l.left start documents).drop l.limit := by
  have hlast : l.limit - 1 < (l.left start documents).length := by omega
  refine ⟨(l.left start documents)[l.limit - 1], List.getElem_mem hlast, ?_, ?_⟩
  · rw [List.getLast?_take, if_neg (Nat.ne_of_gt hlimit), List.getElem?_eq_getElem hlast,
      Option.some_or]
  · rw [h.left_getElem horder hstart hlast, Nat.sub_add_cancel hlimit]

end Compiled

end Listable

/-! ## One page -/

/-- The cursor of the last document shown, where more are left. -/
def Listing.cursorAfter (l : Listing) (left : List Document) : Option String :=
  if l.limit < left.length then
    (left.take l.limit).getLast?.bind fun last => last.key?.map ObjectId.toHex
  else none

/-- **A page with a successor** shows some document last, more are left behind it, and the next
request names it. -/
theorem Listing.exists_last_of_after {α : Type} {l : Listing} {left : List Document}
    {items : List α} {request next : Pagination}
    (h : request.after (.ofItems items (l.cursorAfter left)) = some next) :
    l.limit < left.length ∧ ∃ last key, (left.take l.limit).getLast? = some last ∧
      last.key? = some key ∧ next = { limit := request.limit, cursor := some key.toHex } := by
  obtain ⟨cursor, hcursor, rfl⟩ := Option.map_eq_some_iff.1 h
  change l.cursorAfter left = some cursor at hcursor
  rw [cursorAfter] at hcursor
  split at hcursor
  · next hmore =>
    obtain ⟨last, hlast, htext⟩ := Option.bind_eq_some_iff.1 hcursor
    obtain ⟨key, hkey, rfl⟩ := Option.map_eq_some_iff.1 htext
    exact ⟨hmore, last, key, hlast, hkey, rfl⟩
  · cases hcursor

namespace Repository

variable {σ α : Type} {r : Repository σ α} {s : Store} {scope : Option Value}
  {filter : Option Document} {sort : List SortKey} {request : Pagination} {l : Listing}

/-- **What a page that was read goes through**: its listing, a store that can be reached, and the
documents fetched. -/
theorem page_eq_ok_iff {page : Page α} :
    r.page s scope filter sort request = .ok page ↔ ∃ l documents,
      r.listing scope filter sort request = .ok l ∧ s.ready ∧ r.fetch s scope l = .ok documents ∧
      r.pageOf l.limit documents = .ok page := by
  rw [Repository.page, bind_eq_ok_iff]
  constructor
  · rintro ⟨l, hl, h⟩
    obtain ⟨_, hready, h⟩ := bind_eq_ok_iff.1 h
    obtain ⟨documents, hfetch, hpage⟩ := bind_eq_ok_iff.1 h
    exact ⟨l, documents, hl, (Store.whenReady_eq_ok_iff.1 hready).1, hfetch, hpage⟩
  · rintro ⟨l, documents, hl, hready, hfetch, hpage⟩
    refine ⟨l, hl, bind_eq_ok_iff.2 ⟨(), Store.whenReady_of_ready hready _, ?_⟩⟩
    exact bind_eq_ok_iff.2 ⟨documents, hfetch, hpage⟩

/-- **A listing fetches the first of the documents that its narrowed selector means**, in order, one
more than it shows. -/
theorem fetch_of_narrowed {selector : Document} {p : Document → Bool} (hready : s.ready)
    (hl : r.listing scope filter sort request = .ok l)
    (hnarrowed : r.narrowed s scope l = .ok selector)
    (hmeets : ∀ d ∈ s.documents r.config.collection, d.meets selector = .ok (p d)) :
    r.fetch s scope l
      = .ok ((sortBy l.order.keys ((s.documents r.config.collection).filter p)).take
          (l.limit + 1)) :=
  bind_eq_ok_iff.2 ⟨selector, hnarrowed,
    Store.find_eq hready hmeets (sortKeys_of_listing hl) (some (l.limit + 1))⟩

/-- A listing answers with the page of what it fetches. -/
theorem readAll_of_narrowed {supply : Nat → ObjectId} {r : Repository Memory α} {m : Memory}
    {selector : Document} {p : Document → Bool} (hr : r.backend = Memory.backend supply)
    (hready : m.store.ready) (hl : r.listing scope filter sort request = .ok l)
    (hnarrowed : r.narrowed m.store scope l = .ok selector)
    (hmeets : ∀ d ∈ m.store.documents r.config.collection, d.meets selector = .ok (p d)) :
    r.readAll scope filter sort request m
      = (r.pageOf l.limit ((sortBy l.order.keys
          ((m.store.documents r.config.collection).filter p)).take (l.limit + 1)), m) := by
  refine (reads_readAll hr scope filter sort request m).trans (congrArg (·, m) ?_)
  change r.page m.store scope filter sort request = _
  rw [Repository.page, hl, Store.whenReady_of_ready hready]
  change r.fetch m.store scope l >>= r.pageOf l.limit = _
  rw [fetch_of_narrowed hready hl hnarrowed hmeets]
  rfl

theorem mem_owner {pair : String × Value} (h : pair ∈ r.owner scope) :
    pair.1 = r.config.scopeField := by
  obtain ⟨v, -, rfl⟩ := Option.map_eq_some_iff.1 h
  rfl

section Locating

variable (hready : s.ready) (hfield : r.config.scopeField ≠ primaryKey)
  (hkeyed : Keyed (s.documents r.config.collection))
  (hscoped : ∀ d ∈ s.documents r.config.collection,
    d.meets (Document.ownedBy [] (r.owner scope)) = .ok (d.inScope (r.owner scope)))
include hready hfield hkeyed hscoped

/-- The document under a key is looked for among those in scope. -/
theorem locateIn_eq (key : ObjectId) :
    r.locateIn s scope key = .ok ((s.documents r.config.collection).find?
      fun d => d.key? == some key && d.inScope (r.owner scope)) := by
  refine Store.findOne_eq hready fun d hd => ?_
  obtain ⟨id, hid⟩ := hkeyed.key d hd
  refine Document.meets_keySelector (fun pair hpair => ?_) hid (hscoped d hd)
  rw [mem_owner hpair]
  exact hfield

/-- **A document in scope is found under its key.** -/
theorem locateIn_eq_some {d : Document} {key : ObjectId}
    (hd : d ∈ s.documents r.config.collection) (hkey : d.key? = some key)
    (hscope : d.inScope (r.owner scope) = true) : r.locateIn s scope key = .ok (some d) := by
  rw [locateIn_eq hready hfield hkeyed hscoped,
    hkeyed.find?_eq_some hd (by simp [hkey, hscope])]
  intro e _ he
  rw [Bool.and_eq_true, beq_iff_eq] at he
  rw [he.1, hkey]

end Locating

section Fetching

variable (hready : s.ready) (hfield : r.config.scopeField ≠ primaryKey)
  (hl : r.listing scope filter sort request = .ok l)
  (h : Listable l (s.documents r.config.collection))

include hl h in
/-- A listing says of each document whether it is in scope. -/
theorem scoped_of_listing : ∀ d ∈ s.documents r.config.collection,
    d.meets (Document.ownedBy [] (r.owner scope)) = .ok (d.inScope (r.owner scope)) := by
  obtain ⟨-, -, hselector, -, -⟩ := listing_eq_ok_iff.1 hl
  exact fun d hd => (scope_of_meets hselector (h.meets hd)).1

include hready hfield hl h

/-- The selector of a listing that continues after a document of its own. -/
theorem narrowed_meets {start : Option Document} (hreference : l.reference = start.bind (·.key?))
    (hstart : ∀ reference ∈ start,
      reference ∈ s.documents r.config.collection ∧ reference.inScope (r.owner scope) = true) :
    ∃ selector, r.narrowed s scope l = .ok selector ∧
      ∀ d ∈ s.documents r.config.collection, d.meets selector = .ok (l.leaves start d) := by
  obtain ⟨-, -, -, horder, -⟩ := listing_eq_ok_iff.1 hl
  rw [narrowed, hreference]
  cases start with
  | none =>
    refine ⟨l.selector, rfl, fun d hd => ?_⟩
    rw [h.meets hd, Listing.leaves, Option.all_none, Bool.and_true]
  | some reference =>
    obtain ⟨hmem, hscope⟩ := hstart reference rfl
    obtain ⟨key, hkey⟩ := h.keyed.key reference hmem
    obtain ⟨selector, hselector⟩ :=
      Document.exists_conjoin (h.meets hmem) (Keyset.after l.order reference)
    refine ⟨selector, ?_, fun d hd => ?_⟩
    · rw [Option.bind_some, hkey]
      refine bind_eq_ok_iff.2 ⟨reference, ?_, hselector⟩
      exact bind_eq_ok_iff.2 ⟨_, locateIn_eq_some hready hfield h.keyed (scoped_of_listing hl h)
        hmem hkey hscope, rfl⟩
    · refine Document.meets_conjoin (h.meets hd) (Keyset.meets_after ?_ hkey fun key hk => ?_)
        hselector
      · obtain ⟨others, direction, hkeys, -⟩ :=
          SortOrder.exists_compile_eq sort r.config.idField
        exact ⟨⟨primaryKey, direction⟩, by simp [horder, hkeys], rfl⟩
      · exact (h.sortable.comparable h.keyed hmem hd hk).decides

/-- **A listing fetches the first documents that it has left**, one more than it shows. -/
theorem fetch_eq {start : Option Document} (hreference : l.reference = start.bind (·.key?))
    (hstart : ∀ reference ∈ start,
      reference ∈ s.documents r.config.collection ∧ reference.inScope (r.owner scope) = true) :
    r.fetch s scope l
      = .ok ((l.left start (s.documents r.config.collection)).take (l.limit + 1)) := by
  obtain ⟨selector, hselector, hmeets⟩ := narrowed_meets hready hfield hl h hreference hstart
  exact fetch_of_narrowed hready hl hselector hmeets

/-- **A listing that fetches has found the document it continues after.** -/
theorem exists_start_of_fetch {documents : List Document}
    (hfetch : r.fetch s scope l = .ok documents) :
    ∃ start : Option Document, l.reference = start.bind (·.key?) ∧ ∀ reference ∈ start,
      reference ∈ s.documents r.config.collection ∧ reference.inScope (r.owner scope) = true := by
  obtain ⟨selector, hselector, -⟩ := bind_eq_ok_iff.1 hfetch
  rw [narrowed] at hselector
  cases hkey : l.reference with
  | none => exact ⟨none, rfl, fun _ hnone => nomatch hnone⟩
  | some key =>
    rw [hkey] at hselector
    obtain ⟨reference, hresolve, -⟩ := bind_eq_ok_iff.1 hselector
    obtain ⟨found, hfound, hreference⟩ := bind_eq_ok_iff.1 hresolve
    rw [locateIn_eq hready hfield h.keyed (scoped_of_listing hl h), Except.ok.injEq] at hfound
    cases found with
    | none => cases hreference
    | some d =>
      have hsome := List.find?_some hfound
      rw [Bool.and_eq_true, beq_iff_eq] at hsome
      refine ⟨some d, hsome.1.symm, fun other hother => ?_⟩
      obtain rfl : d = other := Option.some.inj hother
      exact ⟨List.mem_of_find?_eq_some hfound, hsome.2⟩

end Fetching

/-- **The page of what is left** shows its first documents, and names the last of them where there
are more. -/
theorem pageOf_take {left : List Document} (hkeyed : ∀ d ∈ left, ∃ id, d.key? = some id) :
    r.pageOf l.limit (left.take (l.limit + 1))
      = (r.loadAll (left.take l.limit)).map fun items => .ofItems items (l.cursorAfter left) := by
  have hshown : (left.take (l.limit + 1)).take l.limit = left.take l.limit := by
    rw [List.take_take, Nat.min_eq_left (Nat.le_succ _)]
  have hmore : l.limit < (left.take (l.limit + 1)).length ↔ l.limit < left.length := by
    rw [List.length_take]
    omega
  have hnext : nextOf l.limit (left.take (l.limit + 1)) = .ok (l.cursorAfter left) := by
    rw [nextOf, hshown, Listing.cursorAfter]
    cases hlast : (left.take l.limit).getLast? with
    | none => simp
    | some last =>
      obtain ⟨key, hkey⟩ := hkeyed last (List.mem_of_mem_take (List.mem_of_getLast? hlast))
      simp only [hmore]
      split
      · simp [cursorOf, hkey, Except.map]
      · rfl
  rw [pageOf_eq, hnext, hshown]
  rfl

/-- **The page of a listing**: what it has left, cut to a page. -/
theorem page_eq (hready : s.ready) (hfield : r.config.scopeField ≠ primaryKey)
    (hl : r.listing scope filter sort request = .ok l)
    (h : Listable l (s.documents r.config.collection)) {start : Option Document}
    (hreference : l.reference = start.bind (·.key?))
    (hstart : ∀ reference ∈ start,
      reference ∈ s.documents r.config.collection ∧ reference.inScope (r.owner scope) = true) :
    r.page s scope filter sort request
      = (r.loadAll ((l.left start (s.documents r.config.collection)).take l.limit)).map
          fun items => .ofItems items (l.cursorAfter (l.left start (s.documents r.config.collection)))
    := by
  rw [← pageOf_take fun d hd => h.keyed.key d (Listable.mem_left.1 hd).1]
  rw [page, hl, Store.whenReady_of_ready hready]
  change r.fetch s scope l >>= r.pageOf l.limit = _
  rw [fetch_eq hready hfield hl h hreference hstart]
  rfl

end Repository

end KeysetStore
