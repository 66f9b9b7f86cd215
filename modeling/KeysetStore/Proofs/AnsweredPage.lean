import KeysetStore.Proofs.InterleavedWalk

/-!
# Proofs/AnsweredPage — what a page that was read says of the collection

A page may be read without knowing beforehand that its selector can be evaluated: that it was read
shows it.  The selector of a listing without its keyset, the *base*, has then been evaluated on every
document, and the page shows the first of the documents that meet the base and that the keyset lets
through (`Repository.Answers`, `Repository.exists_answers`).

The base is the selector itself, but for one case.  A caller's conjunction may be empty, which is an
error by itself and none once the keyset stands in it; with a reference the base is the selector with
an empty conjunct (`Document.meets_conjoin_iff`).
-/

namespace KeysetStore

/-! ## Documents found under a key -/

namespace Repository

variable {σ α : Type} {r : Repository σ α} {s : Store} {scope : Option Value}

/-- **The document found under a key** is stored, has the key, and is in scope. -/
theorem of_locateIn_eq_some {key : ObjectId} {d : Document}
    (hfield : r.config.scopeField ≠ primaryKey) (hkeyed : Keyed (s.documents r.config.collection))
    (h : r.locateIn s scope key = .ok (some d)) :
    d ∈ s.documents r.config.collection ∧ d.key? = some key ∧
      d.meets (Document.ownedBy [] (r.owner scope)) = .ok true := by
  obtain ⟨hmem, hmeets⟩ := Store.of_findOne_eq_some h
  rw [keySelector_eq key fun pair hpair => mem_owner hpair ▸ hfield,
    Document.meets_append_eq_ok_iff] at hmeets
  obtain ⟨x, y, hx, hy, hxy⟩ := hmeets
  obtain ⟨rfl, rfl⟩ := Bool.and_eq_true_iff.1 hxy.symm
  obtain ⟨id, hid⟩ := hkeyed.key d hmem
  have hkey := Document.meets_singleton (Document.meetsEntry_primaryKey hid key)
  refine ⟨hmem, ?_, hy⟩
  simpa using (Except.ok.inj (hkey.symm.trans hx))

end Repository

/-! ## What is left behind a keyset -/

/-- **What a listing has left** of the documents that meet a base and that the keyset of a document
lets through, in order. -/
def Listing.remaining (l : Listing) (base : Document) (start : Option Document)
    (documents : List Document) : List Document :=
  sortBy l.order.keys (documents.filter fun d => Document.fits base d &&
    start.all fun reference => Document.fits (Keyset.after l.order reference) d)

theorem Listing.mem_remaining {l : Listing} {base d : Document} {start : Option Document}
    {documents : List Document} : d ∈ l.remaining base start documents ↔ d ∈ documents ∧
      Document.fits base d = true ∧
      ∀ reference ∈ start, Document.fits (Keyset.after l.order reference) d = true := by
  rw [remaining, mem_sortBy, List.mem_filter, Bool.and_eq_true, Option.all_eq_true]
  rfl

namespace Repository

variable {α : Type}

/-- **A page answers a request**: the request is checked, its base can be evaluated on every document,
the document it continues after is stored, and the page shows the first of what is left. -/
structure Answers (r : Repository Memory α) (s : Store) (scope : Option Value)
    (filter : Option Document) (sort : List SortKey) (request : Pagination) (page : Page α)
    (l : Listing) (base : Document) (start : Option Document) : Prop where
  listing : r.listing scope filter sort request = .ok l
  ready : s.ready
  based : base = l.selector ∨ Document.conjoin l.selector [] = .ok base
  first : l.reference = none → base = l.selector
  evaluates : ∀ d ∈ s.documents r.config.collection, ∃ b, d.meets base = .ok b
  reference : l.reference = start.bind (·.key?)
  stored : ∀ reference ∈ start, reference ∈ s.documents r.config.collection ∧
    reference.meets (Document.ownedBy [] (r.owner scope)) = .ok true
  fetched : r.fetch s scope l
    = .ok ((l.remaining base start (s.documents r.config.collection)).take (l.limit + 1))
  page : ∃ items, r.loadAll
      ((l.remaining base start (s.documents r.config.collection)).take l.limit) = .ok items ∧
    page = .ofItems items
      (l.cursorAfter (l.remaining base start (s.documents r.config.collection)))

variable {r : Repository Memory α} {s : Store} {scope : Option Value} {filter : Option Document}
  {sort : List SortKey} {request : Pagination} {page : Page α}

/-- A listing that goes on after a key has found a document under it. -/
theorem exists_reference_of_narrowed {l : Listing} {key : ObjectId} {narrowed : Document}
    (hfield : r.config.scopeField ≠ primaryKey) (hkeyed : Keyed (s.documents r.config.collection))
    (hreference : l.reference = some key) (h : r.narrowed s scope l = .ok narrowed) :
    ∃ d, (d ∈ s.documents r.config.collection ∧
        d.meets (Document.ownedBy [] (r.owner scope)) = .ok true) ∧ d.key? = some key ∧
      Document.conjoin l.selector (Keyset.after l.order d) = .ok narrowed := by
  rw [Repository.narrowed, hreference] at h
  obtain ⟨reference, hresolve, hconjoin⟩ := bind_eq_ok_iff.1 h
  obtain ⟨found, hlocate, hfound⟩ := bind_eq_ok_iff.1 hresolve
  cases found with
  | none => cases hfound
  | some d =>
    obtain rfl := Except.ok.inj hfound
    obtain ⟨hmem, hkey, hscope⟩ := of_locateIn_eq_some hfield hkeyed hlocate
    exact ⟨d, ⟨hmem, hscope⟩, hkey, hconjoin⟩

/-- A fetch that has succeeded gives the first of the documents that are left. -/
theorem exists_remaining_of_fetch {l : Listing} {documents : List Document}
    (hfield : r.config.scopeField ≠ primaryKey) (hkeyed : Keyed (s.documents r.config.collection))
    (hafter : ∀ reference ∈ s.documents r.config.collection,
      ∀ d ∈ s.documents r.config.collection, ∃ b, d.meets (Keyset.after l.order reference) = .ok b)
    (hl : r.listing scope filter sort request = .ok l) (h : r.fetch s scope l = .ok documents) :
    ∃ base start, (base = l.selector ∨ Document.conjoin l.selector [] = .ok base) ∧
      (l.reference = none → base = l.selector) ∧
      (∀ d ∈ s.documents r.config.collection, ∃ b, d.meets base = .ok b) ∧
      l.reference = start.bind (·.key?) ∧
      (∀ reference ∈ start, reference ∈ s.documents r.config.collection ∧
        reference.meets (Document.ownedBy [] (r.owner scope)) = .ok true) ∧
      documents = (l.remaining base start (s.documents r.config.collection)).take (l.limit + 1) := by
  obtain ⟨narrowed, hnarrowed, hfind⟩ := bind_eq_ok_iff.1 h
  obtain ⟨hevaluates, rfl⟩ := Store.of_find_eq_ok (sortKeys_of_listing hl) hfind
  cases hreference : l.reference with
  | none =>
    rw [Repository.narrowed, hreference] at hnarrowed
    obtain rfl := Except.ok.inj hnarrowed
    refine ⟨l.selector, none, .inl rfl, fun _ => rfl, hevaluates, rfl, by simp, ?_⟩
    simp [Listing.remaining]
  | some key =>
    obtain ⟨d, hstored, hkey, hconjoin⟩ :=
      exists_reference_of_narrowed hfield hkeyed hreference hnarrowed
    obtain ⟨base, hbase⟩ := Document.exists_conjoin_of_conjoin hconjoin []
    have hsplit : ∀ e ∈ s.documents r.config.collection, ∃ x, e.meets base = .ok x ∧
        Document.fits narrowed e = (x && Document.fits (Keyset.after l.order d) e) := by
      intro e he
      obtain ⟨b, hb⟩ := hevaluates e he
      obtain ⟨c, hc⟩ := hafter d hstored.1 e he
      obtain ⟨x, hx, rfl⟩ := (Document.meets_conjoin_iff hc hconjoin hbase).1 hb
      exact ⟨x, hx, by rw [Document.fits_of_meets hb, Document.fits_of_meets hc]⟩
    refine ⟨base, some d, .inr hbase, by simp, fun e he => ?_, hkey.symm, ?_, ?_⟩
    · obtain ⟨x, hx, -⟩ := hsplit e he
      exact ⟨x, hx⟩
    · rintro reference ⟨⟩
      exact hstored
    · rw [Listing.remaining, Store.limited_some]
      congr 2
      refine List.filter_congr fun e he => ?_
      obtain ⟨x, hx, hfits⟩ := hsplit e he
      rw [hfits, Document.fits_of_meets hx, Option.all_some]

/-- **A page that was read answers its request.** -/
theorem exists_answers (hfield : r.config.scopeField ≠ primaryKey)
    (hkeyed : Keyed (s.documents r.config.collection))
    (hafter : ∀ reference ∈ s.documents r.config.collection,
      ∀ d ∈ s.documents r.config.collection,
        ∃ b, d.meets (Keyset.after (.compile sort r.config.idField) reference) = .ok b)
    (h : r.page s scope filter sort request = .ok page) :
    ∃ l base start, r.Answers s scope filter sort request page l base start := by
  obtain ⟨l, documents, hl, hready, hfetch, hpage⟩ := page_eq_ok_iff.1 h
  obtain ⟨-, -, -, horder, -⟩ := listing_eq_ok_iff.1 hl
  rw [← horder] at hafter
  obtain ⟨base, start, hbase, hfirst, hevaluates, hreference, hstart, rfl⟩ :=
    exists_remaining_of_fetch hfield hkeyed hafter hl hfetch
  rw [pageOf_take fun d hd => hkeyed.key d (Listing.mem_remaining.1 hd).1] at hpage
  obtain ⟨items, hitems, rfl⟩ := map_eq_ok_iff.1 hpage
  exact ⟨l, base, start, hl, hready, hbase, hfirst, hevaluates, hreference, hstart, hfetch,
    items, hitems, rfl⟩

namespace Answers

variable {l : Listing} {base : Document} {start : Option Document}

theorem order (h : r.Answers s scope filter sort request page l base start) :
    l.order = .compile sort r.config.idField :=
  (listing_eq_ok_iff.1 h.listing).2.2.2.1

/-- **The documents that the page shows** are the first that are left. -/
theorem shown_eq {m : Memory} (h : r.Answers m.store scope filter sort request page l base start) :
    r.shown scope filter sort ⟨request, m, page⟩
      = (l.remaining base start (m.store.documents r.config.collection)).take l.limit := by
  simp only [shown, h.listing, h.fetched]
  rw [List.take_take, Nat.min_eq_left (Nat.le_succ _)]

/-- The document that the page continues after is the one that the cursor names. -/
theorem named_eq_start (h : r.Answers s scope filter sort request page l base start)
    (hkeyed : Keyed (s.documents r.config.collection)) :
    named request (s.documents r.config.collection) = start := by
  obtain ⟨-, -, -, -, hreference⟩ := listing_eq_ok_iff.1 h.listing
  exact named_eq hkeyed (h.reference ▸ hreference) fun reference href => (h.stored reference href).1

/-- A page that was asked for with a cursor continues after a document. -/
theorem isSome_start (h : r.Answers s scope filter sort request page l base start)
    (hcursor : request.cursor.isSome) : start.isSome := by
  obtain ⟨-, -, -, -, hreference⟩ := listing_eq_ok_iff.1 h.listing
  obtain ⟨cursor, hcursor⟩ := Option.isSome_iff_exists.1 hcursor
  rw [referenceOf, hcursor, h.reference, map_eq_ok_iff] at hreference
  obtain ⟨key, -, hkey⟩ := hreference
  obtain ⟨reference, href, -⟩ := Option.bind_eq_some_iff.1 hkey.symm
  exact Option.isSome_iff_exists.2 ⟨reference, href⟩

/-- **The documents that a page is about are in scope**, and the scope can be evaluated on every
document. -/
theorem inScope (h : r.Answers s scope filter sort request page l base start) {d : Document}
    (hd : d ∈ s.documents r.config.collection) :
    d.meets (Document.ownedBy [] (r.owner scope)) = .ok (d.inScope (r.owner scope)) ∧
      (Document.fits base d = true → d.inScope (r.owner scope) = true) := by
  obtain ⟨-, -, hselector, -, -⟩ := listing_eq_ok_iff.1 h.listing
  obtain ⟨b, hb⟩ := h.evaluates d hd
  rw [Document.fits_of_meets hb]
  rcases h.based with rfl | hidle
  · exact scope_of_meets hselector hb
  cases start with
  | none =>
    obtain rfl := h.first h.reference
    exact scope_of_meets hselector hb
  | some reference => exact scope_of_meets_conjoin hselector hidle (h.stored reference rfl).2 hb

/-- What answers a request is what is read. -/
theorem reads (h : r.Answers s scope filter sort request page l base start)
    (hkeyed : Keyed (s.documents r.config.collection)) :
    r.page s scope filter sort request = .ok page := by
  obtain ⟨items, hitems, rfl⟩ := h.page
  refine page_eq_ok_iff.2 ⟨l, _, h.listing, h.ready, h.fetched, ?_⟩
  rw [pageOf_take fun d hd => hkeyed.key d (Listing.mem_remaining.1 hd).1, hitems]
  rfl

/-- The selector with an empty conjunct means what the base means. -/
theorem exists_idle (h : r.Answers s scope filter sort request page l base start) {e : Document}
    (he : e ∈ s.documents r.config.collection) :
    ∃ idle, Document.conjoin l.selector [] = .ok idle ∧
      ∀ d ∈ s.documents r.config.collection, d.meets idle = .ok (Document.fits base d) := by
  have hmeets : ∀ d ∈ s.documents r.config.collection, d.meets base = .ok (Document.fits base d) :=
    fun d hd => Document.meets_eq_fits (h.evaluates d hd)
  rcases h.based with rfl | hidle
  · obtain ⟨idle, hidle⟩ := Document.exists_conjoin (hmeets e he) []
    exact ⟨idle, hidle, fun d hd => Document.meets_idle (hmeets d hd) hidle⟩
  · exact ⟨base, hidle, hmeets⟩

section Next

variable (hfield : r.config.scopeField ≠ primaryKey)
  (hkeyed : Keyed (s.documents r.config.collection))
  (hafter : ∀ reference ∈ s.documents r.config.collection,
    ∀ d ∈ s.documents r.config.collection,
      ∃ b, d.meets (Keyset.after (.compile sort r.config.idField) reference) = .ok b)
include hfield hkeyed hafter

/-- **The listing of a page goes on after a document of its own**: what it fetches then is left
behind that document. -/
theorem fetch_after {last idle : Document} {key : ObjectId}
    (h : r.Answers s scope filter sort request page l base start)
    (hstored : last ∈ s.documents r.config.collection) (hkey : last.key? = some key)
    (hfits : Document.fits base last = true) (hidle : Document.conjoin l.selector [] = .ok idle)
    (hmeets : ∀ d ∈ s.documents r.config.collection, d.meets idle = .ok (Document.fits base d)) :
    r.fetch s scope { l with reference := some key }
      = .ok (({ l with reference := some key } : Listing).remaining idle (some last)
          (s.documents r.config.collection) |>.take (l.limit + 1)) := by
  obtain ⟨narrowed, hnarrowed⟩ :=
    Document.exists_conjoin_of_conjoin hidle (Keyset.after l.order last)
  have hevaluates : ∀ d ∈ s.documents r.config.collection, d.meets narrowed
      = .ok (Document.fits idle d && Document.fits (Keyset.after l.order last) d) := by
    intro d hd
    obtain ⟨c, hc⟩ := hafter last hstored d hd
    rw [← h.order] at hc
    rw [Document.fits_of_meets (hmeets d hd), Document.fits_of_meets hc]
    exact (Document.meets_conjoin_iff hc hnarrowed hidle).2 ⟨_, hmeets d hd, rfl⟩
  have hlocate : r.locateIn s scope key = .ok (some last) :=
    locateIn_eq_some h.ready hfield hkeyed (fun d hd => (h.inScope hd).1) hstored hkey
      ((h.inScope hstored).2 hfits)
  exact fetch_of_narrowed h.ready (listing_after h.listing key)
    (bind_eq_ok_iff.2 ⟨last, bind_eq_ok_iff.2 ⟨_, hlocate, rfl⟩, hnarrowed⟩) hevaluates

/-- **A page with a successor is followed by a page**, of the same listing after the last document
shown, where the documents can be read. -/
theorem exists_next {model : Document → α} {next : Pagination}
    (hload : ∀ d ∈ s.documents r.config.collection,
      r.codec.load r.config.idField d = .ok (model d))
    (h : r.Answers s scope filter sort request page l base start)
    (hnext : request.after page = some next) :
    ∃ page' idle last, l.limit < (l.remaining base start
          (s.documents r.config.collection)).length ∧
      ((l.remaining base start (s.documents r.config.collection)).take l.limit).getLast?
        = some last ∧
      (∀ d ∈ s.documents r.config.collection, Document.fits idle d = Document.fits base d) ∧
      r.Answers s scope filter sort next page' { l with reference := last.key? } idle
        (some last) := by
  obtain ⟨items, -, rfl⟩ := h.page
  obtain ⟨hmore, last, key, hlast, hkey, rfl⟩ := Listing.exists_last_of_after hnext
  obtain ⟨hstored, hfits, -⟩ :=
    Listing.mem_remaining.1 (List.mem_of_mem_take (List.mem_of_getLast? hlast))
  obtain ⟨idle, hidle, hmeets⟩ := h.exists_idle hstored
  have hsame : ∀ d ∈ s.documents r.config.collection,
      Document.fits idle d = Document.fits base d :=
    fun d hd => Document.fits_of_meets (hmeets d hd)
  have hitems : r.loadAll (List.take l.limit
      (({ l with reference := some key } : Listing).remaining idle (some last)
        (s.documents r.config.collection))) = .ok _ :=
    loadAll_eq_map fun d hd => hload d (Listing.mem_remaining.1 (List.mem_of_mem_take hd)).1
  have hanswers : r.Answers s scope filter sort { limit := request.limit, cursor := some key.toHex }
      _ { l with reference := some key } idle (some last) := {
    listing := listing_after h.listing key
    ready := h.ready
    based := .inr hidle
    first := by simp
    evaluates := fun d hd => ⟨_, hmeets d hd⟩
    reference := hkey.symm
    stored := by
      rintro reference ⟨⟩
      exact ⟨hstored, (h.inScope hstored).1.trans (congrArg _ ((h.inScope hstored).2 hfits))⟩
    fetched := h.fetch_after hfield hkeyed hafter hstored hkey hfits hidle hmeets
    page := ⟨_, hitems, rfl⟩ }
  exact ⟨_, idle, last, hmore, hlast, hsame, hkey ▸ hanswers⟩

end Next

end Answers

end Repository

end KeysetStore
