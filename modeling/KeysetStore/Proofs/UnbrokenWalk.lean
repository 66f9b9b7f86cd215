import KeysetStore.Proofs.InsertionOrder
import KeysetStore.Proofs.WellFormedSelector

/-!
# Proofs/UnbrokenWalk — a page with a successor is followed by a page

The request for the next page does more than the one before: it looks up the document of the cursor
and splices its keyset into the selector.  None of that fails for a page that was read.  The checks
are those of the page before (`Repository.listing_after`).  The key selector asks for the scope, and
a selector that was evaluated on every document has said of each whether it is in scope
(`Repository.scope_of_narrowed`), so the lookup finds a document.  And the selector takes the keyset
of that document in place of the one it had (`Repository.exists_narrowed_of_narrowed`), which is
well-formed where the fields of the order are paths.  No key has to be unique for this, and the owner
may be marked by any field, the primary key included.

The page before says nothing of the documents behind it in the order, and a NaN among their sorted
values would leave the order of the next page open, and whether it can be sorted at all.  So no
document may hold one there, and the next page is cut from a stable arrangement of those it selects.

A field that is named like an operator sorts a page and cannot be read in a selector.  Under an order
that such a field leads, a page with a successor is followed by an error
(`Repository.exists_error_of_after`, `Shelf.breaks_off`).
-/

namespace KeysetStore

namespace Repository

/-! ## Narrowed selectors -/

section Narrowed

variable {α : Type} {r : Repository Memory α} {s : Store} {scope : Option Value}
  {filter : Option Document} {sort : List SortKey} {request : Pagination} {page : Page α}
  {l : Listing} {narrowed : Document}

/-- **What a narrowed selector is made of**: the selector of its listing, or that with the keyset of
a document of which the scope has been evaluated. -/
theorem narrowed_eq_ok (h : r.narrowed s scope l = .ok narrowed) :
    (l.reference = none ∧ narrowed = l.selector) ∨ ∃ reference ∈ s.documents r.config.collection,
      (∃ b, reference.meets (Document.ownedBy [] (r.owner scope)) = .ok b) ∧
      Document.conjoin l.selector (Keyset.after l.order reference) = .ok narrowed := by
  rw [Repository.narrowed] at h
  split at h
  · next hnone => exact .inl ⟨hnone, (Except.ok.inj h).symm⟩
  · obtain ⟨reference, hresolve, hconjoin⟩ := bind_eq_ok_iff.1 h
    obtain ⟨found, hlocate, hfound⟩ := bind_eq_ok_iff.1 hresolve
    cases found with
    | none => cases hfound
    | some d =>
      obtain rfl := Except.ok.inj hfound
      obtain ⟨hmem, hmeets⟩ := Store.of_findOne_eq_some hlocate
      exact .inr ⟨d, hmem, exists_meets_ownedBy hmeets, hconjoin⟩

/-- **A narrowed selector says of each document whether it is in scope**, and means only those. -/
theorem scope_of_narrowed (hl : r.listing scope filter sort request = .ok l)
    (hnarrowed : r.narrowed s scope l = .ok narrowed) {d : Document} {b : Bool}
    (h : d.meets narrowed = .ok b) :
    d.meets (Document.ownedBy [] (r.owner scope)) = .ok (d.inScope (r.owner scope)) ∧
      (b = true → d.inScope (r.owner scope) = true) := by
  obtain ⟨-, -, hselector, -, -⟩ := listing_eq_ok_iff.1 hl
  rcases narrowed_eq_ok hnarrowed with ⟨-, rfl⟩ | ⟨reference, -, ⟨y, hy⟩, hconjoin⟩
  · exact scope_of_meets hselector h
  · exact scope_of_meets_conjoin hselector hconjoin hy h

section Paths

variable (hkeys : ∀ d ∈ s.documents r.config.collection, ∃ id, d.key? = some id)
  (hpath : ∀ key ∈ (SortOrder.compile sort r.config.idField).keys, isOperator key.field = false)
  (hl : r.listing scope filter sort request = .ok l)
include hkeys hpath hl

/-- The keyset of a stored document can be evaluated on every document. -/
theorem exists_meets_after {reference : Document}
    (hreference : reference ∈ s.documents r.config.collection) (d : Document) :
    ∃ c, d.meets (Keyset.after l.order reference) = .ok c := by
  obtain ⟨-, -, -, horder, -⟩ := listing_eq_ok_iff.1 hl
  obtain ⟨others, direction, hcompile, -⟩ := SortOrder.exists_compile_eq sort r.config.idField
  obtain ⟨id, hid⟩ := hkeys reference hreference
  rw [horder]
  exact (Keyset.wellFormed_after ⟨⟨primaryKey, direction⟩, by simp [hcompile], rfl⟩ hpath
    hid).exists_meets d

/-- **A selector that was narrowed and evaluated takes the keyset of any stored document instead**,
and can be evaluated again. -/
theorem exists_narrowed_of_narrowed (hnarrowed : r.narrowed s scope l = .ok narrowed)
    (hmeets : ∀ d ∈ s.documents r.config.collection, ∃ b, d.meets narrowed = .ok b)
    {reference : Document} (hreference : reference ∈ s.documents r.config.collection) :
    ∃ widened, Keyset.continueAfter l.selector l.order reference = .ok widened ∧
      ∀ d ∈ s.documents r.config.collection, ∃ b, d.meets widened = .ok b := by
  have hafter := exists_meets_after hkeys hpath hl hreference
  rcases narrowed_eq_ok hnarrowed with ⟨-, rfl⟩ | ⟨before, hbefore, -, hconjoin⟩
  · obtain ⟨_, hb⟩ := hmeets reference hreference
    obtain ⟨widened, hwidened⟩ := Document.exists_conjoin hb (Keyset.after l.order reference)
    refine ⟨widened, hwidened, fun d hd => ?_⟩
    obtain ⟨b, hb⟩ := hmeets d hd
    obtain ⟨c, hc⟩ := hafter d
    exact ⟨b && c, Document.meets_conjoin hb hc hwidened⟩
  · -- The keyset that was there is traded for an empty conjunct, and that for the new keyset.
    obtain ⟨idle, hidle⟩ := Document.exists_conjoin_of_conjoin hconjoin []
    obtain ⟨widened, hwidened⟩ :=
      Document.exists_conjoin_of_conjoin hconjoin (Keyset.after l.order reference)
    refine ⟨widened, hwidened, fun d hd => ?_⟩
    obtain ⟨b, hb⟩ := hmeets d hd
    obtain ⟨_, hbefore⟩ := exists_meets_after hkeys hpath hl hbefore d
    obtain ⟨x, hx, -⟩ := (Document.meets_conjoin_iff hbefore hconjoin hidle).1 hb
    obtain ⟨c, hc⟩ := hafter d
    exact ⟨x && c, (Document.meets_conjoin_iff hc hwidened hidle).2 ⟨x, hx, rfl⟩⟩

end Paths

/-! ## Pages that were read -/

/-- **A page that was read has evaluated its selector on every document**, and is cut from those
that fit, in order. -/
theorem exists_narrowed_of_page (h : r.page s scope filter sort request = .ok page) :
    ∃ l narrowed, r.listing scope filter sort request = .ok l ∧ s.ready ∧
      r.narrowed s scope l = .ok narrowed ∧
      (∀ d ∈ s.documents r.config.collection, ∃ b, d.meets narrowed = .ok b) ∧
      r.pageOf l.limit ((sortBy l.order.keys ((s.documents r.config.collection).filter
        (Document.fits narrowed))).take (l.limit + 1)) = .ok page := by
  obtain ⟨l, documents, hl, hready, hfetch, hpage⟩ := page_eq_ok_iff.1 h
  obtain ⟨narrowed, hnarrowed, hfind⟩ := bind_eq_ok_iff.1 hfetch
  obtain ⟨hmeets, rfl⟩ := Store.of_find_eq_ok (sortKeys_of_listing hl) hfind
  exact ⟨l, narrowed, hl, hready, hnarrowed, hmeets, hpage⟩

/-- **A page with a successor** shows a document last that its selector means, and the next request
names the key of that document. -/
theorem exists_last_of_page {next : Pagination}
    (hkeys : ∀ d ∈ s.documents r.config.collection, ∃ id, d.key? = some id)
    (h : r.page s scope filter sort request = .ok page) (hnext : request.after page = some next) :
    ∃ l narrowed last key, r.listing scope filter sort request = .ok l ∧ s.ready ∧
      r.narrowed s scope l = .ok narrowed ∧
      (∀ d ∈ s.documents r.config.collection, ∃ b, d.meets narrowed = .ok b) ∧
      last ∈ s.documents r.config.collection ∧ last.meets narrowed = .ok true ∧
      last.key? = some key ∧ next = { limit := request.limit, cursor := some key.toHex } := by
  obtain ⟨l, narrowed, hl, hready, hnarrowed, hmeets, hcut⟩ := exists_narrowed_of_page h
  rw [pageOf_take fun d hd => hkeys d (List.mem_filter.1 (mem_sortBy.1 hd)).1] at hcut
  obtain ⟨items, -, rfl⟩ := map_eq_ok_iff.1 hcut
  obtain ⟨-, last, key, hlast, hkey, rfl⟩ := Listing.exists_last_of_after hnext
  obtain ⟨hmem, hfits⟩ :=
    List.mem_filter.1 (mem_sortBy.1 (List.mem_of_mem_take (List.mem_of_getLast? hlast)))
  refine ⟨l, narrowed, last, key, hl, hready, hnarrowed, hmeets, hmem, ?_, hkey, rfl⟩
  rw [Document.meets_eq_fits (hmeets last hmem), hfits]

/-- A page can be cut from documents that have keys and can be read. -/
theorem exists_pageOf {model : Document → α} {documents : List Document}
    (hkeys : ∀ d ∈ documents, ∃ id, d.key? = some id)
    (hload : ∀ d ∈ documents, r.codec.load r.config.idField d = .ok (model d)) :
    ∃ page, r.pageOf l.limit (documents.take (l.limit + 1)) = .ok page := by
  rw [pageOf_take hkeys, loadAll_eq_map fun d hd => hload d (List.mem_of_mem_take hd)]
  exact ⟨_, rfl⟩

/-- **The key of a document that was shown is looked up with success.**  What is found is stored, and
is that document where keys are unique and no owner is marked by them. -/
theorem exists_resolveIn (hl : r.listing scope filter sort request = .ok l) (hready : s.ready)
    (hnarrowed : r.narrowed s scope l = .ok narrowed)
    (hmeets : ∀ d ∈ s.documents r.config.collection, ∃ b, d.meets narrowed = .ok b)
    {last : Document} {key : ObjectId} (hlast : last ∈ s.documents r.config.collection)
    (hlastMeets : last.meets narrowed = .ok true) (hkey : last.key? = some key) :
    ∃ reference ∈ s.documents r.config.collection, r.resolveIn s scope key = .ok reference := by
  have hscope : ∀ d ∈ s.documents r.config.collection,
      ∃ b, d.meets (keySelector key (r.owner scope)) = .ok b := by
    intro d hd
    obtain ⟨_, hb⟩ := hmeets d hd
    exact exists_meets_keySelector ⟨_, (scope_of_narrowed hl hnarrowed hb).1⟩
  have hfits : Document.fits (keySelector key (r.owner scope)) last = true := by
    obtain ⟨hinScope, himp⟩ := scope_of_narrowed hl hnarrowed hlastMeets
    rw [himp rfl] at hinScope
    exact Document.fits_of_meets (meets_keySelector_of_key? hkey hinScope)
  have hlocate : r.locateIn s scope key = .ok ((s.documents r.config.collection).find?
      (Document.fits (keySelector key (r.owner scope)))) :=
    Store.findOne_eq hready fun d hd => Document.meets_eq_fits (hscope d hd)
  obtain ⟨reference, hreference⟩ :=
    Option.isSome_iff_exists.1 (List.find?_isSome.2 ⟨last, hlast, hfits⟩)
  rw [hreference] at hlocate
  exact ⟨reference, List.mem_of_find?_eq_some hreference,
    bind_eq_ok_iff.2 ⟨some reference, hlocate, rfl⟩⟩

end Narrowed

end Repository

/-! ## Keysets that cannot be read -/

namespace Document

variable {d : Document} {name : String} {b : Bool}

/-- A name of an operator has no document under it. -/
theorem meetsEntry_ne_ok_of_operator (hname : isOperator name = true) (fields : Document) :
    d.meetsEntry name (.document fields) ≠ .ok b := by
  intro h
  rw [meetsEntry, Selector.clause, Selector.simple, if_pos hname] at h
  · split at h <;> cases h
  · intro items hitems
    cases hitems

/-- A disjunction cannot be evaluated where none of its operands can be. -/
theorem meets_or_ne_ok {selectors : List Document} (h : ∀ s ∈ selectors, ∀ b, d.meets s ≠ .ok b) :
    d.meets [("$or", .array (selectors.map .document))] ≠ .ok b := by
  intro hb
  obtain ⟨x, _, hentry, -⟩ := meets_cons_eq_ok_iff.1 hb
  cases selectors with
  | nil => cases hentry
  | cons s rest =>
    rw [meetsEntry_or (List.cons_ne_nil _ _), List.map_cons, Selector.someHolds] at hentry
    cases hs : Selector.holds d (Selector.ofDocument s) with
    | error e => rw [hs] at hentry; cases hentry
    | ok y => exact h s List.mem_cons_self y hs

end Document

namespace Keyset

variable {reference d clause : Document} {last? : SortKey → Value → Option Value} {ties : Document}
  {key : SortKey} {rest : List SortKey}

/-- The clauses of a keyset begin with the ties that stand before them. -/
theorem exists_append_of_mem_clauses {keys : List SortKey}
    (h : clause ∈ clauses reference last? ties keys) : ∃ more, clause = ties ++ more := by
  induction keys generalizing ties with
  | nil => cases h
  | cons key rest ih =>
    have hfollowing (hrest : clause ∈ clauses reference last?
        (ties ++ [(key.field, tie (referenceValue reference key.field))]) rest) :
        ∃ more, clause = ties ++ more := by
      obtain ⟨more, rfl⟩ := ih hrest
      exact ⟨_, List.append_assoc ..⟩
    rw [clauses] at h
    split at h
    · rcases List.mem_cons.1 h with rfl | h
      · exact ⟨_, rfl⟩
      · exact hfollowing h
    · exact hfollowing h

/-- **Every clause of a keyset has a condition on the leading key.** -/
theorem exists_cons_of_mem_clauses
    (hlast : ∀ v condition, last? key v = some condition → ∃ fields, condition = .document fields)
    (h : clause ∈ clauses reference last? [] (key :: rest)) :
    ∃ fields more, clause = (key.field, .document fields) :: more := by
  have hfollowing (hrest : clause ∈ clauses reference last?
      ([] ++ [(key.field, tie (referenceValue reference key.field))]) rest) :
      ∃ fields more, clause = (key.field, .document fields) :: more := by
    obtain ⟨more, rfl⟩ := exists_append_of_mem_clauses hrest
    exact ⟨_, more, rfl⟩
  rw [clauses] at h
  split at h
  · next condition hcondition =>
    obtain ⟨fields, rfl⟩ := hlast _ _ hcondition
    rcases List.mem_cons.1 h with rfl | h
    · exact ⟨fields, [], rfl⟩
    · exact hfollowing h
  · exact hfollowing h

/-- **A keyset cannot be read where its leading key is named like an operator.** -/
theorem meets_after_ne_ok {order : SortOrder} {b : Bool} (horder : order.keys = key :: rest)
    (hoperator : isOperator key.field = true) : d.meets (after order reference) ≠ .ok b := by
  intro h
  have hclauses : ∀ clause ∈ clauses reference (fun key v => beyond? key.direction v) [] order.keys
      ++ clauses reference nullBelow? [] order.keys,
      ∃ fields more, clause = (key.field, .document fields) :: more := by
    rw [horder]
    intro clause hclause
    rcases List.mem_append.1 hclause with hclause | hclause
    · refine exists_cons_of_mem_clauses (fun v condition hcondition => ?_) hclause
      unfold beyond? at hcondition
      split at hcondition <;> cases hcondition <;> exact ⟨_, rfl⟩
    · refine exists_cons_of_mem_clauses (fun v condition hcondition => ?_) hclause
      unfold nullBelow? at hcondition
      split at hcondition <;> cases hcondition
      exact ⟨_, rfl⟩
  rw [after] at h
  refine Document.meets_or_ne_ok (fun clause hclause b hb => ?_) h
  obtain ⟨fields, more, rfl⟩ := hclauses clause hclause
  obtain ⟨_, _, hentry, -⟩ := Document.meets_cons_eq_ok_iff.1 hb
  exact Document.meetsEntry_ne_ok_of_operator hoperator fields hentry

end Keyset

/-! ## The page after a page -/

namespace Repository

variable {α : Type} {r : Repository Memory α} {supply : Nat → ObjectId} {scope : Option Value}
  {filter : Option Document} {sort : List SortKey} {request next : Pagination} {m : Memory}
  {page : Page α} {model : Document → α}

/-- **A walk that starts does not break off.**  Over documents with keys that can all be read and hold
no NaN where they are sorted, and under an order whose fields are paths: a page with a successor is
followed by a page, cut from the documents it selects in stable order. -/
theorem exists_readAll_of_after (hr : r.backend = Memory.backend supply)
    (hkeys : ∀ d ∈ m.store.documents r.config.collection, ∃ id, d.key? = some id)
    (hload : ∀ d ∈ m.store.documents r.config.collection,
      r.codec.load r.config.idField d = .ok (model d))
    (hplaced : ∀ d ∈ m.store.documents r.config.collection,
      d.placedAt (SortOrder.compile sort r.config.idField).keys)
    (hpath : ∀ key ∈ (SortOrder.compile sort r.config.idField).keys,
      isOperator key.field = false)
    (hread : (r.readAll scope filter sort request m).1 = .ok page)
    (hnext : request.after page = some next) :
    ∃ limit selector found page', r.config.pageSize request.limit = .ok limit ∧
      StableSort (SortOrder.compile sort r.config.idField).keys
        ((m.store.documents r.config.collection).filter (Document.fits selector)) found ∧
      r.pageOf limit (found.take (limit + 1)) = .ok page' ∧
      r.readAll scope filter sort next m = (.ok page', m) := by
  have hpage : r.page m.store scope filter sort request = .ok page :=
    (congrArg Prod.fst (reads_readAll hr scope filter sort request m)).symm.trans hread
  obtain ⟨l, narrowed, last, key, hl, hready, hnarrowed, hmeets, hlast, hlastMeets, hkey, rfl⟩ :=
    exists_last_of_page hkeys hpage hnext
  obtain ⟨reference, hreference, hresolve⟩ :=
    exists_resolveIn hl hready hnarrowed hmeets hlast hlastMeets hkey
  obtain ⟨widened, hwidened, hmeets'⟩ :=
    exists_narrowed_of_narrowed hkeys hpath hl hnarrowed hmeets hreference
  obtain ⟨hlimit, -, -, horder, -⟩ := listing_eq_ok_iff.1 hl
  have hselected : ∀ d ∈ (m.store.documents r.config.collection).filter (Document.fits widened),
      d ∈ m.store.documents r.config.collection := fun _ hd => List.mem_of_mem_filter hd
  have hsorted := stableSort_sortBy fun d hd => hplaced d (hselected d hd)
  obtain ⟨page', hcut⟩ := exists_pageOf (l := l)
    (fun d hd => hkeys d (hselected d (hsorted.perm.subset hd)))
    fun d hd => hload d (hselected d (hsorted.perm.subset hd))
  refine ⟨l.limit, widened, _, page', hlimit, hsorted, hcut, ?_⟩
  rw [readAll_of_narrowed hr hready (listing_after hl key)
    (bind_eq_ok_iff.2 ⟨reference, hresolve, hwidened⟩)
    fun d hd => Document.meets_eq_fits (hmeets' d hd), horder]
  exact congrArg (·, m) hcut

/-- **A walk breaks off where the leading field of its order is named like an operator**: a page with
a successor is followed by an error. -/
theorem exists_error_of_after {key : SortKey} {rest : List SortKey}
    (hr : r.backend = Memory.backend supply)
    (hkeys : ∀ d ∈ m.store.documents r.config.collection, ∃ id, d.key? = some id)
    (hcompile : (SortOrder.compile sort r.config.idField).keys = key :: rest)
    (hoperator : isOperator key.field = true)
    (hread : (r.readAll scope filter sort request m).1 = .ok page)
    (hnext : request.after page = some next) :
    ∃ e, r.readAll scope filter sort next m = (.error e, m) := by
  have hpage : r.page m.store scope filter sort request = .ok page :=
    (congrArg Prod.fst (reads_readAll hr scope filter sort request m)).symm.trans hread
  obtain ⟨l, narrowed, last, key, hl, -, hnarrowed, -, hlast, hlastMeets, -, rfl⟩ :=
    exists_last_of_page hkeys hpage hnext
  obtain ⟨-, -, -, horder, -⟩ := listing_eq_ok_iff.1 hl
  rw [← horder] at hcompile
  have hreads := reads_readAll hr scope filter sort
    { limit := request.limit, cursor := some key.toHex } m
  cases hpage' : r.page m.store scope filter sort
      { limit := request.limit, cursor := some key.toHex } with
  | error e => exact ⟨e, hreads.trans (congrArg (·, m) hpage')⟩
  | ok page' =>
    exfalso
    obtain ⟨l', narrowed', hl', -, hnarrowed', hmeets', -⟩ := exists_narrowed_of_page hpage'
    obtain rfl := Except.ok.inj ((listing_after hl key).symm.trans hl')
    obtain ⟨_, hb⟩ := hmeets' last hlast
    -- The last document shown meets the selector, so the keyset spliced into it is evaluated there.
    rcases narrowed_eq_ok hnarrowed with ⟨-, rfl⟩ | ⟨_, -, -, hconjoin⟩
    · rcases narrowed_eq_ok hnarrowed' with ⟨hnone, -⟩ | ⟨_, -, -, hconjoin'⟩
      · cases hnone
      · exact Keyset.meets_after_ne_ok hcompile hoperator
          (Document.meets_clause_of_meets_conjoin hconjoin' hb (.inl hlastMeets))
    · exact Keyset.meets_after_ne_ok hcompile hoperator
        (Document.meets_clause_of_meets_conjoin hconjoin hlastMeets (.inr rfl))

end Repository

/-! ## Walks on the shelf -/

namespace Shelf

/-- Behind the first page of her products, Alice can read another one. -/
theorem goes_on_documents :
    products.readAll (some (.string "alice")) none [.descending "price"] { limit := some 2 } memory
      = (.ok ⟨[model documents[0], model documents[3]], true, some (ObjectId.ofNat 4).toHex⟩,
          memory) ∧
    ∃ page', products.readAll (some (.string "alice")) none [.descending "price"]
      { limit := some 2, cursor := some (ObjectId.ofNat 4).toHex } memory = (.ok page', memory) := by
  have hplaced : ∀ d ∈ documents, d.placedAt (SortOrder.compile [.descending "price"] "id").keys := by
    decide
  obtain ⟨-, -, -, page', -, -, -, hnext⟩ :=
    Repository.exists_readAll_of_after (m := memory) backend_products keyed_documents.key
      (fun _ hd => load_documents hd) hplaced (by decide) (congrArg Prod.fst read_first) rfl
  exact ⟨read_first, page', hnext⟩

/-- Two products without a price. -/
def gadgets : List Document :=
  [[("_id", .objectId (.ofNat 1)), ("name", .string "pro")],
    [("_id", .objectId (.ofNat 2)), ("name", .string "mini")]]

/-- The two products as a collection. -/
def counter : Memory := { store := { collections := [("products", gadgets)] } }

/-- The two products, one a page, by a field that is named like an operator. -/
def byOperator : Listing := ⟨1, [], .compile [.ascending "$price"] "id", none⟩

theorem listing_byOperator :
    products.listing none none [.ascending "$price"] { limit := some 1 } = .ok byOperator := rfl

theorem sorted_gadgets : sortBy byOperator.order.keys gadgets = gadgets :=
  (Orderly.eq_sortBy ⟨by decide, by decide⟩ (.refl _) (by decide)).symm

/-- **A field that is named like an operator breaks the walk off**: the page of the first product
says that there is more, and its cursor gives an error. -/
theorem breaks_off :
    products.readAll none none [.ascending "$price"] { limit := some 1 } counter
      = (.ok ⟨[model gadgets[0]], true, some (ObjectId.ofNat 1).toHex⟩, counter) ∧
    products.readAll none none [.ascending "$price"]
      { limit := some 1, cursor := some (ObjectId.ofNat 1).toHex } counter
      = (.error (.clauseOperator "$price"), counter) := by
  constructor
  · have hmeets : ∀ d ∈ counter.store.documents products.config.collection,
        d.meets [] = .ok true := fun _ _ => rfl
    rw [Repository.readAll_of_narrowed rfl rfl listing_byOperator rfl hmeets, List.filter_true]
    exact congrArg (fun found => (products.pageOf 1 (found.take 2), counter)) sorted_gadgets
  · refine (Repository.reads_readAll rfl none none _ _ counter).trans (congrArg (·, counter) ?_)
    change products.listing _ _ _ _ >>= _ = _
    rw [Repository.listing_after listing_byOperator (.ofNat 1)]
    rfl

end Shelf

end KeysetStore
