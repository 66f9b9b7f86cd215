import KeysetStore.Memory
import KeysetStore.Proofs.KeysetPredicate
import KeysetStore.Repository

/-!
# Proofs/StoredReading — what the reading operations make of a store

Over a store in memory a reading operation leaves the state alone, and its outcome is a function of
the store (`Action.Reads`).  For a listing that function is `Repository.page`: it narrows the
selector to what comes after the reference, fetches one document more than it shows, and cuts the
page.  Where the selector can be evaluated on every document of the collection, the fetched documents
are the first ones of what is left after the reference (`Repository.fetch_eq`).
-/

namespace KeysetStore

/-! ## Actions that only read -/

namespace Action

variable {σ α β : Type} {action : Action σ α} {s s' : σ}

theorem bind_ok {a : α} (h : action s = (.ok a, s')) (next : α → Action σ β) :
    (action >>= next) s = next a s' := by
  change ExceptT.bindCont next (action s).1 (action s).2 = _
  rw [h]
  rfl

theorem bind_error {e : Error} (h : action s = (.error e, s')) (next : α → Action σ β) :
    (action >>= next) s = (.error e, s') := by
  change ExceptT.bindCont next (action s).1 (action s).2 = _
  rw [h]
  rfl

end Action

/-- **An action that only reads**: its outcome is a function of the store, and the memory stays as it
was. -/
def Action.Reads {α : Type} (action : Action Memory α) (outcome : Store → Except Error α) : Prop :=
  ∀ m, action m = (outcome m.store, m)

namespace Action.Reads

variable {α β : Type}

theorem lift (outcome : Except Error α) :
    Reads (liftM outcome : Action Memory α) fun _ => outcome :=
  fun _ => rfl

theorem bind {action : Action Memory α} {next : α → Action Memory β}
    {outcome : Store → Except Error α} {outcomes : α → Store → Except Error β}
    (h : Reads action outcome) (hnext : ∀ a, Reads (next a) (outcomes a)) :
    Reads (action >>= next) fun s => outcome s >>= fun a => outcomes a s := by
  intro m
  have hm := h m
  change _ = (outcome m.store >>= fun a => outcomes a m.store, m)
  cases hout : outcome m.store with
  | error e =>
    rw [hout] at hm
    exact bind_error hm next
  | ok a =>
    rw [hout] at hm
    rw [bind_ok hm next]
    exact hnext a m

theorem congr {action : Action Memory α} {outcome other : Store → Except Error α}
    (h : Reads action outcome) (heq : ∀ s, outcome s = other s) : Reads action other :=
  fun m => by rw [h m, heq]

end Action.Reads

open KeysetStore.Action (Reads)

/-! ## Stores that can be reached -/

namespace Store

variable {α : Type} {s : Store}

theorem whenReady_of_ready (h : s.ready = true) (outcome : Except Error α) :
    s.whenReady outcome = outcome := if_pos h

theorem whenReady_of_not (h : s.ready = false) (outcome : Except Error α) :
    s.whenReady outcome = .error .notConnected := by
  rw [whenReady, h]
  rfl

theorem whenReady_eq_ok_iff {outcome : Except Error α} {a : α} :
    s.whenReady outcome = .ok a ↔ s.ready = true ∧ outcome = .ok a := by
  cases hready : s.ready with
  | false => simp [whenReady_of_not hready]
  | true => simp [whenReady_of_ready hready]

/-- Asking once whether a store can be reached is enough. -/
theorem whenReady_bind (outcome : Except Error α) :
    (s.whenReady (.ok ()) >>= fun _ => s.whenReady outcome) = s.whenReady outcome := by
  cases hready : s.ready with
  | false => rw [whenReady_of_not hready, whenReady_of_not hready]; rfl
  | true => rw [whenReady_of_ready hready]; rfl

end Store

/-! ## Reading operations over a store -/

namespace Repository

variable {σ α : Type}

section Outcomes

variable (r : Repository σ α) (s : Store) (scope : Option Value)

/-- The document under a key in a store, among those of an owner. -/
def locateIn (key : ObjectId) : Except Error (Option Document) :=
  s.findOne r.config.collection (keySelector key (r.owner scope))

/-- The document a cursor names in a store, among those of an owner. -/
def resolveIn (key : ObjectId) : Except Error Document := do
  match ← r.locateIn s scope key with
  | some reference => .ok reference
  | none => .error (.staleCursor key.toHex)

/-- **The selector of a listing over a store**: narrowed to what comes after its reference. -/
def narrowed (l : Listing) : Except Error Document :=
  match l.reference with
  | none => .ok l.selector
  | some key => do
    let reference ← r.resolveIn s scope key
    Keyset.continueAfter l.selector l.order reference

/-- The documents a listing fetches from a store, with one to look ahead. -/
def fetch (l : Listing) : Except Error (List Document) := do
  let selector ← r.narrowed s scope l
  s.find r.config.collection
    { selector, sort := some l.order.toDocument, limit := some (l.limit + 1) }

/-- **The page of a listing over a store.** -/
def page (filter : Option Document) (sort : List SortKey) (request : Pagination) :
    Except Error (Page α) := do
  let l ← r.listing scope filter sort request
  s.whenReady (.ok ())
  let documents ← r.fetch s scope l
  r.pageOf l.limit documents

/-- The model under an identifier in a store. -/
def record (id : String) : Except Error α := do
  let key ← keyOf id
  s.whenReady (.ok ())
  match ← r.locateIn s scope key with
  | some d => r.codec.load r.config.idField d
  | none => .error (.documentMissing r.config.collection id)

/-- The count of a filter over a store. -/
def countIn (filter : Option Document) : Except Error Nat := do
  let selector ← r.selector scope filter
  s.whenReady (.ok ())
  s.count r.config.collection selector

/-- The outcome of a pipeline over the documents of an owner in a store. -/
def aggregateIn (pipeline : List Document) : Except Error (List Document) := do
  s.whenReady (.ok ())
  s.aggregate r.config.collection (scopedPipeline (r.owner scope) pipeline)

end Outcomes

section Backend

variable {r : Repository Memory α} {supply : Nat → ObjectId}
  (hr : r.backend = Memory.backend supply) (scope : Option Value)
include hr

theorem reads_ensureReady : Reads r.ensureReady fun s => s.whenReady (.ok ()) := by
  intro m
  change (if r.backend.isReady m then (pure () : Action Memory Unit) else throw .notConnected) m
    = (if m.store.ready then .ok () else .error .notConnected, m)
  rw [hr]
  change (if m.store.ready then (pure () : Action Memory Unit) else throw .notConnected) m = _
  split <;> rfl

theorem reads_find (collection : String) (query : Query) :
    Reads (r.backend.find collection query) fun s => s.find collection query := by
  rw [hr]
  exact fun _ => rfl

theorem reads_findOne (collection : String) (selector : Document) :
    Reads (r.backend.findOne collection selector) fun s => s.findOne collection selector := by
  rw [hr]
  exact fun _ => rfl

theorem reads_resolve (key : ObjectId) :
    Reads (resolve r.backend r.config.collection key (r.owner scope))
      fun s => r.resolveIn s scope key := by
  refine .bind (reads_findOne hr _ _) fun found => ?_
  cases found <;> exact fun _ => rfl

/-- **A listing only reads**, and gives the page of the store. -/
theorem reads_readAll (filter : Option Document) (sort : List SortKey) (request : Pagination) :
    Reads (r.readAll scope filter sort request) fun s => r.page s scope filter sort request := by
  refine .bind (.lift _) fun l => .bind (reads_ensureReady hr) fun _ => ?_
  unfold fetch narrowed
  cases l.reference with
  | none => exact .bind (reads_find hr _ _) fun documents => .lift _
  | some key =>
    refine .congr (.bind (reads_resolve hr scope key) fun reference =>
      .bind (.lift _) fun selector => .bind (reads_find hr _ _) fun documents => .lift _)
      fun s => ?_
    simp only [bind_assoc]

/-- **Reading a model only reads.** -/
theorem reads_read (id : String) : Reads (r.read id scope) fun s => r.record s scope id := by
  refine .bind (.lift _) fun key => .bind (reads_ensureReady hr) fun _ =>
    .bind (reads_findOne hr _ _) fun found => ?_
  cases found <;> exact fun _ => rfl

/-- **Counting only reads.** -/
theorem reads_count (filter : Option Document) :
    Reads (r.count scope filter) fun s => r.countIn s scope filter := by
  refine .bind (.lift _) fun selector => .bind (reads_ensureReady hr) fun _ => ?_
  rw [hr]
  exact fun _ => rfl

/-- **A pipeline only reads.** -/
theorem reads_aggregate (pipeline : List Document) :
    Reads (r.aggregate pipeline scope) fun s => r.aggregateIn s scope pipeline := by
  refine .bind (reads_ensureReady hr) fun _ => ?_
  rw [hr]
  exact fun _ => rfl

end Backend

end Repository

/-! ## Selections of a collection -/

namespace Selector

variable {selector : Document} {documents found : List Document}

/-- **A selection evaluates its selector on every document.** -/
theorem exists_meets_of_select (h : (ofDocument selector).select documents = .ok found) :
    ∀ d ∈ documents, ∃ b, d.meets selector = .ok b := by
  induction documents generalizing found with
  | nil => exact nofun
  | cons d rest ih =>
    rw [select] at h
    intro e he
    split at h
    · next hd =>
      obtain ⟨others, hothers, -⟩ := map_eq_ok_iff.1 h
      rcases List.mem_cons.1 he with rfl | he
      · exact ⟨true, hd⟩
      · exact ih hothers e he
    · next hd =>
      rcases List.mem_cons.1 he with rfl | he
      · exact ⟨false, hd⟩
      · exact ih h e he
    · cases h

/-- A selection leaves documents out and adds none. -/
theorem select_eq_ok (h : (ofDocument selector).select documents = .ok found) :
    found = documents.filter (Document.fits selector) :=
  Except.ok.inj (h.symm.trans (select_eq_filter fun d hd =>
    Document.meets_eq_fits (exists_meets_of_select h d hd)))

end Selector

namespace Store

/-- The documents of a collection, none where it is not there. -/
def documents (s : Store) (collection : String) : List Document :=
  (s.documents? collection).getD []

variable {s : Store} {collection : String} {selector : Document} {p : Document → Bool}

@[simp] theorem limited_some (n : Nat) (documents : List Document) :
    limited (some n) documents = documents.take n := rfl

/-- **A search is a selection, put in order and cut off.**  A collection that is not there is as good
as an empty one, but for a sort document that cannot be read. -/
theorem find_eq_sorted {query : Query}
    (hsort : (s.documents? collection).isSome ∨ sorted query.sort [] = .ok []) :
    s.find collection query
      = s.whenReady ((Selector.ofDocument query.selector).select (s.documents collection) >>=
          fun found => (sorted query.sort found).map (limited query.limit)) := by
  rw [find, documents]
  congr 1
  cases hdocuments : s.documents? collection with
  | none =>
    have hempty : sorted query.sort [] = .ok [] :=
      hsort.resolve_left (by rw [hdocuments]; exact Bool.false_ne_true)
    change _ = (sorted query.sort []).map (limited query.limit)
    rw [hempty]
    cases hlimit : query.limit <;> simp [limited, Except.map]
  | some documents =>
    rw [Option.getD_some]
    rfl

theorem sorted_eq {spec : Document} {keys : List SortKey}
    (hkeys : SortKey.ofDocument spec = .ok keys) (documents : List Document) :
    sorted (some spec) documents = .ok (sortBy keys documents) := by
  rw [sorted, hkeys]
  rfl

/-- A search under keys sorts what was selected by them. -/
theorem find_eq_select {spec : Document} {keys : List SortKey}
    (hkeys : SortKey.ofDocument spec = .ok keys) (limit : Option Nat) :
    s.find collection { selector, sort := some spec, limit }
      = s.whenReady (((Selector.ofDocument selector).select (s.documents collection)).map
          fun found => limited limit (sortBy keys found)) := by
  have hempty : sortBy keys [] = [] := List.mergeSort_nil
  rw [find_eq_sorted (.inr (by rw [sorted_eq hkeys, hempty]))]
  simp only [sorted_eq hkeys]
  rfl

/-- A count is that of a selection. -/
theorem count_eq_select :
    s.count collection selector
      = s.whenReady (((Selector.ofDocument selector).select (s.documents collection)).map
          List.length) := by
  rw [count, documents]
  congr 1
  cases s.documents? collection <;> rfl

/-- **A search gives the documents meant**, in order and up to the limit, where each document can be
evaluated. -/
theorem find_eq {spec : Document} {keys : List SortKey} (hready : s.ready)
    (hp : ∀ d ∈ s.documents collection, d.meets selector = .ok (p d))
    (hkeys : SortKey.ofDocument spec = .ok keys) (limit : Option Nat) :
    s.find collection { selector, sort := some spec, limit }
      = .ok (limited limit (sortBy keys ((s.documents collection).filter p))) := by
  have hselect : (Selector.ofDocument selector).select (s.documents collection)
      = .ok ((s.documents collection).filter p) := Selector.select_eq_filter hp
  rw [find_eq_select hkeys, hselect, whenReady_of_ready hready]
  rfl

/-- **A search that succeeds has evaluated its selector on every document**, and gives those that
fit. -/
theorem of_find_eq_ok {spec : Document} {keys : List SortKey} {limit : Option Nat}
    {found : List Document} (hkeys : SortKey.ofDocument spec = .ok keys)
    (h : s.find collection { selector, sort := some spec, limit } = .ok found) :
    (∀ d ∈ s.documents collection, ∃ b, d.meets selector = .ok b) ∧
      found = limited limit
        (sortBy keys ((s.documents collection).filter (Document.fits selector))) := by
  rw [find_eq_select hkeys] at h
  obtain ⟨-, hfound⟩ := whenReady_eq_ok_iff.1 h
  obtain ⟨selected, hselect, rfl⟩ := map_eq_ok_iff.1 hfound
  exact ⟨Selector.exists_meets_of_select hselect, by rw [Selector.select_eq_ok hselect]⟩

/-- **The place of the first document meant**, where each document can be evaluated. -/
theorem locate_eq_findIdx? {documents : List Document}
    (hp : ∀ d ∈ documents, d.meets selector = .ok (p d)) :
    locate (Selector.ofDocument selector) documents = .ok (documents.findIdx? p) := by
  induction documents with
  | nil => rfl
  | cons d rest ih =>
    have hd : Selector.holds d (Selector.ofDocument selector) = .ok (p d) :=
      hp d List.mem_cons_self
    rw [locate, hd, List.findIdx?_cons, ih fun e he => hp e (List.mem_cons_of_mem _ he)]
    cases p d <;> rfl

theorem locate_eq {documents : List Document} (hp : ∀ d ∈ documents, d.meets selector = .ok (p d)) :
    (locate (Selector.ofDocument selector) documents).map (fun place => place.bind (documents[·]?))
      = .ok (documents.find? p) := by
  rw [locate_eq_findIdx? hp, List.find?_eq_bind_findIdx?_getElem?]
  rfl

/-- **The first document meant**, where each document can be evaluated. -/
theorem findOne_eq (hready : s.ready)
    (hp : ∀ d ∈ s.documents collection, d.meets selector = .ok (p d)) :
    s.findOne collection selector = .ok ((s.documents collection).find? p) := by
  rw [documents] at hp ⊢
  rw [findOne, whenReady, if_pos hready]
  cases hdocuments : s.documents? collection with
  | none => rfl
  | some documents =>
    rw [hdocuments] at hp
    exact locate_eq hp

end Store

/-! ## The documents of an owner -/

/-- **Whether a document is among those of an owner**; without an owner, all are. -/
def Document.inScope (owner : Option (String × Value)) (d : Document) : Bool :=
  Document.fits (Document.ownedBy [] owner) d

theorem Document.get?_ownedBy {d : Document} {field : String} {v : Value} :
    Fields.get? (d.ownedBy (some (field, v))) field = some v := by
  rw [ownedBy, Fields.get?_insert, if_pos rfl]

/-- The entry of the owner stands in every scoped selector. -/
theorem get?_scopedSelector {searchable : List String} {field : String} {owner : Value}
    {filter : Option Document} {selector : Document}
    (h : scopedSelector searchable (some (field, owner)) filter = .ok selector) :
    Fields.get? selector field = some owner := by
  obtain ⟨filtered, -, rfl⟩ := map_eq_ok_iff.1 h
  exact Document.get?_ownedBy

/-- The entry of the owner says of a document whether it is in scope. -/
theorem Document.meets_of_meetsEntry {d : Document} {field : String} {v : Value} {x : Bool}
    (hx : d.meetsEntry field v = .ok x) :
    d.meets (ownedBy [] (some (field, v))) = .ok (d.inScope (some (field, v))) ∧
      d.inScope (some (field, v)) = x := by
  have hmeets : d.meets (ownedBy [] (some (field, v))) = .ok x := meets_singleton hx
  exact ⟨meets_eq_fits ⟨x, hmeets⟩, fits_of_meets hmeets⟩

/-- **A scoped selector says of each document whether it is in scope**, and means only those. -/
theorem scope_of_meets {searchable : List String} {owner : Option (String × Value)}
    {filter : Option Document} {selector d : Document} {b : Bool}
    (hselector : scopedSelector searchable owner filter = .ok selector)
    (h : d.meets selector = .ok b) :
    d.meets (Document.ownedBy [] owner) = .ok (d.inScope owner) ∧
      (b = true → d.inScope owner = true) := by
  cases owner with
  | none => exact ⟨rfl, fun _ => rfl⟩
  | some pair =>
    obtain ⟨field, v⟩ := pair
    obtain ⟨x, hx, himp⟩ := Document.meetsEntry_of_meets h (get?_scopedSelector hselector)
    obtain ⟨hmeets, rfl⟩ := Document.meets_of_meetsEntry hx
    exact ⟨hmeets, himp⟩

/-- **A conjunct does not hide the scope**: the narrowed selector as well says of each document
whether it is in scope, where the scope can be evaluated at all. -/
theorem scope_of_meets_conjoin {searchable : List String} {owner : Option (String × Value)}
    {filter : Option Document} {selector clause narrowed reference d : Document} {b y : Bool}
    (hselector : scopedSelector searchable owner filter = .ok selector)
    (hnarrowed : Document.conjoin selector clause = .ok narrowed)
    (hreference : reference.meets (Document.ownedBy [] owner) = .ok y)
    (h : d.meets narrowed = .ok b) :
    d.meets (Document.ownedBy [] owner) = .ok (d.inScope owner) ∧
      (b = true → d.inScope owner = true) := by
  cases owner with
  | none => exact ⟨rfl, fun _ => rfl⟩
  | some pair =>
    obtain ⟨field, v⟩ := pair
    -- The owner may be marked by a conjunction; the reference shows that it is not an empty one.
    obtain ⟨z, _, hz, -, -⟩ := Document.meets_cons_eq_ok_iff.1 hreference
    obtain ⟨x, hx, himp⟩ :=
      Document.meetsEntry_of_meets_conjoin h hnarrowed (get?_scopedSelector hselector) hz
    obtain ⟨hmeets, rfl⟩ := Document.meets_of_meetsEntry hx
    exact ⟨hmeets, himp⟩

/-- Where the field of the owner is not the key, a key selector asks for the key and the scope. -/
theorem Repository.keySelector_eq {owner : Option (String × Value)} (key : ObjectId)
    (hfield : ∀ pair ∈ owner, pair.1 ≠ primaryKey) :
    keySelector key owner
      = [(primaryKey, .objectId key)] ++ Document.ownedBy [] owner := by
  cases owner with
  | none => rfl
  | some pair =>
    have hne : primaryKey ≠ pair.1 := Ne.symm (hfield pair rfl)
    simp [keySelector, Document.ownedBy, Fields.insert, hne]

/-- A value that is asked for as it is. -/
theorem Document.meetsEntry_of_read {field : String} {v : Value} (hfield : isOperator field = false)
    (hv : Condition.read v = [.equal v]) (d : Document) :
    d.meetsEntry field v = .ok (equalsAt (d.lookup? field) v) := by
  rw [meetsEntry_of_not_operator hfield, Condition.holds, hv]
  exact Keyset.allHold_singleton rfl

theorem Document.meetsEntry_primaryKey {d : Document} {id : ObjectId} (hd : d.key? = some id)
    (key : ObjectId) :
    d.meetsEntry primaryKey (.objectId key) = .ok (d.key? == some key) := by
  have hadmits (id : ObjectId) : SortKind.objectId.admits (.objectId id) := .inr rfl
  have hequal : equalsAt (d.lookup? primaryKey) (.objectId key) = (d.key? == some key) := by
    rw [lookup?_primaryKey, get?_of_key? hd, hd, SortKind.equalsAt_eq (hadmits id) (hadmits key),
      Bool.eq_iff_iff, beq_iff_eq, beq_iff_eq, Option.some.injEq]
    refine ⟨ObjectId.eq_of_compare, ?_⟩
    rintro rfl
    exact Nat.compare_eq_eq.2 rfl
  rw [← hequal]
  exact meetsEntry_of_read (by decide) rfl d

/-- **A key selector means the document under the key, if it is in scope.** -/
theorem Document.meets_keySelector {d : Document} {id key : ObjectId}
    {owner : Option (String × Value)} {b : Bool} (hfield : ∀ pair ∈ owner, pair.1 ≠ primaryKey)
    (hd : d.key? = some id) (hscope : d.meets (ownedBy [] owner) = .ok b) :
    d.meets (Repository.keySelector key owner) = .ok (d.key? == some key && b) := by
  rw [Repository.keySelector_eq key hfield, meets_append_eq_ok_iff]
  exact ⟨_, b, meets_singleton (meetsEntry_primaryKey hd key), hscope, rfl⟩

/-! ## Key selectors -/

namespace Repository

variable {owner : Option (String × Value)} {key : ObjectId} {d : Document}

/-- A key selector asks for the scope alone, where the owner is marked by the key, and else for the
key and the scope. -/
theorem keySelector_cases (key : ObjectId) (owner : Option (String × Value)) :
    keySelector key owner = Document.ownedBy [] owner ∨
      keySelector key owner = [(primaryKey, .objectId key)] ++ Document.ownedBy [] owner := by
  cases owner with
  | none => exact .inr rfl
  | some pair =>
    obtain ⟨field, v⟩ := pair
    by_cases hfield : field = primaryKey
    · left
      simp [keySelector, Document.ownedBy, Fields.insert, hfield]
    · right
      refine keySelector_eq key ?_
      rintro _ ⟨⟩
      exact hfield

/-- Every document can be asked for a key. -/
theorem meets_primaryKey (d : Document) (key : ObjectId) :
    d.meets [(primaryKey, .objectId key)]
      = .ok (equalsAt (d.lookup? primaryKey) (.objectId key)) :=
  Document.meets_singleton (Document.meetsEntry_of_read (by decide) rfl d)

/-- **A key selector can be evaluated where the scope can be.** -/
theorem exists_meets_keySelector (hscope : ∃ b, d.meets (Document.ownedBy [] owner) = .ok b) :
    ∃ b, d.meets (keySelector key owner) = .ok b := by
  rcases keySelector_cases key owner with heq | heq <;> rw [heq]
  · exact hscope
  · obtain ⟨b, hb⟩ := hscope
    exact ⟨_, Document.meets_append_eq_ok_iff.2 ⟨_, b, meets_primaryKey d key, hb, rfl⟩⟩

/-- The scope can be evaluated where a key selector can be. -/
theorem exists_meets_ownedBy {b : Bool} (h : d.meets (keySelector key owner) = .ok b) :
    ∃ x, d.meets (Document.ownedBy [] owner) = .ok x := by
  rcases keySelector_cases key owner with heq | heq <;> rw [heq] at h
  · exact ⟨b, h⟩
  · obtain ⟨_, x, -, hx, -⟩ := Document.meets_append_eq_ok_iff.1 h
    exact ⟨x, hx⟩

/-- **A document in scope meets the selector of its key.** -/
theorem meets_keySelector_of_key? (hkey : d.key? = some key)
    (hscope : d.meets (Document.ownedBy [] owner) = .ok true) :
    d.meets (keySelector key owner) = .ok true := by
  rcases keySelector_cases key owner with heq | heq <;> rw [heq]
  · exact hscope
  · have hmeets := Document.meets_singleton (Document.meetsEntry_primaryKey hkey key)
    rw [hkey, beq_self_eq_true] at hmeets
    exact Document.meets_append_eq_ok_iff.2 ⟨true, true, hmeets, hscope, rfl⟩

end Repository

end KeysetStore
