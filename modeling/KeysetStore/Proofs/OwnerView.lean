import KeysetStore.Proofs.ListingPage

/-!
# Proofs/OwnerView — the part of a store that an owner sees

A document belongs to an owner by the value at one field (`Document.isOwnedBy`).  Every selector of
an operation on behalf of an owner has an entry for that field, which no filter, search or cursor
takes away, so it means documents of the owner only (`Document.isOwnedBy_of_meets`).

Hence an operation that reads answers as it would on the owner's documents alone (`Repository.view`).
Reading a model and running a pipeline do so always.  Counting and listing evaluate a caller's filter
on the documents of others as well, and may report that it fails on one of these
(`Repository.FailsAbroad`).
-/

namespace KeysetStore

/-! ## The documents of an owner -/

/-- **Whether a value can mark an owner**: as a condition it asks for equality with itself, which no
missing value meets. -/
def Value.marksOwner : Value → Bool
  | null => false
  | regex .. => false
  | document fields => !Document.listsOperators fields
  | _ => true

namespace Document

variable {d selector : Document} {field : String} {owner : Value}

/-- **Whether a document belongs to an owner**: the value at the field, or an item of the array
there, equals the one that marks the owner. -/
def isOwnedBy (d : Document) (field : String) (owner : Value) : Bool :=
  (d.lookup? field).any (Value.reaches fun v => v.orderKey.equals owner.orderKey)

/-- **The entry of an owner asks whether a document belongs to the owner.** -/
theorem meetsEntry_owner (hfield : isOperator field = false) (howner : owner.marksOwner = true)
    (d : Document) : d.meetsEntry field owner = .ok (d.isOwnedBy field owner) := by
  have hread : Condition.read owner = [.equal owner] := by
    cases owner
    case document fields =>
      have hplain : listsOperators fields = false := by simpa [Value.marksOwner] using howner
      simp [Condition.read, hplain]
    all_goals first | rfl | cases howner
  have hnull : owner.isNull = false := by
    cases owner
    case null => cases howner
    all_goals rfl
  rw [meetsEntry_of_read hfield hread, equalsAt, hnull]
  simp [isOwnedBy]

/-- **A selector with the entry of an owner means documents of the owner only.** -/
theorem isOwnedBy_of_meets (hfield : isOperator field = false) (howner : owner.marksOwner = true)
    (hentry : Fields.get? selector field = some owner) (h : d.meets selector = .ok true) :
    d.isOwnedBy field owner = true := by
  obtain ⟨x, hx, himp⟩ := meetsEntry_of_meets h hentry
  rw [meetsEntry_owner hfield howner] at hx
  rw [Except.ok.inj hx, himp rfl]

/-- A key selector can be evaluated on every document. -/
theorem exists_meets_keySelector (hfield : isOperator field = false)
    (howner : owner.marksOwner = true) (key : ObjectId) (d : Document) :
    ∃ b, d.meets (Repository.keySelector key (some (field, owner))) = .ok b :=
  Repository.exists_meets_keySelector ⟨_, meets_singleton (meetsEntry_owner hfield howner d)⟩

end Document

/-! ## Selections that leave documents out -/

/-- **A selection from the documents with a property is the selection from all**, where the selector
means no others, unless it fails on one of those left out. -/
theorem Selector.select_filter {s : Selector} {p : Document → Bool} {documents : List Document}
    (h : ∀ d ∈ documents, Selector.holds d s = .ok true → p d = true) :
    s.select documents = s.select (documents.filter p) ∨
      ∃ e, (∃ d ∈ documents, p d = false ∧ Selector.holds d s = .error e) ∧
        s.select documents = .error e := by
  induction documents with
  | nil => exact .inl rfl
  | cons d rest ih =>
    have hrest := ih fun e he => h e (List.mem_cons_of_mem _ he)
    cases hd : Selector.holds d s with
    | error e =>
      have hselect : s.select (d :: rest) = .error e := by rw [select, hd]
      cases hp : p d with
      | true =>
        refine .inl ?_
        rw [List.filter_cons_of_pos hp, hselect, select, hd]
      | false => exact .inr ⟨e, ⟨d, List.mem_cons_self, hp, hd⟩, hselect⟩
    | ok b =>
      rcases hrest with heq | ⟨e, ⟨f, hf, hp, hfails⟩, herror⟩
      · refine .inl ?_
        cases hp : p d with
        | true => rw [List.filter_cons_of_pos hp, select, select, hd, heq]
        | false =>
          have hb : b ≠ true := fun hb => by simp [h d List.mem_cons_self (by rw [hd, hb])] at hp
          obtain rfl : b = false := by simpa using hb
          rw [List.filter_cons_of_neg (by simp [hp]), select, hd, heq]
      · refine .inr ⟨e, ⟨f, List.mem_cons_of_mem _ hf, hp, hfails⟩, ?_⟩
        rw [select, hd, herror]
        cases b <;> rfl

/-! ## The view of an owner -/

namespace Repository

variable {σ α : Type} (r : Repository σ α) (s : Store) (owner : Value)

/-- Whether a document belongs to an owner, by the scope field of the repository. -/
def owns (d : Document) : Bool := d.isOwnedBy r.config.scopeField owner

/-- The documents of an owner, in stored order. -/
def owned : List Document := (s.documents r.config.collection).filter (r.owns owner)

/-- **The store as an owner sees it**, with the documents of the owner and no others. -/
def view : Store :=
  { ready := s.ready, collections := [(r.config.collection, r.owned s owner)] }

/-- **A selector fails on a document of somebody else.** -/
def FailsAbroad (selector : Document) (e : Error) : Prop :=
  ∃ d ∈ s.documents r.config.collection, r.owns owner d = false ∧ d.meets selector = .error e

theorem documents_view :
    (r.view s owner).documents r.config.collection = r.owned s owner := by
  rw [view, Store.documents, Store.documents?, Fields.get?_cons, if_pos rfl]
  rfl

end Repository

/-! ## Reading on behalf of an owner -/

namespace Repository

variable {σ α : Type} {r : Repository σ α} {s : Store} {owner : Value}
  {filter : Option Document} {sort : List SortKey} {request : Pagination} {l : Listing}

/-- A count, as a chain of steps. -/
theorem countIn_eq (scope : Option Value) :
    r.countIn s scope filter = r.selector scope filter >>= fun selector =>
      s.whenReady (((Selector.ofDocument selector).select
        (s.documents r.config.collection)).map List.length) := by
  refine bind_congr fun selector => ?_
  rw [Store.count_eq_select, Store.whenReady_bind]

/-- Narrowing a listing leaves the entries of fields alone. -/
theorem get?_narrowed {scope : Option Value} {selector : Document} {name : String}
    (hname : isOperator name = false) (h : r.narrowed s scope l = .ok selector) :
    Fields.get? selector name = Fields.get? l.selector name := by
  rw [narrowed] at h
  cases hreference : l.reference with
  | none =>
    rw [hreference] at h
    rw [Except.ok.inj h]
  | some key =>
    rw [hreference] at h
    obtain ⟨reference, -, hconjoin⟩ := bind_eq_ok_iff.1 h
    refine Document.get?_conjoin hconjoin ?_
    rintro rfl
    cases hname

section

variable (hfield : isOperator r.config.scopeField = false) (howner : owner.marksOwner = true)
include hfield howner

/-- **A document is looked for among those of the owner only.** -/
theorem locateIn_view (key : ObjectId) :
    r.locateIn s (some owner) key = r.locateIn (r.view s owner) (some owner) key := by
  let selector := keySelector key (r.owner (some owner))
  have hmeets (d : Document) : d.meets selector = .ok (Document.fits selector d) :=
    Document.meets_eq_fits (d.exists_meets_keySelector hfield howner key)
  have howned (d : Document) (h : Document.fits selector d = true) : r.owns owner d = true := by
    have hentry : Fields.get? selector r.config.scopeField = some owner := Document.get?_ownedBy
    exact Document.isOwnedBy_of_meets hfield howner hentry (by rw [hmeets, h])
  cases hready : s.ready with
  | false =>
    have hview : (r.view s owner).ready = false := hready
    rw [locateIn, locateIn, Store.findOne, Store.findOne, Store.whenReady_of_not hready,
      Store.whenReady_of_not hview]
  | true =>
    have hview : (r.view s owner).ready = true := hready
    rw [locateIn, locateIn, Store.findOne_eq hready fun d _ => hmeets d,
      Store.findOne_eq hview fun d _ => hmeets d, documents_view, owned, List.find?_filter]
    refine congrArg Except.ok (congrArg (List.find? · _) (funext fun d => ?_))
    cases hd : Document.fits selector d with
    | true => simp [howned d hd]
    | false => simp

/-- **Reading a model** reads it from the view. -/
theorem record_view (id : String) :
    r.record s (some owner) id = r.record (r.view s owner) (some owner) id := by
  rw [record, record]
  refine bind_congr fun key => ?_
  rw [locateIn_view hfield howner key]
  rfl

/-- The selector of a listing is narrowed by a document of the owner. -/
theorem narrowed_view :
    r.narrowed s (some owner) l = r.narrowed (r.view s owner) (some owner) l := by
  rw [narrowed, narrowed]
  cases l.reference with
  | none => rfl
  | some key =>
    simp only
    rw [resolveIn, resolveIn, locateIn_view hfield howner key]

/-- **A pipeline goes through the documents of the owner.** -/
theorem aggregateIn_eq (pipeline : List Document) :
    r.aggregateIn s (some owner) pipeline
      = s.whenReady (runPipeline pipeline (r.owned s owner)) := by
  have hselect : (Selector.ofDocument [(r.config.scopeField, owner)]).select
      (s.documents r.config.collection) = .ok (r.owned s owner) :=
    Selector.select_eq_filter fun d _ =>
      Document.meets_singleton (Document.meetsEntry_owner hfield howner d)
  have hrun : runPipeline (scopedPipeline (r.owner (some owner)) pipeline)
      (s.documents r.config.collection) = runPipeline pipeline (r.owned s owner) := by
    change (Selector.ofDocument [(r.config.scopeField, owner)]).select _ >>= runPipeline pipeline = _
    rw [hselect]
    rfl
  rw [aggregateIn, Store.aggregate, Store.whenReady_bind, ← hrun]
  rfl

/-- What is made of a selection is made of one from the view, where the selector has the entry of
the owner and does not fail abroad. -/
theorem selection_view {β : Type} {selector : Document}
    (hentry : Fields.get? selector r.config.scopeField = some owner) (f : List Document → β) :
    s.whenReady (((Selector.ofDocument selector).select (s.documents r.config.collection)).map f)
        = s.whenReady (((Selector.ofDocument selector).select (r.owned s owner)).map f) ∨
      ∃ e, r.FailsAbroad s owner selector e ∧
        s.whenReady (((Selector.ofDocument selector).select
          (s.documents r.config.collection)).map f) = .error e := by
  have howned : ∀ d ∈ s.documents r.config.collection,
      Selector.holds d (Selector.ofDocument selector) = .ok true → r.owns owner d = true :=
    fun d _ h => Document.isOwnedBy_of_meets hfield howner hentry h
  cases hready : s.ready with
  | false => exact .inl (by rw [Store.whenReady_of_not hready, Store.whenReady_of_not hready])
  | true =>
    rw [Store.whenReady_of_ready hready, Store.whenReady_of_ready hready]
    rcases Selector.select_filter howned with h | ⟨e, habroad, h⟩
    · exact .inl (congrArg _ h)
    · exact .inr ⟨e, habroad, by rw [h]; rfl⟩

/-- **A count** counts in the view, unless its selector fails abroad. -/
theorem countIn_view :
    r.countIn s (some owner) filter = r.countIn (r.view s owner) (some owner) filter ∨
      ∃ selector e, r.selector (some owner) filter = .ok selector ∧
        r.FailsAbroad s owner selector e ∧ r.countIn s (some owner) filter = .error e := by
  rw [countIn_eq, countIn_eq, documents_view]
  cases hselector : r.selector (some owner) filter with
  | error e => exact .inl rfl
  | ok selector =>
    have hentry := get?_scopedSelector hselector
    rcases selection_view hfield howner hentry List.length with h | ⟨e, habroad, h⟩
    · exact .inl h
    · exact .inr ⟨selector, e, rfl, habroad, h⟩

/-- What a listing fetches is in the view, unless its narrowed selector fails abroad. -/
theorem fetch_view (hl : r.listing (some owner) filter sort request = .ok l) :
    r.fetch s (some owner) l = r.fetch (r.view s owner) (some owner) l ∨
      ∃ selector e, r.narrowed s (some owner) l = .ok selector ∧
        r.FailsAbroad s owner selector e ∧ r.fetch s (some owner) l = .error e := by
  obtain ⟨-, -, hselector, -, -⟩ := listing_eq_ok_iff.1 hl
  have hkeys := sortKeys_of_listing hl
  rw [fetch, fetch, ← narrowed_view hfield howner]
  cases hnarrowed : r.narrowed s (some owner) l with
  | error e => exact .inl rfl
  | ok selector =>
    have hentry : Fields.get? selector r.config.scopeField = some owner := by
      rw [get?_narrowed hfield hnarrowed]
      exact get?_scopedSelector hselector
    change s.find _ _ = (r.view s owner).find _ _ ∨ _
    rw [Store.find_eq_select hkeys, Store.find_eq_select hkeys, documents_view]
    rcases selection_view hfield howner hentry _ with h | ⟨e, habroad, h⟩
    · exact .inl h
    · refine .inr ⟨selector, e, rfl, habroad, ?_⟩
      exact (Store.find_eq_select hkeys _).trans h

/-- **A page** is one of the view, unless its narrowed selector fails abroad. -/
theorem page_view :
    r.page s (some owner) filter sort request
        = r.page (r.view s owner) (some owner) filter sort request ∨
      ∃ l selector e, r.listing (some owner) filter sort request = .ok l ∧
        r.narrowed s (some owner) l = .ok selector ∧ r.FailsAbroad s owner selector e ∧
        r.page s (some owner) filter sort request = .error e := by
  rw [page, page]
  cases hl : r.listing (some owner) filter sort request with
  | error e => exact .inl rfl
  | ok l =>
    change (s.whenReady (.ok ()) >>= fun _ => r.fetch s (some owner) l >>= r.pageOf l.limit)
      = (s.whenReady (.ok ()) >>= fun _ =>
          r.fetch (r.view s owner) (some owner) l >>= r.pageOf l.limit) ∨ _
    cases hready : s.ready with
    | false => exact .inl (by rw [Store.whenReady_of_not hready]; rfl)
    | true =>
      rcases fetch_view hfield howner hl with h | ⟨selector, e, hnarrowed, habroad, h⟩
      · exact .inl (by rw [h])
      · refine .inr ⟨l, selector, e, rfl, hnarrowed, habroad, ?_⟩
        change (s.whenReady (.ok ()) >>= fun _ => r.fetch s (some owner) l >>= r.pageOf l.limit) = _
        rw [Store.whenReady_of_ready hready, h]
        rfl

end

end Repository

end KeysetStore
