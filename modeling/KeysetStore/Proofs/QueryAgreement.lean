import KeysetStore.Proofs.StoreRuns

/-!
# Proofs/QueryAgreement — all operations of a store agree on what a selector means

Searches, counts and pipelines evaluate a selector on the whole collection, so they succeed or fail
together, with the same error.  The operations on one document stop at the first that meets it; they
too succeed or fail together (`Store.Selects`), but may succeed where a search does not, since a
fault behind that document is never reached.  Where the search does succeed, the document they
concern is the first one found (`Store.locate_of_select`).

Nothing is asked of the store: not how it was filled, nor that it can be reached
(`Store.agrees_find`).
-/

namespace KeysetStore

/-! ## Stages of a pipeline -/

/-- A pipeline that begins with a filter goes on with the selection. -/
theorem runPipeline_match (selector : Document) (rest documents : List Document) :
    runPipeline ([("$match", .document selector)] :: rest) documents
      = (Selector.ofDocument selector).select documents >>= runPipeline rest :=
  rfl

/-- A pipeline sorts as a search does. -/
theorem runPipeline_sort (spec : Document) (rest documents : List Document) :
    runPipeline ([("$sort", .document spec)] :: rest) documents
      = Store.sorted (some spec) documents >>= runPipeline rest := by
  change ((SortKey.ofDocument spec).map Stage.sort >>= fun stage =>
    stage.apply documents >>= runPipeline rest) = _
  rw [Store.sorted]
  cases SortKey.ofDocument spec <;> rfl

/-- Every number of documents that a stage can be given is the number it reads. -/
theorem Stage.countOf_ofNat {n : Nat} (h : n < 2 ^ (63 : Nat)) (name : String) :
    countOf name (.int64 (Int64.ofNat n)) = .ok n := by
  have hread : (Int64.ofNat n).toInt = n := Int64.toInt_ofNat_of_lt h
  simp [countOf, hread]

/-- A pipeline cuts off as a search does. -/
theorem runPipeline_limit {n : Nat} (h : n < 2 ^ (63 : Nat)) (rest documents : List Document) :
    runPipeline ([("$limit", .int64 (Int64.ofNat n))] :: rest) documents
      = runPipeline rest (Store.limited (some n) documents) := by
  change ((Stage.countOf "$limit" (.int64 (Int64.ofNat n))).map Stage.limit >>= fun stage =>
    stage.apply documents >>= runPipeline rest) = _
  rw [Stage.countOf_ofNat h]
  rfl

namespace Store

variable {s : Store} {collection : String} {selector : Document}

/-! ## The document that a selector selects -/

/-- **Where a selection succeeds, the place that is located is that of its first document.** -/
theorem locate_of_select {documents found : List Document}
    (h : (Selector.ofDocument selector).select documents = .ok found) :
    (locate (Selector.ofDocument selector) documents).map
        (fun place => place.bind (documents[·]?)) = .ok found.head? := by
  have hmeets : ∀ d ∈ documents, d.meets selector = .ok (Document.fits selector d) :=
    fun d hd => Document.meets_eq_fits (Selector.exists_meets_of_select h d hd)
  rw [locate_eq hmeets, Selector.select_eq_ok h, List.head?_filter]

/-- **What the operations on one document make of a selector**, where a search for one has the given
outcome. -/
inductive Selects (s : Store) (collection : String) (selector : Document) :
    Except Error (Option Document) → Prop where
  /-- All fail, with one error, and the store stays as it was. -/
  | failed {e : Error} (delete : s.deleteOne collection selector = (.error e, s))
      (replace : ∀ d, s.replaceOne collection selector d = (.error e, s)) :
      Selects s collection selector (.error e)
  /-- There is nothing to change, and the store stays as it was. -/
  | missed (delete : s.deleteOne collection selector = (.ok 0, s))
      (replace : ∀ d, s.replaceOne collection selector d = (.ok 0, s)) :
      Selects s collection selector (.ok none)
  /-- The first document that meets the selector is found; just it goes, or has another one put in
  its place and under its key. -/
  | found {front back : List Document} {old : Document}
      (documents : s.documents? collection = some (front ++ old :: back))
      (before : ∀ e ∈ front, e.meets selector = .ok false)
      (meets : old.meets selector = .ok true)
      (delete : s.deleteOne collection selector
        = (.ok 1, s.withDocuments collection (front ++ back)))
      (replace : ∀ d, s.replaceOne collection selector d
        = (.ok 1, s.withDocuments collection
            (front ++ stored ((Fields.get? old primaryKey).getD .null) d :: back))) :
      Selects s collection selector (.ok (some old))

/-- **The operations on one document concern the same one**, or fail with the same error: each goes
to the place that is located. -/
theorem selects_findOne (s : Store) (collection : String) (selector : Document) :
    s.Selects collection selector (s.findOne collection selector) := by
  cases hready : s.ready with
  | false =>
    have hchange change : s.changeFirst collection selector change = (.error .notConnected, s) := by
      simp [changeFirst, hready]
    rw [findOne, whenReady_of_not hready]
    exact .failed (hchange _) fun _ => hchange _
  | true =>
    rw [findOne, whenReady_of_ready hready]
    cases hdocuments : s.documents? collection with
    | none =>
      have hchange change : s.changeFirst collection selector change = (.ok 0, s) := by
        simp [changeFirst, hready, hdocuments]
      exact .missed (hchange _) fun _ => hchange _
    | some documents =>
      dsimp only
      cases hlocate : locate (Selector.ofDocument selector) documents with
      | error e =>
        have hchange change : s.changeFirst collection selector change = (.error e, s) := by
          simp [changeFirst, hready, hdocuments, hlocate]
        exact .failed (hchange _) fun _ => hchange _
      | ok place? =>
        cases place? with
        | none =>
          have hchange change : s.changeFirst collection selector change = (.ok 0, s) := by
            simp [changeFirst, hready, hdocuments, hlocate]
          exact .missed (hchange _) fun _ => hchange _
        | some place =>
          have hchange change : s.changeFirst collection selector change
              = (.ok 1, s.withDocuments collection (change documents place)) := by
            simp [changeFirst, hready, hdocuments, hlocate]
          obtain ⟨front, old, back, rfl, rfl, hfront, hold⟩ := exists_place_of_locate hlocate
          have hfound : (front ++ old :: back)[front.length]? = some old := by simp
          rw [Except.map, Option.bind_some, hfound]
          refine .found hdocuments hfront hold ?_ fun d => ?_
          · rw [deleteOne, hchange, eraseIdx_place]
          · rw [replaceOne, hchange, modify_place]

/-! ## Agreement -/

/-- **The operations of a store agree with a search** for a selector, whose outcome is the given
one. -/
structure Agrees (s : Store) (collection : String) (selector : Document)
    (found : Except Error (List Document)) : Prop where
  /-- A count is that of the documents found. -/
  count : s.count collection selector = found.map List.length
  /-- A pipeline with the selector alone finds the same documents. -/
  aggregate : s.aggregate collection [[("$match", .document selector)]] = found
  /-- The operations on one document agree with each other, whatever the search gives. -/
  selects : s.Selects collection selector (s.findOne collection selector)
  /-- Where the search succeeds, they concern the first document found. -/
  first : ∀ documents, found = .ok documents →
    s.findOne collection selector = .ok documents.head?
  /-- A search in order and up to a limit is a pipeline of three stages, for every limit that a stage
  can be given.  Where the collection is not there, the pipeline alone reads the sort document. -/
  ordered : (s.documents? collection).isSome → ∀ (spec : Document) (n : Nat), n < 2 ^ (63 : Nat) →
    s.find collection { selector, sort := some spec, limit := some n }
      = s.aggregate collection [[("$match", .document selector)], [("$sort", .document spec)],
          [("$limit", .int64 (Int64.ofNat n))]]

/-- A plain search is a selection. -/
theorem find_plain (s : Store) (collection : String) (selector : Document) :
    s.find collection { selector }
      = s.whenReady ((Selector.ofDocument selector).select (s.documents collection)) := by
  rw [find_eq_sorted (.inr rfl)]
  congr 1
  exact bind_pure _

/-- A search that succeeds finds the document that a search for one finds first. -/
theorem findOne_of_find {documents : List Document}
    (h : s.find collection { selector } = .ok documents) :
    s.findOne collection selector = .ok documents.head? := by
  rw [find_plain] at h
  obtain ⟨hready, hselect⟩ := whenReady_eq_ok_iff.1 h
  rw [findOne, whenReady_of_ready hready]
  rw [Store.documents] at hselect
  cases hdocuments : s.documents? collection with
  | none =>
    rw [hdocuments] at hselect
    obtain rfl := Except.ok.inj hselect
    rfl
  | some stored =>
    rw [hdocuments] at hselect
    exact locate_of_select hselect

/-- **A search in order is a pipeline**, which filters, sorts and cuts off. -/
theorem find_eq_aggregate (hdocuments : (s.documents? collection).isSome) (spec : Document)
    {n : Nat} (hn : n < 2 ^ (63 : Nat)) :
    s.find collection { selector, sort := some spec, limit := some n }
      = s.aggregate collection [[("$match", .document selector)], [("$sort", .document spec)],
          [("$limit", .int64 (Int64.ofNat n))]] := by
  rw [find_eq_sorted (.inl hdocuments), aggregate, ← documents, runPipeline_match]
  congr 2
  funext found
  rw [runPipeline_sort]
  cases sorted (some spec) found with
  | error e => rfl
  | ok documents => exact (runPipeline_limit hn [] documents).symm

/-- **Every store agrees with its searches**, for every collection and selector. -/
theorem agrees_find (s : Store) (collection : String) (selector : Document) :
    s.Agrees collection selector (s.find collection { selector }) where
  count := by
    rw [count_eq_select, find_plain, whenReady, whenReady]
    split <;> rfl
  aggregate := by
    rw [find_plain, aggregate, runPipeline_match]
    exact congrArg _ (bind_pure _)
  selects := selects_findOne s collection selector
  first _ := findOne_of_find
  ordered hdocuments spec _ := find_eq_aggregate hdocuments spec

end Store

namespace Shelf

/-- A selector that is met by the products of one owner and has a fault for all others. -/
def faulty : Document :=
  [("$or", .array [.document [("userId", .string "alice")],
    .document [("price", .document [("$near", .int32 5)])]])]

/-- Where the search fails for a later product, the first one is found and deleted nevertheless. -/
example :
    memory.store.find "products" { selector := faulty } = .error (.operator "$near") ∧
    memory.store.findOne "products" faulty = .ok documents.head? ∧
    memory.store.deleteOne "products" faulty
      = (.ok 1, memory.store.withDocuments "products" documents.tail) :=
  ⟨rfl, rfl, rfl⟩

end Shelf

end KeysetStore
