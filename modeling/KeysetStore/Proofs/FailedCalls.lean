import KeysetStore.Proofs.StoreRuns

/-!
# Proofs/FailedCalls — what a call that fails leaves behind

A call that fails leaves the store as it was, with one exception: an insertion that is refused has
opened its collection, if that was not there (`Store.perform_failed`).  An opened collection is
empty, and nearly nothing tells it from a missing one.  Both stores go on side by side through any
steps (`Store.Opens.apply`), and their answers are the same but for one kind of call: a search in that
collection under a sort document with a direction that is none.  Where the collection is missing the
sort document is not looked at (`Store.answers_failed`).

The exception is real: after a refused insertion such a search fails, and without it it finds nothing
(`Shelf.refusal_tells`).
-/

namespace KeysetStore

namespace Store

variable {s s' : Store} {collection : String}

/-! ## Opened collections -/

/-- **One store is another with a collection opened**, which was not there and is empty; or the two
hold the same. -/
structure Opens (collection : String) (s s' : Store) : Prop where
  ready : s'.ready = s.ready
  documents? : ∀ other, s'.documents? other = s.documents? other ∨
    other = collection ∧ s.documents? other = none ∧ s'.documents? other = some []

theorem opens_withDocuments (h : s.documents? collection = none) :
    Opens collection s (s.withDocuments collection []) := by
  refine ⟨rfl, fun other => ?_⟩
  rw [documents?_withDocuments]
  split
  · next heq => exact .inr ⟨heq.symm, heq ▸ h, rfl⟩
  · exact .inl rfl

/-- A collection that gets the documents it has does not change. -/
theorem withDocuments_self {documents : List Document}
    (h : s.documents? collection = some documents) :
    s.withDocuments collection documents = s := by
  obtain ⟨front, back, hplace, hinsert⟩ := Fields.exists_place_of_get? h
  rw [withDocuments, hinsert documents, ← hplace]

/-- An insertion that is refused opens its collection, if that was not there. -/
theorem insertOne_failed {fresh : ObjectId} {d : Document} {e : Error}
    (h : (s.insertOne fresh collection d).1 = .error e) :
    (s.insertOne fresh collection d).2 = s ∨ s.documents? collection = none ∧
      (s.insertOne fresh collection d).2 = s.withDocuments collection [] := by
  have hopened : s.withDocuments collection ((s.documents? collection).getD []) = s ∨
      s.documents? collection = none ∧
        s.withDocuments collection ((s.documents? collection).getD [])
          = s.withDocuments collection [] := by
    rcases hdocuments : s.documents? collection with _ | documents
    · exact .inr ⟨rfl, rfl⟩
    · exact .inl (withDocuments_self hdocuments)
  rw [insertOne] at h ⊢
  split at h
  · next hready =>
    rw [if_pos hready]
    dsimp only at h ⊢
    split at h
    · exact hopened
    · split at h
      · next htaken =>
        rw [if_pos htaken]
        exact hopened
      · cases h
  · next hready =>
    rw [if_neg hready]
    exact .inl rfl

/-- A change that is not counted leaves the store as it was. -/
theorem changeFirst_state (s : Store) (collection : String) (selector : Document)
    (change : List Document → Nat → List Document) :
    (s.changeFirst collection selector change).1 = .ok 1 ∨
      (s.changeFirst collection selector change).2 = s := by
  rw [changeFirst]
  split
  · split
    · exact .inr rfl
    · split
      · exact .inr rfl
      · exact .inr rfl
      · exact .inl rfl
  · exact .inr rfl

theorem changeFirst_failed {selector : Document} {change : List Document → Nat → List Document}
    {e : Error} (h : (s.changeFirst collection selector change).1 = .error e) :
    (s.changeFirst collection selector change).2 = s := by
  rcases changeFirst_state s collection selector change with hcounted | hsame
  · rw [hcounted] at h
    cases h
  · exact hsame

/-- **A call that fails leaves the store as it was**, or it is an insertion, and opens a collection
that was not there. -/
theorem perform_failed {fresh : ObjectId} {call : Call} {e : Error}
    (h : (s.perform fresh call).1 = .error e) :
    (s.perform fresh call).2 = s ∨ ∃ collection d, call = .insertOne collection d ∧
      s.documents? collection = none ∧
      (s.perform fresh call).2 = s.withDocuments collection [] := by
  cases call with
  | insertOne collection d =>
    rcases insertOne_failed (map_eq_error_iff.1 h) with hsame | ⟨hmissing, hopened⟩
    · exact .inl hsame
    · exact .inr ⟨collection, d, rfl, hmissing, hopened⟩
  | replaceOne collection selector d => exact .inl (changeFirst_failed (map_eq_error_iff.1 h))
  | deleteOne collection selector => exact .inl (changeFirst_failed (map_eq_error_iff.1 h))
  | dropCollection collection =>
    have hfailed : (s.dropCollection collection).1 = .error e := map_eq_error_iff.1 h
    refine .inl (?_ : (s.dropCollection collection).2 = s)
    rw [dropCollection] at hfailed ⊢
    split at hfailed
    · cases hfailed
    · next hready => rw [if_neg hready]
  | _ => exact .inl rfl

namespace Opens

variable (h : Opens collection s s')
include h

theorem documents (other : String) : s'.documents other = s.documents other := by
  rw [Store.documents, Store.documents]
  rcases h.documents? other with hsame | ⟨-, hmissing, hempty⟩
  · rw [hsame]
  · rw [hmissing, hempty]
    rfl

theorem whenReady {α : Type} (outcome : Except Error α) :
    s'.whenReady outcome = s.whenReady outcome := by
  rw [Store.whenReady, Store.whenReady, h.ready]

theorem withDocuments (other : String) (documents : List Document) :
    Opens collection (s.withDocuments other documents) (s'.withDocuments other documents) := by
  refine ⟨h.ready, fun name => ?_⟩
  rw [documents?_withDocuments, documents?_withDocuments]
  split
  · exact .inl rfl
  · exact h.documents? name

/-! ## Side by side -/

/-- **A search tells the stores apart** only by a sort document that cannot be read. -/
theorem find (name : String) (query : Query) :
    s'.find name query = s.find name query ∨
      name = collection ∧ ∃ spec e, query.sort = some spec ∧ SortKey.ofDocument spec = .error e ∧
        s.find name query = .ok [] ∧ s'.find name query = .error e := by
  rcases h.documents? name with hsame | ⟨rfl, hmissing, hempty⟩
  · rw [Store.find, Store.find, h.whenReady, hsame]
    exact .inl rfl
  -- Over no documents only the sort document can fail.
  have hnone : s.find name query = s.whenReady (.ok []) := by rw [Store.find, hmissing]
  have hsome : s'.find name query
      = s.whenReady ((sorted query.sort []).map (limited query.limit)) := by
    rw [Store.find, h.whenReady, hempty]
    change s.whenReady (sorted query.sort [] >>= fun found => .ok (limited query.limit found)) = _
    rcases sorted query.sort [] with e | found <;> rfl
  have hlimited : limited query.limit [] = [] := by
    rcases query.limit with _ | n <;> simp [limited]
  rw [hnone, hsome]
  rcases hsort : query.sort with _ | spec
  · refine .inl (congrArg s.whenReady ?_)
    exact congrArg Except.ok hlimited
  rcases hkeys : SortKey.ofDocument spec with e | keys
  · rcases hready : s.ready with _ | _
    · rw [whenReady_of_not hready, whenReady_of_not hready]
      exact .inl rfl
    · rw [whenReady_of_ready hready, whenReady_of_ready hready, sorted, hkeys]
      exact .inr ⟨rfl, spec, e, rfl, hkeys, rfl, rfl⟩
  · have hsorted : sortBy keys [] = [] := by simp [sortBy]
    refine .inl (congrArg s.whenReady ?_)
    rw [sorted, hkeys, Except.map, Except.map, hsorted, hlimited]

theorem findOne (name : String) (selector : Document) :
    s'.findOne name selector = s.findOne name selector := by
  rw [Store.findOne, Store.findOne, h.whenReady]
  rcases h.documents? name with hsame | ⟨-, hmissing, hempty⟩
  · rw [hsame]
  · rw [hmissing, hempty]
    rfl

theorem count (name : String) (selector : Document) :
    s'.count name selector = s.count name selector := by
  rw [count_eq_select, count_eq_select, h.whenReady, h.documents]

theorem aggregate (name : String) (pipeline : List Document) :
    s'.aggregate name pipeline = s.aggregate name pipeline := by
  have hdocuments := h.documents name
  rw [Store.documents, Store.documents] at hdocuments
  rw [Store.aggregate, Store.aggregate, h.whenReady, hdocuments]

theorem insertOne (fresh : ObjectId) (name : String) (d : Document) :
    (s'.insertOne fresh name d).1 = (s.insertOne fresh name d).1 ∧
      Opens collection (s.insertOne fresh name d).2 (s'.insertOne fresh name d).2 := by
  have hdocuments := h.documents name
  rw [Store.documents, Store.documents] at hdocuments
  rw [Store.insertOne, Store.insertOne, h.ready, hdocuments]
  split
  · dsimp only
    split
    · exact ⟨rfl, h.withDocuments ..⟩
    · split
      · exact ⟨rfl, h.withDocuments ..⟩
      · exact ⟨rfl, h.withDocuments ..⟩
  · exact ⟨rfl, h⟩

theorem changeFirst (name : String) (selector : Document)
    (change : List Document → Nat → List Document) :
    (s'.changeFirst name selector change).1 = (s.changeFirst name selector change).1 ∧
      Opens collection (s.changeFirst name selector change).2
        (s'.changeFirst name selector change).2 := by
  rw [Store.changeFirst, Store.changeFirst, h.ready]
  split
  · rcases h.documents? name with hsame | ⟨-, hmissing, hempty⟩
    · rw [hsame]
      split
      · exact ⟨rfl, h⟩
      · split
        · exact ⟨rfl, h⟩
        · exact ⟨rfl, h⟩
        · exact ⟨rfl, h.withDocuments ..⟩
    · rw [hmissing, hempty]
      exact ⟨rfl, h⟩
  · exact ⟨rfl, h⟩

theorem dropCollection (name : String) :
    (s'.dropCollection name).1 = (s.dropCollection name).1 ∧
      Opens collection (s.dropCollection name).2 (s'.dropCollection name).2 := by
  rw [Store.dropCollection, Store.dropCollection, h.ready]
  split
  · refine ⟨rfl, rfl, fun other => ?_⟩
    rw [Store.documents?, Store.documents?, Fields.get?_erase, Fields.get?_erase]
    split
    · exact .inl rfl
    · exact h.documents? other
  · exact ⟨rfl, h⟩

end Opens

/-- **A step that tells of an opened collection**: a search in it under a sort document that cannot be
read, with the error of that. -/
def Step.TellsOf (collection : String) (e : Error) : Step → Prop
  | .call _ (.find name query) => name = collection ∧
      ∃ spec, query.sort = some spec ∧ SortKey.ofDocument spec = .error e
  | _ => False

/-- **A step takes stores side by side**, and gives the same outcome in both unless it tells of the
opened collection. -/
theorem Opens.apply (h : Opens collection s s') (step : Step) :
    Opens collection (step.apply s).2 (step.apply s').2 ∧
      ((step.apply s').1 = (step.apply s).1 ∨ ∃ e, step.TellsOf collection e ∧
        (step.apply s).1 = .ok (.documents []) ∧ (step.apply s').1 = .error e) := by
  cases step with
  | connect ready => exact ⟨⟨rfl, h.documents?⟩, .inl rfl⟩
  | call fresh c =>
    cases c with
    | find name query =>
      refine ⟨h, ?_⟩
      rcases h.find name query with hsame | ⟨hname, spec, e, hsort, hkeys, hfound, hfailed⟩
      · exact .inl (congrArg (Except.map Reply.documents) hsame)
      · exact .inr ⟨e, ⟨hname, spec, hsort, hkeys⟩, congrArg (Except.map Reply.documents) hfound,
          congrArg (Except.map Reply.documents) hfailed⟩
    | findOne name selector =>
      exact ⟨h, .inl (congrArg (Except.map Reply.document?) (h.findOne name selector))⟩
    | insertOne name d =>
      obtain ⟨hsame, hnext⟩ := h.insertOne fresh name d
      exact ⟨hnext, .inl (congrArg (Except.map Reply.key) hsame)⟩
    | replaceOne name selector d =>
      obtain ⟨hsame, hnext⟩ := h.changeFirst name selector _
      exact ⟨hnext, .inl (congrArg (Except.map Reply.number) hsame)⟩
    | deleteOne name selector =>
      obtain ⟨hsame, hnext⟩ := h.changeFirst name selector _
      exact ⟨hnext, .inl (congrArg (Except.map Reply.number) hsame)⟩
    | count name selector =>
      exact ⟨h, .inl (congrArg (Except.map Reply.number) (h.count name selector))⟩
    | aggregate name pipeline =>
      exact ⟨h, .inl (congrArg (Except.map Reply.documents) (h.aggregate name pipeline))⟩
    | createIndex name keys unique =>
      exact ⟨h, .inl (congrArg (Except.map fun _ => Reply.done) (h.whenReady _))⟩
    | dropCollection name =>
      obtain ⟨hsame, hnext⟩ := h.dropCollection name
      exact ⟨hnext, .inl (congrArg (Except.map fun _ => Reply.done) hsame)⟩

/-- **Whatever the steps, the answers are the same**, but for the steps that tell. -/
theorem Opens.answers (h : Opens collection s s') (steps : List Step) (i : Nat) :
    (answers steps s')[i]? = (answers steps s)[i]? ∨ ∃ step e, steps[i]? = some step ∧
      step.TellsOf collection e ∧ (answers steps s)[i]? = some (.ok (.documents [])) ∧
      (answers steps s')[i]? = some (.error e) := by
  induction steps generalizing s s' i with
  | nil => exact .inl rfl
  | cons step rest ih =>
    obtain ⟨hnext, houtcome⟩ := h.apply step
    rcases i with _ | i
    · rcases houtcome with hsame | ⟨e, htells, hfound, hfailed⟩
      · exact .inl (congrArg some hsame)
      · exact .inr ⟨step, e, rfl, htells, congrArg some hfound, congrArg some hfailed⟩
    · exact ih hnext i

/-- **A call that fails is not noticed later.**  All further steps have the outcomes they would have
had without it.  The exception is a refused insertion into a collection that is not there: a search
in that collection under a sort document that cannot be read then fails, and would have found
nothing. -/
theorem answers_failed {fresh : ObjectId} {call : Call} {e : Error}
    (h : (s.perform fresh call).1 = .error e) (steps : List Step) (i : Nat) :
    (answers steps (s.perform fresh call).2)[i]? = (answers steps s)[i]? ∨
      ∃ collection d step e', call = .insertOne collection d ∧
        s.documents? collection = none ∧ steps[i]? = some step ∧ step.TellsOf collection e' ∧
        (answers steps s)[i]? = some (.ok (.documents [])) ∧
        (answers steps (s.perform fresh call).2)[i]? = some (.error e') := by
  rcases perform_failed h with hsame | ⟨collection, d, rfl, hmissing, hopened⟩
  · rw [hsame]
    exact .inl rfl
  · rw [hopened]
    rcases (opens_withDocuments hmissing).answers steps i with
      hsame | ⟨step, e', hstep, htells, hfound, hfailed⟩
    · exact .inl hsame
    · exact .inr ⟨collection, d, step, e', rfl, hmissing, hstep, htells, hfound, hfailed⟩

end Store

namespace Shelf

/-- A label whose key is no key. -/
def mislabelled : Call := .insertOne "labels" [("label", .string "new"), ("_id", .int32 5)]

/-- What goes on after it was refused: a label is stored, counted and searched for. -/
def labelling : List Store.Step :=
  [.call (.ofNat 5) (.insertOne "labels" [("label", .string "old")]),
    .call default (.count "labels" []),
    .call default (.find "labels" { selector := [] })]

theorem not_tellsOf_labelling : ∀ step ∈ labelling, ∀ collection e, ¬ step.TellsOf collection e := by
  simp [labelling, Store.Step.TellsOf]

/-- Labels are stored, counted and found as if none had been refused. -/
theorem answers_labelling :
    (memory.store.perform default mislabelled).1 = .error (.primaryKey (.int32 5)) ∧
    Store.answers labelling (memory.store.perform default mislabelled).2
      = Store.answers labelling memory.store := by
  have hrefused : (memory.store.perform default mislabelled).1
      = .error (.primaryKey (.int32 5)) := rfl
  refine ⟨hrefused, List.ext_getElem? fun i => ?_⟩
  rcases Store.answers_failed hrefused labelling i with
    hsame | ⟨collection, d, step, e, -, -, hstep, htells, -⟩
  · exact hsame
  · exact absurd htells (not_tellsOf_labelling step (List.mem_of_getElem? hstep) collection e)

/-- A search for labels under a direction that is none. -/
def misordered : Store.Step :=
  .call default (.find "labels" { selector := [], sort := some [("label", .int32 0)] })

/-- **The exception is real**: without the refused label a search under no direction finds nothing,
and after it the search fails. -/
theorem refusal_tells :
    (memory.store.perform default mislabelled).1 = .error (.primaryKey (.int32 5)) ∧
    Store.answers [misordered] memory.store = [.ok (.documents [])] ∧
    Store.answers [misordered] (memory.store.perform default mislabelled).2
      = [.error (.sortDirection (.int32 0))] :=
  ⟨rfl, rfl, rfl⟩

end Shelf

end KeysetStore
