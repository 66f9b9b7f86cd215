import KeysetStore.Proofs.StoredReading

/-!
# Proofs/StoreWrites — what a write does to the documents of a collection

A write adds one document at the end, or changes one that meets its selector, or does nothing
(`Store.documents_insertOne`, `Store.documents_changeFirst`); other collections stay as they are.
Hence documents keep keys of their own under every write (`Write.keyed_apply`), and the writing
operations of a repository are writes of this kind (`Repository.create_state`,
`Repository.update_state`, `Repository.delete_state`).
-/

namespace KeysetStore

/-! ## Keys -/

namespace Keyed

variable {documents : List Document}

theorem append (h : Keyed documents) {d : Document} {id : ObjectId} (hd : d.key? = some id)
    (hnew : ∀ e ∈ documents, e.key? ≠ some id) : Keyed (documents ++ [d]) := by
  refine ⟨fun e he => ?_, List.pairwise_append.2 ⟨h.distinct, List.pairwise_singleton _ _, ?_⟩⟩
  · rcases List.mem_append.1 he with he | he
    · exact h.key e he
    · exact ⟨id, by rw [List.mem_singleton.1 he, hd]⟩
  · intro e he f hf
    rw [List.mem_singleton.1 hf, hd]
    exact hnew e he

/-- Documents whose keys are those of documents with keys of their own. -/
theorem of_map_key? {others : List Document} (h : Keyed documents)
    (hkeys : others.map (·.key?) = documents.map (·.key?)) : Keyed others := by
  refine ⟨fun d hd => ?_, ?_⟩
  · have hmem : d.key? ∈ documents.map (·.key?) := hkeys ▸ List.mem_map_of_mem hd
    obtain ⟨e, he, hed⟩ := List.mem_map.1 hmem
    rw [← hed]
    exact h.key e he
  · have hdistinct : (documents.map (·.key?)).Pairwise (· ≠ ·) := List.pairwise_map.2 h.distinct
    rw [← hkeys] at hdistinct
    exact List.pairwise_map.1 hdistinct

end Keyed

/-- A document in the place of another with the same key. -/
theorem map_key?_modify {documents : List Document} {place : Nat} {f : Document → Document}
    (h : ∀ hplace : place < documents.length,
      (f documents[place]).key? = documents[place].key?) :
    (documents.modify place f).map (·.key?) = documents.map (·.key?) := by
  refine List.ext_getElem (by simp) fun i hi hi' => ?_
  rw [List.getElem_map, List.getElem_map, List.getElem_modify]
  split
  · next hplace =>
    subst hplace
    exact h _
  · rfl

/-! ## Writes of a store -/

namespace Store

variable {s : Store} {collection : String}

theorem documents_withDocuments (s : Store) (collection other : String)
    (documents : List Document) :
    (s.withDocuments collection documents).documents other
      = if collection = other then documents else s.documents other := by
  rw [Store.documents, documents?_withDocuments]
  split <;> rfl

/-- **Storing a document** adds it at the end of its collection, under a key that nothing there has,
or changes nothing. -/
theorem documents_insertOne (s : Store) (fresh : ObjectId) (collection : String) (d : Document)
    (other : String) :
    (s.insertOne fresh collection d).2.documents other = s.documents other ∨
      other = collection ∧ ∃ id, keyFor fresh d = .ok id ∧
        (∀ e ∈ s.documents collection, e.key? ≠ some id) ∧
        (s.insertOne fresh collection d).2.documents other
          = s.documents collection ++ [stored (.objectId id) d] := by
  have hopened : (s.withDocuments collection (s.documents collection)).documents other
      = s.documents other := by
    rw [documents_withDocuments]
    split
    · next h => rw [h]
    · rfl
  have hdocuments : (s.documents? collection).getD [] = s.documents collection := rfl
  cases hready : s.ready with
  | false => exact .inl (by simp [insertOne, hready])
  | true =>
    cases hkey : keyFor fresh d with
    | error e => exact .inl (by simpa [insertOne, hready, hkey, hdocuments] using hopened)
    | ok id =>
      cases hany : (s.documents collection).any fun e => e.key? = some id with
      | true => exact .inl (by simpa [insertOne, hready, hkey, hdocuments, hany] using hopened)
      | false =>
        have hstore : (s.insertOne fresh collection d).2 = s.withDocuments collection
            (s.documents collection ++ [stored (.objectId id) d]) := by
          simp [insertOne, hready, hkey, hdocuments, hany]
        rw [hstore, documents_withDocuments]
        split
        · next h =>
          refine .inr ⟨h.symm, id, rfl, fun e he hid => ?_, rfl⟩
          exact List.any_eq_false.1 hany e he (decide_eq_true hid)
        · exact .inl rfl

/-- **The place of the first document that meets a selector**: those before it do not. -/
theorem exists_place_of_locate {selector : Document} {documents : List Document} {place : Nat}
    (h : locate (Selector.ofDocument selector) documents = .ok (some place)) :
    ∃ front d back, documents = front ++ d :: back ∧ front.length = place ∧
      (∀ e ∈ front, e.meets selector = .ok false) ∧ d.meets selector = .ok true := by
  induction documents generalizing place with
  | nil => cases h
  | cons d rest ih =>
    rw [locate] at h
    split at h
    · next hd =>
      obtain rfl : 0 = place := Option.some.inj (Except.ok.inj h)
      exact ⟨[], d, rest, rfl, rfl, fun e he => (List.not_mem_nil he).elim, hd⟩
    · next hd =>
      obtain ⟨found, hfound, hplace⟩ := map_eq_ok_iff.1 h
      obtain ⟨i, rfl, rfl⟩ := Option.map_eq_some_iff.1 hplace
      obtain ⟨front, e, back, rfl, rfl, hfront, he⟩ := ih hfound
      refine ⟨d :: front, e, back, rfl, rfl, fun a ha => ?_, he⟩
      rcases List.mem_cons.1 ha with rfl | ha
      · exact hd
      · exact hfront a ha
    · cases h

/-- The first document that meets a selector does meet it. -/
theorem locate_eq_some {selector : Document} {documents : List Document} {place : Nat}
    (h : locate (Selector.ofDocument selector) documents = .ok (some place)) :
    ∃ hplace : place < documents.length, documents[place].meets selector = .ok true := by
  obtain ⟨front, d, back, rfl, rfl, -, hd⟩ := exists_place_of_locate h
  exact ⟨by simp, by simpa using hd⟩

/-- **A document that is found is stored, and meets the selector.** -/
theorem of_findOne_eq_some {selector d : Document}
    (h : s.findOne collection selector = .ok (some d)) :
    d ∈ s.documents collection ∧ d.meets selector = .ok true := by
  obtain ⟨-, hfound⟩ := whenReady_eq_ok_iff.1 h
  rw [documents]
  cases hdocuments : s.documents? collection with
  | none => rw [hdocuments] at hfound; cases hfound
  | some documents =>
    rw [hdocuments] at hfound
    obtain ⟨place, hplace, hd⟩ := map_eq_ok_iff.1 hfound
    obtain ⟨i, rfl, hi⟩ := Option.bind_eq_some_iff.1 hd
    obtain ⟨hlt, hmeets⟩ := locate_eq_some hplace
    obtain rfl := Option.some.inj ((List.getElem?_eq_getElem hlt).symm.trans hi)
    exact ⟨List.getElem_mem hlt, hmeets⟩

/-- **Changing the first document that meets a selector** changes one that does meet it, or
nothing. -/
theorem documents_changeFirst (s : Store) (collection : String) (selector : Document)
    (change : List Document → Nat → List Document) (other : String) :
    (s.changeFirst collection selector change).2.documents other = s.documents other ∨
      other = collection ∧ ∃ place, ∃ hplace : place < (s.documents collection).length,
        (s.documents collection)[place].meets selector = .ok true ∧
        (s.changeFirst collection selector change).2.documents other
          = change (s.documents collection) place := by
  rw [changeFirst]
  split
  · cases hdocuments : s.documents? collection with
    | none => exact .inl rfl
    | some documents =>
      have heq : s.documents collection = documents := by rw [Store.documents, hdocuments]; rfl
      simp only
      split
      · exact .inl rfl
      · exact .inl rfl
      · next place hlocate =>
        rw [documents_withDocuments]
        split
        · next h =>
          obtain ⟨hplace, hmeets⟩ := locate_eq_some hlocate
          subst heq
          exact .inr ⟨h.symm, place, hplace, hmeets, rfl⟩
        · exact .inl rfl
  · exact .inl rfl

end Store

/-- **A write to a store in memory**, on whose behalf ever. -/
inductive Write where
  /-- Stores a document. -/
  | insert (collection : String) (document : Document)
  /-- Replaces the first document that meets a selector. -/
  | replace (collection : String) (selector replacement : Document)
  /-- Deletes the first document that meets a selector. -/
  | delete (collection : String) (selector : Document)

namespace Write

/-- The memory after a write, also after one that fails. -/
def apply (supply : Nat → ObjectId) : Write → Memory → Memory
  | insert collection d, m => ((Memory.backend supply).insertOne collection d m).2
  | replace collection selector d, m =>
    ((Memory.backend supply).replaceOne collection selector d m).2
  | delete collection selector, m => ((Memory.backend supply).deleteOne collection selector m).2

/-- **What a write may change**: the documents its selector means. -/
def Means (d : Document) : Write → Prop
  | insert .. => False
  | replace _ selector _ => d.meets selector = .ok true
  | delete _ selector => d.meets selector = .ok true

variable {supply : Nat → ObjectId} {m : Memory} {collection : String}

/-- **What a write makes of the documents of a collection**: it adds one under a new key, or
replaces or deletes one that it means, or leaves them as they are. -/
theorem documents_apply (w : Write) (supply : Nat → ObjectId) (m : Memory)
    (collection : String) :
    (w.apply supply m).store.documents collection = m.store.documents collection ∨
    (∃ id d, (∀ e ∈ m.store.documents collection, e.key? ≠ some id) ∧
      (w.apply supply m).store.documents collection
        = m.store.documents collection ++ [Store.stored (.objectId id) d]) ∨
    ∃ place, ∃ hplace : place < (m.store.documents collection).length,
      w.Means (m.store.documents collection)[place] ∧
      ((∃ d, (w.apply supply m).store.documents collection
          = (m.store.documents collection).modify place fun old =>
              Store.stored ((Fields.get? old primaryKey).getD .null) d) ∨
        (w.apply supply m).store.documents collection
          = (m.store.documents collection).eraseIdx place) := by
  cases w with
  | insert target d =>
    let fresh := supply (if (Fields.get? d primaryKey).isSome then m.issued else m.issued + 1)
    have hstore : ((insert target d).apply supply m).store = (m.store.insertOne fresh target d).2 :=
      rfl
    rw [hstore]
    rcases m.store.documents_insertOne fresh target d collection with
      hsame | ⟨rfl, id, -, hnew, hadded⟩
    · exact .inl hsame
    · exact .inr (.inl ⟨id, d, hnew, hadded⟩)
  | replace target selector d =>
    have hstore : ((replace target selector d).apply supply m).store
        = (m.store.replaceOne target selector d).2 := rfl
    rw [hstore, Store.replaceOne]
    rcases m.store.documents_changeFirst target selector _ collection with
      hsame | ⟨rfl, place, hplace, hmeets, hchanged⟩
    · exact .inl hsame
    · exact .inr (.inr ⟨place, hplace, hmeets, .inl ⟨d, hchanged⟩⟩)
  | delete target selector =>
    have hstore : ((delete target selector).apply supply m).store
        = (m.store.deleteOne target selector).2 := rfl
    rw [hstore, Store.deleteOne]
    rcases m.store.documents_changeFirst target selector _ collection with
      hsame | ⟨rfl, place, hplace, hmeets, hchanged⟩
    · exact .inl hsame
    · exact .inr (.inr ⟨place, hplace, hmeets, .inr hchanged⟩)

/-- **Documents keep keys of their own under every write.** -/
theorem keyed_apply (h : Keyed (m.store.documents collection)) (w : Write) :
    Keyed ((w.apply supply m).store.documents collection) := by
  rcases w.documents_apply supply m collection with
    hsame | ⟨id, d, hnew, hadded⟩ | ⟨place, hplace, -, ⟨d, hreplaced⟩ | hdeleted⟩
  · rwa [hsame]
  · rw [hadded]
    exact h.append (Store.key?_stored id d) hnew
  · rw [hreplaced]
    refine h.of_map_key? (map_key?_modify fun hplace => ?_)
    obtain ⟨id, hid⟩ := h.key _ (List.getElem_mem hplace)
    rw [Document.get?_of_key? hid, hid]
    exact Store.key?_stored id d
  · rw [hdeleted]
    exact h.sublist (List.eraseIdx_sublist ..)

end Write

/-! ## Writes of a repository -/

namespace Action

variable {σ α β : Type}

/-- A check that fails leaves the state as it was, and one that passes goes on. -/
theorem check_bind (check : Except Error α) (next : α → Action σ β) (m : σ) :
    ((liftM check >>= next : Action σ β) m).2 = m ∨
      ∃ a, check = .ok a ∧ (liftM check >>= next : Action σ β) m = next a m := by
  cases check with
  | error e => exact .inl rfl
  | ok a => exact .inr ⟨a, rfl, rfl⟩

/-- What keeps the state does not show in it. -/
theorem bind_state {action : Action σ α} {next : α → Action σ β}
    (h : ∀ a m, (next a m).2 = m) (m : σ) : ((action >>= next) m).2 = (action m).2 := by
  rcases haction : action m with ⟨e | a, m'⟩
  · rw [bind_error haction]
  · rw [bind_ok haction, h]

end Action

namespace Repository

variable {α β : Type} {r : Repository Memory α} {supply : Nat → ObjectId}

theorem ready_bind (hr : r.backend = Memory.backend supply) (next : Unit → Action Memory β)
    (m : Memory) :
    ((r.ensureReady >>= next) m).2 = m ∨ (r.ensureReady >>= next) m = next () m := by
  have hm : r.ensureReady m = (m.store.whenReady (.ok ()), m) := reads_ensureReady hr m
  cases hready : m.store.whenReady (.ok ()) with
  | error e =>
    rw [hready] at hm
    exact .inl (by rw [Action.bind_error hm])
  | ok _ =>
    rw [hready] at hm
    exact .inr (Action.bind_ok hm next)

/-- **Creating a model** stores one document, or changes nothing. -/
theorem create_state (hr : r.backend = Memory.backend supply) (model : α) (scope : Option Value)
    (m : Memory) :
    (r.create model scope m).2 = m ∨ ∃ body, r.body model scope = .ok body ∧
      (r.create model scope m).2 = (Write.insert r.config.collection body).apply supply m := by
  rw [create]
  rcases Action.check_bind (r.body model scope) _ m with h | ⟨body, hbody, h⟩
  · exact .inl h
  rw [h]
  rcases ready_bind hr _ m with h | h
  · exact .inl h
  rw [h]
  refine .inr ⟨body, hbody, ?_⟩
  rw [Action.bind_state fun _ _ => rfl, hr, Write.apply]

/-- **Replacing a model** replaces the document under its key, or changes nothing. -/
theorem update_state (hr : r.backend = Memory.backend supply) (id : String) (model : α)
    (scope : Option Value) (m : Memory) :
    (r.update id model scope m).2 = m ∨ ∃ key body, r.body model scope = .ok body ∧
      (r.update id model scope m).2
        = (Write.replace r.config.collection (keySelector key (r.owner scope)) body).apply supply m
    := by
  rw [update]
  rcases Action.check_bind (keyOf id) _ m with h | ⟨key, -, h⟩
  · exact .inl h
  rw [h]
  rcases Action.check_bind (r.body model scope) _ m with h | ⟨body, hbody, h⟩
  · exact .inl h
  rw [h]
  rcases ready_bind hr _ m with h | h
  · exact .inl h
  rw [h]
  refine .inr ⟨key, body, hbody, ?_⟩
  rw [Action.bind_state, hr, Write.apply]
  intro replaced m
  dsimp only
  split <;> rfl

/-- **Deleting a model** deletes the document under its key, or changes nothing. -/
theorem delete_state (hr : r.backend = Memory.backend supply) (id : String)
    (scope : Option Value) (m : Memory) :
    (r.delete id scope m).2 = m ∨ ∃ key, (r.delete id scope m).2
      = (Write.delete r.config.collection (keySelector key (r.owner scope))).apply supply m := by
  rw [delete]
  rcases Action.check_bind (keyOf id) _ m with h | ⟨key, -, h⟩
  · exact .inl h
  rw [h]
  rcases ready_bind hr _ m with h | h
  · exact .inl h
  rw [h]
  refine .inr ⟨key, ?_⟩
  rw [Action.bind_state, hr, Write.apply]
  intro deleted m
  split <;> rfl

end Repository

end KeysetStore
