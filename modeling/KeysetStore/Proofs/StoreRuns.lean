import KeysetStore.Backend.Trace
import KeysetStore.Proofs.KeyAccess
import KeysetStore.Proofs.PageWalk

/-!
# Proofs/StoreRuns — a store under calls, one after the other

A store is filled by its builder and then goes through any number of steps: calls, which may fail, and
changes of whether it can be reached (`Store.Step`).  Whatever the steps, each document begins with its
key, has no name twice, and shares its key with no other document of the collection (`Store.Sound`).
The one thing asked of the callers is that the documents they bring have no name twice.

In such a store a write that succeeds does what it says and nothing else: an insertion appends, a
replacement keeps the key and the place, a deletion closes the gap (`Store.Exact`).
-/

namespace KeysetStore

/-! ## Calls and their replies -/

/-- What a call gives where it succeeds. -/
inductive Reply where
  /-- The documents of a search or of a pipeline. -/
  | documents (found : List Document)
  /-- The document of a search for one, where there is one. -/
  | document? (found : Option Document)
  /-- The key of a document that was stored. -/
  | key (id : ObjectId)
  /-- A count. -/
  | number (n : Nat)
  /-- Nothing but the success. -/
  | done

/-- The document that a call brings along to be stored. -/
def Call.document? : Call → Option Document
  | insertOne _ d => some d
  | replaceOne _ _ d => some d
  | _ => none

namespace Store

/-- **A call of a store**: its outcome and the store afterwards.  A document that brings no key is
stored under the fresh one. -/
def perform (s : Store) (fresh : ObjectId) : Call → Except Error Reply × Store
  | .find c query => ((s.find c query).map .documents, s)
  | .findOne c selector => ((s.findOne c selector).map .document?, s)
  | .insertOne c d => (s.insertOne fresh c d).map (Except.map .key) id
  | .replaceOne c selector d => (s.replaceOne c selector d).map (Except.map .number) id
  | .deleteOne c selector => (s.deleteOne c selector).map (Except.map .number) id
  | .count c selector => ((s.count c selector).map .number, s)
  | .aggregate c pipeline => ((s.aggregate c pipeline).map .documents, s)
  | .createIndex _ keys _ => ((s.createIndex keys).map fun _ => .done, s)
  | .dropCollection c => (s.dropCollection c).map (Except.map fun _ => .done) id

end Store

/-- A call of a backend, with its reply. -/
def Backend.reply {σ : Type} (b : Backend σ) : Call → Action σ Reply
  | .find c query => .documents <$> b.find c query
  | .findOne c selector => .document? <$> b.findOne c selector
  | .insertOne c d => .key <$> b.insertOne c d
  | .replaceOne c selector d => .number <$> b.replaceOne c selector d
  | .deleteOne c selector => .number <$> b.deleteOne c selector
  | .count c selector => .number <$> b.count c selector
  | .aggregate c pipeline => .documents <$> b.aggregate c pipeline
  | .createIndex c keys unique => (fun _ => .done) <$> b.createIndex c keys unique
  | .dropCollection c => (fun _ => .done) <$> b.dropCollection c

theorem Action.map_apply {σ α β : Type} (f : α → β) (action : Action σ α) (s : σ) :
    (f <$> action) s = ((action s).1.map f, (action s).2) := by
  rcases haction : action s with ⟨e | a, s'⟩
  · exact Action.map_error haction f
  · exact Action.map_ok haction f

namespace Store

/-- What happens to a store. -/
inductive Step where
  /-- A call, with the key for a document that brings none. -/
  | call (fresh : ObjectId) (c : Call)
  /-- The store comes within reach, or goes out of it. -/
  | connect (ready : Bool)

/-- The outcome of a step and the store afterwards. -/
def Step.apply (s : Store) : Step → Except Error Reply × Store
  | .call fresh c => s.perform fresh c
  | .connect ready => (.ok .done, { s with ready })

/-- The document that a step brings along to be stored. -/
def Step.document? : Step → Option Document
  | .call _ c => c.document?
  | .connect _ => none

/-- The store after steps. -/
def after (s : Store) (steps : List Step) : Store := steps.foldl (fun s step => (step.apply s).2) s

/-- The outcomes of steps, one after the other. -/
def answers : List Step → Store → List (Except Error Reply)
  | [], _ => []
  | step :: rest, s => (step.apply s).1 :: answers rest (step.apply s).2

end Store

/-! ## Sound stores -/

/-- **A document as it is stored**: its key comes first, and no name occurs twice. -/
structure Document.IsStored (d : Document) : Prop where
  key : ∃ id rest, d = (primaryKey, .objectId id) :: rest
  distinct : Fields.Distinct d

/-- **A sound store**: its documents are as they are to be stored, and no two of a collection share
a key. -/
structure Store.Sound (s : Store) : Prop where
  isStored : ∀ collection, ∀ d ∈ s.documents collection, d.IsStored
  distinct : ∀ collection, (s.documents collection).Pairwise fun a b => a.key? ≠ b.key?

theorem Document.IsStored.exists_key {d : Document} (h : d.IsStored) : ∃ id, d.key? = some id := by
  obtain ⟨id, rest, rfl⟩ := h.key
  exact ⟨id, by simp [key?, Fields.get?_cons]⟩

namespace Store

variable {s s' : Store} {collection : String} {d : Document}

/-- **A map is stored as it is to be stored**, under every key. -/
theorem isStored_stored (h : Fields.Distinct d) (id : ObjectId) :
    Document.IsStored (stored (.objectId id) d) := by
  refine ⟨⟨id, _, rfl⟩, List.nodup_cons.2 ⟨?_, h.erase primaryKey⟩⟩
  change primaryKey ∉ (Fields.erase d primaryKey).names
  rw [← Fields.get?_eq_none_iff, Fields.get?_erase, if_pos rfl]

namespace Sound

/-- The documents of a collection of a sound store have keys of their own. -/
theorem keyed (h : s.Sound) (collection : String) : Keyed (s.documents collection) :=
  ⟨fun d hd => (h.isStored collection d hd).exists_key, h.distinct collection⟩

/-- A store is sound when each of its collections is. -/
theorem of_collections (h : ∀ collection, (∀ d ∈ s.documents collection, d.IsStored) ∧
    Keyed (s.documents collection)) : s.Sound :=
  ⟨fun collection => (h collection).1, fun collection => (h collection).2.distinct⟩

/-- A store stays sound where documents go and none come. -/
theorem of_sublist (h : s.Sound)
    (hs : ∀ collection, (s'.documents collection).Sublist (s.documents collection)) : s'.Sound :=
  of_collections fun collection =>
    ⟨fun d hd => h.isStored collection d ((hs collection).subset hd),
      (h.keyed collection).sublist (hs collection)⟩

theorem insertOne (h : s.Sound) (hd : Fields.Distinct d) (fresh : ObjectId) (collection : String) :
    (s.insertOne fresh collection d).2.Sound := by
  refine of_collections fun other => ?_
  rcases documents_insertOne s fresh collection d other with hsame | ⟨rfl, id, -, hnew, hadded⟩
  · rw [hsame]
    exact ⟨h.isStored other, h.keyed other⟩
  · rw [hadded]
    refine ⟨fun e he => ?_, (h.keyed other).append (key?_stored id d) hnew⟩
    rcases List.mem_append.1 he with he | he
    · exact h.isStored other e he
    · rw [List.mem_singleton.1 he]
      exact isStored_stored hd id

theorem replaceOne (h : s.Sound) (hd : Fields.Distinct d) (collection : String)
    (selector : Document) : (s.replaceOne collection selector d).2.Sound := by
  refine of_collections fun other => ?_
  rw [Store.replaceOne]
  rcases documents_changeFirst s collection selector _ other with
    hsame | ⟨rfl, place, hplace, -, hchanged⟩
  · rw [hsame]
    exact ⟨h.isStored other, h.keyed other⟩
  obtain ⟨id, hid⟩ := (h.keyed other).key _ (List.getElem_mem hplace)
  have hstored : stored ((Fields.get? (s.documents other)[place] primaryKey).getD .null) d
      = stored (.objectId id) d := by
    rw [Document.get?_of_key? hid]
    rfl
  rw [hchanged]
  refine ⟨fun e he => ?_, (h.keyed other).of_map_key? (map_key?_modify fun _ => ?_)⟩
  · rw [List.modify_eq_take_cons_drop hplace, hstored] at he
    rcases List.mem_append.1 he with he | he
    · exact h.isStored other e (List.mem_of_mem_take he)
    · rcases List.mem_cons.1 he with rfl | he
      · exact isStored_stored hd id
      · exact h.isStored other e (List.mem_of_mem_drop he)
  · rw [hstored, hid]
    exact key?_stored id d

theorem deleteOne (h : s.Sound) (collection : String) (selector : Document) :
    (s.deleteOne collection selector).2.Sound := by
  refine h.of_sublist fun other => ?_
  rw [Store.deleteOne]
  rcases documents_changeFirst s collection selector _ other with
    hsame | ⟨rfl, place, -, -, hchanged⟩
  · exact hsame ▸ List.Sublist.refl _
  · rw [hchanged]
    exact List.eraseIdx_sublist ..

theorem dropCollection (h : s.Sound) (collection : String) :
    (s.dropCollection collection).2.Sound := by
  refine h.of_sublist fun other => ?_
  rw [Store.dropCollection]
  split
  · rw [Store.documents, Store.documents?, Fields.get?_erase]
    split
    · exact List.nil_sublist _
    · exact List.Sublist.refl _
  · exact List.Sublist.refl _

/-- **A call keeps a store sound**, also where it fails. -/
theorem perform (h : s.Sound) (fresh : ObjectId) {c : Call}
    (hd : ∀ d ∈ c.document?, Fields.Distinct d) : (s.perform fresh c).2.Sound := by
  cases c with
  | insertOne collection d => exact h.insertOne (hd d rfl) fresh collection
  | replaceOne collection selector d => exact h.replaceOne (hd d rfl) collection selector
  | deleteOne collection selector => exact h.deleteOne collection selector
  | dropCollection collection => exact h.dropCollection collection
  | _ => exact h

/-- **A step keeps a store sound.** -/
theorem apply (h : s.Sound) {step : Step} (hd : ∀ d ∈ step.document?, Fields.Distinct d) :
    (step.apply s).2.Sound := by
  cases step with
  | call fresh c => exact h.perform fresh hd
  | connect ready => exact ⟨h.isStored, h.distinct⟩

/-- **Steps keep a store sound**, however many there are. -/
theorem after (h : s.Sound) {steps : List Step}
    (hd : ∀ step ∈ steps, ∀ d ∈ step.document?, Fields.Distinct d) : (s.after steps).Sound := by
  induction steps generalizing s with
  | nil => exact h
  | cons step rest ih =>
    exact ih (h.apply (hd step List.mem_cons_self)) fun other hother =>
      hd other (List.mem_cons_of_mem _ hother)

end Sound

/-! ## Writes that succeed -/

/-- **A change that is counted** is one of the first document that meets the selector. -/
theorem exists_place_of_changeFirst {selector : Document}
    {change : List Document → Nat → List Document}
    (h : s.changeFirst collection selector change = (.ok 1, s')) :
    ∃ front old back, s.documents collection = front ++ old :: back ∧
      (∀ e ∈ front, e.meets selector = .ok false) ∧ old.meets selector = .ok true ∧
      s' = s.withDocuments collection (change (front ++ old :: back) front.length) := by
  rw [changeFirst] at h
  split at h
  · split at h
    · cases h
    · next documents hdocuments =>
      have heq : s.documents collection = documents := by rw [Store.documents, hdocuments]; rfl
      split at h
      · cases h
      · cases h
      · next place hlocate =>
        obtain ⟨front, old, back, rfl, rfl, hfront, hold⟩ := exists_place_of_locate hlocate
        exact ⟨front, old, back, heq, hfront, hold, (Prod.mk.inj h).2.symm⟩
  · cases h

/-- **A store whose writes are exact.**  Each concerns one collection; the others stay as they are. -/
structure Exact (s : Store) : Prop where
  /-- A document that is stored comes after those that are there. -/
  insertOne : ∀ {fresh id : ObjectId} {collection : String} {d : Document} {s' : Store},
    s.insertOne fresh collection d = (.ok id, s') →
    s' = s.withDocuments collection (s.documents collection ++ [stored (.objectId id) d])
  /-- A document that is replaced keeps its key and its place. -/
  replaceOne : ∀ {collection : String} {selector d : Document} {s' : Store},
    s.replaceOne collection selector d = (.ok 1, s') →
    ∃ front old back id, s.documents collection = front ++ old :: back ∧
      old.meets selector = .ok true ∧ old.key? = some id ∧
      s' = s.withDocuments collection (front ++ stored (.objectId id) d :: back)
  /-- A document that is deleted is gone, and the others keep their order. -/
  deleteOne : ∀ {collection : String} {selector : Document} {s' : Store},
    s.deleteOne collection selector = (.ok 1, s') →
    ∃ front old back, s.documents collection = front ++ old :: back ∧
      old.meets selector = .ok true ∧ s' = s.withDocuments collection (front ++ back)

/-- **The writes of a sound store are exact.** -/
theorem Sound.exact (h : s.Sound) : s.Exact where
  insertOne hinsert := by
    obtain ⟨hready, hkey, hnew⟩ := of_insertOne_eq_ok hinsert
    rw [insertOne_eq hready hkey hnew] at hinsert
    exact (Prod.mk.inj hinsert).2.symm
  replaceOne {collection selector d s'} hreplace := by
    obtain ⟨front, old, back, hdocuments, -, hold, hs'⟩ := exists_place_of_changeFirst hreplace
    have hmem : old ∈ s.documents collection := by rw [hdocuments]; simp
    obtain ⟨id, hid⟩ := (h.keyed collection).key old hmem
    refine ⟨front, old, back, id, hdocuments, hold, hid, ?_⟩
    rw [hs', modify_place, Document.get?_of_key? hid]
    rfl
  deleteOne hdelete := by
    obtain ⟨front, old, back, hdocuments, -, hold, hs'⟩ := exists_place_of_changeFirst hdelete
    exact ⟨front, old, back, hdocuments, hold, by rw [hs', eraseIdx_place]⟩

theorem sound_empty : ({} : Store).Sound :=
  ⟨fun _ _ hd => (List.not_mem_nil hd).elim, fun _ => List.Pairwise.nil⟩

end Store

/-! ## Stores that were filled -/

namespace Memory

variable {supply : Nat → ObjectId} {m : Memory}

theorem sound_insertAll (h : m.store.Sound) (collection : String) {documents : List Document}
    (hd : ∀ d ∈ documents, Fields.Distinct d) :
    (insertAll supply collection documents m).2.store.Sound := by
  induction documents generalizing m with
  | nil => exact h
  | cons d rest ih =>
    have hfirst : (insertOne supply collection d m).2.store.Sound :=
      h.insertOne (hd d List.mem_cons_self) _ collection
    rw [insertAll]
    rcases hinsert : insertOne supply collection d m with ⟨e | id, m'⟩ <;> rw [hinsert] at hfirst
    · rw [Action.bind_error hinsert]
      exact hfirst
    · rw [Action.bind_ok hinsert]
      exact ih hfirst fun other hother => hd other (List.mem_cons_of_mem _ hother)

theorem sound_fill (h : m.store.Sound) {seed : List (String × List Document)}
    (hd : ∀ entry ∈ seed, ∀ d ∈ entry.2, Fields.Distinct d) :
    ((seed.forM fun entry => insertAll supply entry.1 entry.2 : Action Memory Unit) m).2.store.Sound
    := by
  induction seed generalizing m with
  | nil => exact h
  | cons entry rest ih =>
    have hfirst : (insertAll supply entry.1 entry.2 m).2.store.Sound :=
      sound_insertAll h entry.1 (hd entry List.mem_cons_self)
    change ((insertAll supply entry.1 entry.2 >>= fun _ =>
      rest.forM fun entry => insertAll supply entry.1 entry.2) m).2.store.Sound
    rcases hinsert : insertAll supply entry.1 entry.2 m with ⟨e | _, m'⟩ <;> rw [hinsert] at hfirst
    · rw [Action.bind_error hinsert]
      exact hfirst
    · rw [Action.bind_ok hinsert]
      exact ih hfirst fun other hother => hd other (List.mem_cons_of_mem _ hother)

/-- **A store is sound when it has been filled.** -/
theorem sound_seeded {seed : List (String × List Document)} (h : seeded supply seed = .ok m)
    (hd : ∀ entry ∈ seed, ∀ d ∈ entry.2, Fields.Distinct d) : m.store.Sound := by
  rw [seeded] at h
  split at h
  · next filled hfilled =>
    obtain rfl := Except.ok.inj h
    refine (congrArg (fun outcome => outcome.2.store.Sound) hfilled).mp ?_
    exact sound_fill Store.sound_empty hd
  · cases h

/-- **Every store that can come about is sound, and its writes are exact**: filled with any documents
and led through any steps, where no document that is brought along has a name twice. -/
theorem sound_after_seeded {seed : List (String × List Document)} {steps : List Store.Step}
    (h : seeded supply seed = .ok m) (hseed : ∀ entry ∈ seed, ∀ d ∈ entry.2, Fields.Distinct d)
    (hsteps : ∀ step ∈ steps, ∀ d ∈ step.document?, Fields.Distinct d) :
    (m.store.after steps).Sound ∧ (m.store.after steps).Exact :=
  have hsound := (sound_seeded h hseed).after hsteps
  ⟨hsound, hsound.exact⟩

end Memory

namespace Shelf

/-- The shelf through its steps: a product is added without a key, another one is refused for its
key, and the first one is replaced by a document with a key of its own. -/
def steps : List Store.Step :=
  [.call (.ofNat 5) (.insertOne "products" [("name", .string "pro")]),
    .call (.ofNat 6) (.insertOne "products" [("name", .string "max"), ("_id", .int32 6)]),
    .call (.ofNat 6) (.replaceOne "products" [] [("price", .int32 8), ("_id", .objectId (.ofNat 9))])]

/-- The shelf is sound after its steps, and still holds the replaced product under its old key. -/
theorem sound_after_steps :
    Memory.seeded .ofNat [("products", documents)] = .ok memory ∧
    (∀ d ∈ documents, Fields.Distinct d) ∧
    (∀ step ∈ steps, ∀ d ∈ step.document?, Fields.Distinct d) ∧
    (memory.store.after steps).Sound ∧ (memory.store.after steps).Exact ∧
    ((memory.store.after steps).documents "products").map (·.key?)
      = [some (.ofNat 1), some (.ofNat 2), some (.ofNat 3), some (.ofNat 4), some (.ofNat 5)] := by
  have hseeded : Memory.seeded .ofNat [("products", documents)] = .ok memory := rfl
  have hdocuments : ∀ d ∈ documents, Fields.Distinct d := by
    unfold Fields.Distinct
    decide
  have hsteps : ∀ step ∈ steps, ∀ d ∈ step.document?, Fields.Distinct d := by
    unfold Fields.Distinct
    simp [steps, Store.Step.document?, Call.document?, Fields.names]
  obtain ⟨hsound, hexact⟩ := Memory.sound_after_seeded hseeded
    (fun entry hentry => List.mem_singleton.1 hentry ▸ hdocuments) hsteps
  exact ⟨hseeded, hdocuments, hsteps, hsound, hexact, rfl⟩

end Shelf

end KeysetStore
