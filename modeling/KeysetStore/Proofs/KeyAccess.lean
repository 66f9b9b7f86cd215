import KeysetStore.Proofs.StoreWrites

/-!
# Proofs/KeyAccess — what the operations on one model do

A model is read, replaced and deleted through the selector of its key.  Where that selector can be
evaluated on every document of the collection, each operation is an equation: its outcome and the
memory afterwards are given by the place of the first document that is meant (`Repository.read_eq`,
`Repository.update_eq`, `Repository.delete_eq`).  Creating a model succeeds exactly where its body has
a key that nothing there has (`Repository.create_eq_ok_iff`), and what it gives back is what reading
the stored document would give (`Codec.load_stored`).
-/

namespace KeysetStore

/-! ## Steps that succeed -/

namespace Action

variable {σ α β : Type} {action : Action σ α} {next : α → Action σ β} {s s' : σ}

theorem bind_eq_ok_iff {b : β} : (action >>= next) s = (.ok b, s') ↔
    ∃ a between, action s = (.ok a, between) ∧ next a between = (.ok b, s') := by
  rcases haction : action s with ⟨e | a, between⟩
  · rw [bind_error haction]
    exact iff_of_false nofun fun ⟨_, _, h, _⟩ => nomatch h
  · rw [bind_ok haction]
    refine ⟨fun h => ⟨a, between, rfl, h⟩, ?_⟩
    rintro ⟨_, _, ⟨⟩, h⟩
    exact h

theorem bind_eq_error_iff {e : Error} : (action >>= next) s = (.error e, s') ↔
    action s = (.error e, s') ∨
      ∃ a between, action s = (.ok a, between) ∧ next a between = (.error e, s') := by
  rcases haction : action s with ⟨other | a, between⟩
  · have herror : (.error other, between) = ((.error e, s') : Except Error α × σ) ↔
        (.error other, between) = ((.error e, s') : Except Error β × σ) := by
      simp only [Prod.mk.injEq, Except.error.injEq]
    rw [bind_error haction]
    refine ⟨fun h => .inl (herror.2 h), ?_⟩
    rintro (h | ⟨_, _, ⟨⟩, -⟩)
    exact herror.1 h
  · rw [bind_ok haction]
    refine ⟨fun h => .inr ⟨a, between, rfl, h⟩, ?_⟩
    rintro (h | ⟨_, _, ⟨⟩, h⟩)
    · cases (Prod.mk.inj h).1
    · exact h

theorem map_ok {a : α} (h : action s = (.ok a, s')) (f : α → β) :
    (f <$> action) s = (.ok (f a), s') := by
  rw [map_eq_pure_bind, bind_ok h]
  rfl

theorem map_error {e : Error} (h : action s = (.error e, s')) (f : α → β) :
    (f <$> action) s = (.error e, s') := by
  rw [map_eq_pure_bind, bind_error h]

/-- A check that needs no state leaves the state as it is. -/
theorem lift_eq_ok_iff {check : Except Error α} {a : α} :
    (liftM check : Action σ α) s = (.ok a, s') ↔ check = .ok a ∧ s' = s := by
  change (check, s) = (.ok a, s') ↔ _
  rw [Prod.mk.injEq, @eq_comm _ s s']

theorem lift_eq_error_iff {check : Except Error α} {e : Error} :
    (liftM check : Action σ α) s = (.error e, s') ↔ check = .error e ∧ s' = s := by
  change (check, s) = (.error e, s') ↔ _
  rw [Prod.mk.injEq, @eq_comm _ s s']

theorem lift_error {check : Except Error α} {e : Error} (h : check = .error e) (s : σ) :
    (liftM check : Action σ α) s = (.error e, s) := by
  rw [h]
  rfl

end Action

/-! ## The first document that is meant -/

section Place

variable {front back : List Document} {p : Document → Bool} {d : Document}

theorem find?_place (hfront : ∀ e ∈ front, p e = false) (hd : p d = true) :
    (front ++ d :: back).find? p = some d := by
  rw [List.find?_append, List.find?_eq_none.2 fun e he => by simp [hfront e he]]
  simp [hd]

theorem findIdx?_place (hfront : ∀ e ∈ front, p e = false) (hd : p d = true) :
    (front ++ d :: back).findIdx? p = some front.length := by
  rw [List.findIdx?_append, List.findIdx?_eq_none_iff.2 hfront]
  simp [List.findIdx?_cons, hd]

theorem modify_place (f : Document → Document) :
    (front ++ d :: back).modify front.length f = front ++ f d :: back := by
  rw [List.modify_eq_take_cons_drop (by simp)]
  simp

theorem eraseIdx_place : (front ++ d :: back).eraseIdx front.length = front ++ back := by
  rw [List.eraseIdx_append_of_length_le (Nat.le_refl _), Nat.sub_self, List.eraseIdx_cons_zero]

end Place

/-! ## Writes of a store -/

namespace Store

variable {s s' : Store} {collection : String} {fresh id : ObjectId} {d : Document}

/-- **Storing a document under a key that nothing there has** adds it at the end. -/
theorem insertOne_eq (hready : s.ready) (hkey : keyFor fresh d = .ok id)
    (hnew : ∀ e ∈ s.documents collection, e.key? ≠ some id) :
    s.insertOne fresh collection d
      = (.ok id, s.withDocuments collection
          (s.documents collection ++ [stored (.objectId id) d])) := by
  have hany : ((s.documents? collection).getD []).any (fun e => e.key? = some id) = false := by
    rw [List.any_eq_false]
    exact fun e he => by simpa using hnew e he
  simp only [insertOne, hready, hkey, hany]
  rfl

/-- Storing a document succeeds only under such a key. -/
theorem of_insertOne_eq_ok (h : s.insertOne fresh collection d = (.ok id, s')) :
    s.ready ∧ keyFor fresh d = .ok id ∧ ∀ e ∈ s.documents collection, e.key? ≠ some id := by
  cases hready : s.ready with
  | false => simp [insertOne, hready] at h
  | true =>
    cases hkey : keyFor fresh d with
    | error e => simp [insertOne, hready, hkey] at h
    | ok key =>
      cases hany : ((s.documents? collection).getD []).any fun e => e.key? = some key with
      | true => simp [insertOne, hready, hkey, hany] at h
      | false =>
        simp only [insertOne, hready, hkey, hany, Bool.false_eq_true, if_false, if_true,
          Prod.mk.injEq, Except.ok.injEq] at h
        obtain ⟨rfl, -⟩ := h
        refine ⟨rfl, rfl, fun e he hid => ?_⟩
        exact List.any_eq_false.1 hany e he (decide_eq_true hid)

/-- **Changing the first document that is meant**, where each document can be evaluated. -/
theorem changeFirst_eq {selector : Document} {p : Document → Bool} (hready : s.ready)
    (hp : ∀ d ∈ s.documents collection, d.meets selector = .ok (p d))
    (change : List Document → Nat → List Document) :
    s.changeFirst collection selector change
      = match (s.documents collection).findIdx? p with
        | none => (.ok 0, s)
        | some place => (.ok 1, s.withDocuments collection (change (s.documents collection) place))
    := by
  rw [changeFirst, if_pos hready]
  rw [documents] at hp ⊢
  cases hdocuments : s.documents? collection with
  | none => rfl
  | some documents =>
    rw [hdocuments, Option.getD_some] at hp
    rw [Option.getD_some]
    dsimp only
    rw [locate_eq_findIdx? hp]
    cases documents.findIdx? p <;> rfl

end Store

/-! ## The model of a document that was just stored -/

/-- **A model is the same read from its stored document and rebuilt from its body.** -/
theorem Codec.load_stored {α : Type} (codec : Codec α) (idField : String) (body : Document)
    (key : ObjectId) :
    codec.load idField (Store.stored (.objectId key) body) = codec.loadAs idField body key := by
  have hstored : Fields.erase (Store.stored (.objectId key) body) primaryKey
      = Fields.erase body primaryKey := by
    simp [Store.stored, Fields.erase]
  have hwith : withIdentifier idField (Store.stored (.objectId key) body)
      = withIdentifier idField (Fields.insert body primaryKey (.objectId key)) := by
    rw [withIdentifier, withIdentifier, Fields.get?_insert, if_pos rfl, hstored,
      Fields.erase_insert_self, Store.stored, Fields.get?_cons, if_pos rfl]
  rw [loadAs, load, load, hwith]

/-- A body without a key is decoded with the text of its key in the identifier field. -/
theorem Codec.loadAs_eq {α : Type} (codec : Codec α) (idField : String) {body : Document}
    (h : Fields.get? body primaryKey = none) (key : ObjectId) :
    codec.loadAs idField body key
      = codec.decode (Fields.insert body idField (.string key.toHex)) := by
  rw [loadAs, load, withIdentifier, Fields.get?_insert, if_pos rfl, Fields.erase_insert_self,
    Fields.erase_of_get?_eq_none h]

/-! ## Memories -/

namespace Memory

/-- The memory with other documents in a collection. -/
def withDocuments (m : Memory) (collection : String) (documents : List Document) : Memory :=
  { m with store := m.store.withDocuments collection documents }

/-- How many keys have been issued when a document is stored: one more for one without a key. -/
def issuedFor (m : Memory) (d : Document) : Nat :=
  if (Fields.get? d primaryKey).isSome then m.issued else m.issued + 1

/-- The memory after a document was stored under a key. -/
def storing (m : Memory) (collection : String) (key : ObjectId) (d : Document) : Memory where
  store := m.store.withDocuments collection
    (m.store.documents collection ++ [Store.stored (.objectId key) d])
  issued := m.issuedFor d

variable {m m' : Memory} {collection : String} {key : ObjectId} {d : Document}

@[simp] theorem documents_withDocuments (documents : List Document) :
    (m.withDocuments collection documents).store.documents collection = documents := by
  rw [withDocuments, Store.documents_withDocuments, if_pos rfl]

@[simp] theorem documents_storing : (m.storing collection key d).store.documents collection
    = m.store.documents collection ++ [Store.stored (.objectId key) d] := by
  rw [storing, Store.documents_withDocuments, if_pos rfl]

/-- A memory stores a document as its store does, under the next key of the supply. -/
theorem insertOne_apply (supply : Nat → ObjectId) (collection : String) (d : Document) (m : Memory) :
    insertOne supply collection d m
      = ((m.store.insertOne (supply (m.issuedFor d)) collection d).1,
          ⟨(m.store.insertOne (supply (m.issuedFor d)) collection d).2, m.issuedFor d⟩) := rfl

/-- **A document is stored** under a key that nothing there has, and only so. -/
theorem insertOne_eq_ok_iff {supply : Nat → ObjectId} :
    insertOne supply collection d m = (.ok key, m') ↔
      m.store.ready ∧ Store.keyFor (supply (m.issuedFor d)) d = .ok key ∧
        (∀ e ∈ m.store.documents collection, e.key? ≠ some key) ∧
        m' = m.storing collection key d := by
  rw [insertOne_apply]
  constructor
  · intro h
    obtain ⟨hkey, hm⟩ := Prod.mk.inj h
    obtain ⟨hready, hfor, hnew⟩ := Store.of_insertOne_eq_ok (Prod.ext hkey rfl)
    rw [Store.insertOne_eq hready hfor hnew] at hm
    exact ⟨hready, hfor, hnew, hm.symm⟩
  · rintro ⟨hready, hfor, hnew, rfl⟩
    rw [Store.insertOne_eq hready hfor hnew]
    rfl

/-- **Changing the first document that is meant**, where each document can be evaluated. -/
theorem writing_changeFirst {selector : Document} {p : Document → Bool} (hready : m.store.ready)
    (hp : ∀ d ∈ m.store.documents collection, d.meets selector = .ok (p d))
    (change : List Document → Nat → List Document) :
    writing (fun s => s.changeFirst collection selector change) m
      = match (m.store.documents collection).findIdx? p with
        | none => (.ok 0, m)
        | some place => (.ok 1,
            m.withDocuments collection (change (m.store.documents collection) place)) := by
  have hstore := Store.changeFirst_eq hready hp change
  rw [writing]
  cases hplace : (m.store.documents collection).findIdx? p <;> (rw [hplace] at hstore; rw [hstore])
  rfl

end Memory

/-! ## Names of fields -/

/-- **A name that a selector takes for the field of that name**: no operator, and no dot in it. -/
def isFieldName (name : String) : Bool := !isOperator name && !name.toList.contains '.'

theorem isOperator_of_isFieldName {name : String} (h : isFieldName name = true) :
    isOperator name = false := by
  simpa using (Bool.and_eq_true_iff.1 h).1

/-- A path without a dot has one segment. -/
theorem Value.segments_of_isFieldName {path : String} (h : isFieldName path = true) :
    segments path = [path] := by
  have hdot : '.' ∉ path.toList := by simpa using (Bool.and_eq_true_iff.1 h).2
  rw [segments]
  refine (congrArg (List.map String.ofList) (?_ : _ = [path.toList])).trans
    (by rw [List.map_singleton, String.ofList_toList])
  generalize path.toList = cs at hdot
  induction cs with
  | nil => rfl
  | cons c cs ih =>
    rw [List.mem_cons, not_or] at hdot
    rw [List.foldr_cons, ih hdot.2]
    simp [Ne.symm hdot.1]

/-- **The path of a field name leads to that field.** -/
theorem Document.lookup?_of_isFieldName {path : String} (h : isFieldName path = true)
    (d : Document) : d.lookup? path = Fields.get? d path := by
  rw [lookup?, Value.segments_of_isFieldName h, Value.follow?]
  cases Fields.get? d path <;> rfl

/-! ## Operations of a repository -/

namespace Repository

variable {α : Type} {r : Repository Memory α} {supply : Nat → ObjectId} {m m' : Memory}
  {scope : Option Value} {model created : α} {body : Document} {key : ObjectId} {id : String}
  {p : Document → Bool}

/-! An identifier that names no key is refused before anything else. -/

theorem read_malformed {e : Error} (hid : keyOf id = .error e) :
    r.read id scope m = (.error e, m) :=
  Action.bind_error (Action.lift_error hid m) _

theorem update_malformed {e : Error} (hid : keyOf id = .error e) :
    r.update id model scope m = (.error e, m) :=
  Action.bind_error (Action.lift_error hid m) _

theorem delete_malformed {e : Error} (hid : keyOf id = .error e) :
    r.delete id scope m = (.error e, m) :=
  Action.bind_error (Action.lift_error hid m) _

section

variable (hr : r.backend = Memory.backend supply)
include hr

theorem ensureReady_eq_ok_iff {u : Unit} :
    r.ensureReady m = (.ok u, m') ↔ m.store.ready ∧ m' = m := by
  rw [reads_ensureReady hr m, Prod.mk.injEq, Store.whenReady_eq_ok_iff]
  exact and_congr (and_iff_left rfl) eq_comm

/-- **A model is created** where its body can be stored under a key that nothing there has, and only
so. -/
theorem create_eq_ok_iff : r.create model scope m = (.ok created, m') ↔
    m.store.ready ∧ ∃ body key, r.body model scope = .ok body ∧
      Store.keyFor (supply (m.issuedFor body)) body = .ok key ∧
      (∀ e ∈ m.store.documents r.config.collection, e.key? ≠ some key) ∧
      r.codec.loadAs r.config.idField body key = .ok created ∧
      m' = m.storing r.config.collection key body := by
  have hinsert (body : Document) (key : ObjectId) (m' : Memory) :
      r.backend.insertOne r.config.collection body m = (.ok key, m')
        ↔ Memory.insertOne supply r.config.collection body m = (.ok key, m') := by
    rw [hr]
    rfl
  simp only [create, Action.bind_eq_ok_iff, Action.lift_eq_ok_iff, ensureReady_eq_ok_iff hr]
  constructor
  · rintro ⟨body, _, ⟨hbody, rfl⟩, _, _, ⟨hready, rfl⟩, key, _, hstore, hload, rfl⟩
    obtain ⟨-, hfor, hnew, rfl⟩ := Memory.insertOne_eq_ok_iff.1 ((hinsert _ _ _).1 hstore)
    exact ⟨hready, body, key, hbody, hfor, hnew, hload, rfl⟩
  · rintro ⟨hready, body, key, hbody, hfor, hnew, hload, rfl⟩
    refine ⟨body, m, ⟨hbody, rfl⟩, (), m, ⟨hready, rfl⟩, key, _, ?_, hload, rfl⟩
    exact (hinsert _ _ _).2 (Memory.insertOne_eq_ok_iff.2 ⟨hready, hfor, hnew, rfl⟩)

/-- **Reading a model** gives the first document meant under its key. -/
theorem read_eq (hready : m.store.ready) (hid : keyOf id = .ok key)
    (hp : ∀ d ∈ m.store.documents r.config.collection,
      d.meets (keySelector key (r.owner scope)) = .ok (p d)) :
    r.read id scope m
      = (match (m.store.documents r.config.collection).find? p with
        | some d => r.codec.load r.config.idField d
        | none => .error (.documentMissing r.config.collection id), m) := by
  rw [reads_read hr scope id m]
  dsimp only
  rw [record, hid, Store.whenReady_of_ready hready]
  change ((r.locateIn m.store scope key >>= _ : Except Error α), m) = _
  rw [locateIn, Store.findOne_eq hready hp]
  cases (m.store.documents r.config.collection).find? p <;> rfl

/-- **Counting models** counts the documents meant. -/
theorem count_eq {selector : Document} {filter : Option Document} (hready : m.store.ready)
    (hselector : r.selector scope filter = .ok selector)
    (hp : ∀ d ∈ m.store.documents r.config.collection, d.meets selector = .ok (p d)) :
    r.count scope filter m = (.ok ((m.store.documents r.config.collection).countP p), m) := by
  rw [reads_count hr scope filter m]
  dsimp only
  rw [countIn, hselector, Store.whenReady_of_ready hready]
  change (m.store.count r.config.collection selector, m) = _
  rw [Store.count_eq_select, Store.whenReady_of_ready hready, Selector.select_eq_filter hp,
    List.countP_eq_length_filter]
  rfl

/-- **Deleting a model** takes out the first document meant under its key. -/
theorem delete_eq (hready : m.store.ready) (hid : keyOf id = .ok key)
    (hp : ∀ d ∈ m.store.documents r.config.collection,
      d.meets (keySelector key (r.owner scope)) = .ok (p d)) :
    r.delete id scope m
      = match (m.store.documents r.config.collection).findIdx? p with
        | none => (.error (.documentMissing r.config.collection id), m)
        | some place => (.ok (), m.withDocuments r.config.collection
            ((m.store.documents r.config.collection).eraseIdx place)) := by
  have hcheck := (Action.lift_eq_ok_iff (s := m)).2 ⟨hid, rfl⟩
  have hensure := (ensureReady_eq_ok_iff hr (u := ())).2 ⟨hready, rfl⟩
  have hbackend : r.backend.deleteOne r.config.collection (keySelector key (r.owner scope))
      = Memory.writing fun s => s.changeFirst r.config.collection (keySelector key (r.owner scope))
          fun documents place => documents.eraseIdx place := by
    rw [hr]
    rfl
  have hdelete := Memory.writing_changeFirst hready hp fun documents place =>
    documents.eraseIdx place
  rw [delete, Action.bind_ok hcheck, Action.bind_ok hensure, hbackend]
  cases hplace : (m.store.documents r.config.collection).findIdx? p with
  | none =>
    rw [hplace] at hdelete
    rw [Action.bind_ok hdelete]
    rfl
  | some place =>
    rw [hplace] at hdelete
    rw [Action.bind_ok hdelete]
    rfl

/-- **Replacing a model** puts its body in the place of the first document meant under its key. -/
theorem update_eq (hready : m.store.ready) (hid : keyOf id = .ok key)
    (hbody : r.body model scope = .ok body)
    (hp : ∀ d ∈ m.store.documents r.config.collection,
      d.meets (keySelector key (r.owner scope)) = .ok (p d)) :
    r.update id model scope m
      = match (m.store.documents r.config.collection).findIdx? p with
        | none => (.error (.documentMissing r.config.collection id), m)
        | some place => (r.codec.loadAs r.config.idField body key,
            m.withDocuments r.config.collection
              ((m.store.documents r.config.collection).modify place fun old =>
                Store.stored ((Fields.get? old primaryKey).getD .null) body)) := by
  have hcheck := (Action.lift_eq_ok_iff (s := m)).2 ⟨hid, rfl⟩
  have hchecked := (Action.lift_eq_ok_iff (s := m)).2 ⟨hbody, rfl⟩
  have hensure := (ensureReady_eq_ok_iff hr (u := ())).2 ⟨hready, rfl⟩
  have hbackend : r.backend.replaceOne r.config.collection (keySelector key (r.owner scope)) body
      = Memory.writing fun s => s.changeFirst r.config.collection (keySelector key (r.owner scope))
          fun documents place => documents.modify place fun old =>
            Store.stored ((Fields.get? old primaryKey).getD .null) body := by
    rw [hr]
    rfl
  have hreplace := Memory.writing_changeFirst hready hp fun documents place =>
    documents.modify place fun old => Store.stored ((Fields.get? old primaryKey).getD .null) body
  rw [update, Action.bind_ok hcheck, Action.bind_ok hchecked, Action.bind_ok hensure, hbackend]
  cases hplace : (m.store.documents r.config.collection).findIdx? p with
  | none =>
    rw [hplace] at hreplace
    rw [Action.bind_ok hreplace]
    rfl
  | some place =>
    rw [hplace] at hreplace
    rw [Action.bind_ok hreplace]
    rfl

end

end Repository

end KeysetStore
