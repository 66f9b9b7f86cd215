import KeysetStore.Proofs.KeyAccess
import KeysetStore.Proofs.PageWalk

/-!
# Proofs/CreatedModel — a model that was created is there

Creating a model writes its owner as it is, under the name of the scope field, while reading,
counting and deleting take that name for a path and the owner for a condition.  The two agree where
the name is that of a field (`isFieldName`) and the owner meets itself (`Value.meetsItself`): there
the stored document is among those of the owner (`Repository.Recognizes.inScope`), and so it is read back
as it was given, counted once, and deleted under its key (`Repository.create_then`).
-/

namespace KeysetStore

/-! ## Values as conditions on themselves -/

/-- **Whether a value meets itself as a condition**: its kind has an order, without which nothing is
equal, and it does not list operators. -/
def Value.meetsItself (v : Value) : Bool :=
  v.orderKey.rank ≠ OrderKey.other.rank &&
    match v with
    | document fields => !Document.listsOperators fields
    | _ => true

namespace Value

variable {v : Value}

/-- A value that meets itself asks for equality. -/
theorem read_of_meetsItself (h : v.meetsItself = true) : Condition.read v = [.equal v] := by
  cases v
  case document fields =>
    have hplain : Document.listsOperators fields = false := by
      simpa using (Bool.and_eq_true_iff.1 h).2
    simp [Condition.read, hplain]
  case regex => cases h
  all_goals rfl

/-- An order key of an ordered kind equals itself. -/
theorem equals_self {k : OrderKey} (h : k.rank ≠ OrderKey.other.rank) : k.equals k = true := by
  have hsame : k.compare k = .eq := Ordering.eq_eq_of_eq_swap (OrderKey.compare_swap k k)
  simp [OrderKey.equals, OrderKey.compareWithin?, h, hsame]

theorem equalsAt_self (h : v.meetsItself = true) : equalsAt (some v) v = true := by
  have hrank : v.orderKey.rank ≠ OrderKey.other.rank := by
    simpa using (Bool.and_eq_true_iff.1 h).1
  simp [equalsAt, reaches, equals_self hrank]

end Value

/-! ## Owners that are found again -/

/-- **The owner of a request is found again**: its field is the field of that name, and its value
meets itself. -/
def Repository.Recognizes {σ α : Type} (r : Repository σ α) (scope : Option Value) : Prop :=
  ∀ owner ∈ scope, isFieldName r.config.scopeField = true ∧ owner.meetsItself = true

namespace Repository

variable {σ α : Type} {r : Repository σ α} {scope : Option Value} {d body : Document}
  {id key fresh : ObjectId} {model : α}

/-- Whether a document is among those of the owner can be evaluated on every document. -/
theorem Recognizes.meets (h : r.Recognizes scope) (d : Document) :
    d.meets (Document.ownedBy [] (r.owner scope)) = .ok (d.inScope (r.owner scope)) := by
  cases scope with
  | none => rfl
  | some owner =>
    obtain ⟨hfield, howner⟩ := h owner rfl
    exact (Document.meets_of_meetsEntry (Document.meetsEntry_of_read
      (isOperator_of_isFieldName hfield) (Value.read_of_meetsItself howner) d)).1

/-- **The owner's documents** are those whose scope field equals the owner. -/
theorem Recognizes.inScope_eq {owner : Value} (h : r.Recognizes (some owner)) (d : Document) :
    d.inScope (r.owner (some owner))
      = equalsAt (Fields.get? d r.config.scopeField) owner := by
  obtain ⟨hfield, howner⟩ := h owner rfl
  have hentry : d.meets (Document.ownedBy [] (r.owner (some owner)))
      = .ok (equalsAt (d.lookup? r.config.scopeField) owner) :=
    Document.meets_singleton (Document.meetsEntry_of_read
      (isOperator_of_isFieldName hfield) (Value.read_of_meetsItself howner) d)
  rw [h.meets, Document.lookup?_of_isFieldName hfield] at hentry
  exact Except.ok.inj hentry

/-- A document with the owner under the scope field is among those of the owner. -/
theorem Recognizes.inScope (h : r.Recognizes scope)
    (hd : ∀ owner ∈ scope, Fields.get? d r.config.scopeField = some owner) :
    d.inScope (r.owner scope) = true := by
  cases scope with
  | none => rfl
  | some owner => rw [h.inScope_eq, hd owner rfl, Value.equalsAt_self (h owner rfl).2]

/-- **Whether a key and a scope mean a document**: it has the key and is among those of the owner. -/
def means (r : Repository σ α) (key : ObjectId) (scope : Option Value) (d : Document) : Bool :=
  d.key? == some key && d.inScope (r.owner scope)

/-- An owner under the name of the key is the key itself. -/
theorem owner_eq_of_keyFor (hfield : r.config.scopeField = primaryKey)
    (hbody : r.body model scope = .ok body) (hkey : Store.keyFor fresh body = .ok key) :
    ∀ owner ∈ scope, owner = .objectId key := by
  rintro owner ⟨⟩
  obtain ⟨plain, -, rfl⟩ := map_eq_ok_iff.1 hbody
  rw [Store.keyFor, Repository.owner, Option.map_some, hfield, Document.get?_ownedBy] at hkey
  cases owner
  case objectId id => rw [Except.ok.inj hkey]
  all_goals cases hkey

/-- **A body is stored with its owner**, also where the scope field is that of the key. -/
theorem get?_stored_of_body (hbody : r.body model scope = .ok body)
    (hkey : Store.keyFor fresh body = .ok key) :
    ∀ owner ∈ scope, Fields.get? (Store.stored (.objectId key) body) r.config.scopeField
      = some owner := by
  intro owner howner
  by_cases hid : r.config.scopeField = primaryKey
  · rw [hid, owner_eq_of_keyFor hid hbody hkey owner howner, Store.stored, Fields.get?_cons,
      if_pos rfl]
  · obtain ⟨plain, -, rfl⟩ := map_eq_ok_iff.1 hbody
    obtain rfl : scope = some owner := howner
    rw [Store.get?_stored _ _ hid]
    exact Document.get?_ownedBy

/-- **The key selector of an owner means the document under the key, if it is the owner's.** -/
theorem Recognizes.meets_keySelector (h : r.Recognizes scope) (hd : d.key? = some id)
    (hkey : r.config.scopeField = primaryKey → ∀ owner ∈ scope, owner = .objectId key) :
    d.meets (keySelector key (r.owner scope)) = .ok (r.means key scope d) := by
  rw [means]
  cases scope with
  | none => exact Document.meets_keySelector (fun _ hpair => nomatch hpair) hd (h.meets d)
  | some owner =>
    by_cases hid : r.config.scopeField = primaryKey
    · obtain rfl := hkey hid owner rfl
      have hselector : keySelector key (r.owner (some (.objectId key)))
          = Document.ownedBy [] (r.owner (some (.objectId key))) := by
        simp [keySelector, Repository.owner, hid, Document.ownedBy, Fields.insert]
      have hmeets : d.meets (Document.ownedBy [] (r.owner (some (.objectId key))))
          = .ok (d.key? == some key) := by
        rw [Repository.owner, Option.map_some, hid]
        exact Document.meets_singleton (Document.meetsEntry_primaryKey hd key)
      rw [hselector, Document.inScope, Document.fits_of_meets hmeets, Bool.and_self]
      exact hmeets
    · refine Document.meets_keySelector (fun pair hpair => ?_) hd (h.meets d)
      obtain rfl : (r.config.scopeField, owner) = pair := Option.some.inj hpair
      exact hid

end Repository

/-! ## After creating -/

namespace Repository

variable {α : Type} {r : Repository Memory α} {supply : Nat → ObjectId} {scope : Option Value}
  {model created : α} {m m' : Memory}

/-- **A model that was created is there.**  Its document stands at the end of the collection under a
key of its own.  Under every text of that key and on behalf of the same owner, it is read back as
creating it gave it, it is deleted, which leaves the collection as it was, and the owner's count has
gone up by one. -/
theorem create_then (hr : r.backend = Memory.backend supply) (hscope : r.Recognizes scope)
    (hkeyed : Keyed (m.store.documents r.config.collection))
    (hcreate : r.create model scope m = (.ok created, m')) :
    ∃ d key, m'.store.documents r.config.collection
        = m.store.documents r.config.collection ++ [d] ∧ d.key? = some key ∧
      (∀ id, keyOf id = .ok key →
        r.read id scope m' = (.ok created, m') ∧
        r.delete id scope m' = (.ok (), m'.withDocuments r.config.collection
          (m.store.documents r.config.collection))) ∧
      ∃ n, r.count scope none m = (.ok n, m) ∧ r.count scope none m' = (.ok (n + 1), m') := by
  obtain ⟨hready, body, key, hbody, hfor, hnew, hload, rfl⟩ := (create_eq_ok_iff hr).1 hcreate
  have hdocuments : (m.storing r.config.collection key body).store.documents r.config.collection
      = _ := Memory.documents_storing
  have hready' : (m.storing r.config.collection key body).store.ready := hready
  have hkey := Store.key?_stored key body
  have hin : (Store.stored (.objectId key) body).inScope (r.owner scope) = true :=
    hscope.inScope (get?_stored_of_body hbody hfor)
  have hmeets : ∀ d ∈ (m.storing r.config.collection key body).store.documents
      r.config.collection, d.meets (keySelector key (r.owner scope)) = .ok (r.means key scope d) := by
    intro d hd
    obtain ⟨id, hid⟩ := (hkeyed.append hkey hnew).key d (hdocuments ▸ hd)
    exact hscope.meets_keySelector hid fun hfield => owner_eq_of_keyFor hfield hbody hfor
  have hothers : ∀ d ∈ m.store.documents r.config.collection,
      r.means key scope d = false := by
    intro d hd
    simp [means, hnew d hd]
  have hself : r.means key scope (Store.stored (.objectId key) body) = true := by
    simp [means, hin]
  refine ⟨_, key, hdocuments, hkey, fun id hid => ⟨?_, ?_⟩, ?_⟩
  · rw [read_eq hr hready' hid hmeets, hdocuments, find?_place hothers hself]
    dsimp only
    rw [Codec.load_stored, hload]
  · rw [delete_eq hr hready' hid hmeets, hdocuments, findIdx?_place hothers hself]
    dsimp only
    rw [eraseIdx_place, List.append_nil]
  · have hselector : r.selector scope none = .ok (Document.ownedBy [] (r.owner scope)) := rfl
    refine ⟨_, count_eq hr hready hselector fun d _ => hscope.meets d, ?_⟩
    rw [count_eq hr hready' hselector fun d _ => hscope.meets d, hdocuments, List.countP_append,
      List.countP_singleton, if_pos hin]

end Repository

namespace Shelf

/-- A product without a price. -/
def pro : Value := .document [("name", .string "pro")]

/-- The product as creating it gives it back, owned by Alice. -/
def proOfAlice : Value :=
  .document [("name", .string "pro"), ("userId", .string "alice"),
    ("id", .string (ObjectId.ofNat 5).toHex)]

/-- The shelf, with the keys on it issued. -/
def opened : Memory := { memory with issued := 4 }

/-- The shelf with the new product at its end. -/
def stocked : Memory :=
  opened.storing "products" (.ofNat 5) [("name", .string "pro"), ("userId", .string "alice")]

theorem create_pro : products.create pro (some (.string "alice")) opened
    = (.ok proOfAlice, stocked) := rfl

theorem recognizes_alice : products.Recognizes (some (.string "alice")) := by
  rintro owner ⟨⟩
  decide

/-- Alice reads the product that she has created. -/
theorem read_pro : products.create pro (some (.string "alice")) opened
      = (.ok proOfAlice, stocked) ∧
    products.read (ObjectId.ofNat 5).toHex (some (.string "alice")) stocked
      = (.ok proOfAlice, stocked) := by
  obtain ⟨d, key, hadded, hkey, hid, -⟩ := Repository.create_then (r := products) (m := opened) rfl
    recognizes_alice keyed_documents create_pro
  have hlast := congrArg (fun documents => documents.getLast?.bind (·.key?)) hadded
  rw [List.getLast?_concat] at hlast
  obtain rfl : ObjectId.ofNat 5 = key := Option.some.inj (hlast.trans hkey)
  refine ⟨create_pro, (hid _ ?_).1⟩
  rw [Repository.keyOf, ObjectId.ofHex?_toHex]

/-- A repository whose scope field has a dot. -/
def nested : Repository Memory Value :=
  ⟨{ collection := "products", scopeField := "owner.id" }, Memory.backend .ofNat, Codec.value⟩

/-- The product as this repository gives it back. -/
def proOfNested : Value :=
  .document [("name", .string "pro"), ("owner.id", .string "alice"),
    ("id", .string (ObjectId.ofNat 1).toHex)]

/-- The store after it was created there. -/
def nestedStock : Memory :=
  ({} : Memory).storing "products" (.ofNat 1)
    [("name", .string "pro"), ("owner.id", .string "alice")]

theorem create_nested :
    nested.create pro (some (.string "alice")) {} = (.ok proOfNested, nestedStock) := rfl

/-- The path of the scope field leads nowhere in the stored product. -/
theorem meets_nestedStock : ∀ d ∈ nestedStock.store.documents nested.config.collection,
    d.meets (Repository.keySelector (.ofNat 1) (nested.owner (some (.string "alice"))))
      = .ok false := by
  intro d hd
  obtain rfl := List.mem_singleton.1 hd
  rfl

/-- **A dot in the scope field**: the setup is usable, and a product is created and given back, but
under its identifier there is none to read or to delete, and the count has not gone up. -/
theorem nested_lost : nested.config.validate = .ok () ∧
    nested.create pro (some (.string "alice")) {} = (.ok proOfNested, nestedStock) ∧
    nested.read (ObjectId.ofNat 1).toHex (some (.string "alice")) nestedStock
      = (.error (.documentMissing "products" (ObjectId.ofNat 1).toHex), nestedStock) ∧
    nested.delete (ObjectId.ofNat 1).toHex (some (.string "alice")) nestedStock
      = (.error (.documentMissing "products" (ObjectId.ofNat 1).toHex), nestedStock) ∧
    nested.count (some (.string "alice")) none nestedStock = (.ok 0, nestedStock) := by
  have hid : Repository.keyOf (ObjectId.ofNat 1).toHex = .ok (.ofNat 1) := by
    rw [Repository.keyOf, ObjectId.ofHex?_toHex]
  refine ⟨rfl, create_nested, ?_, ?_, rfl⟩
  · exact Repository.read_eq (r := nested) (m := nestedStock) rfl rfl hid meets_nestedStock
  · exact Repository.delete_eq (r := nested) (m := nestedStock) rfl rfl hid meets_nestedStock

end Shelf

end KeysetStore
