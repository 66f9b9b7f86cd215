import KeysetStore.Proofs.DocumentOrder

/-!
# Proofs/CompiledOrder — compiled orders tell stored documents apart

A compiled order names each field once and the primary key last (`SortOrder.nodup_fields_compile`,
`SortOrder.exists_compile_eq`), so its sort document is read back as the same keys
(`SortOrder.ofDocument_toDocument_compile`), and documents with keys of their own never tie under it
(`Orderly.of_keyed`).
-/

namespace KeysetStore

/-! ## The keys of a compiled order -/

namespace SortKey

theorem mem_of_mem_firstMentions {key : SortKey} {keys : List SortKey}
    (h : key ∈ firstMentions keys) : key ∈ keys := by
  induction keys with
  | nil => exact h
  | cons first rest ih =>
    rcases List.mem_cons.1 h with rfl | h
    · exact List.mem_cons_self
    · exact List.mem_cons_of_mem _ (ih (List.mem_filter.1 h).1)

/-- First mentions name each field once. -/
theorem nodup_firstMentions (keys : List SortKey) :
    ((firstMentions keys).map (·.field)).Nodup := by
  induction keys with
  | nil => exact List.nodup_nil
  | cons first rest ih =>
    refine List.nodup_cons.2 ⟨?_, ih.sublist (List.filter_sublist.map _)⟩
    simp

/-- The keys of a sort document, read back. -/
theorem ofDocument_map (keys : List SortKey) :
    ofDocument (keys.map fun key => (key.field, key.direction.toValue)) = .ok keys := by
  induction keys with
  | nil => rfl
  | cons key rest ih =>
    rw [List.map_cons, ofDocument, Direction.ofValue_toValue, ih]
    rfl

end SortKey

namespace SortOrder

/-- **A compiled order has the primary key at its end**, and other fields before it. -/
theorem exists_compile_eq (spec : List SortKey) (idField : String) :
    ∃ others direction, (compile spec idField).keys = others ++ [⟨primaryKey, direction⟩] ∧
      ∀ key ∈ others, key.field ≠ primaryKey := by
  refine ⟨_, _, rfl, fun key hkey => ?_⟩
  simpa using (List.mem_filter.1 (SortKey.mem_of_mem_firstMentions hkey)).2

/-- **A compiled order names each field once.** -/
theorem nodup_fields_compile (spec : List SortKey) (idField : String) :
    ((compile spec idField).keys.map (·.field)).Nodup := by
  rw [compile, List.map_append]
  refine List.nodup_append.2 ⟨SortKey.nodup_firstMentions _, by simp, ?_⟩
  intro field hfield last hlast
  obtain ⟨key, hkey, rfl⟩ := List.mem_map.1 hfield
  obtain rfl : last = primaryKey := by simpa using hlast
  simpa using (List.mem_filter.1 (SortKey.mem_of_mem_firstMentions hkey)).2

/-- **The sort document of a compiled order says what the order says.** -/
theorem ofDocument_toDocument_compile (spec : List SortKey) (idField : String) :
    SortKey.ofDocument (compile spec idField).toDocument = .ok (compile spec idField).keys := by
  rw [toDocument, Fields.ofList_of_nodup, SortKey.ofDocument_map]
  rw [List.map_map]
  exact nodup_fields_compile spec idField

end SortOrder

/-! ## Documents with keys of their own -/

/-- **Documents with keys of their own**, as a collection holds them. -/
structure Keyed (documents : List Document) : Prop where
  key : ∀ d ∈ documents, ∃ id, d.key? = some id
  distinct : documents.Pairwise fun a b => a.key? ≠ b.key?

namespace Keyed

variable {documents : List Document}

theorem sublist {some : List Document} (h : Keyed documents) (hs : some.Sublist documents) :
    Keyed some :=
  ⟨fun d hd => h.key d (hs.subset hd), h.distinct.sublist hs⟩

theorem of_perm {others : List Document} (h : Keyed documents) (hperm : others.Perm documents) :
    Keyed others :=
  ⟨fun d hd => h.key d (hperm.subset hd), hperm.symm.pairwise h.distinct Ne.symm⟩

/-- A key names one document. -/
theorem eq_of_key? (h : Keyed documents) {a b : Document} (ha : a ∈ documents)
    (hb : b ∈ documents) (hab : a.key? = b.key?) : a = b := by
  obtain ⟨i, hi, rfl⟩ := List.getElem_of_mem ha
  obtain ⟨j, hj, rfl⟩ := List.getElem_of_mem hb
  rcases Nat.lt_trichotomy i j with hij | rfl | hij
  · exact absurd hab (List.pairwise_iff_getElem.1 h.distinct i j hi hj hij)
  · rfl
  · exact absurd hab.symm (List.pairwise_iff_getElem.1 h.distinct j i hj hi hij)

/-- **A search for a key finds the document under it**, if that document passes. -/
theorem find?_eq_some (h : Keyed documents) {p : Document → Bool} {d : Document}
    (hd : d ∈ documents) (hp : p d = true)
    (hkey : ∀ e ∈ documents, p e = true → e.key? = d.key?) : documents.find? p = some d := by
  cases hfind : documents.find? p with
  | none => exact absurd hp (List.find?_eq_none.1 hfind d hd)
  | some e =>
    have he := List.mem_of_find?_eq_some hfind
    rw [h.eq_of_key? he hd (hkey e he (List.find?_some hfind))]

end Keyed

theorem Document.lookup?_primaryKey (d : Document) :
    d.lookup? primaryKey = Fields.get? d primaryKey := by
  rw [lookup?, show Value.segments primaryKey = [primaryKey] by decide, Value.follow?]
  cases Fields.get? d primaryKey <;> simp [Value.follow?]

theorem Document.get?_of_key? {d : Document} {id : ObjectId} (h : d.key? = some id) :
    Fields.get? d primaryKey = some (.objectId id) := by
  unfold Document.key? at h
  split at h
  · next heq => rw [heq, Option.some.inj h]
  · cases h

theorem Document.orderKeyAt_primaryKey {d : Document} {id : ObjectId} (h : d.key? = some id) :
    d.orderKeyAt primaryKey = .objectId id := by
  rw [orderKeyAt, lookup?_primaryKey, get?_of_key? h]
  rfl

/-- Primary keys tie only where they are the same. -/
theorem ObjectId.eq_of_compare {a b : ObjectId} (h : a.compare b = .eq) : a = b := by
  obtain ⟨a⟩ := a
  obtain ⟨b⟩ := b
  exact congrArg ObjectId.mk (BitVec.eq_of_toNat_eq (Nat.compare_eq_eq.1 h))

/-- **Documents with different keys do not tie** under keys that end with the primary key. -/
theorem compareBy_ne_eq_of_key? {others : List SortKey} {direction : Direction} {a b : Document}
    {i j : ObjectId} (ha : a.key? = some i) (hb : b.key? = some j) (hij : i ≠ j) :
    compareBy (others ++ [⟨primaryKey, direction⟩]) a b ≠ .eq := by
  induction others with
  | nil =>
    rw [List.nil_append, compareBy, compareBy, Document.orderKeyAt_primaryKey ha,
      Document.orderKeyAt_primaryKey hb, Ordering.then_eq]
    intro h
    refine hij (ObjectId.eq_of_compare ?_)
    cases direction <;> simpa [Direction.apply, OrderKey.compare] using h
  | cons key rest ih =>
    rw [List.cons_append, compareBy, ne_eq, Ordering.then_eq_eq]
    exact fun h => ih h.2

/-- **A compiled order tells documents with keys of their own apart.** -/
theorem Orderly.of_keyed {spec : List SortKey} {idField : String} {documents : List Document}
    (hkeyed : Keyed documents)
    (hplaced : ∀ d ∈ documents, d.placedAt (SortOrder.compile spec idField).keys) :
    Orderly (SortOrder.compile spec idField).keys documents := by
  obtain ⟨others, direction, hkeys, -⟩ := SortOrder.exists_compile_eq spec idField
  refine ⟨hplaced, hkeyed.distinct.imp_of_mem fun {a b} ha hb hab => ?_⟩
  obtain ⟨i, hi⟩ := hkeyed.key a ha
  obtain ⟨j, hj⟩ := hkeyed.key b hb
  rw [hkeys]
  exact compareBy_ne_eq_of_key? hi hj fun hij => hab (by rw [hi, hj, hij])

end KeysetStore
