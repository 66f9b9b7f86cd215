import KeysetStore.Proofs.ValueOrder
import KeysetStore.Sort

/-!
# Proofs/DocumentOrder — sorting documents that an order tells apart

Documents whose sorted values hold no NaN compare transitively (`compareBy_composes`).  Sorting them
never goes down (`pairwise_isLE_sortBy`) and leaves those that tie as they stood
(`filter_tiesWith_sortBy`).  Where besides no two of them tie (`Orderly`), it gives the one strictly
rising list of them (`Orderly.pairwise_sortBy`, `Orderly.eq_sortBy`), in whatever order they stood
(`Orderly.sortBy_of_perm`), and so a selection may be made before or after sorting
(`Orderly.sortBy_filter`).  What comes after a document of a rising list is the rest of that list
(`filter_after_eq_drop`).
-/

namespace KeysetStore

/-! ## Comparing documents -/

/-- The values of a document under the keys hold no NaN. -/
def Document.placedAt (d : Document) (keys : List SortKey) : Prop :=
  ∀ key ∈ keys, (d.orderKeyAt key.field).placed

instance (d : Document) (keys : List SortKey) : Decidable (d.placedAt keys) :=
  inferInstanceAs (Decidable (∀ key ∈ keys, (d.orderKeyAt key.field).placed = true))

/-- The values under the keys, looked up one by one. -/
theorem Document.placedAt_iff {d : Document} {keys : List SortKey} :
    d.placedAt keys ↔ ∀ key ∈ keys, (d.lookup? key.field).all fun v => !v.hasNaN := by
  simp only [← Value.placed_foundKey]
  rfl

theorem Direction.apply_swap (direction : Direction) (o : Ordering) :
    direction.apply o.swap = (direction.apply o).swap := by
  cases direction <;> rfl

/-- **Documents compare the other way round when they change places.** -/
theorem compareBy_swap (keys : List SortKey) (a b : Document) :
    compareBy keys b a = (compareBy keys a b).swap := by
  induction keys with
  | nil => rfl
  | cons key rest ih =>
    rw [compareBy, compareBy, ih, OrderKey.compare_swap, Direction.apply_swap, Ordering.swap_then]

theorem compareBy_eq_gt_iff {keys : List SortKey} {a b : Document} :
    compareBy keys a b = .gt ↔ compareBy keys b a = .lt := by
  rw [compareBy_swap keys b a, Ordering.swap_eq_gt]

theorem compareBy_ne_eq_symm {keys : List SortKey} {a b : Document}
    (h : compareBy keys a b ≠ .eq) : compareBy keys b a ≠ .eq := by
  rwa [compareBy_swap, ne_eq, Ordering.swap_eq_eq]

theorem compareBy_self (keys : List SortKey) (a : Document) : compareBy keys a a = .eq :=
  Ordering.eq_eq_of_eq_swap (compareBy_swap keys a a)

/-- A step in a direction composes: going down, the two steps change places. -/
theorem Composes.apply {a b c : OrderKey} (ha : a.placed) (hb : b.placed) (hc : c.placed)
    (direction : Direction) :
    Composes (direction.apply (a.compare b)) (direction.apply (b.compare c))
      (direction.apply (a.compare c)) := by
  cases direction with
  | ascending => exact OrderKey.compare_composes ha hb hc
  | descending =>
    simp only [Direction.apply, ← OrderKey.compare_swap]
    exact (OrderKey.compare_composes hc hb ha).comm

/-- **Documents without a NaN under the keys compare transitively.** -/
theorem compareBy_composes {keys : List SortKey} {a b c : Document} (ha : a.placedAt keys)
    (hb : b.placedAt keys) (hc : c.placedAt keys) :
    Composes (compareBy keys a b) (compareBy keys b c) (compareBy keys a c) := by
  induction keys with
  | nil => exact fun _ _ => rfl
  | cons key rest ih =>
    have tail {d : Document} (h : d.placedAt (key :: rest)) : d.placedAt rest :=
      fun k hk => h k (List.mem_cons_of_mem _ hk)
    exact .lex (.apply (ha key List.mem_cons_self) (hb key List.mem_cons_self)
      (hc key List.mem_cons_self) key.direction) (ih (tail ha) (tail hb) (tail hc))

theorem compareBy_lt_trans {keys : List SortKey} {a b c : Document} (ha : a.placedAt keys)
    (hb : b.placedAt keys) (hc : c.placedAt keys) (hab : compareBy keys a b = .lt)
    (hbc : compareBy keys b c = .lt) : compareBy keys a c = .lt := by
  have h := compareBy_composes ha hb hc (by simp [hab]) (by simp [hbc])
  rwa [hab, Ordering.lt_then] at h

theorem isLE_compareBy_trans {keys : List SortKey} {a b c : Document} (ha : a.placedAt keys)
    (hb : b.placedAt keys) (hc : c.placedAt keys) (hab : (compareBy keys a b).isLE)
    (hbc : (compareBy keys b c).isLE) : (compareBy keys a c).isLE := by
  rw [compareBy_composes ha hb hc hab hbc]
  cases h : compareBy keys a b
  case lt => rfl
  case eq => exact hbc
  case gt => simp [h] at hab

theorem isLE_compareBy_total (keys : List SortKey) (a b : Document) :
    (compareBy keys a b).isLE ∨ (compareBy keys b a).isLE := by
  rw [compareBy_swap keys a b]
  cases compareBy keys a b <;> simp

/-- **Documents that tie with one tie with each other.** -/
theorem compareBy_eq_of_eq {keys : List SortKey} {a b c : Document} (ha : a.placedAt keys)
    (hb : b.placedAt keys) (hc : c.placedAt keys) (hab : compareBy keys a b = .eq)
    (hac : compareBy keys a c = .eq) : compareBy keys b c = .eq := by
  have hba : compareBy keys b a = .eq := by rw [compareBy_swap, hab]; rfl
  rw [compareBy_composes hb ha hc (by simp [hba]) (by simp [hac]), hba, hac]
  rfl

/-- **Documents rise strictly in one way only.** -/
theorem eq_of_rising {keys : List SortKey} {some others : List Document} (hperm : some.Perm others)
    (hsome : some.Pairwise fun a b => compareBy keys a b = .lt)
    (hothers : others.Pairwise fun a b => compareBy keys a b = .lt) : some = others := by
  refine List.Perm.eq_of_pairwise (fun a b _ _ hab hba => ?_) hsome hothers hperm
  rw [compareBy_swap, hab] at hba
  cases hba

/-! ## Sorting documents without a NaN -/

section Sorting

variable {keys : List SortKey} {documents : List Document}

/-- Whether a document without a NaN may stand before another. -/
def Document.mayPrecede (a b : { d : Document // d.placedAt keys }) : Bool :=
  compareBy keys a.1 b.1 ≠ .gt

theorem Document.mayPrecede_iff {a b : { d : Document // d.placedAt keys }} :
    mayPrecede a b = true ↔ (compareBy keys a.1 b.1).isLE := by
  simp [mayPrecede, Ordering.isLE_iff_ne_gt]

theorem Document.mayPrecede_trans (a b c : { d : Document // d.placedAt keys })
    (hab : mayPrecede a b) (hbc : mayPrecede b c) : mayPrecede a c := by
  rw [mayPrecede_iff] at hab hbc ⊢
  exact isLE_compareBy_trans a.2 b.2 c.2 hab hbc

theorem Document.mayPrecede_total (a b : { d : Document // d.placedAt keys }) :
    mayPrecede a b || mayPrecede b a := by
  rw [Bool.or_eq_true, mayPrecede_iff, mayPrecede_iff]
  exact isLE_compareBy_total keys a.1 b.1

/-- Sorting is done among documents without a NaN, where the comparison is transitive. -/
theorem sortBy_eq_map_val (h : ∀ d ∈ documents, d.placedAt keys) :
    sortBy keys documents
      = ((documents.attachWith _ h).mergeSort Document.mayPrecede).map Subtype.val := by
  rw [List.map_mergeSort (r := Document.mayPrecede) (s := fun a b => compareBy keys a b ≠ .gt)
      fun _ _ _ _ => rfl,
    List.attachWith_map_subtype_val]
  rfl

/-- **The sorted documents never go down.** -/
theorem pairwise_isLE_sortBy (h : ∀ d ∈ documents, d.placedAt keys) :
    (sortBy keys documents).Pairwise fun a b => (compareBy keys a b).isLE := by
  rw [sortBy_eq_map_val h, List.pairwise_map]
  exact (List.pairwise_mergeSort Document.mayPrecede_trans Document.mayPrecede_total _).imp
    Document.mayPrecede_iff.1

/-- **Documents that stand in order as they are keep their order.** -/
theorem sublist_sortBy (h : ∀ d ∈ documents, d.placedAt keys) {some : List Document}
    (hs : some.Sublist documents)
    (hrise : some.Pairwise fun a b => (compareBy keys a b).isLE) :
    some.Sublist (sortBy keys documents) := by
  rw [← List.attachWith_map_subtype_val h, List.sublist_map_iff] at hs
  obtain ⟨placed, hplaced, rfl⟩ := hs
  rw [List.pairwise_map] at hrise
  rw [sortBy_eq_map_val h]
  exact (List.sublist_mergeSort Document.mayPrecede_trans Document.mayPrecede_total
    (hrise.imp Document.mayPrecede_iff.2) hplaced).map _

/-- Whether a document ties with another one. -/
def Document.tiesWith (keys : List SortKey) (d e : Document) : Bool := compareBy keys d e = .eq

/-- **Sorting is stable**: the documents that tie with one stand in the order in which they stood. -/
theorem filter_tiesWith_sortBy (h : ∀ d ∈ documents, d.placedAt keys) {d : Document}
    (hd : d ∈ documents) :
    (sortBy keys documents).filter (Document.tiesWith keys d)
      = documents.filter (Document.tiesWith keys d) := by
  have hties : (documents.filter (Document.tiesWith keys d)).Pairwise
      fun a b => (compareBy keys a b).isLE := by
    refine List.pairwise_of_forall_mem_list fun a ha b hb => ?_
    obtain ⟨ha, hda⟩ := List.mem_filter.1 ha
    obtain ⟨hb, hdb⟩ := List.mem_filter.1 hb
    rw [compareBy_eq_of_eq (h d hd) (h a ha) (h b hb) (of_decide_eq_true hda)
      (of_decide_eq_true hdb)]
    rfl
  have hsublist := (sublist_sortBy h List.filter_sublist hties).filter (Document.tiesWith keys d)
  rw [List.filter_filter, List.filter_congr fun _ _ => Bool.and_self _] at hsublist
  refine (hsublist.eq_of_length ?_).symm
  exact ((sortBy_perm keys documents).filter _).length_eq.symm

end Sorting

/-! ## Documents that an order tells apart -/

/-- **Documents that an order tells apart**: their values under the keys hold no NaN, and no two of
them tie. -/
structure Orderly (keys : List SortKey) (documents : List Document) : Prop where
  placed : ∀ d ∈ documents, d.placedAt keys
  apart : documents.Pairwise fun a b => compareBy keys a b ≠ .eq

namespace Orderly

variable {keys : List SortKey} {documents : List Document}

theorem sublist {some : List Document} (h : Orderly keys documents) (hs : some.Sublist documents) :
    Orderly keys some :=
  ⟨fun d hd => h.placed d (hs.subset hd), h.apart.sublist hs⟩

theorem filter (h : Orderly keys documents) (p : Document → Bool) :
    Orderly keys (documents.filter p) :=
  h.sublist List.filter_sublist

/-- **Sorting gives a strictly rising list.** -/
theorem pairwise_sortBy (h : Orderly keys documents) :
    (sortBy keys documents).Pairwise fun a b => compareBy keys a b = .lt := by
  have apart := (sortBy_perm keys documents).symm.pairwise h.apart compareBy_ne_eq_symm
  refine (pairwise_isLE_sortBy h.placed).imp₂ (fun a b hle hne => ?_) apart
  exact (Ordering.isLE_iff_eq_lt_or_eq_eq.1 hle).resolve_right hne

/-- **A strictly rising list of the documents is the sorted one.** -/
theorem eq_sortBy (h : Orderly keys documents) {rising : List Document}
    (hperm : rising.Perm documents)
    (hrise : rising.Pairwise fun a b => compareBy keys a b = .lt) :
    rising = sortBy keys documents :=
  eq_of_rising (hperm.trans (sortBy_perm keys documents).symm) hrise h.pairwise_sortBy

/-- **A selection may be made before or after sorting.** -/
theorem sortBy_filter (h : Orderly keys documents) (p : Document → Bool) :
    sortBy keys (documents.filter p) = (sortBy keys documents).filter p :=
  ((h.filter p).eq_sortBy ((sortBy_perm keys documents).filter p)
    (h.pairwise_sortBy.filter p)).symm

/-- **The order in which the documents stood does not matter.** -/
theorem sortBy_of_perm (h : Orderly keys documents) {others : List Document}
    (hperm : others.Perm documents) : sortBy keys others = sortBy keys documents :=
  have hothers : Orderly keys others :=
    ⟨fun d hd => h.placed d (hperm.subset hd), hperm.symm.pairwise h.apart compareBy_ne_eq_symm⟩
  h.eq_sortBy ((sortBy_perm keys others).trans hperm) hothers.pairwise_sortBy

end Orderly

/-! ## What comes after -/

/-- Whether a document comes after a reference. -/
def Document.isAfter (keys : List SortKey) (reference d : Document) : Bool :=
  compareBy keys d reference = .gt

/-- **What comes after a document of a rising list is the rest of the list.** -/
theorem filter_after_eq_drop {keys : List SortKey} {rising : List Document}
    (h : rising.Pairwise fun a b => compareBy keys a b = .lt) {i : Nat} (hi : i < rising.length) :
    rising.filter (Document.isAfter keys rising[i]) = rising.drop (i + 1) := by
  have hbefore : ∀ d ∈ rising.take (i + 1), Document.isAfter keys rising[i] d = false := by
    intro d hd
    obtain ⟨j, hj, rfl⟩ := List.getElem_of_mem hd
    simp only [List.length_take] at hj
    rw [List.getElem_take, Document.isAfter, decide_eq_false_iff_not]
    rcases Nat.lt_or_eq_of_le (by omega : j ≤ i) with hlt | rfl
    · simp [List.pairwise_iff_getElem.1 h j i (by omega) hi hlt]
    · simp [compareBy_self]
  have hafter : ∀ d ∈ rising.drop (i + 1), Document.isAfter keys rising[i] d = true := by
    intro d hd
    obtain ⟨j, hj, rfl⟩ := List.getElem_of_mem hd
    simp only [List.length_drop] at hj
    rw [List.getElem_drop, Document.isAfter, decide_eq_true_eq, compareBy_eq_gt_iff]
    exact List.pairwise_iff_getElem.1 h i _ hi (by omega) (by omega)
  calc rising.filter (Document.isAfter keys rising[i])
      = (rising.take (i + 1) ++ rising.drop (i + 1)).filter (Document.isAfter keys rising[i]) := by
        rw [List.take_append_drop]
    _ = rising.drop (i + 1) := by
        rw [List.filter_append, List.filter_eq_nil_iff.2 (fun d hd => by simp [hbefore d hd]),
          List.filter_eq_self.2 hafter, List.nil_append]

end KeysetStore
