import KeysetStore.Proofs.CompiledOrder
import KeysetStore.Proofs.Conjunction

/-!
# Proofs/KeysetPredicate — the keyset selector means what comes after

Range operators do not cross kinds, so a field orders a listing only where its values are null,
missing, or of one sortable kind (`SortKind.admits`).  There a tie, a step beyond and a null below
say what the order of the two values says (`Keyset.tie_verdict`, `Keyset.last_verdicts`).  Under keys
that decide so (`Keyset.Decides`), the clauses of a keyset are a case distinction on the first key
that decides: as many of them hold as the document comes after the reference
(`Keyset.count_clauses`), that is one or none, and their disjunction is the order itself
(`Keyset.meets_after`).  Compiled orders of documents with primary keys decide so
(`Keyset.meets_after_exact`).
-/

namespace KeysetStore

/-! ## Sortable kinds -/

/-- **The kinds of values that a listing may be ordered by.** -/
inductive SortKind where
  /-- Numbers, in any of their types. -/
  | number
  /-- Text. -/
  | string
  /-- Embedded documents. -/
  | document
  /-- Primary keys. -/
  | objectId
  /-- Truth values. -/
  | boolean
  /-- Instants. -/
  | dateTime
deriving DecidableEq

/-- The place of a sortable kind among the kinds of `OrderKey.rank`. -/
def SortKind.rank : SortKind → Nat
  | number => 1
  | string => 2
  | document => 3
  | objectId => 5
  | boolean => 6
  | dateTime => 7

/-- **The sortable kind of a value**; a value that is or holds a NaN has none. -/
def Value.sortKind? : Value → Option SortKind
  | int32 _ => some .number
  | int64 _ => some .number
  | double x => if x.isNaN then none else some .number
  | string _ => some .string
  | document fields => if (Value.document fields).orderKey.placed then some .document else none
  | objectId _ => some .objectId
  | boolean _ => some .boolean
  | dateTime _ => some .dateTime
  | _ => none

/-- A value that may stand among values of a kind: null, or one of them. -/
def SortKind.admits (kind : SortKind) (v : Value) : Prop := v = .null ∨ v.sortKind? = some kind

namespace Value

variable {v : Value} {kind : SortKind}

theorem rank_orderKey_of_sortKind? (h : v.sortKind? = some kind) :
    v.orderKey.rank = kind.rank := by
  unfold sortKind? at h
  split at h
  case h_3 | h_5 => (split at h) <;> cases h; rfl
  all_goals cases h <;> rfl

theorem isNull_of_sortKind? (h : v.sortKind? = some kind) : v.isNull = false := by
  cases v <;> simp_all [sortKind?, isNull]

/-- A sortable value is no array, so a property reaches it alone. -/
theorem reaches_of_sortKind? (h : v.sortKind? = some kind) (p : Value → Bool) :
    v.reaches p = p v := by
  cases v <;> simp_all [sortKind?, reaches]

/-- **A sortable value holds no NaN.** -/
theorem placed_of_sortKind? (h : v.sortKind? = some kind) : v.orderKey.placed := by
  cases v
  case document fields =>
    cases hplaced : (Value.document fields).orderKey.placed
    · simp [sortKind?, hplaced] at h
    · rfl
  all_goals rw [placed_orderKey]
  case double x =>
    cases hx : x.isNaN
    · simp [hasNaN, hx]
    · simp [sortKind?, hx] at h
  all_goals first | rfl | cases h

end Value

namespace SortKind

variable {kind : SortKind} {v w : Value} {found : Option Value}

theorem rank_pos (kind : SortKind) : 0 < kind.rank := by cases kind <;> decide

theorem rank_ne_other (kind : SortKind) : kind.rank ≠ OrderKey.other.rank := by
  cases kind <;> decide

theorem placed_of_admits (h : kind.admits v) : v.orderKey.placed := by
  rcases h with rfl | h
  · rfl
  · exact Value.placed_of_sortKind? h

/-- Null is below every value of a kind. -/
theorem compare_null_left (h : v.sortKind? = some kind) :
    Value.null.orderKey.compare v.orderKey = .lt := by
  refine OrderKey.compare_eq_lt_of_rank_lt ?_
  rw [Value.rank_orderKey_of_sortKind? h]
  exact kind.rank_pos

theorem compare_null_right (h : v.sortKind? = some kind) :
    v.orderKey.compare Value.null.orderKey = .gt := by
  rw [OrderKey.compare_swap, compare_null_left h]
  rfl

/-- Values of one kind compare, and null compares with none of them. -/
theorem compareWithin?_eq (hv : v.sortKind? = some kind) (hw : w.sortKind? = some kind) :
    v.orderKey.compareWithin? w.orderKey = some (v.orderKey.compare w.orderKey) := by
  rw [OrderKey.compareWithin?, Value.rank_orderKey_of_sortKind? hv,
    Value.rank_orderKey_of_sortKind? hw]
  simp [kind.rank_ne_other]

theorem compareWithin?_null_left (hw : w.sortKind? = some kind) :
    Value.null.orderKey.compareWithin? w.orderKey = none := by
  rw [OrderKey.compareWithin?, Value.rank_orderKey_of_sortKind? hw, if_neg]
  exact fun h => absurd h.1 (Nat.ne_of_lt kind.rank_pos)

theorem compareWithin?_null_right (hv : v.sortKind? = some kind) :
    v.orderKey.compareWithin? Value.null.orderKey = none := by
  rw [OrderKey.compareWithin?, Value.rank_orderKey_of_sortKind? hv, if_neg]
  exact fun h => absurd h.1 (Nat.ne_of_gt kind.rank_pos)

/-! ## Operators on values of one kind -/

/-- **Equality is a tie of the order.** -/
theorem equalsAt_eq (hfound : kind.admits (found.getD .null)) (hv : kind.admits v) :
    equalsAt found v = ((found.getD .null).orderKey.compare v.orderKey == .eq) := by
  cases found with
  | none =>
    rcases hv with rfl | hv
    · rfl
    · simp [equalsAt, Value.isNull_of_sortKind? hv, compare_null_left hv]
  | some w =>
    rw [Option.getD_some] at hfound ⊢
    rcases hfound with rfl | hw
    · rcases hv with rfl | hv
      · rfl
      · simp [equalsAt, Value.reaches, OrderKey.equals, compareWithin?_null_left hv,
          Value.isNull_of_sortKind? hv, compare_null_left hv]
    · rcases hv with rfl | hv
      · simp [equalsAt, Value.reaches_of_sortKind? hw, OrderKey.equals,
          compareWithin?_null_right hw, Value.isNull_of_sortKind? hw, compare_null_right hw]
      · simp [equalsAt, Value.reaches_of_sortKind? hw, OrderKey.equals, compareWithin?_eq hw hv,
          Value.isNull_of_sortKind? hv]
        rfl

/-- **A comparison with a value of the kind is one of the order**, of which nulls are left out. -/
theorem comparesAt_eq (hfound : kind.admits (found.getD .null)) (hv : v.sortKind? = some kind)
    (comparison : Comparison) :
    comparesAt comparison found v
      = (!(found.getD .null).isNull
        && comparison.accepts ((found.getD .null).orderKey.compare v.orderKey)) := by
  cases found with
  | none => rfl
  | some w =>
    rw [Option.getD_some] at hfound ⊢
    rcases hfound with rfl | hw
    · simp [comparesAt, Value.reaches, compareWithin?_null_left hv, Value.isNull]
    · simp [comparesAt, Value.reaches_of_sortKind? hw, compareWithin?_eq hw hv,
        Value.isNull_of_sortKind? hw]

end SortKind

/-! ## The conditions of a key -/

namespace Keyset

theorem orderKeyAt_eq (d : Document) (field : String) :
    d.orderKeyAt field = (referenceValue d field).orderKey := by
  rw [Document.orderKeyAt, referenceValue]
  cases d.lookup? field <;> rfl

/-- **A key under which a document can be placed beside a reference**: its field is a path, the two
values there are of one kind, and a primary key is there. -/
structure Comparable (reference d : Document) (key : SortKey) : Prop where
  path : isOperator key.field = false
  alike : ∃ kind : SortKind, kind.admits (referenceValue reference key.field) ∧
    kind.admits (referenceValue d key.field)
  present : key.field = primaryKey → (referenceValue d key.field).isNull = false

/-- One test alone decides. -/
theorem allHold_singleton {t : Test} {found : Option Value} {b : Bool} (h : t.holds found = .ok b) :
    Test.allHold found [t] = .ok b := by
  rw [Test.allHold, h]
  cases b <;> rfl

/-- **The condition of one operator** is the test of that operator. -/
theorem holds_operator {op : String} {v : Value} {found : Option Value} {b : Bool}
    (hop : isOperator op = true) (hnot : op ≠ "$not")
    (h : (Test.ofSimple [(op, v)] op v).holds found = .ok b) :
    Condition.holds (.document [(op, v)]) found = .ok b := by
  rw [Condition.holds, Condition.read, Document.listsOperators_cons, if_pos hop, Test.ofOperators,
    Test.ofOperator_of_ne hnot, Test.ofOperators]
  exact allHold_singleton h

/-- What the last condition of a clause says of a value, where a key gives one. -/
def lastHolds (found : Option Value) : Option Value → Except Error Bool
  | none => .ok false
  | some condition => Condition.holds condition found

section Verdicts

variable {kind : SortKind} {found : Option Value} {v : Value}

/-- A tie of values is a tie of the order. -/
theorem holds_tie (hfound : kind.admits (found.getD .null)) (hv : kind.admits v) :
    Condition.holds (tie v) found
      = .ok ((found.getD .null).orderKey.compare v.orderKey == .eq) := by
  refine holds_operator (by decide) (by decide) ?_
  rw [← SortKind.equalsAt_eq hfound hv]
  rfl

/-- Going up, what is beyond a value is what the order puts above it. -/
theorem beyond_ascending (hfound : kind.admits (found.getD .null)) (hv : kind.admits v) :
    lastHolds found (beyond? .ascending v)
      = .ok ((found.getD .null).orderKey.compare v.orderKey == .gt) := by
  rcases hv with rfl | hv
  · change Condition.holds (.document [("$ne", .null)]) found = _
    refine holds_operator (by decide) (by decide) ?_
    change Except.ok (!equalsAt found .null) = _
    rw [SortKind.equalsAt_eq hfound (.inl rfl)]
    rcases hfound with hw | hw
    · rw [hw]
      rfl
    · rw [SortKind.compare_null_right hw]
      rfl
  · have hbeyond : beyond? .ascending v = some (.document [("$gt", v)]) := by
      simp [beyond?, Value.isNull_of_sortKind? hv]
    rw [hbeyond]
    refine holds_operator (by decide) (by decide) ?_
    change Except.ok (comparesAt .greater found v) = _
    rw [SortKind.comparesAt_eq hfound hv]
    rcases hfound with hw | hw
    · rw [hw, SortKind.compare_null_left hv]
      rfl
    · rw [Value.isNull_of_sortKind? hw]
      cases (found.getD .null).orderKey.compare v.orderKey <;> rfl

/-- Going down, what is beyond a value is what the order puts below it, but for the nulls. -/
theorem beyond_descending (hfound : kind.admits (found.getD .null)) (hv : kind.admits v) :
    lastHolds found (beyond? .descending v)
      = .ok (!(found.getD .null).isNull
          && (found.getD .null).orderKey.compare v.orderKey == .lt) := by
  rcases hv with rfl | hv
  · rcases hfound with hw | hw
    · rw [hw]
      rfl
    · rw [SortKind.compare_null_right hw, Value.isNull_of_sortKind? hw]
      rfl
  · have hbeyond : beyond? .descending v = some (.document [("$lt", v)]) := by
      simp [beyond?, Value.isNull_of_sortKind? hv]
    rw [hbeyond]
    refine holds_operator (by decide) (by decide) ?_
    change Except.ok (comparesAt .less found v) = _
    rw [SortKind.comparesAt_eq hfound hv]
    cases (found.getD .null).orderKey.compare v.orderKey <;> rfl

/-- Going down, the nulls are below every other value. -/
theorem nullBelow_descending {key : SortKey} (hfound : kind.admits (found.getD .null))
    (hv : kind.admits v) (hdirection : key.direction = .descending)
    (hpresent : key.field = primaryKey → (found.getD .null).isNull = false) :
    lastHolds found (nullBelow? key v)
      = .ok ((found.getD .null).isNull
          && (found.getD .null).orderKey.compare v.orderKey == .lt) := by
  rcases hv with rfl | hv
  · have hnone : nullBelow? key .null = none := by simp [nullBelow?, Value.isNull]
    rw [hnone]
    rcases hfound with hw | hw
    · rw [hw]
      rfl
    · rw [Value.isNull_of_sortKind? hw]
      rfl
  · by_cases hid : key.field = primaryKey
    · have hnone : nullBelow? key v = none := by simp [nullBelow?, hid]
      rw [hnone, hpresent hid]
      rfl
    · have hsome : nullBelow? key v = some (tie .null) := by
        simp [nullBelow?, hid, hdirection, Value.isNull_of_sortKind? hv]
      rw [hsome]
      change Condition.holds (tie .null) found = _
      rw [holds_tie hfound (.inl rfl)]
      rcases hfound with hw | hw
      · rw [hw, SortKind.compare_null_left hv]
        rfl
      · rw [SortKind.compare_null_right hw, Value.isNull_of_sortKind? hw]
        rfl

end Verdicts

variable {reference d : Document} {key : SortKey}

/-- How two documents compare at one key. -/
def compareAt (key : SortKey) (d reference : Document) : Ordering :=
  key.direction.apply ((d.orderKeyAt key.field).compare (reference.orderKeyAt key.field))

/-- **The tie of a key holds where the order ties.** -/
theorem tie_verdict (h : Comparable reference d key) :
    Condition.holds (tie (referenceValue reference key.field)) (d.lookup? key.field)
      = .ok (compareAt key d reference == .eq) := by
  obtain ⟨kind, hv, hfound⟩ := h.alike
  rw [holds_tie hfound hv, compareAt, orderKeyAt_eq, orderKeyAt_eq, referenceValue.eq_1 d]
  cases key.direction <;> cases ((d.lookup? key.field).getD .null).orderKey.compare _ <;> rfl

/-- **The last conditions of a key hold where the order goes up**, and never both of them. -/
theorem last_verdicts (h : Comparable reference d key) :
    ∃ beyond below,
      lastHolds (d.lookup? key.field) (beyond? key.direction (referenceValue reference key.field))
        = .ok beyond ∧
      lastHolds (d.lookup? key.field) (nullBelow? key (referenceValue reference key.field))
        = .ok below ∧
      beyond.toNat + below.toNat = (compareAt key d reference == .gt).toNat := by
  obtain ⟨kind, hv, hfound⟩ := h.alike
  have hpresent := h.present
  rw [compareAt, orderKeyAt_eq, orderKeyAt_eq]
  rw [referenceValue] at hfound hpresent
  rw [referenceValue.eq_1 d]
  cases hdirection : key.direction with
  | ascending =>
    refine ⟨_, false, beyond_ascending hfound hv, ?_, rfl⟩
    simp [nullBelow?, hdirection, lastHolds]
  | descending =>
    refine ⟨_, _, beyond_descending hfound hv,
      nullBelow_descending hfound hv hdirection hpresent, ?_⟩
    cases ((d.lookup? key.field).getD .null).isNull <;>
      cases ((d.lookup? key.field).getD .null).orderKey.compare _ <;> rfl

/-- **A key whose conditions say what the order says**: its field is a path, the tie holds where the
order ties, and of the last conditions one holds where it goes up. -/
structure Decides (reference d : Document) (key : SortKey) : Prop where
  path : isOperator key.field = false
  tie : Condition.holds (Keyset.tie (referenceValue reference key.field)) (d.lookup? key.field)
    = .ok (compareAt key d reference == .eq)
  last : ∃ beyond below,
    lastHolds (d.lookup? key.field) (beyond? key.direction (referenceValue reference key.field))
      = .ok beyond ∧
    lastHolds (d.lookup? key.field) (nullBelow? key (referenceValue reference key.field))
      = .ok below ∧
    beyond.toNat + below.toNat = (compareAt key d reference == .gt).toNat

theorem Comparable.decides (h : Comparable reference d key) : Decides reference d key :=
  ⟨h.path, tie_verdict h, last_verdicts h⟩

/-! ## Counting clauses -/

/-- **A document meets a number of selectors**, and evaluates on all of them. -/
structure MeetsCount (d : Document) (selectors : List Document) (n : Nat) : Prop where
  evaluates : ∀ s ∈ selectors, ∃ b, d.meets s = .ok b
  count : selectors.countP (Document.fits · d) = n

namespace MeetsCount

theorem nil (d : Document) : MeetsCount d [] 0 := ⟨by simp, rfl⟩

theorem cons {s : Document} {selectors : List Document} {b : Bool} {n : Nat}
    (hs : d.meets s = .ok b) (h : MeetsCount d selectors n) :
    MeetsCount d (s :: selectors) (b.toNat + n) := by
  refine ⟨?_, ?_⟩
  · rintro t (_ | ⟨_, ht⟩)
    · exact ⟨b, hs⟩
    · exact h.evaluates t ht
  · rw [List.countP_cons, h.count, Document.fits_of_meets hs, Nat.add_comm]
    cases b <;> rfl

theorem append {front back : List Document} {m n : Nat} (hfront : MeetsCount d front m)
    (hback : MeetsCount d back n) : MeetsCount d (front ++ back) (m + n) := by
  refine ⟨?_, by rw [List.countP_append, hfront.count, hback.count]⟩
  intro s hs
  rcases List.mem_append.1 hs with hs | hs
  · exact hfront.evaluates s hs
  · exact hback.evaluates s hs

end MeetsCount

/-- One key more in front: its own clause counts where the ties and its last condition hold. -/
theorem count_clauses_cons {last? : SortKey → Value → Option Value} {ties : Document}
    {rest : List SortKey} {t p : Bool} {n : Nat} (hpath : isOperator key.field = false)
    (ht : d.meets ties = .ok t)
    (hp : lastHolds (d.lookup? key.field) (last? key (referenceValue reference key.field)) = .ok p)
    (hrest : MeetsCount d (clauses reference last?
      (ties ++ [(key.field, tie (referenceValue reference key.field))]) rest) n) :
    MeetsCount d (clauses reference last? ties (key :: rest)) ((t && p).toNat + n) := by
  rw [clauses]
  cases hlast : last? key (referenceValue reference key.field) with
  | none =>
    rw [hlast] at hp
    obtain rfl : false = p := Except.ok.inj hp
    simpa using hrest
  | some condition =>
    rw [hlast] at hp
    refine MeetsCount.cons ?_ hrest
    rw [Document.meets_append_eq_ok_iff]
    refine ⟨t, p, ht, Document.meets_singleton ?_, rfl⟩
    rw [Document.meetsEntry_of_not_operator hpath]
    exact hp

/-- **As many clauses hold as the document comes after the reference**: one or none.  The induction
is over the keys, under the ties of the keys before. -/
theorem count_clauses {keys : List SortKey} (h : ∀ key ∈ keys, Decides reference d key)
    {ties : Document} {t : Bool} (ht : d.meets ties = .ok t) :
    ∃ m n, MeetsCount d (clauses reference (fun key v => beyond? key.direction v) ties keys) m ∧
      MeetsCount d (clauses reference nullBelow? ties keys) n ∧
      m + n = (t && compareBy keys d reference == .gt).toNat := by
  induction keys generalizing ties t with
  | nil => exact ⟨0, 0, .nil d, .nil d, by cases t <;> rfl⟩
  | cons key rest ih =>
    have hkey := h key List.mem_cons_self
    have htie : d.meets (ties ++ [(key.field, tie (referenceValue reference key.field))])
        = .ok (t && compareAt key d reference == .eq) := by
      rw [Document.meets_append_eq_ok_iff]
      refine ⟨t, _, ht, Document.meets_singleton ?_, rfl⟩
      rw [Document.meetsEntry_of_not_operator hkey.path]
      exact hkey.tie
    obtain ⟨beyond, below, hbeyond, hbelow, hone⟩ := hkey.last
    obtain ⟨m, n, hm, hn, hmn⟩ := ih (fun k hk => h k (List.mem_cons_of_mem _ hk)) htie
    refine ⟨_, _, count_clauses_cons hkey.path ht hbeyond hm,
      count_clauses_cons hkey.path ht hbelow hn, ?_⟩
    have hcompare : compareBy (key :: rest) d reference
        = (compareAt key d reference).then (compareBy rest d reference) := rfl
    rw [hcompare]
    cases t <;> cases hat : compareAt key d reference <;> simp_all

/-- Some clause is there, where some key has something beyond the reference. -/
theorem clauses_ne_nil {last? : SortKey → Value → Option Value} {keys : List SortKey}
    {ties : Document} (hkey : key ∈ keys)
    (hlast : (last? key (referenceValue reference key.field)).isSome) :
    clauses reference last? ties keys ≠ [] := by
  induction keys generalizing ties with
  | nil => cases hkey
  | cons first rest ih =>
    rw [clauses]
    rcases List.mem_cons.1 hkey with rfl | hrest
    · obtain ⟨condition, hcondition⟩ := Option.isSome_iff_exists.1 hlast
      rw [hcondition]
      exact List.cons_ne_nil _ _
    · split
      · exact List.cons_ne_nil _ _
      · exact ih hrest

/-! ## The selector of what comes after -/

/-- A disjunction holds where some of the selectors counted do. -/
theorem meets_or {selectors : List Document} {n : Nat} (hne : selectors ≠ [])
    (h : MeetsCount d selectors n) :
    d.meets [("$or", .array (selectors.map .document))] = .ok (decide (0 < n)) := by
  have hany : selectors.any (Document.fits · d) = decide (0 < n) := by
    rw [← h.count, Bool.eq_iff_iff, List.any_eq_true, decide_eq_true_eq, List.countP_pos_iff]
  refine Document.meets_singleton ?_
  rw [Document.meetsEntry_or hne, ← hany]
  exact Selector.someHolds_eq_any fun s hs => Document.meets_eq_fits (h.evaluates s hs)

theorem referenceValue_primaryKey {id : ObjectId} (h : d.key? = some id) :
    referenceValue d primaryKey = .objectId id := by
  rw [referenceValue, Document.lookup?_primaryKey, Document.get?_of_key? h]
  rfl

/-- An order that has the primary key gives some clause. -/
theorem strict_ne_nil {order : SortOrder} {id : ObjectId}
    (hid : ∃ key ∈ order.keys, key.field = primaryKey) (hreference : reference.key? = some id) :
    clauses reference (fun key v => beyond? key.direction v) [] order.keys ≠ [] := by
  obtain ⟨key, hkey, hfield⟩ := hid
  refine clauses_ne_nil hkey ?_
  rw [hfield, referenceValue_primaryKey hreference]
  cases key.direction <;> rfl

/-- **The keyset of a reference means what comes after it**, for an order that has the primary
key. -/
theorem meets_after {order : SortOrder} {id : ObjectId}
    (hid : ∃ key ∈ order.keys, key.field = primaryKey) (hreference : reference.key? = some id)
    (h : ∀ key ∈ order.keys, Decides reference d key) :
    d.meets (after order reference) = .ok (Document.isAfter order.keys reference d) := by
  obtain ⟨m, n, hm, hn, hmn⟩ := count_clauses h (show d.meets [] = .ok true from rfl)
  rw [after, meets_or (List.append_ne_nil_of_left_ne_nil (strict_ne_nil hid hreference) _)
    (hm.append hn), hmn, Document.isAfter]
  cases compareBy order.keys d reference <;> rfl

/-- Primary keys are of one kind. -/
theorem admits_of_key? {id : ObjectId} (hd : d.key? = some id) :
    SortKind.objectId.admits (referenceValue d primaryKey) := by
  rw [referenceValue_primaryKey hd]
  exact .inr rfl

/-- A document with a primary key can be placed beside a reference under a key that holds one
kind. -/
theorem Comparable.of_key? {id : ObjectId} {kind : SortKind} (hd : d.key? = some id)
    (hpath : isOperator key.field = false)
    (hv : kind.admits (referenceValue reference key.field))
    (hw : kind.admits (referenceValue d key.field)) : Comparable reference d key := by
  refine ⟨hpath, ⟨kind, hv, hw⟩, fun hkey => ?_⟩
  rw [hkey, referenceValue_primaryKey hd]
  rfl

/-- **The keyset of a reference is exact, and its clauses exclude each other.**  Under a compiled
order whose fields are paths, and where the values of two documents under each of them but the
primary key are null, missing, or of one kind, the keyset of the one can be evaluated on the other.
It holds where the order that its sort document asks for puts the document after the reference; then
one of the clauses holds, and otherwise none. -/
theorem meets_after_exact {spec : List SortKey} {idField : String} {i j : ObjectId}
    (hreference : reference.key? = some i) (hd : d.key? = some j)
    (hpath : ∀ key ∈ (SortOrder.compile spec idField).keys, isOperator key.field = false)
    (halike : ∀ key ∈ (SortOrder.compile spec idField).keys, key.field ≠ primaryKey →
      ∃ kind : SortKind, kind.admits (referenceValue reference key.field) ∧
        kind.admits (referenceValue d key.field)) :
    ∃ keys clauses,
      SortKey.ofDocument (SortOrder.compile spec idField).toDocument = .ok keys ∧
      after (SortOrder.compile spec idField) reference
        = [("$or", .array (clauses.map .document))] ∧
      d.meets (after (SortOrder.compile spec idField) reference)
        = .ok (compareBy keys d reference = .gt) ∧
      MeetsCount d clauses (if compareBy keys d reference = .gt then 1 else 0) := by
  have hdecides : ∀ key ∈ (SortOrder.compile spec idField).keys, Decides reference d key := by
    intro key hkey
    by_cases hid : key.field = primaryKey
    · exact (Comparable.of_key? hd (hpath key hkey) (hid ▸ admits_of_key? hreference)
        (hid ▸ admits_of_key? hd)).decides
    · obtain ⟨kind, hv, hw⟩ := halike key hkey hid
      exact (Comparable.of_key? hd (hpath key hkey) hv hw).decides
  obtain ⟨others, direction, hkeys, -⟩ := SortOrder.exists_compile_eq spec idField
  have hid : ∃ key ∈ (SortOrder.compile spec idField).keys, key.field = primaryKey :=
    ⟨⟨primaryKey, direction⟩, by simp [hkeys], rfl⟩
  obtain ⟨m, n, hm, hn, hmn⟩ := count_clauses hdecides (show d.meets [] = .ok true from rfl)
  refine ⟨_, _, SortOrder.ofDocument_toDocument_compile spec idField, rfl,
    meets_after hid hreference hdecides, ?_⟩
  have hone : (true && compareBy (SortOrder.compile spec idField).keys d reference == .gt).toNat
      = if compareBy (SortOrder.compile spec idField).keys d reference = .gt then 1 else 0 := by
    cases compareBy (SortOrder.compile spec idField).keys d reference <;> rfl
  rw [← hone, ← hmn]
  exact hm.append hn

/-- A reference with a price, and what comes after it when the dearest come first: the document
without a price, by the clause of the nulls below and by no other. -/
theorem meets_after_unpriced :
    let order := SortOrder.compile [.descending "price"] "id"
    let reference : Document := [("_id", .objectId (.ofNat 1)), ("price", .int32 5)]
    let d : Document := [("_id", .objectId (.ofNat 2))]
    d.meets (after order reference) = .ok true ∧
    ∃ clauses : List Document, after order reference = [("$or", .array (clauses.map .document))] ∧
      MeetsCount d clauses 1 := by
  intro order reference d
  have halike : ∀ key ∈ order.keys, key.field ≠ primaryKey → ∃ kind : SortKind,
      kind.admits (referenceValue reference key.field) ∧
        kind.admits (referenceValue d key.field) := by
    intro key hkey hid
    rcases List.mem_cons.1 hkey with rfl | hkey
    · exact ⟨.number, .inr rfl, .inl rfl⟩
    · exact absurd (congrArg SortKey.field (List.mem_singleton.1 hkey)) hid
  have hreference : reference.key? = some (.ofNat 1) := rfl
  have hd : d.key? = some (.ofNat 2) := rfl
  obtain ⟨keys, clauses, hkeys, hafter, hmeets, hcount⟩ :=
    meets_after_exact hreference hd (by decide) halike
  obtain rfl : order.keys = keys := Except.ok.inj hkeys
  exact ⟨hmeets, clauses, hafter, hcount⟩

end Keyset

namespace Keyed

variable {documents : List Document} {d : Document}

theorem admits_primaryKey (h : Keyed documents) (hd : d ∈ documents) :
    SortKind.objectId.admits (Keyset.referenceValue d primaryKey) := by
  obtain ⟨id, hid⟩ := h.key d hd
  exact Keyset.admits_of_key? hid

theorem comparable (h : Keyed documents) (hd : d ∈ documents) {reference : Document}
    {key : SortKey} {kind : SortKind} (hpath : isOperator key.field = false)
    (hv : kind.admits (Keyset.referenceValue reference key.field))
    (hw : kind.admits (Keyset.referenceValue d key.field)) :
    Keyset.Comparable reference d key := by
  obtain ⟨id, hid⟩ := h.key d hd
  exact .of_key? hid hpath hv hw

end Keyed

/-! ## Documents that a listing may order -/

/-- **The keys order the documents of a listing**: their fields are paths, and under each of them
but the primary key the values are null, missing, or of one kind. -/
structure Sortable (keys : List SortKey) (documents : List Document) : Prop where
  path : ∀ key ∈ keys, isOperator key.field = false
  uniform : ∀ key ∈ keys, key.field ≠ primaryKey →
    ∃ kind : SortKind, ∀ d ∈ documents, kind.admits (Keyset.referenceValue d key.field)

namespace Sortable

variable {keys : List SortKey} {documents : List Document}

/-- Under every key, the primary key included, the values are of one kind. -/
theorem exists_kind (h : Sortable keys documents) (hkeyed : Keyed documents) {key : SortKey}
    (hkey : key ∈ keys) :
    ∃ kind : SortKind, ∀ d ∈ documents, kind.admits (Keyset.referenceValue d key.field) := by
  by_cases hid : key.field = primaryKey
  · exact ⟨.objectId, fun d hd => hid ▸ hkeyed.admits_primaryKey hd⟩
  · exact h.uniform key hkey hid

theorem comparable (h : Sortable keys documents) (hkeyed : Keyed documents)
    {reference d : Document} (hreference : reference ∈ documents) (hd : d ∈ documents)
    {key : SortKey} (hkey : key ∈ keys) : Keyset.Comparable reference d key := by
  obtain ⟨kind, hkind⟩ := h.exists_kind hkeyed hkey
  exact hkeyed.comparable hd (h.path key hkey) (hkind reference hreference) (hkind d hd)

theorem placedAt (h : Sortable keys documents) (hkeyed : Keyed documents) {d : Document}
    (hd : d ∈ documents) : d.placedAt keys := by
  intro key hkey
  obtain ⟨kind, hkind⟩ := h.exists_kind hkeyed hkey
  rw [Keyset.orderKeyAt_eq]
  exact SortKind.placed_of_admits (hkind d hd)

/-- **A compiled order tells the documents of a listing apart.** -/
theorem orderly {spec : List SortKey} {idField : String}
    (h : Sortable (SortOrder.compile spec idField).keys documents) (hkeyed : Keyed documents) :
    Orderly (SortOrder.compile spec idField).keys documents :=
  .of_keyed hkeyed fun _ hd => h.placedAt hkeyed hd

end Sortable

end KeysetStore
