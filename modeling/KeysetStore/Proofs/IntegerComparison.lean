import KeysetStore.Proofs.InsertionOrder
import KeysetStore.Proofs.KeyAccess
import KeysetStore.Proofs.RangeOperators

/-!
# Proofs/IntegerComparison — how integers compare once they are doubles

Numbers compare as doubles, integers of 64 bits too.  Rounding to the nearest double never turns two
integers round (`Double.nearestPosition_mono`), and up to `2 ^ 53` in absolute value it keeps them
apart (`Double.ofInt_inj`); beyond, neighbours may share their nearest double.  So integers compare
as integers do, but for those that share one, which tie (`Value.compare_of_integer?`).  Range operators,
equality and the sort all see that one comparison (`Document.ComparesIntegers`).
-/

namespace KeysetStore

/-! ## Rounding keeps the order -/

namespace Double

/-- Rounding never moves a quotient down. -/
theorem le_halfEven (m shift : Nat) : m / 2 ^ shift ≤ halfEven m shift := by
  simp only [halfEven]
  split <;> omega

theorem halfEven_mono {m n : Nat} (h : m ≤ n) (shift : Nat) :
    halfEven m shift ≤ halfEven n shift := by
  have hquotient : m / 2 ^ shift ≤ n / 2 ^ shift := Nat.div_le_div_right h
  rcases Nat.lt_or_eq_of_le hquotient with hlt | heq
  · calc halfEven m shift ≤ m / 2 ^ shift + 1 := halfEven_le m shift
      _ ≤ n / 2 ^ shift := hlt
      _ ≤ halfEven n shift := le_halfEven n shift
  · -- With one quotient, the greater remainder rounds up where the smaller one does.
    have hm := Nat.div_add_mod m (2 ^ shift)
    have hn := Nat.div_add_mod n (2 ^ shift)
    rw [heq] at hm
    simp only [halfEven, heq]
    split <;> split <;> omega

theorem log2_mono {m n : Nat} (hm : m ≠ 0) (h : m ≤ n) : m.log2 ≤ n.log2 :=
  (Nat.le_log2 (by omega)).2 (Nat.le_trans (Nat.log2_self_le hm) h)

/-- The magnitude of a number of at most 53 bits, none of which is lost. -/
theorem nearestMagnitude_of_log2_le {m : Nat} (hm : m ≠ 0) (h : m.log2 ≤ 52) :
    nearestMagnitude m = (m.log2 + 1022) * 2 ^ (52 : Nat) + m * 2 ^ (52 - m.log2) := by
  rw [nearestMagnitude, if_neg hm, if_pos h]

/-- **A magnitude stays in the binade of its number**, or is the first one of the next binade. -/
theorem nearestMagnitude_bounds {m : Nat} (hm : m ≠ 0) :
    (m.log2 + 1023) * 2 ^ (52 : Nat) ≤ nearestMagnitude m ∧
      nearestMagnitude m ≤ (m.log2 + 1024) * 2 ^ (52 : Nat) := by
  have hself : 2 ^ m.log2 ≤ m := Nat.log2_self_le hm
  have hnext : m < 2 ^ (m.log2 + 1) := Nat.lt_log2_self
  rw [nearestMagnitude, if_neg hm]
  split
  · next hle =>
    have hlow : 2 ^ (52 : Nat) ≤ m * 2 ^ (52 - m.log2) := by
      calc 2 ^ (52 : Nat) = 2 ^ m.log2 * 2 ^ (52 - m.log2) := by rw [← Nat.pow_add]; congr 1; omega
        _ ≤ m * 2 ^ (52 - m.log2) := Nat.mul_le_mul_right _ hself
    have hhigh : m * 2 ^ (52 - m.log2) ≤ 2 ^ (53 : Nat) := by
      calc m * 2 ^ (52 - m.log2) ≤ 2 ^ (m.log2 + 1) * 2 ^ (52 - m.log2) :=
            Nat.mul_le_mul_right _ (Nat.le_of_lt hnext)
        _ = 2 ^ (53 : Nat) := by rw [← Nat.pow_add]; congr 1; omega
    omega
  · next hlt =>
    have hlow : 2 ^ (52 : Nat) ≤ m / 2 ^ (m.log2 - 52) := by
      rw [Nat.le_div_iff_mul_le (Nat.two_pow_pos _), ← Nat.pow_add]
      rwa [show 52 + (m.log2 - 52) = m.log2 by omega]
    have hhigh : m / 2 ^ (m.log2 - 52) < 2 ^ (53 : Nat) := by
      refine Nat.div_lt_of_lt_mul ?_
      rwa [← Nat.pow_add, show m.log2 - 52 + 53 = m.log2 + 1 by omega]
    have := le_halfEven m (m.log2 - 52)
    have := halfEven_le m (m.log2 - 52)
    omega

/-- **Rounding never turns two numbers round.** -/
theorem nearestMagnitude_mono {m n : Nat} (h : m ≤ n) :
    nearestMagnitude m ≤ nearestMagnitude n := by
  by_cases hm : m = 0
  · rw [hm, nearestMagnitude, if_pos rfl]
    exact Nat.zero_le _
  have hn : n ≠ 0 := by omega
  rcases Nat.lt_or_eq_of_le (log2_mono hm h) with hlt | heq
  · have hbelow := (nearestMagnitude_bounds hm).2
    have habove := (nearestMagnitude_bounds hn).1
    omega
  · rw [nearestMagnitude, nearestMagnitude, if_neg hm, if_neg hn, heq]
    have hshift := halfEven_mono h (n.log2 - 52)
    have hscale := Nat.mul_le_mul_right (2 ^ (52 - n.log2)) h
    split <;> omega

/-- **Numbers up to `2 ^ 53` keep apart**, next neighbours among them. -/
theorem nearestMagnitude_succ {m : Nat} (h : m < 2 ^ (53 : Nat)) :
    nearestMagnitude m < nearestMagnitude (m + 1) := by
  have habove := (nearestMagnitude_bounds (show m + 1 ≠ 0 by omega)).1
  by_cases hm : m = 0
  · rw [hm]
    decide
  have hexact : m.log2 ≤ 52 := Nat.le_of_lt_succ ((Nat.log2_lt hm).2 h)
  rw [nearestMagnitude_of_log2_le hm hexact]
  rcases Nat.lt_or_eq_of_le (log2_mono hm (show m ≤ m + 1 by omega)) with hlt | heq
  · have hbelow : m * 2 ^ (52 - m.log2) < 2 ^ (53 : Nat) := by
      calc m * 2 ^ (52 - m.log2) < 2 ^ (m.log2 + 1) * 2 ^ (52 - m.log2) :=
            Nat.mul_lt_mul_of_pos_right Nat.lt_log2_self (Nat.two_pow_pos _)
        _ = 2 ^ (53 : Nat) := by rw [← Nat.pow_add]; congr 1; omega
    omega
  · rw [nearestMagnitude_of_log2_le (show m + 1 ≠ 0 by omega) (heq ▸ hexact), ← heq]
    have := Nat.mul_lt_mul_of_pos_right (show m < m + 1 by omega) (Nat.two_pow_pos (52 - m.log2))
    omega

theorem nearestMagnitude_strictMono {m n : Nat} (h : m < n) (hn : n ≤ 2 ^ (53 : Nat)) :
    nearestMagnitude m < nearestMagnitude n :=
  Nat.lt_of_lt_of_le (nearestMagnitude_succ (by omega)) (nearestMagnitude_mono h)

/-! ## Places of integers -/

/-- The place on the line of the double nearest to an integer. -/
def nearestPosition (n : Int) : Int :=
  if n < 0 then -(nearestMagnitude n.natAbs : Int) else nearestMagnitude n.natAbs

theorem position?_ofInt {n : Int} (h : n.natAbs < 2 ^ (64 : Nat)) :
    (ofInt n).position? = some (nearestPosition n) := by
  have hlt := nearestMagnitude_lt h
  have hnegative : (ofInt n).negative = decide (n < 0) := by
    rw [negative, ofInt, BitVec.toNat_ofNat]
    by_cases hn : n < 0 <;> simp only [hn, if_true, if_false, decide_true, decide_false,
      decide_eq_true_eq, decide_eq_false_iff_not] <;> omega
  rw [position?, isNaN_ofInt h, hnegative, magnitude_ofInt h]
  simp [nearestPosition]

theorem nearestMagnitude_pos {m : Nat} (hm : m ≠ 0) : 0 < nearestMagnitude m := by
  have := (nearestMagnitude_bounds hm).1
  omega

/-- **Rounding never turns two integers round.** -/
theorem nearestPosition_mono {a b : Int} (h : a ≤ b) : nearestPosition a ≤ nearestPosition b := by
  rw [nearestPosition, nearestPosition]
  split <;> split
  · have := nearestMagnitude_mono (show b.natAbs ≤ a.natAbs by omega)
    omega
  · omega
  · omega
  · have := nearestMagnitude_mono (show a.natAbs ≤ b.natAbs by omega)
    omega

theorem nearestPosition_strictMono {a b : Int} (h : a < b) (ha : a.natAbs ≤ 2 ^ (53 : Nat))
    (hb : b.natAbs ≤ 2 ^ (53 : Nat)) : nearestPosition a < nearestPosition b := by
  rw [nearestPosition, nearestPosition]
  split <;> split
  · have := nearestMagnitude_strictMono (show b.natAbs < a.natAbs by omega) ha
    omega
  · have := nearestMagnitude_pos (show a.natAbs ≠ 0 by omega)
    omega
  · omega
  · have := nearestMagnitude_strictMono (show a.natAbs < b.natAbs by omega) hb
    omega

/-- The place tells the nearest double: the sign of zero is never lost, since no other integer is
rounded to it. -/
theorem ofInt_eq_iff {a b : Int} (ha : a.natAbs < 2 ^ (64 : Nat))
    (hb : b.natAbs < 2 ^ (64 : Nat)) :
    ofInt a = ofInt b ↔ nearestPosition a = nearestPosition b := by
  refine ⟨fun h => ?_, fun h => ?_⟩
  · have hposition := congrArg position? h
    rw [position?_ofInt ha, position?_ofInt hb] at hposition
    exact Option.some.inj hposition
  · have hpos {n : Int} (hn : n < 0) := nearestMagnitude_pos (show n.natAbs ≠ 0 by omega)
    rw [nearestPosition, nearestPosition] at h
    rw [ofInt, ofInt]
    by_cases hna : a < 0 <;> by_cases hnb : b < 0 <;>
      simp only [hna, hnb, if_true, if_false] at h ⊢
    · rw [Int.ofNat_inj.1 (Int.neg_inj.1 h)]
    · have := hpos hna
      omega
    · have := hpos hnb
      omega
    · rw [Int.ofNat_inj.1 h]

/-- **Integers up to `2 ^ 53` in absolute value have doubles of their own.** -/
theorem ofInt_inj {a b : Int} (ha : a.natAbs ≤ 2 ^ (53 : Nat)) (hb : b.natAbs ≤ 2 ^ (53 : Nat)) :
    ofInt a = ofInt b ↔ a = b := by
  refine ⟨fun h => ?_, fun h => h ▸ rfl⟩
  rw [ofInt_eq_iff (by omega) (by omega)] at h
  rcases Int.lt_trichotomy a b with hlt | heq | hgt
  · exact absurd h (Int.ne_of_lt (nearestPosition_strictMono hlt ha hb))
  · exact heq
  · exact absurd h.symm (Int.ne_of_lt (nearestPosition_strictMono hgt hb ha))

/-- **Two integers that share their nearest double.** -/
def Merges (a b : Int) : Prop := a ≠ b ∧ ofInt a = ofInt b

instance (a b : Int) : Decidable (Merges a b) := inferInstanceAs (Decidable (a ≠ b ∧ _))

/-- Only beyond `2 ^ 53` do integers share their nearest double. -/
theorem Merges.lt_natAbs {a b : Int} (h : Merges a b) : 2 ^ (53 : Nat) < max a.natAbs b.natAbs :=
  Nat.lt_of_not_le fun hsmall => h.1 ((ofInt_inj (by omega) (by omega)).1 h.2)

/-- The order of two integers after rounding. -/
def compareRounded (a b : Int) : Ordering := if Merges a b then .eq else Ord.compare a b

/-- **What the order after rounding accepts**: what the integers say, unless they tie by rounding. -/
theorem accepts_compareRounded (a b : Int) :
    (compareRounded a b == .eq) = decide (a = b ∨ Merges a b) ∧
    (compareRounded a b).isGT = decide (b < a ∧ ¬ Merges a b) ∧
    (compareRounded a b).isGE = decide (b ≤ a ∨ Merges a b) ∧
    (compareRounded a b).isLT = decide (a < b ∧ ¬ Merges a b) ∧
    (compareRounded a b).isLE = decide (a ≤ b ∨ Merges a b) := by
  rw [compareRounded]
  by_cases hm : Merges a b
  · simp [hm]
  · rcases Int.lt_trichotomy a b with hlt | rfl | hgt
    · simp [hm, Int.compare_eq_lt.2 hlt, hlt, Int.le_of_lt hlt, Int.ne_of_lt hlt]
    · simp [Merges]
    · simp [hm, Int.compare_eq_gt.2 hgt, hgt, Int.le_of_lt hgt, (Int.ne_of_lt hgt).symm]

/-- **Places compare as the integers do**, but for integers that share their nearest double. -/
theorem compare_nearestPosition {a b : Int} (ha : a.natAbs < 2 ^ (64 : Nat))
    (hb : b.natAbs < 2 ^ (64 : Nat)) :
    Ord.compare (nearestPosition a) (nearestPosition b) = compareRounded a b := by
  have hsame := ofInt_eq_iff ha hb
  rw [compareRounded]
  split
  · next h => rw [hsame.1 h.2, Std.ReflOrd.compare_self]
  · next h =>
    rcases Int.lt_trichotomy a b with hlt | rfl | hgt
    · have hne : nearestPosition a ≠ nearestPosition b :=
        fun heq => h ⟨Int.ne_of_lt hlt, hsame.2 heq⟩
      have := nearestPosition_mono (Int.le_of_lt hlt)
      rw [Int.compare_eq_lt.2 hlt, Int.compare_eq_lt.2 (by omega)]
    · rw [Std.ReflOrd.compare_self, Std.ReflOrd.compare_self]
    · have hne : nearestPosition a ≠ nearestPosition b :=
        fun heq => h ⟨(Int.ne_of_lt hgt).symm, hsame.2 heq⟩
      have := nearestPosition_mono (Int.le_of_lt hgt)
      rw [Int.compare_eq_gt.2 hgt, Int.compare_eq_gt.2 (by omega)]

end Double

/-! ## Integers among values -/

namespace Value

/-- The integer that a value of one of the integer types is. -/
def integer? : Value → Option Int
  | int32 n => some n.toInt
  | int64 n => some n.toInt
  | _ => none

variable {v w : Value} {a b : Int}

/-- **An integer orders by the place of its nearest double.** -/
theorem orderKey_of_integer? (h : v.integer? = some a) :
    a.natAbs < 2 ^ (64 : Nat) ∧ v.orderKey = .number (some (Double.nearestPosition a)) := by
  cases v <;> cases h
  case int32 n =>
    have hlt := n.toInt_lt
    have hle := n.le_toInt
    exact ⟨by omega, congrArg OrderKey.number (Double.position?_ofInt (by omega))⟩
  case int64 n =>
    have hlt := n.toInt_lt
    have hle := n.le_toInt
    exact ⟨by omega, congrArg OrderKey.number (Double.position?_ofInt (by omega))⟩

theorem sortKind?_of_integer? (h : v.integer? = some a) : v.sortKind? = some .number := by
  cases v <;> first | rfl | cases h

/-- **Integers compare as integers do**, but for those that share their nearest double, which tie. -/
theorem compare_of_integer? (hv : v.integer? = some a) (hw : w.integer? = some b) :
    v.orderKey.compare w.orderKey = Double.compareRounded a b := by
  obtain ⟨ha, hav⟩ := orderKey_of_integer? hv
  obtain ⟨hb, hbw⟩ := orderKey_of_integer? hw
  rw [hav, hbw]
  exact Double.compare_nearestPosition ha hb

end Value

/-! ## Selectors that compare -/

namespace Document

variable {d : Document} {name : String} {v w : Value} {a b : Int}

/-- **What a document with one integer says to the comparisons with another one**: what the integers
say, unless they share their nearest double and tie. -/
structure ComparesIntegers (d : Document) (name : String) (w : Value) (a b : Int) : Prop where
  equal : d.meets [(name, .document [("$eq", w)])] = .ok (decide (a = b ∨ Double.Merges a b))
  greater :
    d.meets [(name, .document [("$gt", w)])] = .ok (decide (b < a ∧ ¬ Double.Merges a b))
  greaterOrEqual :
    d.meets [(name, .document [("$gte", w)])] = .ok (decide (b ≤ a ∨ Double.Merges a b))
  less : d.meets [(name, .document [("$lt", w)])] = .ok (decide (a < b ∧ ¬ Double.Merges a b))
  lessOrEqual :
    d.meets [(name, .document [("$lte", w)])] = .ok (decide (a ≤ b ∨ Double.Merges a b))

theorem comparesIntegers (hname : isOperator name = false) (hd : d.lookup? name = some v)
    (hv : v.integer? = some a) (hw : w.integer? = some b) : d.ComparesIntegers name w a b := by
  have hkind := Value.sortKind?_of_integer? hv
  have hkind' := Value.sortKind?_of_integer? hw
  have hfound : SortKind.number.admits ((some v).getD .null) := .inr hkind
  have hequal : equalsAt (d.lookup? name) w = (Double.compareRounded a b == .eq) := by
    rw [hd, SortKind.equalsAt_eq hfound (.inr hkind'), ← Value.compare_of_integer? hv hw]
    rfl
  have hcompares (comparison : Comparison) : comparesAt comparison (d.lookup? name) w
      = comparison.accepts (Double.compareRounded a b) := by
    rw [hd, SortKind.comparesAt_eq hfound hkind', ← Value.compare_of_integer? hv hw,
      Option.getD_some, Value.isNull_of_sortKind? hkind]
    rfl
  obtain ⟨heq, hgt, hge, hlt, hle⟩ := Double.accepts_compareRounded a b
  refine ⟨?_, ?_, ?_, ?_, ?_⟩ <;>
    refine meets_operator hname (by decide) (by decide) (congrArg Except.ok ?_)
  · exact hequal.trans heq
  · exact (hcompares .greater).trans hgt
  · exact (hcompares .greaterOrEqual).trans hge
  · exact (hcompares .less).trans hlt
  · exact (hcompares .lessOrEqual).trans hle

/-- The integer under a name, where there is one. -/
def integerOf? (d : Document) (name : String) : Option Int :=
  (Fields.get? d name).bind Value.integer?

/-- Documents with integers compare in rising order as the integers do after rounding. -/
theorem compareBy_of_integerOf? {e : Document} (hname : isFieldName name = true)
    (hd : d.integerOf? name = some a) (he : e.integerOf? name = some b) :
    compareBy [.ascending name] d e = Double.compareRounded a b := by
  obtain ⟨v, hget, hv⟩ := Option.bind_eq_some_iff.1 hd
  obtain ⟨w, hget', hw⟩ := Option.bind_eq_some_iff.1 he
  rw [← lookup?_of_isFieldName hname] at hget hget'
  rw [compareBy, compareBy, Ordering.then_eq]
  change (d.orderKeyAt name).compare (e.orderKeyAt name) = _
  rw [orderKeyAt, orderKeyAt, hget, hget']
  exact Value.compare_of_integer? hv hw

end Document

/-! ## Searches in rising order -/

/-- Of two entries of a list one stands before the other. -/
theorem sublist_pair_or {α : Type} {x y : α} {l : List α} (hx : x ∈ l) (hy : y ∈ l) (hne : x ≠ y) :
    [x, y].Sublist l ∨ [y, x].Sublist l := by
  obtain ⟨front, back, rfl⟩ := List.append_of_mem hx
  rcases List.mem_append.1 hy with hfront | hback
  · have := (List.singleton_sublist.2 hfront).append
      (List.singleton_sublist.2 (List.mem_cons_self (a := x) (l := back)))
    exact .inr this
  · have hback := (List.mem_cons.1 hback).resolve_left (Ne.symm hne)
    exact .inl ((List.cons_sublist_cons.2 (List.singleton_sublist.2 hback)).trans
      (List.sublist_append_right front _))

/-- **How documents with integers stand in a list**: the lesser ones first, and those that tie by
rounding as they stood. -/
structure PlacesIntegers (name : String) (documents found : List Document) : Prop where
  perm : found.Perm documents
  before : ∀ d ∈ documents, ∀ e ∈ documents, ∀ a b, d.integerOf? name = some a →
    e.integerOf? name = some b → a < b → ¬ Double.Merges a b →
    [d, e].Sublist found ∧ ¬ [e, d].Sublist found
  stable : ∀ d e a b, d.integerOf? name = some a → e.integerOf? name = some b →
    Double.Merges a b → [d, e].Sublist documents → [d, e].Sublist found

theorem placesIntegers_sortBy {name : String} {documents : List Document}
    (hname : isFieldName name = true) (h : ∀ d ∈ documents, d.placedAt [.ascending name]) :
    PlacesIntegers name documents (sortBy [.ascending name] documents) := by
  refine ⟨sortBy_perm .., fun d hd e he a b ha hb hlt hapart => ?_, fun d e a b ha hb hm hs => ?_⟩
  · have hrising := pairwise_isLE_sortBy h
    have hnot : ¬ [e, d].Sublist (sortBy [.ascending name] documents) := by
      intro hs
      have hle : (compareBy [.ascending name] e d).isLE := by
        simpa using hrising.sublist hs
      rw [Document.compareBy_of_integerOf? hname hb ha,
        (Double.accepts_compareRounded b a).2.2.2.2, decide_eq_true_eq] at hle
      rcases hle with hle | ⟨-, hsame⟩
      · omega
      · exact hapart ⟨Int.ne_of_lt hlt, hsame.symm⟩
    have hne : d ≠ e := by
      rintro rfl
      obtain rfl := Option.some.inj (ha.symm.trans hb)
      omega
    exact ⟨(sublist_pair_or (mem_sortBy.2 hd) (mem_sortBy.2 he) hne).resolve_right hnot, hnot⟩
  · refine sublist_sortBy h hs ?_
    have hle : (compareBy [.ascending name] d e).isLE := by
      rw [Document.compareBy_of_integerOf? hname ha hb, Double.compareRounded, if_pos hm]
      rfl
    simpa using hle

/-- **Integers compare exactly, but for those that share their nearest double.**  The comparisons of a
field and the searches in its rising order say of two integers what the integers say, unless these
share their nearest double and tie; up to `2 ^ 53` in absolute value no two integers do. -/
theorem integers_compare {name : String} (hname : isFieldName name = true) :
    (∀ (d : Document) (w : Value) (a b : Int), d.integerOf? name = some a →
      w.integer? = some b → d.ComparesIntegers name w a b) ∧
    (∀ (s : Store) (collection : String) (selector : Document), s.ready →
      (∀ d ∈ s.documents collection, ∃ x, d.meets selector = .ok x) →
      (∀ d ∈ s.documents collection, (Fields.get? d name).all fun v => !v.hasNaN) →
      ∃ found, s.find collection
          { selector, sort := some [(name, Direction.ascending.toValue)] } = .ok found ∧
        PlacesIntegers name ((s.documents collection).filter (Document.fits selector)) found) ∧
    ∀ a b : Int, Double.Merges a b → 2 ^ (53 : Nat) < max a.natAbs b.natAbs := by
  refine ⟨fun d w a b hd hw => ?_, fun s collection selector hready hmeets hvalues => ?_,
    fun a b => Double.Merges.lt_natAbs⟩
  · obtain ⟨v, hget, hv⟩ := Option.bind_eq_some_iff.1 hd
    rw [← Document.lookup?_of_isFieldName hname] at hget
    exact Document.comparesIntegers (isOperator_of_isFieldName hname) hget hv hw
  · have hkeys : SortKey.ofDocument [(name, Direction.ascending.toValue)]
        = .ok [.ascending name] := SortKey.ofDocument_map [.ascending name]
    refine ⟨_, Store.find_eq hready (fun d hd => Document.meets_eq_fits (hmeets d hd)) hkeys none,
      placesIntegers_sortBy hname fun d hd => Document.placedAt_iff.2 fun key hkey => ?_⟩
    obtain rfl := List.mem_singleton.1 hkey
    rw [SortKey.ascending, Document.lookup?_of_isFieldName hname]
    exact hvalues d (List.mem_filter.1 hd).1

namespace Shelf

/-- Two stocks that share their nearest double, the greater one first, and a small one. -/
def stocks : List Document :=
  [[("_id", .objectId (.ofNat 1)), ("stock", .int64 9007199254740993)],
    [("_id", .objectId (.ofNat 2)), ("stock", .int64 9007199254740992)],
    [("_id", .objectId (.ofNat 3)), ("stock", .int32 7)]]

/-- The store of some of the stocks. -/
def holding (documents : List Document) : Store := { collections := [("products", documents)] }

/-- The small stock compares with a great one, and stands before it though it came later. -/
theorem integers_compare_stocks :
    stocks[0].meets [("stock", .document [("$gt", .int32 7)])] = .ok true ∧
    stocks[2].meets [("stock", .document [("$gte", .int64 9007199254740993)])] = .ok false ∧
    (holding [stocks[0], stocks[2]]).find "products"
        { selector := [], sort := some [("stock", .int32 1)] } = .ok [stocks[2], stocks[0]] := by
  have hname : isFieldName "stock" = true := by decide
  obtain ⟨hcompares, hfind, -⟩ := integers_compare hname
  obtain ⟨found, hfound, hplaces⟩ := hfind (holding [stocks[0], stocks[2]]) "products" [] rfl
    (fun _ _ => ⟨true, rfl⟩) (by decide)
  replace hplaces : PlacesIntegers "stock" [stocks[0], stocks[2]] found := hplaces
  have hbefore := (hplaces.before stocks[2] (by simp) stocks[0] (by simp) 7 9007199254740993 rfl rfl
    (by decide) (by decide)).1
  refine ⟨(hcompares stocks[0] (.int32 7) 9007199254740993 7 rfl rfl).greater,
    (hcompares stocks[2] (.int64 9007199254740993) 7 9007199254740993 rfl rfl).greaterOrEqual, ?_⟩
  rw [hbefore.eq_of_length hplaces.perm.length_eq.symm]
  exact hfound

/-- **Integers that share their nearest double are not told apart**: the greater stock equals the
lesser one, is not greater, and stands before it in rising order. -/
theorem integers_merge :
    (stocks[0].integerOf? "stock" = some 9007199254740993 ∧
      stocks[1].integerOf? "stock" = some 9007199254740992) ∧
    stocks[0].meets [("stock", .document [("$eq", .int64 9007199254740992)])] = .ok true ∧
    stocks[0].meets [("stock", .document [("$gt", .int64 9007199254740992)])] = .ok false ∧
    (holding [stocks[0], stocks[1]]).find "products"
        { selector := [], sort := some [("stock", .int32 1)] } = .ok [stocks[0], stocks[1]] := by
  have hsorted : sortBy [.ascending "stock"] [stocks[0], stocks[1]] = [stocks[0], stocks[1]] :=
    List.mergeSort_of_pairwise (by decide)
  refine ⟨⟨rfl, rfl⟩, rfl, rfl, ?_⟩
  exact (Store.find_eq (p := fun _ => true) rfl (fun _ _ => rfl) rfl none).trans
    (congrArg Except.ok hsorted)

end Shelf

end KeysetStore
