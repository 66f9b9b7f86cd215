import KeysetStore.Value.Order

/-!
# Proofs/ValueOrder — values without a NaN are totally preordered

A NaN ties with every number, so it breaks transitivity, and nothing else does.  For order keys that
hold no NaN at any depth (`OrderKey.placed`) the comparison is reflexive, turns round with its
arguments (`OrderKey.compare_swap`), and composes (`OrderKey.compare_composes`): where neither of two
steps goes down, the whole step is the first one that moves.

The keys of values that hold no NaN are such keys (`Value.placed_foundKey`): integers have a place on
the line, however they round.  So values compare as a total preorder, also where some are missing
(`Value.compareFound_preorder`).
-/

namespace KeysetStore

/-! ## Steps that compose -/

/-- **Three orderings of `a b`, `b c` and `a c` compose**: if neither of the first two goes down, the
third is the first of them that moves. -/
def Composes (ab bc ac : Ordering) : Prop := ab.isLE → bc.isLE → ac = ab.then bc

namespace Composes

/-- A lawful comparison composes. -/
theorem of_transOrd {α : Type} [Ord α] [Std.TransOrd α] (a b c : α) :
    Composes (compare a b) (compare b c) (compare a c) := by
  intro hab hbc
  rcases Ordering.isLE_iff_eq_lt_or_eq_eq.1 hab with h | h
  · rw [h, Ordering.lt_then]
    exact Std.TransCmp.lt_of_lt_of_isLE h hbc
  · rw [h, Ordering.eq_then]
    exact Std.TransCmp.congr_left h

/-- Lexicographic steps compose when both parts do. -/
theorem lex {ab bc ac ab' bc' ac' : Ordering} (h : Composes ab bc ac) (h' : Composes ab' bc' ac') :
    Composes (ab.then ab') (bc.then bc') (ac.then ac') := by
  intro hab hbc
  cases ab
  case gt => simp at hab
  case lt => cases bc <;> simp_all [Composes]
  case eq =>
    cases bc
    case gt => simp at hbc
    case lt => cases ab' <;> simp_all [Composes]
    case eq => simp_all [Composes]

/-- It does not matter which of two steps comes first. -/
theorem comm {ab bc ac : Ordering} (h : Composes bc ab ac) : Composes ab bc ac := by
  intro hab hbc
  rw [h hbc hab]
  cases ab <;> cases bc <;> simp_all

end Composes

namespace OrderKey

/-! ## Keys without a NaN -/

mutual

/-- Whether every number of a key has a place on the line. -/
def placed : OrderKey → Bool
  | number position => position.isSome
  | document fields => placedFields fields
  | array items => placedItems items
  | _ => true

/-- Whether every number in the contents of fields has a place. -/
def placedFields : List (String × OrderKey) → Bool
  | [] => true
  | (_, k) :: rest => k.placed && placedFields rest

/-- Whether every number in a list has a place. -/
def placedItems : List OrderKey → Bool
  | [] => true
  | k :: rest => k.placed && placedItems rest

end

/-! ## Ranks -/

/-- Keys of two kinds compare as their kinds do. -/
theorem compare_of_rank_ne {a b : OrderKey} (h : a.rank ≠ b.rank) :
    a.compare b = Ord.compare a.rank b.rank := by
  cases a <;> cases b <;> first | rfl | exact absurd rfl h

/-- A key that is not above another one is not of a later kind. -/
theorem rank_le_of_isLE {a b : OrderKey} (h : (a.compare b).isLE) : a.rank ≤ b.rank := by
  by_cases hr : a.rank = b.rank
  · exact Nat.le_of_eq hr
  · rw [compare_of_rank_ne hr] at h
    exact Nat.isLE_compare.1 h

theorem compare_eq_lt_of_rank_lt {a b : OrderKey} (h : a.rank < b.rank) : a.compare b = .lt := by
  rw [compare_of_rank_ne (Nat.ne_of_lt h)]
  exact Nat.compare_eq_lt.2 h

/-! ## Turning round -/

theorem comparePositions_swap (a b : Option Int) :
    comparePositions b a = (comparePositions a b).swap := by
  cases a <;> cases b <;> first | rfl | exact Std.OrientedOrd.eq_swap

mutual

/-- **The comparison turns round with its arguments**, NaNs included. -/
theorem compare_swap (a b : OrderKey) : b.compare a = (a.compare b).swap := by
  by_cases hr : a.rank = b.rank
  case neg =>
    rw [compare_of_rank_ne hr, compare_of_rank_ne (Ne.symm hr)]
    exact Std.OrientedOrd.eq_swap
  cases a <;> cases b <;> first | (simp [rank] at hr; done) | rfl | skip
  case number a b => exact comparePositions_swap a b
  case string a b => exact Std.OrientedOrd.eq_swap
  case document a b => exact compareFields_swap a b
  case array a b => exact compareItems_swap a b
  case objectId a b => exact Std.OrientedOrd.eq_swap
  case boolean a b => exact Std.OrientedOrd.eq_swap
  case dateTime a b => exact Std.OrientedOrd.eq_swap

theorem compareFields_swap (as bs : List (String × OrderKey)) :
    compareFields bs as = (compareFields as bs).swap := by
  match as, bs with
  | [], [] => rfl
  | [], _ :: _ => rfl
  | _ :: _, [] => rfl
  | (k, a) :: as, (l, b) :: bs =>
    rw [compareFields, compareFields, compareFields_swap as bs, compare_swap a b,
      Std.OrientedOrd.eq_swap (a := l), Ordering.swap_then, Ordering.swap_then]

theorem compareItems_swap (as bs : List OrderKey) :
    compareItems bs as = (compareItems as bs).swap := by
  match as, bs with
  | [], [] => rfl
  | [], _ :: _ => rfl
  | _ :: _, [] => rfl
  | a :: as, b :: bs =>
    rw [compareItems, compareItems, compareItems_swap as bs, compare_swap a b, Ordering.swap_then]

end

/-! ## Composing -/

theorem comparePositions_composes {a b c : Option Int} (ha : a.isSome) (hb : b.isSome)
    (hc : c.isSome) :
    Composes (comparePositions a b) (comparePositions b c) (comparePositions a c) := by
  obtain ⟨a, rfl⟩ := Option.isSome_iff_exists.1 ha
  obtain ⟨b, rfl⟩ := Option.isSome_iff_exists.1 hb
  obtain ⟨c, rfl⟩ := Option.isSome_iff_exists.1 hc
  exact .of_transOrd a b c

/-- Across kinds, a step up in the kind decides. -/
theorem compare_composes_of_rank_ne {a b c : OrderKey} (h : a.rank ≠ b.rank ∨ b.rank ≠ c.rank) :
    Composes (a.compare b) (b.compare c) (a.compare c) := by
  intro hab hbc
  have hab' := rank_le_of_isLE hab
  have hbc' := rank_le_of_isLE hbc
  rw [compare_eq_lt_of_rank_lt (by omega : a.rank < c.rank)]
  by_cases hlt : a.rank < b.rank
  · rw [compare_eq_lt_of_rank_lt hlt, Ordering.lt_then]
  · rw [compare_eq_lt_of_rank_lt (by omega : b.rank < c.rank)]
    rcases Ordering.isLE_iff_eq_lt_or_eq_eq.1 hab with h | h <;> rw [h] <;> rfl

mutual

/-- **Keys without a NaN compare transitively.** -/
theorem compare_composes {a b c : OrderKey} (ha : a.placed) (hb : b.placed) (hc : c.placed) :
    Composes (a.compare b) (b.compare c) (a.compare c) := by
  by_cases hab : a.rank = b.rank
  case neg => exact compare_composes_of_rank_ne (.inl hab)
  by_cases hbc : b.rank = c.rank
  case neg => exact compare_composes_of_rank_ne (.inr hbc)
  cases a <;> cases b <;> first | (simp [rank] at hab; done) | skip
  all_goals cases c <;> first | (simp [rank] at hbc; done) | skip
  case null => exact fun _ _ => rfl
  case other => exact fun _ _ => rfl
  case number a b c => exact comparePositions_composes ha hb hc
  case string a b c => exact .of_transOrd a b c
  case document a b c => exact compareFields_composes ha hb hc
  case array a b c => exact compareItems_composes ha hb hc
  case objectId a b c => exact .of_transOrd _ _ _
  case boolean a b c => exact .of_transOrd a b c
  case dateTime a b c => exact .of_transOrd a b c

theorem compareFields_composes {as bs cs : List (String × OrderKey)} (ha : placedFields as)
    (hb : placedFields bs) (hc : placedFields cs) :
    Composes (compareFields as bs) (compareFields bs cs) (compareFields as cs) := by
  match as, bs, cs with
  | [], [], _ => intro _ _; rfl
  | [], _ :: _, [] => intro _ h; simp [compareFields] at h
  | [], _ :: _, _ :: _ => intro _ _; rfl
  | _ :: _, [], _ => intro h _; simp [compareFields] at h
  | _ :: _, _ :: _, [] => intro _ h; simp [compareFields] at h
  | (k, a) :: as, (l, b) :: bs, (m, c) :: cs =>
    simp only [placedFields, Bool.and_eq_true] at ha hb hc
    exact .lex (.of_transOrd k l m)
      (.lex (compare_composes ha.1 hb.1 hc.1) (compareFields_composes ha.2 hb.2 hc.2))

theorem compareItems_composes {as bs cs : List OrderKey} (ha : placedItems as)
    (hb : placedItems bs) (hc : placedItems cs) :
    Composes (compareItems as bs) (compareItems bs cs) (compareItems as cs) := by
  match as, bs, cs with
  | [], [], _ => intro _ _; rfl
  | [], _ :: _, [] => intro _ h; simp [compareItems] at h
  | [], _ :: _, _ :: _ => intro _ _; rfl
  | _ :: _, [], _ => intro h _; simp [compareItems] at h
  | _ :: _, _ :: _, [] => intro _ h; simp [compareItems] at h
  | a :: as, b :: bs, c :: cs =>
    simp only [placedItems, Bool.and_eq_true] at ha hb hc
    exact .lex (compare_composes ha.1 hb.1 hc.1) (compareItems_composes ha.2 hb.2 hc.2)

end

/-! ## The laws of a preorder -/

theorem compare_self (a : OrderKey) : a.compare a = .eq :=
  Ordering.eq_eq_of_eq_swap (compare_swap a a)

theorem isLE_compare_trans {a b c : OrderKey} (ha : a.placed) (hb : b.placed) (hc : c.placed)
    (hab : (a.compare b).isLE) (hbc : (b.compare c).isLE) : (a.compare c).isLE := by
  rw [compare_composes ha hb hc hab hbc]
  cases h : a.compare b
  case lt => rfl
  case eq => exact hbc
  case gt => simp [h] at hab

/-- **Keys that tie compare alike** with every other key. -/
theorem compare_congr {a b c : OrderKey} (ha : a.placed) (hb : b.placed) (hc : c.placed)
    (hab : a.compare b = .eq) : a.compare c = b.compare c := by
  have hba : b.compare a = .eq := by rw [compare_swap, hab]; rfl
  by_cases hbc : (b.compare c).isLE
  · rw [compare_composes ha hb hc (by simp [hab]) hbc, hab, Ordering.eq_then]
  · -- Going down from `b` to `c` is going up from `c` to `b`, and on to `a`.
    have hcb : (c.compare b).isLE := by
      rw [compare_swap b c]
      cases h : b.compare c <;> simp_all
    rw [compare_swap c a, compare_composes hc hb ha hcb (by simp [hba]), hba, Ordering.then_eq,
      ← compare_swap]

end OrderKey

/-! ## Values without a NaN -/

/-- A double has a place on the line unless it is a NaN. -/
theorem Double.isSome_position? (x : Double) : x.position?.isSome = !x.isNaN := by
  rw [position?]
  cases x.isNaN <;> rfl

namespace Value

mutual

/-- **Whether a value holds a NaN** at any depth.  The variables of a script have no order and are
not looked into. -/
def hasNaN : Value → Bool
  | double x => x.isNaN
  | document fields => fieldsHaveNaN fields
  | array items => itemsHaveNaN items
  | _ => false

/-- Whether some field holds a NaN. -/
def fieldsHaveNaN : List (String × Value) → Bool
  | [] => false
  | (_, v) :: rest => v.hasNaN || fieldsHaveNaN rest

/-- Whether some item holds a NaN. -/
def itemsHaveNaN : List Value → Bool
  | [] => false
  | v :: rest => v.hasNaN || itemsHaveNaN rest

end

mutual

/-- **The numbers of a value have their places**, unless one is a NaN. -/
theorem placed_orderKey (v : Value) : v.orderKey.placed = !v.hasNaN := by
  cases v
  case int32 n =>
    have hlt := n.toInt_lt
    have hle := n.le_toInt
    exact (Double.isSome_position? _).trans (by rw [Double.isNaN_ofInt (by omega)]; rfl)
  case int64 n =>
    have hlt := n.toInt_lt
    have hle := n.le_toInt
    exact (Double.isSome_position? _).trans (by rw [Double.isNaN_ofInt (by omega)]; rfl)
  case double x => exact Double.isSome_position? x
  case document fields => exact placed_fieldKeys fields
  case array items => exact placed_itemKeys items
  all_goals rfl

theorem placed_fieldKeys (fields : List (String × Value)) :
    OrderKey.placedFields (fieldKeys fields) = !fieldsHaveNaN fields := by
  match fields with
  | [] => rfl
  | (_, v) :: rest =>
    rw [fieldKeys, OrderKey.placedFields, fieldsHaveNaN, placed_orderKey v, placed_fieldKeys rest,
      Bool.not_or]

theorem placed_itemKeys (items : List Value) :
    OrderKey.placedItems (itemKeys items) = !itemsHaveNaN items := by
  match items with
  | [] => rfl
  | v :: rest =>
    rw [itemKeys, OrderKey.placedItems, itemsHaveNaN, placed_orderKey v, placed_itemKeys rest,
      Bool.not_or]

end

/-! ## Values that may be missing -/

/-- What a value orders by where it may be missing: a missing one orders as null. -/
def foundKey (found : Option Value) : OrderKey := (found.map orderKey).getD .null

/-- The order of two values that may be missing. -/
def compareFound (a b : Option Value) : Ordering := (foundKey a).compare (foundKey b)

theorem placed_foundKey (found : Option Value) :
    (foundKey found).placed = found.all fun v => !v.hasNaN := by
  cases found with
  | none => rfl
  | some v => exact placed_orderKey v

/-- **Values without a NaN are totally preordered**, whatever their kinds: a value ties with itself,
the order turns round with its arguments and is transitive, and values that tie compare alike with
every other one. -/
theorem compareFound_preorder {a b c : Option Value} (ha : a.all fun v => !v.hasNaN)
    (hb : b.all fun v => !v.hasNaN) (hc : c.all fun v => !v.hasNaN) :
    compareFound a a = .eq ∧ compareFound b a = (compareFound a b).swap ∧
    ((compareFound a b).isLE → (compareFound b c).isLE → (compareFound a c).isLE) ∧
    (compareFound a b = .eq → compareFound a c = compareFound b c) := by
  rw [← placed_foundKey] at ha hb hc
  exact ⟨OrderKey.compare_self _, OrderKey.compare_swap _ _, OrderKey.isLE_compare_trans ha hb hc,
    OrderKey.compare_congr ha hb hc⟩

/-- Two arrays that tie, in other number types each, and one that both of them come before. -/
theorem compareFound_mixed :
    let a : Value := .array [.int32 1, .document [("x", .double (.ofInt 2))]]
    let b : Value := .array [.double (.ofInt 1), .document [("x", .int64 2)]]
    let c : Value := .array [.int64 1, .document [("y", .null)]]
    (a.hasNaN = false ∧ b.hasNaN = false ∧ c.hasNaN = false) ∧
    compareFound (some a) (some b) = .eq ∧ compareFound (some a) (some c) = .lt ∧
    compareFound (some b) (some c) = .lt := by
  intro a b c
  have htie : compareFound (some a) (some b) = .eq := by decide
  have hlt : compareFound (some a) (some c) = .lt := by decide
  obtain ⟨-, -, -, hcongr⟩ :=
    compareFound_preorder (a := some a) (b := some b) (c := some c) rfl rfl rfl
  exact ⟨⟨rfl, rfl, rfl⟩, htie, hlt, (hcongr htie).symm.trans hlt⟩

/-- A NaN ties with two and with one, which do not tie. -/
example : compareFound (some (.int32 2)) (some (.double ⟨0x7ff8000000000000⟩)) = .eq ∧
    compareFound (some (.double ⟨0x7ff8000000000000⟩)) (some (.int32 1)) = .eq ∧
    compareFound (some (.int32 2)) (some (.int32 1)) = .gt := by decide

end Value

end KeysetStore
