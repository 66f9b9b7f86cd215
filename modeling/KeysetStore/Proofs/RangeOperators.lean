import KeysetStore.Proofs.KeysetPredicate

/-!
# Proofs/RangeOperators — inclusive comparisons are strict ones or equality

A comparison asks for some value at a path, the value itself or an item of it, that is of the bound's
kind and beyond it; equality asks for one that ties with it.  An inclusive comparison therefore holds
where the strict one or equality does, whatever the kinds and however the values nest
(`comparesAt_greaterOrEqual`, `comparesAt_lessOrEqual`).

Equality with null alone also holds where there is no value at all, and no comparison does: there an
inclusive comparison with null is less than its parts (`Document.meets_inclusive`,
`Shelf.null_misses`).
-/

namespace KeysetStore

/-! ## Values that are reached -/

/-- **Reaching one of two properties** is reaching the first or the second. -/
theorem Value.reaches_or (p q : Value → Bool) (v : Value) :
    v.reaches (fun w => p w || q w) = (v.reaches p || v.reaches q) := by
  cases v
  case array items =>
    have hany : items.any (fun w => p w || q w) = (items.any p || items.any q) := by
      induction items with
      | nil => rfl
      | cons w rest ih =>
        simp only [List.any_cons, ih]
        ac_rfl
    simp only [reaches, hany]
    ac_rfl
  all_goals simp [reaches]

section Comparisons

variable {found : Option Value} {v : Value}

/-- Whether some value at a path ties with a bound. -/
def tiesAt (found : Option Value) (v : Value) : Bool :=
  found.any (Value.reaches fun w => w.orderKey.equals v.orderKey)

/-- **An inclusive comparison** is a strict one or a tie, where it accepts so. -/
theorem comparesAt_inclusive {strict inclusive : Comparison}
    (h : ∀ o, inclusive.accepts o = (strict.accepts o || o == .eq)) :
    comparesAt inclusive found v = (comparesAt strict found v || tiesAt found v) := by
  have hwithin (w : Value) : (w.orderKey.compareWithin? v.orderKey).any inclusive.accepts
      = ((w.orderKey.compareWithin? v.orderKey).any strict.accepts
        || w.orderKey.equals v.orderKey) := by
    rw [OrderKey.equals]
    cases w.orderKey.compareWithin? v.orderKey with
    | none => rfl
    | some o =>
      rw [Option.any_some, Option.any_some, h]
      cases o <;> rfl
  cases found with
  | none => rfl
  | some w =>
    simp only [comparesAt, tiesAt, Option.any_some, ← Value.reaches_or, hwithin]

theorem comparesAt_greaterOrEqual :
    comparesAt .greaterOrEqual found v = (comparesAt .greater found v || tiesAt found v) :=
  comparesAt_inclusive fun o => by cases o <;> rfl

theorem comparesAt_lessOrEqual :
    comparesAt .lessOrEqual found v = (comparesAt .less found v || tiesAt found v) :=
  comparesAt_inclusive fun o => by cases o <;> rfl

/-- **Equality is a tie**, but for null, which also asks for a value that is missing. -/
theorem equalsAt_eq_tiesAt (h : ¬ (v = .null ∧ found = none)) : equalsAt found v = tiesAt found v := by
  rw [equalsAt, tiesAt]
  cases hnull : v.isNull with
  | false => simp
  | true =>
    obtain rfl : v = .null := by cases v <;> first | rfl | cases hnull
    cases found with
    | none => exact absurd ⟨rfl, rfl⟩ h
    | some w => cases w <;> simp [Value.isNull, Value.reaches, Value.orderKey, OrderKey.equals,
        OrderKey.compareWithin?, OrderKey.compare, OrderKey.rank]

end Comparisons

/-! ## Selectors with one operator -/

namespace Document

/-- A document says of a selector with one operator what the operator's test says. -/
theorem meets_operator {d : Document} {path op : String} {v : Value} {b : Bool}
    (hpath : isOperator path = false) (hop : isOperator op = true) (hnot : op ≠ "$not")
    (h : (Test.ofSimple [(op, v)] op v).holds (d.lookup? path) = .ok b) :
    d.meets [(path, .document [(op, v)])] = .ok b := by
  refine meets_singleton ?_
  rw [meetsEntry_of_not_operator hpath]
  exact Keyset.holds_operator hop hnot h

/-- **Inclusive comparisons are strict ones or equality**, for every document, path and operand.
Where nothing is found and the operand is null, equality holds and no comparison does. -/
theorem meets_inclusive {path : String} (hpath : isOperator path = false) (d : Document)
    (v : Value) : ∃ greater less equal,
      d.meets [(path, .document [("$gt", v)])] = .ok greater ∧
      d.meets [(path, .document [("$lt", v)])] = .ok less ∧
      d.meets [(path, .document [("$eq", v)])] = .ok equal ∧
      (¬ (v = .null ∧ d.lookup? path = none) →
        d.meets [(path, .document [("$gte", v)])] = .ok (greater || equal) ∧
        d.meets [(path, .document [("$lte", v)])] = .ok (less || equal)) ∧
      (v = .null ∧ d.lookup? path = none →
        equal = true ∧ greater = false ∧ less = false ∧
        d.meets [(path, .document [("$gte", v)])] = .ok false ∧
        d.meets [(path, .document [("$lte", v)])] = .ok false) := by
  have hgt : d.meets [(path, .document [("$gt", v)])]
      = .ok (comparesAt .greater (d.lookup? path) v) :=
    meets_operator hpath (by decide) (by decide) rfl
  have hlt : d.meets [(path, .document [("$lt", v)])]
      = .ok (comparesAt .less (d.lookup? path) v) :=
    meets_operator hpath (by decide) (by decide) rfl
  have heq : d.meets [(path, .document [("$eq", v)])] = .ok (equalsAt (d.lookup? path) v) :=
    meets_operator hpath (by decide) (by decide) rfl
  have hgte : d.meets [(path, .document [("$gte", v)])]
      = .ok (comparesAt .greaterOrEqual (d.lookup? path) v) :=
    meets_operator hpath (by decide) (by decide) rfl
  have hlte : d.meets [(path, .document [("$lte", v)])]
      = .ok (comparesAt .lessOrEqual (d.lookup? path) v) :=
    meets_operator hpath (by decide) (by decide) rfl
  refine ⟨_, _, _, hgt, hlt, heq, fun hfound => ?_, ?_⟩
  · rw [hgte, hlte, comparesAt_greaterOrEqual, comparesAt_lessOrEqual, equalsAt_eq_tiesAt hfound]
    exact ⟨rfl, rfl⟩
  · rintro ⟨rfl, hnone⟩
    rw [hgte, hlte, hnone]
    exact ⟨rfl, rfl, rfl, rfl, rfl⟩

end Document

namespace Shelf

/-- A lot whose bids nest an array, and one without a bid. -/
def auction : Document :=
  [("lots", .array [.document [("bids", .array [.int32 5, .array [.int32 7], .string "x"])],
    .document [("name", .string "pro")]])]

/-- Through an array, the bids of the first lot compare with a number and with an array. -/
theorem meets_inclusive_bids :
    auction.meets [("lots.0.bids", .document [("$gte", .double (.ofInt 5))])] = .ok true ∧
    auction.meets [("lots.0.bids", .document [("$lte", .array [.int32 6])])] = .ok true := by
  have hpath : isOperator "lots.0.bids" = false := by decide
  obtain ⟨greater, less, equal, -, -, hequal, hinclusive, -⟩ :=
    Document.meets_inclusive hpath auction (.double (.ofInt 5))
  obtain ⟨greater', less', equal', -, hless', -, hinclusive', -⟩ :=
    Document.meets_inclusive hpath auction (.array [.int32 6])
  obtain rfl : equal = true := Except.ok.inj (hequal.symm.trans rfl)
  obtain rfl : less' = true := Except.ok.inj (hless'.symm.trans rfl)
  exact ⟨by rw [(hinclusive (by simp)).1, Bool.or_true], (hinclusive' (by simp)).2⟩

/-- **Where a value is missing, equality with null holds and the inclusive comparison does not.** -/
theorem null_misses :
    auction.meets [("lots.1.bids", .document [("$eq", .null)])] = .ok true ∧
    auction.meets [("lots.1.bids", .document [("$gt", .null)])] = .ok false ∧
    auction.meets [("lots.1.bids", .document [("$gte", .null)])] = .ok false :=
  ⟨rfl, rfl, rfl⟩

end Shelf

end KeysetStore
