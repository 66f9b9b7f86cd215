import KeysetStore.Proofs.KeysetPredicate

/-!
# Proofs/KeysetSoundness — what a keyset lets through comes after

Where values of all kinds stand side by side, a keyset need not reach everything that comes after its
reference: range operators do not cross kinds, and some kinds have no order.  What it lets through
comes after the reference all the same, since each of its conditions holds only where the order says
so (`Keyset.tie_sound`, `Keyset.beyond_sound`, `Keyset.nullBelow_sound`).

One value is an exception.  A descending key asks for the nulls below a reference that is not null;
the undefined value is not null, but ties with null, so a reference that holds it would be let through
itself.  A key is placeable only where the reference does not (`Keyset.Placeable`).
-/

namespace KeysetStore

namespace OrderKey

variable {a b : OrderKey} {o : Ordering}

/-- Values that compare within a kind compare so in the order. -/
theorem compare_of_compareWithin? (h : a.compareWithin? b = some o) : a.compare b = o := by
  rw [compareWithin?] at h
  split at h
  · exact Option.some.inj h
  · cases h

/-- Values that tie are of one kind. -/
theorem rank_eq_of_compare (h : a.compare b = .eq) : a.rank = b.rank := by
  refine Decidable.byContradiction fun hne => ?_
  rw [compare_of_rank_ne hne] at h
  exact hne (Nat.compare_eq_eq.1 h)

/-- What is of a kind behind null comes after it. -/
theorem compare_null_of_rank_pos (h : 0 < a.rank) : a.compare null = .gt := by
  rw [compare_swap, compare_eq_lt_of_rank_lt (show null.rank < a.rank from h)]
  rfl

end OrderKey

/-- Only null and the undefined value are of the first kind. -/
theorem Value.rank_orderKey_pos {v : Value} (hnull : v.isNull = false) (hv : v ≠ .undefined) :
    0 < v.orderKey.rank := by
  cases v
  case null => cases hnull
  case undefined => exact absurd rfl hv
  all_goals exact Nat.zero_lt_succ _

/-! ## Operators on values of any kinds -/

section Operators

variable {found : Option Value} {v : Value}

/-- What is no array is reached alone. -/
theorem any_reaches (h : ∀ items, found ≠ some (.array items)) (p : Value → Bool) :
    found.any (Value.reaches p) = found.any p := by
  cases found with
  | none => rfl
  | some w =>
    cases w
    case array items => exact absurd rfl (h items)
    all_goals simp [Value.reaches]

/-- **Equal values tie.** -/
theorem compare_of_equalsAt (hfound : ∀ items, found ≠ some (.array items))
    (h : equalsAt found v = true) : (found.getD .null).orderKey.compare v.orderKey = .eq := by
  rw [equalsAt, any_reaches hfound, Bool.or_eq_true, Bool.and_eq_true] at h
  rcases h with h | ⟨hv, hw⟩
  · obtain ⟨w, rfl, hw⟩ := Option.any_eq_true .. |>.1 h
    exact OrderKey.compare_of_compareWithin? (of_decide_eq_true hw)
  · cases v <;> cases hv
    cases hget : found.getD .null <;> rw [hget] at hw <;> cases hw
    rfl

/-- **Values that a comparison accepts compare so.** -/
theorem accepts_of_comparesAt (hfound : ∀ items, found ≠ some (.array items))
    {comparison : Comparison} (h : comparesAt comparison found v = true) :
    comparison.accepts ((found.getD .null).orderKey.compare v.orderKey) = true := by
  rw [comparesAt, any_reaches hfound] at h
  obtain ⟨w, rfl, hw⟩ := Option.any_eq_true .. |>.1 h
  obtain ⟨o, ho, haccepts⟩ := Option.any_eq_true .. |>.1 hw
  rw [Option.getD_some, OrderKey.compare_of_compareWithin? ho]
  exact haccepts

/-- What is not equal to null is of a kind behind it. -/
theorem rank_pos_of_not_equalsAt (h : equalsAt found .null = false) :
    0 < (found.getD .null).orderKey.rank := by
  cases found with
  | none => cases h
  | some w =>
    refine Value.rank_orderKey_pos ?_ ?_
    · cases w <;> first | rfl | cases h
    · rintro rfl
      cases h

end Operators

/-! ## The conditions of a key -/

namespace Keyset

/-- **A key under which a keyset is sound**: its field is a path, the document has no array there,
and, going down, the value of the reference there is not the undefined one. -/
structure Placeable (reference d : Document) (key : SortKey) : Prop where
  path : isOperator key.field = false
  plain : ∀ items, d.lookup? key.field ≠ some (.array items)
  defined : key.direction = .descending → referenceValue reference key.field ≠ .undefined

variable {reference d : Document} {key : SortKey}

theorem compareAt_eq (key : SortKey) (d reference : Document) : compareAt key d reference
    = key.direction.apply (((d.lookup? key.field).getD .null).orderKey.compare
        (referenceValue reference key.field).orderKey) := by
  rw [compareAt, orderKeyAt_eq, orderKeyAt_eq, referenceValue.eq_1 d]

/-- A tie of a keyset is one of the order. -/
theorem tie_sound (h : Placeable reference d key) :
    ∃ b, Condition.holds (tie (referenceValue reference key.field)) (d.lookup? key.field) = .ok b ∧
      (b = true → compareAt key d reference = .eq) := by
  refine ⟨equalsAt (d.lookup? key.field) (referenceValue reference key.field),
    holds_operator (by decide) (by decide) rfl, fun hb => ?_⟩
  rw [compareAt_eq, compare_of_equalsAt h.plain hb]
  cases key.direction <;> rfl

/-- What goes beyond the reference in a keyset does so in the order. -/
theorem beyond_sound (h : Placeable reference d key) :
    ∃ b, lastHolds (d.lookup? key.field)
        (beyond? key.direction (referenceValue reference key.field)) = .ok b ∧
      (b = true → compareAt key d reference = .gt) := by
  rw [compareAt_eq]
  generalize referenceValue reference key.field = v
  cases hnull : v.isNull <;> cases key.direction <;> simp only [beyond?, hnull, lastHolds]
  case false.ascending =>
    refine ⟨comparesAt .greater (d.lookup? key.field) v,
      holds_operator (by decide) (by decide) rfl, fun hb => ?_⟩
    have haccepts := accepts_of_comparesAt h.plain hb
    exact Ordering.isGT_iff_eq_gt.1 haccepts
  case false.descending =>
    refine ⟨comparesAt .less (d.lookup? key.field) v,
      holds_operator (by decide) (by decide) rfl, fun hb => ?_⟩
    have haccepts := accepts_of_comparesAt h.plain hb
    rw [Direction.apply, Ordering.isLT_iff_eq_lt.1 haccepts]
    rfl
  case true.ascending =>
    refine ⟨!equalsAt (d.lookup? key.field) .null,
      holds_operator (by decide) (by decide) rfl, fun hb => ?_⟩
    cases v <;> cases hnull
    exact OrderKey.compare_null_of_rank_pos (rank_pos_of_not_equalsAt (by simpa using hb))
  case true.descending => exact ⟨false, rfl, by simp⟩

/-- What a keyset takes for a null below the reference is below it in the order. -/
theorem nullBelow_sound (h : Placeable reference d key) :
    ∃ b, lastHolds (d.lookup? key.field) (nullBelow? key (referenceValue reference key.field))
        = .ok b ∧ (b = true → compareAt key d reference = .gt) := by
  rw [nullBelow?]
  split
  · next hbelow =>
    obtain ⟨hdirection, hnull, -⟩ := hbelow
    refine ⟨equalsAt (d.lookup? key.field) .null,
      holds_operator (by decide) (by decide) rfl, fun hb => ?_⟩
    have htie := OrderKey.rank_eq_of_compare (compare_of_equalsAt h.plain hb)
    have hrank := Value.rank_orderKey_pos (by simpa using hnull) (h.defined hdirection)
    rw [compareAt_eq, hdirection, OrderKey.compare_eq_lt_of_rank_lt (htie ▸ hrank)]
    rfl
  · exact ⟨false, rfl, by simp⟩

/-! ## The clauses of a keyset -/

/-- **Clauses can be evaluated, and one that holds puts the document after the reference.**  The
induction is over the keys, under the ties of the keys before. -/
theorem exists_count_clauses {last? : SortKey → Value → Option Value} {keys : List SortKey}
    (h : ∀ key ∈ keys, Placeable reference d key)
    (hlast : ∀ key ∈ keys, ∃ b, lastHolds (d.lookup? key.field)
        (last? key (referenceValue reference key.field)) = .ok b ∧
      (b = true → compareAt key d reference = .gt))
    {ties : Document} {t : Bool} (ht : d.meets ties = .ok t) :
    ∃ n, MeetsCount d (clauses reference last? ties keys) n ∧
      (0 < n → t = true ∧ compareBy keys d reference = .gt) := by
  induction keys generalizing ties t with
  | nil => exact ⟨0, .nil d, fun hpos => absurd hpos (Nat.lt_irrefl 0)⟩
  | cons key rest ih =>
    have hkey := h key List.mem_cons_self
    obtain ⟨e, he, htie⟩ := tie_sound hkey
    obtain ⟨p, hp, hbeyond⟩ := hlast key List.mem_cons_self
    have hties : d.meets (ties ++ [(key.field, tie (referenceValue reference key.field))])
        = .ok (t && e) := by
      rw [Document.meets_append_eq_ok_iff]
      refine ⟨t, e, ht, Document.meets_singleton ?_, rfl⟩
      rw [Document.meetsEntry_of_not_operator hkey.path]
      exact he
    obtain ⟨n, hn, hrest⟩ := ih (fun k hk => h k (List.mem_cons_of_mem _ hk))
      (fun k hk => hlast k (List.mem_cons_of_mem _ hk)) hties
    refine ⟨_, count_clauses_cons hkey.path ht hp hn, fun hpos => ?_⟩
    have hcompare : compareBy (key :: rest) d reference
        = (compareAt key d reference).then (compareBy rest d reference) := rfl
    rw [hcompare]
    rcases Nat.eq_zero_or_pos n with rfl | hn
    · -- The clause of the key itself holds.
      have hown : (t && p) = true := by
        cases htp : t && p
        · rw [htp] at hpos
          cases hpos
        · rfl
      obtain ⟨rfl, rfl⟩ := Bool.and_eq_true_iff.1 hown
      exact ⟨rfl, by rw [hbeyond rfl]; rfl⟩
    · -- A clause of a later key holds, so this key ties.
      obtain ⟨htied, hgt⟩ := hrest hn
      obtain ⟨rfl, rfl⟩ := Bool.and_eq_true_iff.1 htied
      exact ⟨rfl, by rw [htie rfl, hgt]; rfl⟩

/-- **A keyset can be evaluated, and what it lets through comes after the reference.** -/
theorem exists_meets_after {order : SortOrder} {id : ObjectId}
    (hid : ∃ key ∈ order.keys, key.field = primaryKey) (hreference : reference.key? = some id)
    (h : ∀ key ∈ order.keys, Placeable reference d key) :
    ∃ b, d.meets (after order reference) = .ok b ∧
      (b = true → Document.isAfter order.keys reference d = true) := by
  obtain ⟨m, hm, hgt⟩ := exists_count_clauses h (fun key hkey => beyond_sound (h key hkey))
    (show d.meets [] = .ok true from rfl)
  obtain ⟨n, hn, hgt'⟩ := exists_count_clauses h (fun key hkey => nullBelow_sound (h key hkey))
    (show d.meets [] = .ok true from rfl)
  refine ⟨_, meets_or (List.append_ne_nil_of_left_ne_nil (strict_ne_nil hid hreference) _)
    (hm.append hn), fun hpos => ?_⟩
  rw [Document.isAfter, decide_eq_true_eq]
  rcases Nat.eq_zero_or_pos m with rfl | hm
  · exact (hgt' (by simpa using hpos)).2
  · exact (hgt hm).2

end Keyset

end KeysetStore
