import KeysetStore.Proofs.KeysetPredicate
import KeysetStore.Proofs.FreeTextSearch

/-!
# Proofs/WellFormedSelector — well-formed selectors can be evaluated on every document

Whether a selector can be read is a matter of its grammar, in two layers: logical operators over
selectors (`Selector.ClauseWellFormed`), and operators over the values at a path
(`Condition.OperatorWellFormed`), where a pattern reads the options that stand beside it.
Evaluation follows the grammar, so a well-formed selector has an outcome on every document
(`Selector.exists_meets`), whatever the document holds at the paths.

What the library itself puts into a selector is well-formed: the keyset of a reference
(`Keyset.wellFormed_after`) and the clause of a search (`Selector.wellFormed_searchClause`).
-/

namespace KeysetStore

/-! ## The grammar -/

/-- A pattern that can be made under its options. -/
def Pattern.Compiles (text options : String) : Prop := ∃ p, Pattern.ofText text options = .ok p

/-- The options that stand beside the pattern of a condition: none, or a text. -/
def Condition.patternOptions? (operators : Document) : Option String :=
  match Fields.get? operators "$options" with
  | none => some ""
  | some (.string options) => some options
  | some _ => none

/-- **An operator is well-formed** among the operators it stands with. -/
inductive Condition.OperatorWellFormed : Document → String → Value → Prop
  | comparison {operators : Document} {op : String} (v : Value)
      (hop : op ∈ ["$eq", "$ne", "$gt", "$gte", "$lt", "$lte", "$exists"]) :
      OperatorWellFormed operators op v
  | members {operators : Document} {op : String} (vs : List Value) (hop : op ∈ ["$in", "$nin"]) :
      OperatorWellFormed operators op (.array vs)
  | text {operators : Document} {text options : String}
      (hoptions : patternOptions? operators = some options) (h : Pattern.Compiles text options) :
      OperatorWellFormed operators "$regex" (.string text)
  | pattern {operators : Document} {text own options : String}
      (hoptions : patternOptions? operators = some options)
      (h : Pattern.Compiles text (own ++ options)) :
      OperatorWellFormed operators "$regex" (.regex text own)
  | options {operators : Document} (v : Value) : OperatorWellFormed operators "$options" v
  | notPattern {operators : Document} {text options : String} (h : Pattern.Compiles text options) :
      OperatorWellFormed operators "$not" (.regex text options)
  | notOperators {operators inner : Document}
      (h : ∀ entry ∈ inner, OperatorWellFormed inner entry.1 entry.2) :
      OperatorWellFormed operators "$not" (.document inner)

/-- Whether a condition is a value to be equal to: no pattern and no list of operators. -/
def Condition.isLiteral : Value → Bool
  | .regex _ _ => false
  | .document d => !Document.listsOperators d
  | _ => true

/-- **A condition is well-formed**: a pattern, a list of operators, or a literal. -/
inductive Condition.WellFormed : Value → Prop
  | pattern {text options : String} (h : Pattern.Compiles text options) :
      WellFormed (.regex text options)
  | operators {operators : Document} (hlist : Document.listsOperators operators)
      (h : ∀ entry ∈ operators, OperatorWellFormed operators entry.1 entry.2) :
      WellFormed (.document operators)
  | literal {v : Value} (h : isLiteral v) : WellFormed v

/-- **A clause is well-formed**: a logical operator over well-formed selectors, or a condition on a
path. -/
inductive Selector.ClauseWellFormed : String → Value → Prop
  | logical (kind : Logic) {selectors : List Document} (hne : selectors ≠ [])
      (h : ∀ s ∈ selectors, ∀ entry ∈ s, ClauseWellFormed entry.1 entry.2) :
      ClauseWellFormed kind.name (.array (selectors.map .document))
  | field {name : String} {v : Value} (hname : isOperator name = false)
      (h : Condition.WellFormed v) : ClauseWellFormed name v

/-- **A selector is well-formed** when all its clauses are. -/
def Selector.WellFormed (selector : Document) : Prop :=
  ∀ entry ∈ selector, ClauseWellFormed entry.1 entry.2

/-! ## Conditions -/

section Conditions

variable {found : Option Value} {operators : Document} {op : String} {v : Value}

namespace Test

theorem exists_allHold {tests : List Test} (h : ∀ t ∈ tests, ∃ b, holds found t = .ok b) :
    ∃ b, allHold found tests = .ok b := by
  induction tests with
  | nil => exact ⟨true, rfl⟩
  | cons t rest ih =>
    obtain ⟨b, hb⟩ := h t List.mem_cons_self
    rw [allHold, hb]
    cases b with
    | true => exact ih fun other hother => h other (List.mem_cons_of_mem _ hother)
    | false => exact ⟨false, rfl⟩

theorem ofOperators_eq_map (operators : Document) (entries : List (String × Value)) :
    ofOperators operators entries
      = entries.map fun entry => ofOperator operators entry.1 entry.2 := by
  induction entries with
  | nil => rfl
  | cons entry rest ih => rw [ofOperators, ih, List.map_cons]

theorem exists_allHold_ofOperators
    (h : ∀ entry ∈ operators, ∃ b, holds found (ofOperator operators entry.1 entry.2) = .ok b) :
    ∃ b, allHold found (ofOperators operators operators) = .ok b := by
  refine exists_allHold fun t ht => ?_
  rw [ofOperators_eq_map] at ht
  obtain ⟨entry, hentry, rfl⟩ := List.mem_map.1 ht
  exact h entry hentry

theorem exists_holds_ofPattern {text options : String} (h : Pattern.Compiles text options) :
    ∃ b, holds found (ofPattern text options) = .ok b := by
  obtain ⟨p, hp⟩ := h
  exact ⟨isMatchAt p found, by rw [ofPattern, hp]; rfl⟩

/-- The test of a pattern among operators is that of its text, under the options it has. -/
theorem ofRegex_eq {options : String}
    (hoptions : Condition.patternOptions? operators = some options) (operand : Value) :
    ofRegex operators operand = match operand with
      | .string text => ofPattern text options
      | .regex text own => ofPattern text (own ++ options)
      | v => invalid (.patternOperand v) := by
  rw [Condition.patternOptions?] at hoptions
  rw [ofRegex]
  cases hget : Fields.get? operators "$options" with
  | none =>
    rw [hget] at hoptions
    obtain rfl := Option.some.inj hoptions
    rfl
  | some beside =>
    rw [hget] at hoptions
    cases beside
    case string own =>
      obtain rfl := Option.some.inj hoptions
      rfl
    all_goals cases hoptions

/-- A negation has an outcome where what it negates has one. -/
theorem exists_holds_not {tests : List Test} (h : ∃ b, allHold found tests = .ok b) :
    ∃ b, holds found (not tests) = .ok b := by
  obtain ⟨b, hb⟩ := h
  exact ⟨!b, by rw [holds, hb]; rfl⟩

end Test

namespace Condition

/-- **A well-formed operator has an outcome.**  The induction is over the negations. -/
theorem OperatorWellFormed.exists_holds (h : OperatorWellFormed operators op v) :
    ∃ b, Test.holds found (Test.ofOperator operators op v) = .ok b := by
  induction h with
  | comparison v hop =>
    simp only [List.mem_cons, List.not_mem_nil, or_false] at hop
    rcases hop with rfl | rfl | rfl | rfl | rfl | rfl | rfl <;>
      exact ⟨_, by rw [Test.ofOperator_of_ne (by decide)]; rfl⟩
  | members vs hop =>
    simp only [List.mem_cons, List.not_mem_nil, or_false] at hop
    rcases hop with rfl | rfl <;> exact ⟨_, rfl⟩
  | text hoptions h =>
    rw [Test.ofOperator_of_ne (by decide), Test.ofSimple, Test.ofRegex_eq hoptions]
    exact Test.exists_holds_ofPattern h
  | pattern hoptions h =>
    rw [Test.ofOperator_of_ne (by decide), Test.ofSimple, Test.ofRegex_eq hoptions]
    exact Test.exists_holds_ofPattern h
  | options v => exact ⟨true, by rw [Test.ofOperator_of_ne (by decide)]; rfl⟩
  | notPattern h =>
    exact Test.exists_holds_not (Test.exists_allHold (by simpa using Test.exists_holds_ofPattern h))
  | notOperators h ih =>
    rw [Test.ofOperator, if_pos rfl]
    exact Test.exists_holds_not (Test.exists_allHold_ofOperators ih)

/-- **A well-formed condition has an outcome**, whatever is found. -/
theorem WellFormed.exists_holds (h : WellFormed v) (found : Option Value) :
    ∃ b, Condition.holds v found = .ok b := by
  cases h with
  | pattern h =>
    rw [Condition.holds, Condition.read]
    exact Test.exists_allHold (by simpa using Test.exists_holds_ofPattern h)
  | operators hlist h =>
    rw [Condition.holds, Condition.read, if_pos hlist]
    exact Test.exists_allHold_ofOperators fun entry hentry => (h entry hentry).exists_holds
  | literal h =>
    have hread : Condition.read v = [.equal v] := by
      cases v
      case document d =>
        rw [isLiteral, Bool.not_eq_true'] at h
        rw [Condition.read, h]
        rfl
      case regex => cases h
      all_goals rfl
    rw [Condition.holds, hread]
    exact Test.exists_allHold (by simp [Test.holds])

end Condition

end Conditions

/-! ## Selectors -/

namespace Selector

variable {selector d : Document} {name : String} {v : Value}

theorem exists_everyHolds {selectors : List Selector}
    (h : ∀ s ∈ selectors, ∃ b, holds d s = .ok b) : ∃ b, everyHolds d selectors = .ok b := by
  induction selectors with
  | nil => exact ⟨true, rfl⟩
  | cons s rest ih =>
    obtain ⟨b, hb⟩ := h s List.mem_cons_self
    rw [everyHolds, hb]
    cases b with
    | true => exact ih fun other hother => h other (List.mem_cons_of_mem _ hother)
    | false => exact ⟨false, rfl⟩

theorem exists_someHolds {selectors : List Selector}
    (h : ∀ s ∈ selectors, ∃ b, holds d s = .ok b) : ∃ b, someHolds d selectors = .ok b := by
  induction selectors with
  | nil => exact ⟨false, rfl⟩
  | cons s rest ih =>
    obtain ⟨b, hb⟩ := h s List.mem_cons_self
    rw [someHolds, hb]
    cases b with
    | true => exact ⟨true, rfl⟩
    | false => exact ih fun other hother => h other (List.mem_cons_of_mem _ hother)

/-- A logical operator has an outcome where its operands have one. -/
theorem exists_clauseHolds_logical (kind : Logic) {selectors : List Selector}
    (h : ∀ s ∈ selectors, ∃ b, holds d s = .ok b) :
    ∃ b, clauseHolds d (.logical kind selectors) = .ok b := by
  cases kind with
  | and => exact exists_everyHolds h
  | or => exact exists_someHolds h
  | nor =>
    obtain ⟨b, hb⟩ := exists_someHolds h
    exact ⟨!b, by rw [clauseHolds, hb]; rfl⟩

/-- **A selector has an outcome where its entries have one.** -/
theorem exists_meets_of_entries
    (h : ∀ entry ∈ selector, ∃ b, d.meetsEntry entry.1 entry.2 = .ok b) : ∃ b, d.meets selector = .ok b := by
  induction selector with
  | nil => exact ⟨true, rfl⟩
  | cons entry rest ih =>
    obtain ⟨x, hx⟩ := h entry List.mem_cons_self
    obtain ⟨y, hy⟩ := ih fun other hother => h other (List.mem_cons_of_mem _ hother)
    exact ⟨x && y, Document.meets_cons_eq_ok_iff.2 ⟨x, y, hx, hy, rfl⟩⟩

/-- **A well-formed clause has an outcome on every document.**  The induction is over the logical
operators. -/
theorem ClauseWellFormed.exists_meetsEntry (h : ClauseWellFormed name v) :
    ∃ b, d.meetsEntry name v = .ok b := by
  induction h with
  | logical kind hne _ ih =>
    rw [Document.meetsEntry, clause_logical kind hne]
    refine exists_clauseHolds_logical kind fun s hs => ?_
    obtain ⟨selector, hselector, rfl⟩ := List.mem_map.1 hs
    exact exists_meets_of_entries (ih selector hselector)
  | field hname h =>
    rw [Document.meetsEntry_of_not_operator hname]
    exact h.exists_holds _

/-- **A well-formed selector has an outcome on every document.** -/
theorem WellFormed.exists_meets (h : WellFormed selector) (d : Document) :
    ∃ b, d.meets selector = .ok b :=
  exists_meets_of_entries fun entry hentry => (h entry hentry).exists_meetsEntry

end Selector

/-! ## The selectors of the library -/

namespace Condition.WellFormed

/-- A condition of one comparison is well-formed. -/
theorem comparison {op : String}
    (hop : op ∈ ["$eq", "$ne", "$gt", "$gte", "$lt", "$lte", "$exists"]) (v : Value) :
    WellFormed (.document [(op, v)]) := by
  have hlist : ∀ op ∈ ["$eq", "$ne", "$gt", "$gte", "$lt", "$lte", "$exists"],
      isOperator op = true := by decide
  refine .operators (hlist op hop) ?_
  rintro _ (_ | ⟨_, ⟨⟩⟩)
  exact .comparison v hop

/-- The condition of a search is well-formed, where its pattern can be made. -/
theorem search {term : String} (h : Pattern.Compiles (Pattern.escape term) "i") :
    WellFormed (searchCondition term) := by
  have hlist : Document.listsOperators [("$regex", .string (Pattern.escape term)),
      ("$options", .string "i")] = true := by
    rw [Document.listsOperators_cons]
    decide
  refine .operators hlist ?_
  rintro _ (_ | ⟨_, _ | ⟨_, ⟨⟩⟩⟩)
  · exact .text rfl h
  · exact .options _

end Condition.WellFormed

namespace Selector.WellFormed

variable {front back : Document} {name : String} {v : Value}

theorem nil : WellFormed [] := nofun

theorem singleton (h : ClauseWellFormed name v) : WellFormed [(name, v)] := by
  rintro _ (_ | ⟨_, ⟨⟩⟩)
  exact h

theorem append (hfront : WellFormed front) (hback : WellFormed back) :
    WellFormed (front ++ back) := fun entry hentry =>
  (List.mem_append.1 hentry).elim (hfront entry) (hback entry)

/-- A disjunction of well-formed selectors is one, unless there are none. -/
theorem or {selectors : List Document} (hne : selectors ≠ [])
    (h : ∀ s ∈ selectors, WellFormed s) :
    WellFormed [("$or", .array (selectors.map .document))] :=
  singleton (.logical .or hne h)

end Selector.WellFormed

namespace Keyset

open Selector (WellFormed)

variable {reference : Document} {keys : List SortKey} {ties : Document}

theorem wellFormed_tie (v : Value) : Condition.WellFormed (tie v) := .comparison (by simp) v

theorem wellFormed_beyond {direction : Direction} {v condition : Value}
    (h : beyond? direction v = some condition) : Condition.WellFormed condition := by
  unfold beyond? at h
  split at h <;> cases h <;> exact .comparison (by simp) _

theorem wellFormed_nullBelow {key : SortKey} {v condition : Value}
    (h : nullBelow? key v = some condition) : Condition.WellFormed condition := by
  unfold nullBelow? at h
  split at h <;> cases h
  exact .comparison (by simp) _

/-- **The clauses of a keyset are well-formed**, where the fields of the keys are paths.  The
induction is over the keys, under the ties of the keys before. -/
theorem wellFormed_clauses {last? : SortKey → Value → Option Value}
    (hlast : ∀ key v condition, last? key v = some condition → Condition.WellFormed condition)
    (hpath : ∀ key ∈ keys, isOperator key.field = false) (hties : WellFormed ties) :
    ∀ clause ∈ clauses reference last? ties keys, WellFormed clause := by
  induction keys generalizing ties with
  | nil => nofun
  | cons key rest ih =>
    have hkey := hpath key List.mem_cons_self
    have hrest := ih (fun other hother => hpath other (List.mem_cons_of_mem _ hother))
      (hties.append (.singleton (.field hkey
        (wellFormed_tie (referenceValue reference key.field)))))
    rw [clauses]
    cases hcondition : last? key (referenceValue reference key.field) with
    | none => exact hrest
    | some condition =>
      rintro clause (_ | ⟨_, hclause⟩)
      · exact hties.append (.singleton (.field hkey (hlast key _ _ hcondition)))
      · exact hrest clause hclause

/-- **The keyset of a reference is well-formed**, for an order whose fields are paths and that has
the primary key. -/
theorem wellFormed_after {order : SortOrder} {id : ObjectId}
    (hid : ∃ key ∈ order.keys, key.field = primaryKey)
    (hpath : ∀ key ∈ order.keys, isOperator key.field = false)
    (hreference : reference.key? = some id) : WellFormed (after order reference) := by
  refine .or (List.append_ne_nil_of_left_ne_nil (strict_ne_nil hid hreference) _) fun s hs => ?_
  rcases List.mem_append.1 hs with hs | hs
  · exact wellFormed_clauses (fun _ _ _ => wellFormed_beyond) hpath .nil s hs
  · exact wellFormed_clauses (fun _ _ _ => wellFormed_nullBelow) hpath .nil s hs

end Keyset

namespace Selector

variable {searchable : List String} {term : String}

/-- **The clause of a search is well-formed**, where its fields are paths and its pattern can be
made. -/
theorem wellFormed_searchClause (hsearchable : searchable ≠ [])
    (hpaths : ∀ field ∈ searchable, isOperator field = false)
    (h : Pattern.Compiles (Pattern.escape term) "i") :
    WellFormed (searchClause searchable term) := by
  rw [searchClause_eq]
  refine .or (by simpa using hsearchable) fun s hs => ?_
  obtain ⟨field, hfield, rfl⟩ := List.mem_map.1 hs
  exact .singleton (.field (hpaths field hfield) (.search h))

/-- **Well-formed selectors never fail.**  Each has an outcome on every document.  The keyset of a
reference with a primary key is well-formed under every compiled order whose fields are paths, and
so is the clause of a search whose pattern can be made. -/
theorem wellFormed_never_fails :
    (∀ selector, WellFormed selector → ∀ d : Document, ∃ b, d.meets selector = .ok b) ∧
    (∀ spec idField reference id,
      (∀ key ∈ (SortOrder.compile spec idField).keys, isOperator key.field = false) →
      reference.key? = some id →
      WellFormed (Keyset.after (SortOrder.compile spec idField) reference) ∧
      ∀ d : Document, ∃ b,
        d.meets (Keyset.after (SortOrder.compile spec idField) reference) = .ok b) ∧
    ∀ searchable term, searchable ≠ [] → (∀ field ∈ searchable, isOperator field = false) →
      Pattern.Compiles (Pattern.escape term) "i" →
      WellFormed (searchClause searchable term) ∧
      ∀ d : Document, ∃ b, d.meets (searchClause searchable term) = .ok b := by
  refine ⟨fun _ h => h.exists_meets, fun spec idField reference id hpath hreference => ?_,
    fun searchable term hsearchable hpaths h => ?_⟩
  · obtain ⟨others, direction, hkeys, -⟩ := SortOrder.exists_compile_eq spec idField
    have hid : ∃ key ∈ (SortOrder.compile spec idField).keys, key.field = primaryKey :=
      ⟨⟨primaryKey, direction⟩, by simp [hkeys], rfl⟩
    have hafter := Keyset.wellFormed_after hid hpath hreference
    exact ⟨hafter, hafter.exists_meets⟩
  · have hclause := wellFormed_searchClause hsearchable hpaths h
    exact ⟨hclause, hclause.exists_meets⟩

/-- A selector of three layers, with a search and a negated list of operators, and the keyset of a
document without a price: both have an outcome on every document. -/
theorem wellFormed_never_fails_nested :
    let price : Value := .document [("$not", .document [("$in", .array [.int32 5, .null])])]
    let selector : Document :=
      [("$nor", .array [.document (searchClause ["name"] "C++"), .document [("price", price)]])]
    let reference : Document := [("_id", .objectId (.ofNat 1))]
    ∀ d : Document, (∃ b, d.meets selector = .ok b) ∧
      ∃ b, d.meets (Keyset.after (SortOrder.compile [.descending "price"] "id") reference)
        = .ok b := by
  intro price selector reference d
  obtain ⟨p, hp, -⟩ := Pattern.isMatch_escape ofText_escape_ne_size
  obtain ⟨hselectors, hkeysets, hsearches⟩ := wellFormed_never_fails
  refine ⟨hselectors selector ?_ d, (hkeysets [.descending "price"] "id" reference (.ofNat 1)
    (by decide) rfl).2 d⟩
  have hname : WellFormed (searchClause ["name"] "C++") :=
    (hsearches ["name"] "C++" (by simp) (by decide) ⟨p, hp⟩).1
  have hprice : Condition.WellFormed price := by
    refine .operators (by decide) ?_
    rintro _ (_ | ⟨_, ⟨⟩⟩)
    refine .notOperators ?_
    rintro _ (_ | ⟨_, ⟨⟩⟩)
    exact .members _ (by simp)
  have hoperands : ∀ s ∈ [searchClause ["name"] "C++", [("price", price)]], WellFormed s := by
    rintro _ (_ | ⟨_, _ | ⟨_, ⟨⟩⟩⟩)
    · exact hname
    · exact .singleton (.field (by decide) hprice)
  exact .singleton (.logical .nor (List.cons_ne_nil _ _) hoperands)

end Selector

end KeysetStore
