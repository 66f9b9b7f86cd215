import KeysetStore.Proofs.WellFormedSelector

/-!
# Proofs/ReorderedSelector — a selector means the same in any order

Nothing is promised about the order in which a selector names its clauses, and evaluation looks at
it in three places: operands and operators are evaluated only as far as the outcome needs, the first
name of a document tells operators from a literal, and a pattern reads the options that stand beside
it.  None of them shows where every part of the selector, however deep, has an outcome
(`Selector.Settles`): reordered at any depth (`Selector.Reordered`), such a selector has the same
outcome (`Selector.Reordered.preserves`).

Evaluation never stops between the clauses of the selector itself, so the order of these does not
even matter to whether there is an outcome (`Document.meets_iff_of_perm`).
-/

namespace KeysetStore

/-! ## Parts that have an outcome -/

/-- **An operator settles** on what is found: among the operators it stands with it has an outcome,
and so have the operators that it negates. -/
inductive Condition.OperatorSettles (found : Option Value) : Document → String → Value → Prop
  | intro {operators : Document} {op : String} {v : Value}
      (outcome : ∃ b, Test.holds found (Test.ofOperator operators op v) = .ok b)
      (negated : op = "$not" → ∀ inner, v = .document inner →
        ∀ entry ∈ inner, OperatorSettles found inner entry.1 entry.2) :
      OperatorSettles found operators op v

/-- Operators settle where each of them does. -/
def Condition.Settles (found : Option Value) (operators : Document) : Prop :=
  ∀ entry ∈ operators, OperatorSettles found operators entry.1 entry.2

/-- **A clause settles** on a document: it has an outcome, and so have the clauses of the selectors it
is made of, and the operators of its condition. -/
inductive Selector.ClauseSettles (d : Document) : String → Value → Prop
  | intro {name : String} {v : Value} (outcome : ∃ b, d.meetsEntry name v = .ok b)
      (operands : isOperator name = true → ∀ items, v = .array items →
        ∀ s, .document s ∈ items → ∀ entry ∈ s, ClauseSettles d entry.1 entry.2)
      (operators : isOperator name = false → ∀ operators, v = .document operators →
        Document.listsOperators operators = true → Condition.Settles (d.lookup? name) operators) :
      ClauseSettles d name v

/-- **A selector settles** on a document where all its clauses do, at every depth. -/
def Selector.Settles (d selector : Document) : Prop :=
  ∀ entry ∈ selector, ClauseSettles d entry.1 entry.2

/-! ## Reordering -/

/-- **Operators in another order**, at any depth of negations.  A document gives each name once. -/
inductive Condition.Reordered : Document → Document → Prop
  | perm {operators others : Document} (hdistinct : Fields.Distinct operators)
      (h : operators.Perm others) : Reordered operators others
  | negated (front back : Document) {inner others : Document} (h : Reordered inner others) :
      Reordered (front ++ ("$not", .document inner) :: back)
        (front ++ ("$not", .document others) :: back)
  | trans {first second third : Document} (h : Reordered first second)
      (h' : Reordered second third) : Reordered first third

/-- **A selector in another order**: of its clauses, of the operands of a logical operator, or of the
operators of a condition, at any depth.  A literal stays as it is. -/
inductive Selector.Reordered : Document → Document → Prop
  | perm {s t : Document} (h : s.Perm t) : Reordered s t
  | operands (kind : Logic) (front back : Document) {items others : List Value}
      (h : items.Perm others) :
      Reordered (front ++ (kind.name, .array items) :: back)
        (front ++ (kind.name, .array others) :: back)
  | operand (kind : Logic) (front back : Document) (before after : List Value) {s t : Document}
      (h : Reordered s t) :
      Reordered (front ++ (kind.name, .array (before ++ .document s :: after)) :: back)
        (front ++ (kind.name, .array (before ++ .document t :: after)) :: back)
  | condition (front back : Document) {name : String} {operators others : Document}
      (hname : isOperator name = false) (hlist : Document.listsOperators operators = true)
      (h : Condition.Reordered operators others) :
      Reordered (front ++ (name, .document operators) :: back)
        (front ++ (name, .document others) :: back)
  | trans {first second third : Document} (h : Reordered first second)
      (h' : Reordered second third) : Reordered first third

/-! ## Operators -/

namespace Test

variable {found : Option Value}

/-- Whether a test holds; where it has no outcome, it does not. -/
def passes (found : Option Value) (t : Test) : Bool :=
  match holds found t with
  | .ok b => b
  | .error _ => false

theorem holds_eq_passes {t : Test} (h : ∃ b, holds found t = .ok b) :
    holds found t = .ok (t.passes found) := by
  obtain ⟨b, hb⟩ := h
  rw [passes, hb]

/-- Tests that all have an outcome hold together where each of them does. -/
theorem allHold_eq_all {α : Type} {read : α → Test} {p : α → Bool} {items : List α}
    (h : ∀ item ∈ items, holds found (read item) = .ok (p item)) :
    allHold found (items.map read) = .ok (items.all p) := by
  induction items with
  | nil => rfl
  | cons item rest ih =>
    rw [List.map_cons, allHold, h item List.mem_cons_self, List.all_cons,
      ih fun other hother => h other (List.mem_cons_of_mem _ hother)]
    cases p item <;> rfl

/-- **An operator looks at the options beside it** and at nothing else it stands with. -/
theorem ofOperator_congr {operators others : Document}
    (h : Fields.get? others "$options" = Fields.get? operators "$options") (op : String)
    (v : Value) : ofOperator others op v = ofOperator operators op v := by
  have hsimple (v : Value) : ofSimple others op v = ofSimple operators op v := by
    unfold ofSimple
    split <;> first | rfl | simp only [ofRegex, h]
  cases v
  case document inner => rw [ofOperator, ofOperator, hsimple]
  all_goals exact hsimple _

/-- Only operators have an outcome. -/
theorem isOperator_of_holds {operators : Document} {op : String} {v : Value} {b : Bool}
    (h : holds found (ofOperator operators op v) = .ok b) : isOperator op = true := by
  cases hop : isOperator op with
  | true => rfl
  | false =>
    -- Every name that is read as an operator begins with a dollar sign, and any other is an error.
    exfalso
    rw [ofOperator_of_ne (by rintro rfl; cases hop)] at h
    unfold ofSimple at h
    split at h <;> first | cases hop | cases h

end Test

namespace Condition

variable {found : Option Value} {operators others : Document} {op : String} {v : Value}

theorem OperatorSettles.outcome (h : OperatorSettles found operators op v) :
    ∃ b, Test.holds found (Test.ofOperator operators op v) = .ok b := by
  cases h with
  | intro outcome _ => exact outcome

theorem OperatorSettles.negated {inner : Document}
    (h : OperatorSettles found operators "$not" (.document inner)) : Settles found inner := by
  cases h with
  | intro _ negated => exact negated rfl inner rfl

/-- An operator settles among others with the same options as well. -/
theorem OperatorSettles.congr (h : OperatorSettles found operators op v)
    (hoptions : Fields.get? others "$options" = Fields.get? operators "$options") :
    OperatorSettles found others op v := by
  cases h with
  | intro outcome negated => exact .intro (by rwa [Test.ofOperator_congr hoptions]) negated

/-- **Operators that settle hold together where each of them does.** -/
theorem Settles.allHold (h : Settles found operators) :
    Test.allHold found (Test.ofOperators operators operators)
      = .ok (operators.all fun entry =>
          (Test.ofOperator operators entry.1 entry.2).passes found) := by
  rw [Test.ofOperators_eq_map]
  exact Test.allHold_eq_all fun entry hentry => Test.holds_eq_passes (h entry hentry).outcome

/-- A negation settles where what it negates does. -/
theorem Settles.not {inner : Document} (h : Settles found inner) :
    OperatorSettles found operators "$not" (.document inner) := by
  refine .intro ?_ ?_
  · rw [Test.ofOperator, if_pos rfl]
    exact Test.exists_holds_not ⟨_, h.allHold⟩
  · rintro - _ ⟨⟩
    exact h

/-- Operators that settle are named like operators. -/
theorem Settles.listsOperators (h : Settles found operators) (hne : operators ≠ []) :
    Document.listsOperators operators = true := by
  cases operators with
  | nil => exact absurd rfl hne
  | cons entry rest =>
    obtain ⟨_, hb⟩ := (h entry List.mem_cons_self).outcome
    exact Test.isOperator_of_holds hb

/-- Reordering leaves no operator out. -/
theorem Reordered.ne_nil (h : Reordered operators others) (hne : operators ≠ []) :
    others ≠ [] := by
  induction h with
  | perm _ h => exact fun hnil => hne (by simpa [hnil] using h)
  | negated => simp
  | trans _ _ ih ih' => exact ih' (ih hne)

/-- Operators in another order settle as before, with the same outcome. -/
theorem Settles.of_perm (hs : Settles found operators) (hdistinct : Fields.Distinct operators)
    (h : operators.Perm others) :
    Settles found others ∧ Test.allHold found (Test.ofOperators others others)
      = Test.allHold found (Test.ofOperators operators operators) := by
  have hoptions := hdistinct.get?_of_perm h "$options"
  have hothers : Settles found others := fun entry hentry =>
    (hs entry (h.mem_iff.2 hentry)).congr hoptions
  refine ⟨hothers, ?_⟩
  rw [hothers.allHold, hs.allHold, h.all_eq]
  simp only [Test.ofOperator_congr hoptions]

/-- One negation for another of operators that settle where its own do, with the same outcome. -/
theorem Settles.of_negated {front back inner others : Document}
    (hs : Settles found (front ++ ("$not", .document inner) :: back))
    (h : Settles found inner → Settles found others ∧
      Test.allHold found (Test.ofOperators others others)
        = Test.allHold found (Test.ofOperators inner inner)) :
    let before := front ++ ("$not", .document inner) :: back
    let after := front ++ ("$not", .document others) :: back
    Settles found after ∧ Test.allHold found (Test.ofOperators after after)
      = Test.allHold found (Test.ofOperators before before) := by
  intro before after
  have hoptions : Fields.get? after "$options" = Fields.get? before "$options" :=
    Fields.get?_place (by decide) ..
  obtain ⟨hfront, hrest⟩ := List.forall_mem_append.1 hs
  obtain ⟨hnegation, hback⟩ := List.forall_mem_cons.1 hrest
  obtain ⟨hothers, hsame⟩ := h hnegation.negated
  have hafter : Settles found after :=
    List.forall_mem_append.2 ⟨fun entry hentry => (hfront entry hentry).congr hoptions,
      List.forall_mem_cons.2 ⟨hothers.not, fun entry hentry => (hback entry hentry).congr hoptions⟩⟩
  have hnot (operators : Document) :
      (Test.ofOperator operators "$not" (.document others)).passes found
        = (Test.ofOperator operators "$not" (.document inner)).passes found := by
    rw [Test.passes, Test.passes, Test.ofOperator, Test.ofOperator, if_pos rfl, if_pos rfl,
      Test.holds, Test.holds, hsame]
  refine ⟨hafter, ?_⟩
  rw [hafter.allHold, hs.allHold]
  simp only [before, after, List.all_append, List.all_cons, hnot, Test.ofOperator_congr hoptions]

/-- **Operators that settle settle in any order, with the same outcome.**  The induction is over the
steps of the reordering. -/
theorem Reordered.preserves (h : Reordered operators others) (hs : Settles found operators) :
    Settles found others ∧ Test.allHold found (Test.ofOperators others others)
      = Test.allHold found (Test.ofOperators operators operators) := by
  induction h with
  | perm hdistinct h => exact hs.of_perm hdistinct h
  | negated front back _ ih => exact hs.of_negated ih
  | trans _ _ ih ih' =>
    obtain ⟨hsecond, hsame⟩ := ih hs
    obtain ⟨hthird, hsame'⟩ := ih' hsecond
    exact ⟨hthird, hsame'.trans hsame⟩

end Condition

/-! ## Logical operators -/

/-- **The outcome of a logical operator** from those of its operands. -/
def Logic.combine : Logic → List Bool → Bool
  | and, outcomes => outcomes.all id
  | or, outcomes => outcomes.any id
  | nor, outcomes => !outcomes.any id

/-- The order of the outcomes does not matter. -/
theorem Logic.combine_of_perm (kind : Logic) {outcomes others : List Bool}
    (h : outcomes.Perm others) : kind.combine others = kind.combine outcomes := by
  cases kind <;> simp only [combine, h.all_eq, h.any_eq]

theorem Logic.isOperator_name (kind : Logic) : isOperator kind.name = true := by
  cases kind <;> decide

namespace Selector

variable {d s t : Document} {name : String} {v w : Value} {kind : Logic} {items others : List Value}

/-- Whether a document meets an operand; where it is no selector, or has no outcome, it does not. -/
def operandFits (d : Document) : Value → Bool
  | .document s => Document.fits s d
  | _ => false

/-- Values that are all documents are a list of documents. -/
theorem exists_eq_map_document (h : ∀ item ∈ items, ∃ s, item = .document s) :
    ∃ selectors : List Document, items = selectors.map .document := by
  induction items with
  | nil => exact ⟨[], rfl⟩
  | cons item rest ih =>
    obtain ⟨s, rfl⟩ := h item List.mem_cons_self
    obtain ⟨selectors, rfl⟩ := ih fun other hother => h other (List.mem_cons_of_mem _ hother)
    exact ⟨s :: selectors, rfl⟩

/-- Operands that can be read are documents. -/
theorem forall_document_of_operands {selectors : List Selector}
    (h : operands name items = .ok selectors) : ∀ item ∈ items, ∃ s, item = .document s := by
  induction items generalizing selectors with
  | nil => nofun
  | cons item rest ih =>
    cases item
    case document s =>
      rw [operands] at h
      cases hrest : operands name rest with
      | error e => rw [hrest] at h; cases h
      | ok others =>
        rintro _ (_ | ⟨_, hother⟩)
        · exact ⟨s, rfl⟩
        · exact ih hrest _ hother
    all_goals cases h

/-- **A logical operator over selectors that have an outcome** combines their outcomes. -/
theorem meetsEntry_logical (kind : Logic) (hne : items ≠ [])
    (h : ∀ item ∈ items, ∃ s, item = .document s ∧ ∃ b, d.meets s = .ok b) :
    d.meetsEntry kind.name (.array items) = .ok (kind.combine (items.map (operandFits d))) := by
  obtain ⟨selectors, rfl⟩ := exists_eq_map_document fun item hitem =>
    have ⟨s, hs, _⟩ := h item hitem
    ⟨s, hs⟩
  have hmeets : ∀ s ∈ selectors, holds d (ofDocument s) = .ok (Document.fits s d) := by
    intro s hs
    obtain ⟨_, ⟨⟩, hb⟩ := h _ (List.mem_map_of_mem hs)
    exact Document.meets_eq_fits hb
  rw [Document.meetsEntry, clause_logical kind (by simpa using hne), List.map_map]
  cases kind with
  | and =>
    rw [clauseHolds, everyHolds_eq_all hmeets, Logic.combine, List.all_map]
    rfl
  | or =>
    rw [clauseHolds, someHolds_eq_any hmeets, Logic.combine, List.any_map]
    rfl
  | nor =>
    rw [clauseHolds, someHolds_eq_any hmeets, Logic.combine, List.any_map]
    rfl

/-! ## Clauses -/

theorem ClauseSettles.outcome (h : ClauseSettles d name v) : ∃ b, d.meetsEntry name v = .ok b := by
  cases h with
  | intro outcome _ _ => exact outcome

theorem Settles.exists_meets (h : Settles d s) : ∃ b, d.meets s = .ok b :=
  exists_meets_of_entries fun entry hentry => (h entry hentry).outcome

/-- **A logical operator settles** where it has operands, and these are selectors that settle. -/
theorem clauseSettles_logical_iff : ClauseSettles d kind.name (.array items) ↔
    items ≠ [] ∧ ∀ item ∈ items, ∃ s, item = .document s ∧ Settles d s := by
  constructor
  · intro h
    cases h with
    | intro outcome operands _ =>
      obtain ⟨b, hb⟩ := outcome
      rw [Document.meetsEntry, clause, kind.named?_name] at hb
      have hne : items ≠ [] := by
        rintro rfl
        cases hb
      refine ⟨hne, fun item hitem => ?_⟩
      simp only [List.isEmpty_iff, hne, if_false] at hb
      cases hoperands : Selector.operands kind.name items with
      | error e => rw [hoperands] at hb; cases hb
      | ok selectors =>
        obtain ⟨s, rfl⟩ := forall_document_of_operands hoperands item hitem
        exact ⟨s, rfl, operands kind.isOperator_name items rfl s hitem⟩
  · rintro ⟨hne, h⟩
    refine .intro ⟨_, meetsEntry_logical kind hne fun item hitem => ?_⟩ ?_ ?_
    · obtain ⟨s, rfl, hs⟩ := h item hitem
      exact ⟨s, rfl, hs.exists_meets⟩
    · rintro - _ ⟨⟩ s hs
      obtain ⟨_, ⟨⟩, hsettles⟩ := h _ hs
      exact hsettles
    · intro hname
      rw [kind.isOperator_name] at hname
      cases hname

/-- The outcome of a logical operator that settles. -/
theorem ClauseSettles.meetsEntry_logical (h : ClauseSettles d kind.name (.array items)) :
    d.meetsEntry kind.name (.array items) = .ok (kind.combine (items.map (operandFits d))) := by
  obtain ⟨hne, hitems⟩ := clauseSettles_logical_iff.1 h
  refine Selector.meetsEntry_logical kind hne fun item hitem => ?_
  obtain ⟨s, rfl, hs⟩ := hitems item hitem
  exact ⟨s, rfl, hs.exists_meets⟩

/-- Operands in another order: the logical operator settles as before, with the same outcome. -/
theorem ClauseSettles.of_perm (h : ClauseSettles d kind.name (.array items))
    (hperm : items.Perm others) : ClauseSettles d kind.name (.array others) ∧
      d.meetsEntry kind.name (.array others) = d.meetsEntry kind.name (.array items) := by
  obtain ⟨hne, hitems⟩ := clauseSettles_logical_iff.1 h
  have hothers : ClauseSettles d kind.name (.array others) :=
    clauseSettles_logical_iff.2 ⟨fun hnil => hne (by simpa [hnil] using hperm),
      fun item hitem => hitems item (hperm.mem_iff.2 hitem)⟩
  refine ⟨hothers, ?_⟩
  rw [hothers.meetsEntry_logical, h.meetsEntry_logical, kind.combine_of_perm (hperm.map _)]

/-- Another operand with the same outcome: the logical operator settles as before, with the same
outcome. -/
theorem ClauseSettles.of_operand {before after : List Value}
    (h : ClauseSettles d kind.name (.array (before ++ .document s :: after)))
    (ht : Settles d s → Settles d t ∧ d.meets t = d.meets s) :
    ClauseSettles d kind.name (.array (before ++ .document t :: after)) ∧
      d.meetsEntry kind.name (.array (before ++ .document t :: after))
        = d.meetsEntry kind.name (.array (before ++ .document s :: after)) := by
  obtain ⟨-, hitems⟩ := clauseSettles_logical_iff.1 h
  obtain ⟨hbefore, hrest⟩ := List.forall_mem_append.1 hitems
  obtain ⟨⟨_, ⟨⟩, hs⟩, hafter⟩ := List.forall_mem_cons.1 hrest
  obtain ⟨htSettles, hsame⟩ := ht hs
  have hothers : ClauseSettles d kind.name (.array (before ++ .document t :: after)) :=
    clauseSettles_logical_iff.2 ⟨by simp, List.forall_mem_append.2
      ⟨hbefore, List.forall_mem_cons.2 ⟨⟨t, rfl, htSettles⟩, hafter⟩⟩⟩
  refine ⟨hothers, ?_⟩
  have hfits : operandFits d (.document t) = operandFits d (.document s) := by
    rw [operandFits, operandFits, Document.fits, Document.fits, hsame]
  rw [hothers.meetsEntry_logical, h.meetsEntry_logical]
  simp only [List.map_append, List.map_cons, hfits]

/-- **Operators of a condition in another order**: the condition settles as before, with the same
outcome. -/
theorem ClauseSettles.of_reordered {operators others : Document}
    (h : ClauseSettles d name (.document operators)) (hname : isOperator name = false)
    (hlist : Document.listsOperators operators = true)
    (hreordered : Condition.Reordered operators others) :
    ClauseSettles d name (.document others) ∧
      d.meetsEntry name (.document others) = d.meetsEntry name (.document operators) := by
  cases h with
  | intro outcome _ hoperators =>
    have hsettles := hoperators hname operators rfl hlist
    obtain ⟨hothers, hsame⟩ := hreordered.preserves hsettles
    have hlist' : Document.listsOperators others = true := by
      refine hothers.listsOperators (hreordered.ne_nil ?_)
      rintro rfl
      cases hlist
    have hmeets : d.meetsEntry name (.document others) = d.meetsEntry name (.document operators) := by
      rw [Document.meetsEntry_of_not_operator hname, Document.meetsEntry_of_not_operator hname,
        Condition.holds, Condition.holds, Condition.read, Condition.read, if_pos hlist, if_pos hlist',
        hsame]
    refine ⟨.intro (by rwa [hmeets]) ?_ ?_, hmeets⟩
    · rintro - _ ⟨⟩
    · rintro - _ ⟨⟩ -
      exact hothers

/-! ## Selectors -/

/-- **One clause for another** that settles where it does, with the same outcome. -/
theorem Settles.replace {front back : Document}
    (hs : Settles d (front ++ (name, v) :: back))
    (h : ClauseSettles d name v → ClauseSettles d name w ∧ d.meetsEntry name w = d.meetsEntry name v) :
    Settles d (front ++ (name, w) :: back) ∧
      d.meets (front ++ (name, w) :: back) = d.meets (front ++ (name, v) :: back) := by
  obtain ⟨hfront, hrest⟩ := List.forall_mem_append.1 hs
  obtain ⟨hv, hback⟩ := List.forall_mem_cons.1 hrest
  obtain ⟨hw, hsame⟩ := h hv
  refine ⟨List.forall_mem_append.2 ⟨hfront, List.forall_mem_cons.2 ⟨hw, hback⟩⟩, ?_⟩
  obtain ⟨b, hb⟩ := hs.exists_meets
  obtain ⟨x, y, z, hx, hy, hz, hxyz⟩ := Document.meets_place.1 hb
  rw [hb]
  exact Document.meets_place.2 ⟨x, y, z, hx, hsame.trans hy, hz, hxyz⟩

/-- **A selector that settles settles in any order, with the same outcome.**  The induction is over
the steps of the reordering. -/
theorem Reordered.preserves (h : Reordered s t) (hs : Settles d s) :
    Settles d t ∧ d.meets t = d.meets s := by
  induction h with
  | perm h =>
    obtain ⟨b, hb⟩ := hs.exists_meets
    exact ⟨fun entry hentry => hs entry (h.mem_iff.2 hentry),
      ((Document.meets_iff_of_perm h d b).1 hb).trans hb.symm⟩
  | operands kind front back h => exact hs.replace fun hclause => hclause.of_perm h
  | operand kind front back before after _ ih => exact hs.replace fun hclause => hclause.of_operand ih
  | condition front back hname hlist h =>
    exact hs.replace fun hclause => hclause.of_reordered hname hlist h
  | trans _ _ ih ih' =>
    obtain ⟨hsecond, hsame⟩ := ih hs
    obtain ⟨hthird, hsame'⟩ := ih' hsecond
    exact ⟨hthird, hsame'.trans hsame⟩

/-- **Evaluation ignores the order of a selector.**  Where every part of a selector has an outcome on
a document, a reordering of it at any depth has the same one; and whatever the selector is, the order
of its own clauses decides neither whether there is an outcome nor which. -/
theorem meets_reordered :
    (∀ d s t : Document, Settles d s → Reordered s t →
      ∃ b, d.meets s = .ok b ∧ d.meets t = .ok b) ∧
    ∀ d s t : Document, s.Perm t → ∀ b, d.meets s = .ok b ↔ d.meets t = .ok b := by
  refine ⟨fun d s t hs h => ?_, fun d s t h => Document.meets_iff_of_perm h d⟩
  obtain ⟨b, hb⟩ := hs.exists_meets
  exact ⟨b, hb, (h.preserves hs).2.trans hb⟩

end Selector

/-- Without an outcome of every part the order of operands does matter: the first one that holds hides
an error of the next. -/
example :
    let priced : Value := .document [("price", .document [("$exists", .boolean true)])]
    let unknown : Value := .document [("price", .document [("$near", .int32 1)])]
    Document.meets [("price", .int32 5)] [("$or", .array [priced, unknown])] = .ok true ∧
    Document.meets [("price", .int32 5)] [("$or", .array [unknown, priced])]
      = .error (.operator "$near") := ⟨rfl, rfl⟩

/-! ## Well-formed selectors -/

/-- **A well-formed operator settles**, whatever is found. -/
theorem Condition.OperatorWellFormed.settles {operators : Document} {op : String} {v : Value}
    (h : OperatorWellFormed operators op v) (found : Option Value) :
    OperatorSettles found operators op v := by
  refine .intro h.exists_holds ?_
  induction h with
  | notOperators h ih =>
    rintro - _ ⟨⟩ entry hentry
    exact .intro (h entry hentry).exists_holds (ih entry hentry)
  | notPattern h => rintro - _ ⟨⟩
  | comparison v hop | members vs hop =>
    rintro rfl
    simp at hop
  | text | pattern | options => exact fun hop => absurd hop (by decide)

/-- **A well-formed clause settles** on every document. -/
theorem Selector.ClauseWellFormed.settles {name : String} {v : Value}
    (h : ClauseWellFormed name v) (d : Document) : ClauseSettles d name v := by
  induction h with
  | logical kind hne h ih =>
    refine clauseSettles_logical_iff.2 ⟨by simpa using hne, fun item hitem => ?_⟩
    obtain ⟨s, hs, rfl⟩ := List.mem_map.1 hitem
    exact ⟨s, rfl, ih s hs⟩
  | @field name v hname h =>
    refine .intro (ClauseWellFormed.field hname h).exists_meetsEntry ?_ ?_
    · intro hoperator
      rw [hname] at hoperator
      cases hoperator
    · rintro - operators rfl hlist
      cases h with
      | operators _ h => exact fun entry hentry => (h entry hentry).settles _
      | literal h =>
        rw [Condition.isLiteral, hlist] at h
        cases h

/-- **A well-formed selector means the same in any order**, on every document. -/
theorem Selector.WellFormed.meets_of_reordered {s t : Document} (h : WellFormed s)
    (hreordered : Reordered s t) (d : Document) : d.meets t = d.meets s :=
  (hreordered.preserves fun entry hentry => (h entry hentry).settles d).2

namespace Shelf

/-- A search or a price, and a stock that is not in a range. -/
def offers : Document :=
  [("$or", .array [.document [("name", searchCondition "C++")],
      .document [("price", .document [("$gt", .int32 5)])]]),
    ("stock", .document [("$not", .document [("$gte", .int32 1), ("$lte", .int32 9)])])]

/-- The same from back to front, at every depth. -/
def offersReversed : Document :=
  [("stock", .document [("$not", .document [("$lte", .int32 9), ("$gte", .int32 1)])]),
    ("$or", .array [.document [("price", .document [("$gt", .int32 5)])],
      .document [("name", .document
        [("$options", .string "i"), ("$regex", .string (Pattern.escape "C++"))])]])]

theorem reordered_offers : Selector.Reordered offers offersReversed := by
  have hname : Selector.Reordered [("name", searchCondition "C++")] [("name", .document
      [("$options", .string "i"), ("$regex", .string (Pattern.escape "C++"))])] :=
    .condition [] [] (by decide) (by decide) (.perm (by decide) (.swap ..))
  have hrange : Condition.Reordered
      [("$not", .document [("$gte", .int32 1), ("$lte", .int32 9)])]
      [("$not", .document [("$lte", .int32 9), ("$gte", .int32 1)])] :=
    .negated [] [] (.perm (by decide) (.swap ..))
  refine .trans (.operand .or [] [offers[1]] [] [_] hname) ?_
  refine .trans (.operands .or [] [offers[1]] (.swap ..)) ?_
  exact .trans (.condition [_] [] (by decide) (by decide) hrange) (.perm (.swap ..))

theorem wellFormed_offers : Selector.WellFormed offers := by
  obtain ⟨p, hp, -⟩ := Pattern.isMatch_escape ofText_escape_ne_size
  have hoperands : ∀ s ∈ [[("name", searchCondition "C++")],
      [("price", .document [("$gt", .int32 5)])]], Selector.WellFormed s := by
    rintro _ (_ | ⟨_, _ | ⟨_, ⟨⟩⟩⟩)
    · exact .singleton (.field (by decide) (.search ⟨p, hp⟩))
    · exact .singleton (.field (by decide) (.comparison (by simp) _))
  have hstock : Condition.WellFormed
      (.document [("$not", .document [("$gte", .int32 1), ("$lte", .int32 9)])]) := by
    refine .operators (by decide) ?_
    rintro _ (_ | ⟨_, ⟨⟩⟩)
    refine .notOperators ?_
    rintro _ (_ | ⟨_, _ | ⟨_, ⟨⟩⟩⟩) <;> exact .comparison _ (by simp)
  exact Selector.WellFormed.append (.singleton (.logical .or (List.cons_ne_nil _ _) hoperands))
    (.singleton (.field (by decide) hstock))

/-- The two selectors mean the same, and so do the first one and its clauses in reverse. -/
theorem meets_offers : ∀ d : Document,
    (∃ b, d.meets offers = .ok b ∧ d.meets offersReversed = .ok b) ∧
      ∀ b, d.meets offers = .ok b ↔ d.meets offers.reverse = .ok b := fun d =>
  ⟨Selector.meets_reordered.1 d offers offersReversed
      (fun entry hentry => (wellFormed_offers entry hentry).settles d) reordered_offers,
    Selector.meets_reordered.2 d offers offers.reverse (List.reverse_perm _).symm⟩

end Shelf

end KeysetStore
