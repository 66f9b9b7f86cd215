import KeysetStore.Keyset

/-!
# Proofs/Conjunction — a selector document is the conjunction of its entries

Evaluation looks at every entry, so it succeeds where each entry does and is then their conjunction,
wherever the entries stand and in whatever order (`Document.meets_append_eq_ok_iff`,
`Document.meets_place`, `Document.meets_iff_of_perm`).  An entry can therefore be exchanged without
touching the others: a conjunct spliced into a caller's `$and`, or into a new one, narrows the
selector by that conjunct and by nothing else (`Document.meets_conjoin`).
-/

namespace KeysetStore

/-! ## Steps that succeed -/

theorem bind_eq_ok_iff {α β : Type} {step : Except Error α} {next : α → Except Error β} {b : β} :
    step >>= next = .ok b ↔ ∃ a, step = .ok a ∧ next a = .ok b := by
  cases step with
  | error e => exact iff_of_false nofun fun ⟨_, h, _⟩ => nomatch h
  | ok a =>
    refine ⟨fun h => ⟨a, rfl, h⟩, ?_⟩
    rintro ⟨a', ha, h⟩
    obtain rfl := Except.ok.inj ha
    exact h

theorem map_eq_ok_iff {α β : Type} {step : Except Error α} {f : α → β} {b : β} :
    step.map f = .ok b ↔ ∃ a, step = .ok a ∧ f a = b := by
  cases step with
  | error e => exact iff_of_false nofun fun ⟨_, h, _⟩ => nomatch h
  | ok a => simp [Except.map]

theorem map_eq_error_iff {α β : Type} {step : Except Error α} {f : α → β} {e : Error} :
    step.map f = .error e ↔ step = .error e := by
  cases step with
  | error other => simp [Except.map]
  | ok a => exact iff_of_false nofun nofun

/-! ## Selectors and their entries -/

/-- Whether a document meets one entry of a selector document. -/
def Document.meetsEntry (d : Document) (name : String) (v : Value) : Except Error Bool :=
  Selector.clauseHolds d (Selector.clause name v)

/-- **Whether a document is meant by a selector document**; where evaluation fails, it is not. -/
def Document.fits (selector d : Document) : Bool :=
  match d.meets selector with
  | .ok b => b
  | .error _ => false

theorem Document.fits_of_meets {selector d : Document} {b : Bool} (h : d.meets selector = .ok b) :
    fits selector d = b := by
  rw [fits, h]

/-- Where a selector can be evaluated, whether it fits is what comes out. -/
theorem Document.meets_eq_fits {selector d : Document} (h : ∃ b, d.meets selector = .ok b) :
    d.meets selector = .ok (fits selector d) := by
  obtain ⟨b, hb⟩ := h
  rw [hb, fits_of_meets hb]

/-- A logical operator is read from its name. -/
theorem Logic.named?_name (kind : Logic) : named? kind.name = some kind := by
  cases kind <;> rfl

namespace Selector

/-! ## Reading entry by entry -/

theorem ofDocument_append (front back : List (String × Value)) :
    ofDocument (front ++ back) = ofDocument front ++ ofDocument back := by
  induction front with
  | nil => rfl
  | cons entry rest ih => rw [List.cons_append, ofDocument, ofDocument, ih, List.cons_append]

theorem named?_of_not_operator {name : String} (h : isOperator name = false) :
    Logic.named? name = none := by
  unfold Logic.named?
  split <;> first | rfl | exact absurd h (by decide)

/-- A name without a dollar sign is a path, and what stands under it a condition. -/
theorem clause_of_not_operator {name : String} (h : isOperator name = false) (v : Value) :
    clause name v = .field name v := by
  have hsimple : simple name v = .field name v := by simp [simple, h]
  cases v <;> simp [clause, named?_of_not_operator h, hsimple]

/-- One selector document more among operands. -/
theorem operands_append (name : String) (items : List Value) (d : Document) :
    operands name (items ++ [.document d])
      = (operands name items).map (· ++ [ofDocument d]) := by
  induction items with
  | nil => rfl
  | cons item rest ih =>
    cases item
    case document fields =>
      rw [List.cons_append, operands, operands, ih]
      cases operands name rest <;> rfl
    all_goals rfl

theorem operands_map_document (name : String) (selectors : List Document) :
    operands name (selectors.map .document) = .ok (selectors.map ofDocument) := by
  induction selectors with
  | nil => rfl
  | cons s rest ih => rw [List.map_cons, operands, ih, List.map_cons]

/-- **A logical operator over selectors** is read as one, unless there are none. -/
theorem clause_logical (kind : Logic) {selectors : List Document} (hne : selectors ≠ []) :
    clause kind.name (.array (selectors.map .document))
      = .logical kind (selectors.map ofDocument) := by
  rw [clause, kind.named?_name]
  simp only [List.isEmpty_iff, List.map_eq_nil_iff, hne, if_false, operands_map_document]

/-! ## Evaluating clause by clause -/

variable {d : Document}

/-- **Clauses side by side hold together**, and evaluation succeeds where it does on both sides. -/
theorem holds_append_eq_ok_iff {s t : Selector} {b : Bool} :
    holds d (s ++ t) = .ok b ↔ ∃ x y, holds d s = .ok x ∧ holds d t = .ok y ∧ b = (x && y) := by
  induction s generalizing b with
  | nil =>
    refine ⟨fun h => ⟨true, b, rfl, h, rfl⟩, ?_⟩
    rintro ⟨x, y, hx, hy, rfl⟩
    obtain rfl := Except.ok.inj hx
    exact hy
  | cons c rest ih =>
    rw [List.cons_append, holds, holds]
    cases hc : clauseHolds d c with
    | error e => simp
    | ok x =>
      cases hrest : holds d (rest ++ t) with
      | error e =>
        refine iff_of_false (by simp) ?_
        rintro ⟨x', y', hs, ht, -⟩
        cases hs' : holds d rest with
        | error e' => rw [hs'] at hs; cases hs
        | ok r =>
          have := ih.2 ⟨r, y', hs', ht, rfl⟩
          rw [hrest] at this
          cases this
      | ok r =>
        obtain ⟨x', y', hs, ht, rfl⟩ := ih.1 hrest
        simp [hs, ht, Bool.and_assoc, eq_comm]

/-- One more operand of a conjunction, where it can be evaluated. -/
theorem everyHolds_append_singleton (selectors : List Selector) {s : Selector} {y : Bool}
    (hy : holds d s = .ok y) :
    everyHolds d (selectors ++ [s]) = (everyHolds d selectors).map (· && y) := by
  induction selectors with
  | nil =>
    simp only [List.nil_append, everyHolds, hy]
    cases y <;> rfl
  | cons first rest ih =>
    rw [List.cons_append, everyHolds, everyHolds, ih]
    cases holds d first with
    | error e => rfl
    | ok b => cases b <;> rfl

/-- The first operands of a conjunction can be evaluated where all can, and hold where all do. -/
theorem everyHolds_of_append {selectors more : List Selector} {b : Bool}
    (h : everyHolds d (selectors ++ more) = .ok b) :
    ∃ x, everyHolds d selectors = .ok x ∧ (b = true → x = true) := by
  induction selectors with
  | nil => exact ⟨true, rfl, fun _ => rfl⟩
  | cons first rest ih =>
    rw [List.cons_append, everyHolds] at h
    rw [everyHolds]
    cases hfirst : holds d first with
    | error e => rw [hfirst] at h; cases h
    | ok x =>
      rw [hfirst] at h
      cases x with
      | true => exact ih h
      | false =>
        obtain rfl := Except.ok.inj h
        exact ⟨false, rfl, id⟩

/-- The last operand of a conjunction decides it where the others hold, and holds where it does. -/
theorem holds_of_everyHolds_append {selectors : List Selector} {s : Selector}
    {b : Bool} (h : everyHolds d (selectors ++ [s]) = .ok b)
    (hall : everyHolds d selectors = .ok true ∨ b = true) : holds d s = .ok b := by
  induction selectors with
  | nil =>
    rw [List.nil_append, everyHolds] at h
    cases hs : holds d s with
    | error e => rw [hs] at h; cases h
    | ok x => rw [hs] at h; cases x <;> exact h
  | cons first rest ih =>
    rw [List.cons_append, everyHolds] at h
    rw [everyHolds] at hall
    cases hfirst : holds d first with
    | error e => rw [hfirst] at h; cases h
    | ok x =>
      rw [hfirst] at h hall
      cases x with
      | true => exact ih h hall
      | false =>
        obtain rfl := Except.ok.inj h
        rcases hall with hall | hall <;> cases hall

/-- A conjunction all of whose operands can be evaluated holds where each of them does. -/
theorem everyHolds_eq_all {α : Type} {read : α → Selector} {p : α → Bool} {items : List α}
    (h : ∀ item ∈ items, holds d (read item) = .ok (p item)) :
    everyHolds d (items.map read) = .ok (items.all p) := by
  induction items with
  | nil => rfl
  | cons item rest ih =>
    rw [List.map_cons, everyHolds, h item List.mem_cons_self, List.all_cons,
      ih fun other hother => h other (List.mem_cons_of_mem _ hother)]
    cases p item <;> rfl

/-- A disjunction all of whose operands can be evaluated holds where one of them does. -/
theorem someHolds_eq_any {α : Type} {read : α → Selector} {p : α → Bool} {items : List α}
    (h : ∀ item ∈ items, holds d (read item) = .ok (p item)) :
    someHolds d (items.map read) = .ok (items.any p) := by
  induction items with
  | nil => rfl
  | cons item rest ih =>
    rw [List.map_cons, someHolds, h item List.mem_cons_self, List.any_cons,
      ih fun other hother => h other (List.mem_cons_of_mem _ hother)]
    cases p item <;> rfl

end Selector

namespace Document

variable {d selector clause narrowed : Document} {name : String} {v : Value} {b c : Bool}

/-! ## Entries -/

theorem meets_append_eq_ok_iff {front back : Document} :
    d.meets (front ++ back) = .ok b
      ↔ ∃ x y, d.meets front = .ok x ∧ d.meets back = .ok y ∧ b = (x && y) := by
  rw [meets, Selector.ofDocument_append, Selector.holds_append_eq_ok_iff]
  rfl

theorem meets_cons_eq_ok_iff {rest : Document} :
    d.meets ((name, v) :: rest) = .ok b
      ↔ ∃ x y, d.meetsEntry name v = .ok x ∧ d.meets rest = .ok y ∧ b = (x && y) := by
  rw [meets, Selector.ofDocument, Selector.holds]
  change (match d.meetsEntry name v with
    | .ok x => match d.meets rest with
      | .ok y => Except.ok (x && y)
      | .error e => .error e
    | .error e => .error e) = .ok b ↔ _
  cases d.meetsEntry name v <;> cases d.meets rest <;> simp [eq_comm]

/-- **The clauses of a selector may come in any order**: there is an outcome where there was one, and
it is the same. -/
theorem meets_iff_of_perm {s t : Document} (h : s.Perm t) (d : Document) (b : Bool) :
    d.meets s = .ok b ↔ d.meets t = .ok b := by
  have hswap (first second : String × Value) (rest : Document) (b : Bool)
      (h : d.meets (first :: second :: rest) = .ok b) :
      d.meets (second :: first :: rest) = .ok b := by
    obtain ⟨x, _, hx, hrest, rfl⟩ := meets_cons_eq_ok_iff.1 h
    obtain ⟨y, z, hy, hz, rfl⟩ := meets_cons_eq_ok_iff.1 hrest
    exact meets_cons_eq_ok_iff.2 ⟨y, _, hy, meets_cons_eq_ok_iff.2 ⟨x, z, hx, hz, rfl⟩,
      Bool.and_left_comm ..⟩
  induction h generalizing b with
  | nil => exact .rfl
  | cons entry _ ih =>
    obtain ⟨name, v⟩ := entry
    simp only [meets_cons_eq_ok_iff, ih]
  | swap first second rest => exact ⟨hswap _ _ rest b, hswap _ _ rest b⟩
  | trans _ _ ih ih' => exact (ih b).trans (ih' b)

/-- **An entry between others**: the selector is the conjunction of what stands before the entry, the
entry, and what stands after it. -/
theorem meets_place {front back : Document} :
    d.meets (front ++ (name, v) :: back) = .ok b
      ↔ ∃ x y z, d.meets front = .ok x ∧ d.meetsEntry name v = .ok y ∧ d.meets back = .ok z ∧
        b = (x && (y && z)) := by
  simp only [meets_append_eq_ok_iff, meets_cons_eq_ok_iff]
  constructor
  · rintro ⟨x, _, hx, ⟨y, z, hy, hz, rfl⟩, rfl⟩
    exact ⟨x, y, z, hx, hy, hz, rfl⟩
  · rintro ⟨x, y, z, hx, hy, hz, rfl⟩
    exact ⟨x, _, hx, ⟨y, z, hy, hz, rfl⟩, rfl⟩

/-- **A selector that can be evaluated has entries that can be**, and where it holds, they do. -/
theorem meetsEntry_of_meets (h : d.meets selector = .ok b)
    (hget : Fields.get? selector name = some v) :
    ∃ x, d.meetsEntry name v = .ok x ∧ (b = true → x = true) := by
  obtain ⟨front, back, rfl, -⟩ := Fields.exists_place_of_get? hget
  obtain ⟨x, y, z, -, hy, -, rfl⟩ := meets_place.1 h
  exact ⟨y, hy, fun hb => by simp_all⟩

theorem meets_singleton (h : d.meetsEntry name v = .ok b) : d.meets [(name, v)] = .ok b :=
  meets_cons_eq_ok_iff.2 ⟨b, true, h, rfl, by simp⟩

theorem meetsEntry_of_not_operator (h : isOperator name = false) (d : Document) (v : Value) :
    d.meetsEntry name v = Condition.holds v (d.lookup? name) := by
  rw [meetsEntry, Selector.clause_of_not_operator h]
  rfl

/-! ## One more conjunct -/

theorem meetsEntry_and {items : List Value} (hne : items ≠ []) :
    d.meetsEntry "$and" (.array items)
      = Selector.operands "$and" items >>= Selector.everyHolds d := by
  rw [meetsEntry, Selector.clause, show Logic.named? "$and" = some .and from rfl]
  simp only [List.isEmpty_iff, hne, if_false]
  cases Selector.operands "$and" items <;> rfl

theorem meetsEntry_or {selectors : List Document} (hne : selectors ≠ []) :
    d.meetsEntry "$or" (.array (selectors.map .document))
      = Selector.someHolds d (selectors.map Selector.ofDocument) :=
  congrArg (Selector.clauseHolds d) (Selector.clause_logical .or hne)

/-- A conjunction that can be evaluated has operands. -/
theorem ne_nil_of_meetsEntry_and {items : List Value}
    (h : d.meetsEntry "$and" (.array items) = .ok b) : items ≠ [] := by
  rintro rfl
  cases h

/-- One more operand narrows a conjunction by itself, also one without operands so far. -/
theorem meetsEntry_and_append (items : List Value) (hc : d.meets clause = .ok c) :
    d.meetsEntry "$and" (.array (items ++ [.document clause]))
      = (Selector.operands "$and" items >>= Selector.everyHolds d).map (· && c) := by
  rw [meetsEntry_and (by simp), Selector.operands_append]
  cases Selector.operands "$and" items with
  | error e => rfl
  | ok selectors => exact Selector.everyHolds_append_singleton selectors hc

/-- **A selector with one more conjunct**, beside the same selector with an empty one: the conjunct
narrows by itself and by nothing else, wherever it is spliced in. -/
theorem meets_conjoin_iff {idle : Document} (hc : d.meets clause = .ok c)
    (h : conjoin selector clause = .ok narrowed) (hidle : conjoin selector [] = .ok idle) :
    d.meets narrowed = .ok b ↔ ∃ x, d.meets idle = .ok x ∧ b = (x && c) := by
  have hempty : d.meets [] = .ok true := rfl
  unfold conjoin at h hidle
  cases hget : Fields.get? selector "$and" with
  | none =>
    simp only [hget] at h hidle
    obtain rfl := Except.ok.inj h
    obtain rfl := Except.ok.inj hidle
    have hentry {clause : Document} {c : Bool} (hc : d.meets clause = .ok c) :
        d.meets [("$and", .array [.document clause])] = .ok c :=
      meets_singleton ((meetsEntry_and_append [] hc).trans (by cases c <;> rfl))
    rw [Fields.insert_of_get?_eq_none hget, Fields.insert_of_get?_eq_none hget]
    simp only [meets_append_eq_ok_iff, hentry hc, hentry hempty, Except.ok.injEq]
    constructor
    · rintro ⟨x, _, hx, rfl, rfl⟩
      exact ⟨x, ⟨x, true, hx, rfl, by simp⟩, rfl⟩
    · rintro ⟨_, ⟨x, _, hx, rfl, rfl⟩, rfl⟩
      exact ⟨x, c, hx, rfl, by simp⟩
  | some v =>
    cases v
    case array items =>
      simp only [hget] at h hidle
      obtain rfl := Except.ok.inj h
      obtain rfl := Except.ok.inj hidle
      obtain ⟨front, back, rfl, hinsert⟩ := Fields.exists_place_of_get? hget
      rw [hinsert, hinsert]
      simp only [meets_place, meetsEntry_and_append items hc, meetsEntry_and_append items hempty,
        map_eq_ok_iff]
      constructor
      · rintro ⟨x, _, z, hx, ⟨y, hy, rfl⟩, hz, rfl⟩
        refine ⟨_, ⟨x, _, z, hx, ⟨y, hy, rfl⟩, hz, rfl⟩, ?_⟩
        cases x <;> cases y <;> cases z <;> simp
      · rintro ⟨_, ⟨x, _, z, hx, ⟨y, hy, rfl⟩, hz, rfl⟩, rfl⟩
        refine ⟨x, _, z, hx, ⟨y, hy, rfl⟩, hz, ?_⟩
        cases x <;> cases y <;> cases z <;> simp
    all_goals simp [hget] at h

/-- Whether a conjunct can be spliced in does not depend on the conjunct. -/
theorem exists_conjoin_of_conjoin (h : conjoin selector clause = .ok narrowed) (other : Document) :
    ∃ widened, conjoin selector other = .ok widened := by
  unfold conjoin at h ⊢
  split at h
  · exact ⟨_, rfl⟩
  · exact ⟨_, rfl⟩
  · cases h

/-- An empty conjunct says nothing. -/
theorem meets_idle {idle : Document} (hb : d.meets selector = .ok b)
    (hidle : conjoin selector [] = .ok idle) : d.meets idle = .ok b := by
  have hempty : d.meets [] = .ok true := rfl
  unfold conjoin at hidle
  split at hidle
  · next hnone =>
    obtain rfl := Except.ok.inj hidle
    rw [Fields.insert_of_get?_eq_none hnone, meets_append_eq_ok_iff]
    exact ⟨b, true, hb, meets_singleton (meetsEntry_and_append [] hempty), by simp⟩
  · next items hsome =>
    obtain rfl := Except.ok.inj hidle
    obtain ⟨front, back, rfl, hinsert⟩ := Fields.exists_place_of_get? hsome
    obtain ⟨x, y, z, hx, hy, hz, rfl⟩ := meets_place.1 hb
    rw [hinsert]
    refine meets_place.2 ⟨x, y, z, hx, ?_, hz, rfl⟩
    rw [meetsEntry_and_append items hempty, ← meetsEntry_and (ne_nil_of_meetsEntry_and hy), hy]
    simp [Except.map]
  · cases hidle

/-- A conjunct leaves the entries of other names alone. -/
theorem get?_conjoin (h : conjoin selector clause = .ok narrowed) (hname : name ≠ "$and") :
    Fields.get? narrowed name = Fields.get? selector name := by
  unfold conjoin at h
  split at h
  · rw [← Except.ok.inj h, Fields.get?_insert, if_neg hname.symm]
  · rw [← Except.ok.inj h, Fields.get?_insert, if_neg hname.symm]
  · cases h

/-- **An entry is evaluated beside a conjunct as well**, unless it is itself a conjunction without
operands. -/
theorem meetsEntry_of_meets_conjoin (h : d.meets narrowed = .ok b)
    (hnarrowed : conjoin selector clause = .ok narrowed) (hget : Fields.get? selector name = some v)
    {other : Document} {y : Bool} (hentry : other.meetsEntry name v = .ok y) :
    ∃ x, d.meetsEntry name v = .ok x ∧ (b = true → x = true) := by
  by_cases hname : name = "$and"
  · subst hname
    unfold conjoin at hnarrowed
    rw [hget] at hnarrowed
    cases v
    case array items =>
      obtain rfl := Except.ok.inj hnarrowed
      obtain ⟨x, hx, hholds⟩ := meetsEntry_of_meets h (by rw [Fields.get?_insert, if_pos rfl])
      rw [meetsEntry_and (by simp), Selector.operands_append] at hx
      obtain ⟨_, hoperands, hx⟩ := bind_eq_ok_iff.1 hx
      obtain ⟨selectors, hselectors, rfl⟩ := map_eq_ok_iff.1 hoperands
      obtain ⟨z, hz, himp⟩ := Selector.everyHolds_of_append hx
      refine ⟨z, ?_, fun hb => himp (hholds hb)⟩
      rw [meetsEntry_and (ne_nil_of_meetsEntry_and hentry), hselectors]
      exact hz
    all_goals cases hnarrowed
  · exact meetsEntry_of_meets h ((get?_conjoin hnarrowed hname).trans hget)

/-- The last operand of a conjunction in a selector decides it where the others hold, and holds where
it does. -/
theorem meets_of_meetsEntry_and_append {items : List Value}
    (h : d.meetsEntry "$and" (.array (items ++ [.document clause])) = .ok b)
    (hall : (Selector.operands "$and" items >>= Selector.everyHolds d) = .ok true ∨ b = true) :
    d.meets clause = .ok b := by
  rw [meetsEntry_and (by simp), Selector.operands_append] at h
  cases hitems : Selector.operands "$and" items with
  | error e => rw [hitems] at h; cases h
  | ok selectors =>
    rw [hitems] at h hall
    exact Selector.holds_of_everyHolds_append h hall

/-- **A conjunct decides where the selector that it narrows holds**, and holds where both do. -/
theorem meets_clause_of_meets_conjoin (h : conjoin selector clause = .ok narrowed)
    (hb : d.meets narrowed = .ok b) (hall : d.meets selector = .ok true ∨ b = true) :
    d.meets clause = .ok b := by
  unfold conjoin at h
  split at h
  · next hnone =>
    obtain rfl := Except.ok.inj h
    rw [Fields.insert_of_get?_eq_none hnone] at hb
    obtain ⟨x, y, hx, hy, rfl⟩ := meets_append_eq_ok_iff.1 hb
    obtain ⟨z, _, hz, ⟨⟩, rfl⟩ := meets_cons_eq_ok_iff.1 hy
    have hfirst : x = true := hall.elim (fun htrue => Except.ok.inj (hx.symm.trans htrue))
      fun htrue => (Bool.and_eq_true_iff.1 htrue).1
    have hclause : d.meets clause = .ok z :=
      meets_of_meetsEntry_and_append (show d.meetsEntry "$and" (.array ([] ++ _)) = _ from hz)
        (.inl rfl)
    rw [hclause, hfirst, Bool.true_and, Bool.and_true]
  · next items hsome =>
    obtain rfl := Except.ok.inj h
    obtain ⟨front, back, rfl, hinsert⟩ := Fields.exists_place_of_get? hsome
    rw [hinsert] at hb
    obtain ⟨x, y, z, hx, hy, hz, rfl⟩ := meets_place.1 hb
    rcases hall with htrue | htrue
    · obtain ⟨x', y', z', hx', hy', hz', hall⟩ := meets_place.1 htrue
      obtain ⟨rfl, hyz⟩ := Bool.and_eq_true_iff.1 hall.symm
      obtain ⟨rfl, rfl⟩ := Bool.and_eq_true_iff.1 hyz
      obtain rfl := Except.ok.inj (hx.symm.trans hx')
      obtain rfl := Except.ok.inj (hz.symm.trans hz')
      rw [meetsEntry_and (ne_nil_of_meetsEntry_and hy')] at hy'
      rw [meets_of_meetsEntry_and_append hy (.inl hy'), Bool.true_and, Bool.and_true]
    · obtain ⟨rfl, hyz⟩ := Bool.and_eq_true_iff.1 htrue
      obtain ⟨rfl, rfl⟩ := Bool.and_eq_true_iff.1 hyz
      exact meets_of_meetsEntry_and_append hy (.inr rfl)
  · cases h

/-- **A conjunct narrows a selector by itself and by nothing else**, wherever it is spliced in. -/
theorem meets_conjoin (hb : d.meets selector = .ok b) (hc : d.meets clause = .ok c)
    (h : conjoin selector clause = .ok narrowed) : d.meets narrowed = .ok (b && c) := by
  obtain ⟨idle, hidle⟩ := exists_conjoin_of_conjoin h []
  exact (meets_conjoin_iff hc h hidle).2 ⟨b, meets_idle hb hidle, rfl⟩

/-- A selector that can be evaluated takes one more conjunct. -/
theorem exists_conjoin (h : d.meets selector = .ok b) (clause : Document) :
    ∃ narrowed, conjoin selector clause = .ok narrowed := by
  unfold conjoin
  split
  · exact ⟨_, rfl⟩
  · exact ⟨_, rfl⟩
  · next v harray hget =>
    obtain ⟨x, hx, -⟩ := meetsEntry_of_meets h hget
    rw [meetsEntry] at hx
    cases v
    case array items => exact absurd rfl (harray items)
    all_goals cases hx

end Document

end KeysetStore
