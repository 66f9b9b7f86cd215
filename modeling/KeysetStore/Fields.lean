/-!
# Fields — maps that remember the order of insertion

A document, and the collections of a store, are associations of names with contents in the order in
which the names were first set.  `insert` replaces in place or appends, `erase` closes the gap, and
`get?` is the view through which both are read (`get?_insert`, `get?_erase`).
-/

namespace KeysetStore

/-- An association of names with contents, in order. -/
abbrev Fields (α : Type) := List (String × α)

namespace Fields

variable {α : Type}

/-- The content under a name. -/
def get? (fields : Fields α) (name : String) : Option α := fields.lookup name

/-- **Sets one name**: in place where the name is already there, at the end where it is new. -/
def insert : Fields α → String → α → Fields α
  | [], name, content => [(name, content)]
  | (k, v) :: rest, name, content =>
    if k = name then (name, content) :: rest else (k, v) :: insert rest name content

/-- Drops a name; the others keep their order. -/
def erase (fields : Fields α) (name : String) : Fields α := fields.filter (·.1 ≠ name)

/-- Sets each pair in turn, so a repeated name keeps its first place and its last content. -/
def ofList (pairs : List (String × α)) : Fields α :=
  pairs.foldl (fun fields pair => fields.insert pair.1 pair.2) []

/-- The names, in order. -/
def names (fields : Fields α) : List String := fields.map (·.1)

/-- **No name occurs twice**, as in a map. -/
def Distinct (fields : Fields α) : Prop := (names fields).Nodup

instance (fields : Fields α) : Decidable (Distinct fields) :=
  inferInstanceAs (Decidable (names fields).Nodup)

/-! ## The view -/

@[simp] theorem get?_nil (name : String) : get? ([] : Fields α) name = none := rfl

theorem get?_cons (k name : String) (v : α) (rest : Fields α) :
    get? ((k, v) :: rest) name = if k = name then some v else get? rest name := by
  by_cases h : k = name
  · simp [get?, h]
  · have : (name == k) = false := by simpa using Ne.symm h
    simp [get?, h, List.lookup_cons, this]

@[simp] theorem get?_insert (fields : Fields α) (name other : String) (content : α) :
    (fields.insert name content).get? other
      = if name = other then some content else fields.get? other := by
  induction fields with
  | nil => simp [insert, get?_cons]
  | cons pair rest ih =>
    obtain ⟨k, v⟩ := pair
    by_cases h : k = name
    · subst h
      by_cases ho : k = other <;> simp [insert, get?_cons, ho]
    · by_cases ho : k = other
      · subst ho
        simp [insert, h, get?_cons, Ne.symm h]
      · simp [insert, h, get?_cons, ho, ih]

@[simp] theorem get?_erase (fields : Fields α) (name other : String) :
    (fields.erase name).get? other = if name = other then none else fields.get? other := by
  induction fields with
  | nil => simp [erase]
  | cons pair rest ih =>
    obtain ⟨k, v⟩ := pair
    by_cases h : k = name
    · have : erase ((k, v) :: rest) name = erase rest name := by simp [erase, h]
      rw [this, ih, get?_cons]
      by_cases ho : name = other <;> simp [h, ho]
    · have : erase ((k, v) :: rest) name = (k, v) :: erase rest name := by simp [erase, h]
      rw [this, get?_cons, get?_cons, ih]
      by_cases ho : k = other
      · simp [ho, show name ≠ other from fun hn => h (ho.trans hn.symm)]
      · simp [ho]

/-! ## The place of a name -/

theorem get?_eq_none_iff {fields : Fields α} {name : String} :
    fields.get? name = none ↔ name ∉ names fields := by
  induction fields with
  | nil => simp [names]
  | cons pair rest ih =>
    obtain ⟨k, v⟩ := pair
    by_cases h : k = name
    · simp [get?_cons, names, h]
    · simpa [get?_cons, names, h, Ne.symm h] using ih

/-- A new name is set at the end. -/
theorem insert_of_get?_eq_none {fields : Fields α} {name : String}
    (h : fields.get? name = none) (content : α) :
    fields.insert name content = fields ++ [(name, content)] := by
  induction fields with
  | nil => rfl
  | cons pair rest ih =>
    obtain ⟨k, v⟩ := pair
    by_cases hk : k = name
    · simp [get?_cons, hk] at h
    · rw [get?_cons, if_neg hk] at h
      rw [insert, if_neg hk, ih h, List.cons_append]

/-- **A name that is there has one place**, between what stands before and after it, and setting it
again changes nothing else. -/
theorem exists_place_of_get? {fields : Fields α} {name : String} {content : α}
    (h : fields.get? name = some content) :
    ∃ front back, fields = front ++ (name, content) :: back ∧
      ∀ other, fields.insert name other = front ++ (name, other) :: back := by
  induction fields with
  | nil => cases h
  | cons pair rest ih =>
    obtain ⟨k, v⟩ := pair
    by_cases hk : k = name
    · subst hk
      rw [get?_cons, if_pos rfl, Option.some.injEq] at h
      exact ⟨[], rest, by simp [h], fun other => by simp [insert]⟩
    · rw [get?_cons, if_neg hk] at h
      obtain ⟨front, back, hrest, hinsert⟩ := ih h
      exact ⟨(k, v) :: front, back, by rw [hrest, List.cons_append],
        fun other => by rw [insert, if_neg hk, hinsert, List.cons_append]⟩

theorem mem_names_of_get? {fields : Fields α} {name : String} {content : α}
    (h : fields.get? name = some content) : name ∈ names fields := by
  obtain ⟨front, back, rfl, -⟩ := exists_place_of_get? h
  simp [names]

/-! ## Dropping a name -/

@[simp] theorem erase_nil (name : String) : erase ([] : Fields α) name = [] := rfl

theorem erase_cons (k name : String) (v : α) (rest : Fields α) :
    erase ((k, v) :: rest) name
      = if k = name then rest.erase name else (k, v) :: rest.erase name := by
  by_cases h : k = name <;> simp [erase, h]

/-- Dropping a name that is not there changes nothing. -/
theorem erase_of_get?_eq_none {fields : Fields α} {name : String}
    (h : fields.get? name = none) : fields.erase name = fields := by
  rw [get?_eq_none_iff] at h
  refine List.filter_eq_self.2 fun field hfield => decide_eq_true fun hname => h ?_
  exact hname ▸ List.mem_map_of_mem hfield

theorem erase_insert_self (fields : Fields α) (name : String) (content : α) :
    (fields.insert name content).erase name = fields.erase name := by
  induction fields with
  | nil => simp [insert, erase_cons]
  | cons field rest ih =>
    obtain ⟨k, v⟩ := field
    by_cases hk : k = name
    · simp [insert, hk, erase_cons]
    · rw [insert, if_neg hk, erase_cons, erase_cons, if_neg hk, if_neg hk, ih]

/-- Of two contents set under one name the second stays. -/
theorem insert_insert_self (fields : Fields α) (name : String) (first second : α) :
    (fields.insert name first).insert name second = fields.insert name second := by
  induction fields with
  | nil => simp [insert]
  | cons field rest ih =>
    obtain ⟨k, v⟩ := field
    by_cases hk : k = name
    · simp [insert, hk]
    · simp [insert, hk, ih]

/-- Setting one name and dropping another one do not touch each other. -/
theorem erase_insert_of_ne {fields : Fields α} {name other : String} (h : name ≠ other)
    (content : α) : (fields.insert name content).erase other
      = (fields.erase other).insert name content := by
  induction fields with
  | nil => simp [insert, erase, h]
  | cons field rest ih =>
    obtain ⟨k, v⟩ := field
    by_cases hk : k = name
    · subst hk
      simp [insert, erase_cons, h]
    · rw [insert, if_neg hk, erase_cons, erase_cons, ih]
      by_cases ho : k = other <;> simp [insert, hk, ho]

/-! ## The names -/

theorem names_insert (fields : Fields α) (name : String) (content : α) :
    names (fields.insert name content)
      = if name ∈ names fields then names fields else names fields ++ [name] := by
  induction fields with
  | nil => simp [insert, names]
  | cons pair rest ih =>
    obtain ⟨k, v⟩ := pair
    simp only [names] at ih
    by_cases h : k = name
    · simp [insert, names, h]
    · by_cases hm : name ∈ rest.map (·.1)
      · simp [insert, names, h, ih, hm]
      · simp [insert, names, h, ih, hm, Ne.symm h]

theorem Distinct.insert {fields : Fields α} (h : fields.Distinct) (name : String) (content : α) :
    (fields.insert name content).Distinct := by
  rw [Distinct, names_insert]
  split
  · exact h
  · next hm => exact List.nodup_append.2 ⟨h, by simp, fun a ha b hb hab => by simp_all⟩

theorem Distinct.erase {fields : Fields α} (h : fields.Distinct) (name : String) :
    (fields.erase name).Distinct :=
  List.Nodup.sublist ((List.filter_sublist).map _) h

/-- **In a map a name has one place**: setting it again and dropping it leave all others as they
are. -/
theorem Distinct.exists_place {fields : Fields α} (h : fields.Distinct) {name : String}
    {content : α} (hget : fields.get? name = some content) :
    ∃ front back, fields = front ++ (name, content) :: back ∧
      (∀ other, fields.insert name other = front ++ (name, other) :: back) ∧
      fields.erase name = front ++ back ∧
      (∀ pair ∈ front, pair.1 ≠ name) ∧ ∀ pair ∈ back, pair.1 ≠ name := by
  obtain ⟨front, back, rfl, hinsert⟩ := exists_place_of_get? hget
  rw [Distinct, names, List.map_append, List.map_cons] at h
  obtain ⟨-, hback, hfront⟩ := List.nodup_append.1 h
  have hbefore : ∀ pair ∈ front, pair.1 ≠ name := fun pair hpair =>
    hfront _ (List.mem_map_of_mem hpair) name List.mem_cons_self
  have hafter : ∀ pair ∈ back, pair.1 ≠ name := by
    rintro pair hpair rfl
    exact (List.nodup_cons.1 hback).1 (List.mem_map.2 ⟨pair, hpair, rfl⟩)
  refine ⟨front, back, rfl, hinsert, ?_, hbefore, hafter⟩
  rw [Fields.erase, List.filter_append, List.filter_cons_of_neg (by simp),
    List.filter_eq_self.2 fun pair hpair => decide_eq_true (hbefore pair hpair),
    List.filter_eq_self.2 fun pair hpair => decide_eq_true (hafter pair hpair)]

/-- **In a map the order does not matter to what a name stands for.** -/
theorem Distinct.get?_of_perm {fields others : Fields α} (h : fields.Distinct)
    (hperm : fields.Perm others) (name : String) : others.get? name = fields.get? name := by
  induction hperm with
  | nil => rfl
  | cons pair _ ih => rw [get?_cons, get?_cons, ih (List.nodup_cons.1 h).2]
  | swap first second rest =>
    have hne : second.1 ≠ first.1 := fun heq =>
      (List.nodup_cons.1 h).1 (List.mem_cons.2 (.inl heq))
    rw [get?_cons, get?_cons, get?_cons, get?_cons]
    by_cases hfirst : first.1 = name
    · rw [if_pos hfirst, if_pos hfirst, if_neg (hfirst ▸ hne)]
    · rw [if_neg hfirst, if_neg hfirst]
  | trans hfirst _ ih ih' =>
    exact (ih' ((hfirst.map Prod.fst).nodup_iff.1 h)).trans (ih h)

/-- Setting another content in a place leaves the other names as they are. -/
theorem get?_place {front back : Fields α} {name other : String} (h : name ≠ other)
    (content content' : α) : get? (front ++ (name, content') :: back) other
      = get? (front ++ (name, content) :: back) other := by
  induction front with
  | nil => rw [List.nil_append, List.nil_append, get?_cons, get?_cons, if_neg h, if_neg h]
  | cons pair rest ih => rw [List.cons_append, List.cons_append, get?_cons, get?_cons, ih]

/-- Pairs that give no name twice are already an association. -/
theorem ofList_of_nodup {pairs : List (String × α)} (h : (pairs.map (·.1)).Nodup) :
    ofList pairs = pairs := by
  have step : ∀ (acc : Fields α), (names acc ++ pairs.map (·.1)).Nodup →
      pairs.foldl (fun fields pair => fields.insert pair.1 pair.2) acc = acc ++ pairs := by
    clear h
    induction pairs with
    | nil => exact fun acc _ => (List.append_nil acc).symm
    | cons pair rest ih =>
      intro acc hacc
      have hnew : acc.get? pair.1 = none := by
        rw [get?_eq_none_iff]
        exact fun hm => (List.nodup_append.1 hacc).2.2 _ hm _ (by simp) rfl
      rw [List.foldl_cons, insert_of_get?_eq_none hnew, ih _ (by simpa [names] using hacc),
        List.append_assoc, List.singleton_append]
  exact step [] h

end Fields

end KeysetStore
