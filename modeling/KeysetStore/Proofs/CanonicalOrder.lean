import KeysetStore.Proofs.CompiledOrder

/-!
# Proofs/CanonicalOrder — compiling an order makes it canonical and keeps what it says

A compiled order is its specification with the primary key moved to the end and every later mention
of a field left out (`SortOrder.keys_compile`).  What is left is determined by the first mentions
alone (`SortOrder.Canonical`), so compiling once more changes nothing.

A later mention of a field never decides: it comes up only where the first one ties, and there it
ties as well (`compareBy_firstMentions`).  So a compiled order compares as the specification does
with the primary key at its end (`SortOrder.Faithful`), whatever values the documents have: a field
that ties does so in either direction, also where a NaN is compared.
-/

namespace KeysetStore

/-! ## First mentions -/

namespace SortKey

variable {keys front back : List SortKey} {key : SortKey} {field : String}

theorem find?_firstMentions (keys : List SortKey) (field : String) :
    (firstMentions keys).find? (·.field = field) = keys.find? (·.field = field) := by
  induction keys with
  | nil => rfl
  | cons first rest ih =>
    rw [firstMentions, List.find?_cons, List.find?_cons]
    by_cases hfirst : first.field = field
    · simp [hfirst]
    · simp only [hfirst, decide_false]
      rw [List.find?_filter, ← ih]
      congr 1
      funext key
      by_cases hkey : key.field = field <;> simp [hkey, Ne.symm hfirst]

/-- Under fields named once, a key is the one its field finds. -/
theorem mem_iff_find? (h : (keys.map (·.field)).Nodup) :
    key ∈ keys ↔ keys.find? (·.field = key.field) = some key := by
  refine ⟨fun hkey => ?_, List.mem_of_find?_eq_some⟩
  induction keys with
  | nil => cases hkey
  | cons first rest ih =>
    obtain ⟨hfirst, hrest⟩ := List.nodup_cons.1 h
    rcases List.mem_cons.1 hkey with rfl | hkey
    · simp
    · have hne : first.field ≠ key.field := fun heq =>
        hfirst (List.mem_map.2 ⟨key, hkey, heq.symm⟩)
      rw [List.find?_cons_of_neg (by simpa using hne)]
      exact ih hrest hkey

/-- **The first mentions** are the keys that their fields find. -/
theorem mem_firstMentions :
    key ∈ firstMentions keys ↔ keys.find? (·.field = key.field) = some key := by
  rw [mem_iff_find? (nodup_firstMentions keys), find?_firstMentions]

/-- **The first mentions come in the order in which they are found.** -/
theorem pairwise_firstMentions (keys : List SortKey) :
    (firstMentions keys).Pairwise fun a b =>
      keys.findIdx (·.field = a.field) < keys.findIdx (·.field = b.field) := by
  induction keys with
  | nil => exact .nil
  | cons first rest ih =>
    have hne {key : SortKey} (hkey : key ∈ (firstMentions rest).filter (·.field ≠ first.field)) :
        first.field ≠ key.field := Ne.symm (by simpa using (List.mem_filter.1 hkey).2)
    refine .cons (fun b hb => ?_) ?_
    · simp [List.findIdx_cons, hne hb]
    · refine (ih.sublist List.filter_sublist).imp_of_mem fun {a b} ha hb hab => ?_
      simpa [List.findIdx_cons, hne ha, hne hb] using hab

theorem firstMentions_of_nodup (h : (keys.map (·.field)).Nodup) : firstMentions keys = keys := by
  induction keys with
  | nil => rfl
  | cons first rest ih =>
    obtain ⟨hfirst, hrest⟩ := List.nodup_cons.1 h
    rw [firstMentions, ih hrest, List.filter_eq_self.2 fun key hkey => ?_]
    have hne : key.field ≠ first.field := fun heq => hfirst (List.mem_map.2 ⟨key, hkey, heq⟩)
    simpa using hne

/-- Keys of one field come down to the first of them. -/
theorem firstMentions_of_forall (h : ∀ key ∈ keys, key.field = field) :
    firstMentions keys = keys.head?.toList := by
  cases keys with
  | nil => rfl
  | cons first rest =>
    rw [firstMentions, List.filter_eq_nil_iff.2 fun key hkey => ?_]
    · rfl
    · have hkey := List.mem_cons_of_mem first (mem_of_mem_firstMentions hkey)
      simp [h key hkey, h first List.mem_cons_self]

/-- Where two specifications share no field, each keeps its own first mentions. -/
theorem firstMentions_append (h : ∀ a ∈ front, ∀ b ∈ back, a.field ≠ b.field) :
    firstMentions (front ++ back) = firstMentions front ++ firstMentions back := by
  induction front with
  | nil => rfl
  | cons first rest ih =>
    have hback : (firstMentions back).filter (·.field ≠ first.field) = firstMentions back := by
      refine List.filter_eq_self.2 fun key hkey => ?_
      simpa using (h first List.mem_cons_self key (mem_of_mem_firstMentions hkey)).symm
    rw [List.cons_append, firstMentions, ih fun a ha => h a (List.mem_cons_of_mem _ ha),
      List.filter_append, hback, firstMentions, List.cons_append]

end SortKey

/-! ## Comparing under first mentions -/

section Compare

variable {a b : Document} {keys : List SortKey} {field : String}

theorem compareBy_append (front back : List SortKey) (a b : Document) :
    compareBy (front ++ back) a b = (compareBy front a b).then (compareBy back a b) := by
  induction front with
  | nil => rfl
  | cons key rest ih => rw [List.cons_append, compareBy, compareBy, ih, Ordering.then_assoc]

/-- A field that ties does not decide, wherever it is named. -/
theorem compareBy_filter_of_tie (h : (a.orderKeyAt field).compare (b.orderKeyAt field) = .eq)
    (keys : List SortKey) :
    compareBy (keys.filter (·.field ≠ field)) a b = compareBy keys a b := by
  induction keys with
  | nil => rfl
  | cons key rest ih =>
    by_cases hkey : key.field = field
    · have htie : key.direction.apply
          ((a.orderKeyAt key.field).compare (b.orderKeyAt key.field)) = .eq := by
        rw [hkey, h]
        cases key.direction <;> rfl
      rw [List.filter_cons_of_neg (by simp [hkey]), ih, compareBy, htie, Ordering.eq_then]
    · rw [List.filter_cons_of_pos (by simp [hkey]), compareBy, compareBy, ih]

/-- **Later mentions of a field never decide.** -/
theorem compareBy_firstMentions (keys : List SortKey) (a b : Document) :
    compareBy (SortKey.firstMentions keys) a b = compareBy keys a b := by
  induction keys with
  | nil => rfl
  | cons key rest ih =>
    rw [SortKey.firstMentions, compareBy, compareBy, ← ih]
    cases htie : (a.orderKeyAt key.field).compare (b.orderKeyAt key.field) with
    | eq => rw [compareBy_filter_of_tie htie]
    | lt => cases key.direction <;> rfl
    | gt => cases key.direction <;> rfl

end Compare

/-! ## Compiling -/

namespace SortOrder

variable {spec : List SortKey} {idField : String}

/-- **A specification with the primary key at its end**: every mention of it moves there, and where
there is none, one is added. -/
def idLast (spec : List SortKey) (idField : String) : List SortKey :=
  let keys := named spec idField
  keys.filter (·.field ≠ primaryKey) ++
    match keys.filter (·.field = primaryKey) with
    | [] => [.ascending primaryKey]
    | ids => ids

/-- **A compiled order is the first mentions of its specification**, with the primary key at the
end. -/
theorem keys_compile (spec : List SortKey) (idField : String) :
    (compile spec idField).keys = SortKey.firstMentions (idLast spec idField) := by
  have hothers : ∀ key ∈ (named spec idField).filter (·.field ≠ primaryKey),
      key.field ≠ primaryKey := fun key hkey => by simpa using (List.mem_filter.1 hkey).2
  have hids : ∀ key ∈ (named spec idField).filter (·.field = primaryKey),
      key.field = primaryKey := fun key hkey => by simpa using (List.mem_filter.1 hkey).2
  rw [compile, idLast, ← List.head?_filter]
  dsimp only
  cases hfilter : (named spec idField).filter (·.field = primaryKey) with
  | nil =>
    rw [SortKey.firstMentions_append]
    · rfl
    · rintro a ha _ (_ | ⟨_, ⟨⟩⟩)
      exact hothers a ha
  | cons first rest =>
    rw [hfilter] at hids
    have hfirst : first = ⟨primaryKey, first.direction⟩ := by
      rw [← hids first List.mem_cons_self]
    rw [SortKey.firstMentions_append fun a ha b hb => hids b hb ▸ hothers a ha,
      SortKey.firstMentions_of_forall hids, List.head?_cons, Option.toList_some, hfirst]
    rfl

theorem named_cons (key : SortKey) (rest : List SortKey) (idField : String) :
    named (key :: rest) idField
      = (if key.field = idField then { key with field := primaryKey } else key)
        :: named rest idField := rfl

/-- The keys of the fields other than the primary key, under either of its names. -/
theorem filter_named (spec : List SortKey) (idField : String) :
    (named spec idField).filter (·.field ≠ primaryKey)
      = spec.filter fun key => key.field ≠ idField ∧ key.field ≠ primaryKey := by
  induction spec with
  | nil => rfl
  | cons key rest ih =>
    rw [named_cons, List.filter_cons, List.filter_cons, ih]
    by_cases hid : key.field = idField
    · simp [hid]
    · simp [hid]

/-- The first mention of the primary key, under either of its names. -/
theorem find?_named (spec : List SortKey) (idField : String) :
    ((named spec idField).find? (·.field = primaryKey)).map (·.direction)
      = (spec.find? fun key => key.field = idField ∨ key.field = primaryKey).map (·.direction) := by
  induction spec with
  | nil => rfl
  | cons key rest ih =>
    rw [named_cons, List.find?_cons, List.find?_cons]
    by_cases hid : key.field = idField
    · simp [hid]
    · rw [if_neg hid]
      by_cases hkey : key.field = primaryKey
      · simp [hkey]
      · simpa [hid, hkey] using ih

/-- **The keys are canonical for a specification**: each field once, the primary key last in the
direction of its first mention, and before it the first mentions of the other fields, in order. -/
structure Canonical (spec : List SortKey) (idField : String) (keys : List SortKey) : Prop where
  distinct : (keys.map (·.field)).Nodup
  last : keys.getLast? = some ⟨primaryKey,
    ((spec.find? fun key => key.field = idField ∨ key.field = primaryKey).map
      (·.direction)).getD .ascending⟩
  others : ∀ key, key.field ≠ primaryKey →
    (key ∈ keys ↔ key.field ≠ idField ∧ spec.find? (·.field = key.field) = some key)
  inOrder : keys.dropLast.Pairwise fun a b =>
    spec.findIdx (·.field = a.field) < spec.findIdx (·.field = b.field)

namespace Canonical

variable {keys others : List SortKey} {key : SortKey}

theorem mem_dropLast (h : Canonical spec idField keys) :
    key ∈ keys.dropLast
      ↔ key.field ≠ primaryKey ∧ key.field ≠ idField ∧
        spec.find? (·.field = key.field) = some key := by
  obtain ⟨front, hkeys⟩ := List.getLast?_eq_some_iff.1 h.last
  have hdistinct := h.distinct
  rw [hkeys, List.map_append, List.nodup_append] at hdistinct
  have hfront : ∀ other ∈ front, other.field ≠ primaryKey := fun other hother =>
    hdistinct.2.2 _ (List.mem_map_of_mem hother) _ List.mem_cons_self
  rw [hkeys, List.dropLast_concat]
  constructor
  · intro hkey
    refine ⟨hfront key hkey, (h.others key (hfront key hkey)).1 ?_⟩
    rw [hkeys]
    exact List.mem_append_left _ hkey
  · rintro ⟨hprimary, hfound⟩
    have hkey := (h.others key hprimary).2 hfound
    rw [hkeys, List.mem_append, List.mem_singleton] at hkey
    refine hkey.resolve_right fun hlast => hprimary ?_
    rw [hlast]

/-- **A specification has one canonical list of keys.** -/
theorem unique (h : Canonical spec idField keys) (hothers : Canonical spec idField others) :
    keys = others := by
  have hnodup {keys : List SortKey} (h : Canonical spec idField keys) : keys.dropLast.Nodup :=
    ((List.pairwise_map.1 h.distinct).imp fun hne heq => hne (congrArg _ heq)).sublist
      (List.dropLast_sublist _)
  have hperm : keys.dropLast.Perm others.dropLast :=
    (List.perm_ext_iff_of_nodup (hnodup h) (hnodup hothers)).2 fun key => by
      rw [h.mem_dropLast, hothers.mem_dropLast]
  have hfront : keys.dropLast = others.dropLast :=
    hperm.eq_of_pairwise (fun _ _ _ _ hab hba => absurd hba (Nat.lt_asymm hab)) h.inOrder
      hothers.inOrder
  obtain ⟨front, hkeys⟩ := List.getLast?_eq_some_iff.1 h.last
  obtain ⟨back, hback⟩ := List.getLast?_eq_some_iff.1 hothers.last
  rw [hkeys, hback, List.dropLast_concat, List.dropLast_concat] at hfront
  rw [hkeys, hback, hfront]

end Canonical

/-- What is found among the other fields is found in the specification. -/
theorem find?_filter_eq_some_iff {key : SortKey} (hkey : key.field ≠ primaryKey) :
    (spec.filter fun other => other.field ≠ idField ∧ other.field ≠ primaryKey).find?
        (·.field = key.field) = some key
      ↔ key.field ≠ idField ∧ spec.find? (·.field = key.field) = some key := by
  rw [List.find?_filter]
  by_cases hid : key.field = idField
  · refine iff_of_false (fun h => ?_) fun h => h.1 hid
    simpa [hid] using List.find?_some h
  · have hsame : (fun other : SortKey => decide (decide (other.field ≠ idField ∧
        other.field ≠ primaryKey) = true ∧ decide (other.field = key.field) = true))
        = fun other => decide (other.field = key.field) := by
      funext other
      by_cases hother : other.field = key.field <;> simp [hother, hid, hkey]
    rw [hsame]
    exact (and_iff_right hid).symm

/-- What is left of a list keeps its order. -/
theorem findIdx_lt_of_filter {p q r : SortKey → Bool} (hr : ∀ key, r key = true → p key = true)
    {keys : List SortKey} (h : (keys.filter p).findIdx q < (keys.filter p).findIdx r) :
    keys.findIdx q < keys.findIdx r := by
  induction keys with
  | nil => exact h
  | cons key rest ih =>
    rw [List.findIdx_cons, List.findIdx_cons]
    rw [List.filter_cons] at h
    cases hp : p key with
    | true =>
      rw [if_pos hp, List.findIdx_cons, List.findIdx_cons] at h
      cases hfirst : q key <;> cases hsecond : r key <;> rw [hfirst, hsecond] at h
      · exact Nat.succ_lt_succ (ih (Nat.lt_of_succ_lt_succ h))
      · exact absurd h (Nat.not_lt_zero _)
      · exact Nat.succ_pos _
      · exact h
    | false =>
      have hsecond : r key = false := by simpa [hp] using mt (hr key)
      rw [hp, if_neg Bool.false_ne_true] at h
      rw [hsecond]
      cases q key
      · exact Nat.succ_lt_succ (ih h)
      · exact Nat.succ_pos _

/-- **Compiled keys are canonical.** -/
theorem canonical_compile (spec : List SortKey) (idField : String) :
    Canonical spec idField (compile spec idField).keys where
  distinct := nodup_fields_compile spec idField
  last := by rw [← find?_named, compile, List.getLast?_concat]
  others key hkey := by
    rw [compile, List.mem_append, filter_named, SortKey.mem_firstMentions,
      find?_filter_eq_some_iff hkey]
    refine or_iff_left fun hlast => hkey ?_
    rw [List.mem_singleton.1 hlast]
  inOrder := by
    rw [compile, List.dropLast_concat, filter_named]
    refine (SortKey.pairwise_firstMentions _).imp_of_mem fun {a b} _ hb hab => ?_
    have hfilter := (List.mem_filter.1 (SortKey.mem_of_mem_firstMentions hb)).2
    refine findIdx_lt_of_filter (fun key hkey => ?_) hab
    rw [of_decide_eq_true hkey]
    exact hfilter

theorem named_compile (spec : List SortKey) (idField : String) :
    named (compile spec idField).keys idField = (compile spec idField).keys := by
  refine (List.map_congr_left fun key hkey => ?_).trans (List.map_id _)
  split
  · next hid =>
    by_cases hprimary : key.field = primaryKey
    · rw [← hprimary]
      rfl
    · exact absurd hid (((canonical_compile spec idField).others key hprimary).1 hkey).1
  · rfl

/-- **Compiling a compiled order changes nothing.** -/
theorem compile_keys_compile (spec : List SortKey) (idField : String) :
    compile (compile spec idField).keys idField = compile spec idField := by
  obtain ⟨others, direction, hkeys, hothers⟩ := exists_compile_eq spec idField
  have hlast : idLast (compile spec idField).keys idField = (compile spec idField).keys := by
    have hkept : others.filter (·.field ≠ primaryKey) = others :=
      List.filter_eq_self.2 fun key hkey => by simpa using hothers key hkey
    have hmoved : others.filter (·.field = primaryKey) = [] :=
      List.filter_eq_nil_iff.2 fun key hkey => by simpa using hothers key hkey
    rw [idLast, named_compile, hkeys, List.filter_append, List.filter_append, hkept, hmoved]
    simp
  have hcompiled := keys_compile (compile spec idField).keys idField
  rw [hlast, SortKey.firstMentions_of_nodup (nodup_fields_compile spec idField)] at hcompiled
  exact congrArg SortOrder.mk hcompiled

/-- **The sort document of a compiled order compiles to the order.** -/
theorem ofDocument_toDocument (spec : List SortKey) (idField : String) :
    ofDocument (compile spec idField).toDocument idField = .ok (compile spec idField) := by
  rw [ofDocument, ofDocument_toDocument_compile]
  exact congrArg Except.ok (compile_keys_compile spec idField)

/-! ## Comparing under a compiled order -/

/-- **A compiled order compares as its specification does** with the primary key at the end. -/
theorem compareBy_compile (spec : List SortKey) (idField : String) (a b : Document) :
    compareBy (compile spec idField).keys a b = compareBy (idLast spec idField) a b := by
  rw [keys_compile, compareBy_firstMentions]

/-- Where nothing but the primary key follows a mention of it, moving it changes nothing. -/
theorem filter_append_filter {keys : List SortKey}
    (h : keys.Pairwise fun a b => a.field = primaryKey → b.field = primaryKey) :
    keys.filter (·.field ≠ primaryKey) ++ keys.filter (·.field = primaryKey) = keys := by
  induction keys with
  | nil => rfl
  | cons key rest ih =>
    obtain ⟨hkey, hrest⟩ := List.pairwise_cons.1 h
    by_cases hprimary : key.field = primaryKey
    · have hids : ∀ other ∈ key :: rest, other.field = primaryKey := by
        rintro other (_ | ⟨_, hother⟩)
        · exact hprimary
        · exact hkey other hother hprimary
      rw [List.filter_eq_nil_iff.2 fun other hother => by simpa using hids other hother,
        List.filter_eq_self.2 fun other hother => by simpa using hids other hother, List.nil_append]
    · rw [List.filter_cons_of_pos (by simpa using hprimary),
        List.filter_cons_of_neg (by simpa using hprimary), List.cons_append, ih hrest]

/-- **What a specification orders strictly stays in that order**, where nothing but the primary key
follows a mention of it. -/
theorem compareBy_compile_of_strict {a b : Document}
    (h : (named spec idField).Pairwise fun a b => a.field = primaryKey → b.field = primaryKey)
    (hstrict : compareBy (named spec idField) a b ≠ .eq) :
    compareBy (compile spec idField).keys a b = compareBy (named spec idField) a b := by
  have hkeys := filter_append_filter h
  rw [compareBy_compile, idLast]
  split
  · next hnone =>
    rw [hnone, List.append_nil] at hkeys
    rw [hkeys, compareBy_append]
    cases hfirst : compareBy (named spec idField) a b
    · rfl
    · exact absurd hfirst hstrict
    · rfl
  · rw [hkeys]

/-- **An order compares as a specification does** with the primary key at its end.  It keeps what
the specification orders strictly, where nothing but the primary key follows a mention of it, and it
tells documents with different keys apart. -/
structure Faithful (spec : List SortKey) (idField : String) (order : SortOrder) : Prop where
  compares : ∀ a b, compareBy order.keys a b = compareBy (idLast spec idField) a b
  strict : (named spec idField).Pairwise (fun a b => a.field = primaryKey → b.field = primaryKey) →
    ∀ a b, compareBy (named spec idField) a b ≠ .eq →
      compareBy order.keys a b = compareBy (named spec idField) a b
  apart : ∀ a b i j, a.key? = some i → b.key? = some j → i ≠ j → compareBy order.keys a b ≠ .eq

/-- **Compiling makes an order canonical and keeps what it says.**  The keys are the canonical ones;
compiling them once more gives the same order, and so does the sort document. -/
theorem compile_canonical_faithful (spec : List SortKey) (idField : String) :
    Canonical spec idField (compile spec idField).keys ∧
    compile (compile spec idField).keys idField = compile spec idField ∧
    ofDocument (compile spec idField).toDocument idField = .ok (compile spec idField) ∧
    Faithful spec idField (compile spec idField) := by
  refine ⟨canonical_compile spec idField, compile_keys_compile spec idField,
    ofDocument_toDocument spec idField, compareBy_compile spec idField,
    fun h a b => compareBy_compile_of_strict h, fun a b i j ha hb hij => ?_⟩
  obtain ⟨others, direction, hkeys, -⟩ := exists_compile_eq spec idField
  rw [hkeys]
  exact compareBy_ne_eq_of_key? ha hb hij

/-- The dearest first, then the latest: the price is named twice, the identifier under both of its
names.  Two documents keep their order by price; two of the same price do not tie. -/
theorem compile_canonical_faithful_dearest :
    let spec : List SortKey :=
      [.descending "price", .ascending "price", .descending "id", .ascending "_id"]
    let cheap : Document := [("_id", .objectId (.ofNat 1)), ("price", .int32 5)]
    let dear : Document := [("_id", .objectId (.ofNat 2)), ("price", .int32 9)]
    let other : Document := [("_id", .objectId (.ofNat 3)), ("price", .int32 9)]
    (compile spec "id").keys = [.descending "price", .descending "_id"] ∧
    compareBy (compile spec "id").keys dear cheap = .lt ∧
    compareBy (compile spec "id").keys dear other ≠ .eq := by
  intro spec cheap dear other
  obtain ⟨-, -, -, hfaithful⟩ := compile_canonical_faithful spec "id"
  refine ⟨by decide, ?_, hfaithful.apart dear other _ _ rfl rfl (by decide)⟩
  have hspec : compareBy (named spec "id") dear cheap = .lt := rfl
  rw [hfaithful.strict (by decide) dear cheap (by simp [hspec]), hspec]

end SortOrder

end KeysetStore
