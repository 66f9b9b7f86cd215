import KeysetStore.Proofs.FreeTextSearch

/-!
# Proofs/CompiledSelector — a compiled selector means the conjunction of its parts

A request has up to four parts: the filter of the caller, a search term, the owner, and the document
to continue after (`requestParts`, `Keyset.after`).  Search and keyset are spliced into the
conjunction of the filter, and the owner is set over the filter's own entry for its field.

Setting an entry of a map exchanges one part of a conjunction for another one
(`Document.meets_ownedBy`), and it does not touch a conjunction that is spliced elsewhere
(`Document.conjoin_disowned`).  So the outcome is the conjunction of the parts, whatever conjunction
or disjunction the filter brings along (`continueAfter_compiled`).
-/

namespace KeysetStore

/-! ## Setting the owner -/

/-- A document without the field of an owner. -/
def Document.disowned (d : Document) : Option (String × Value) → Document
  | none => d
  | some (field, _) => Fields.erase d field

namespace Document

variable {d selector clause narrowed : Document} {owner : Option (String × Value)} {x y : Bool}

/-- **Setting an entry of a map**: the entry holds beside all others, in its old place or at the
end. -/
theorem meets_insert (hselector : Fields.Distinct selector) {name : String} {v : Value}
    (hothers : d.meets (Fields.erase selector name) = .ok x)
    (hentry : d.meetsEntry name v = .ok y) :
    d.meets (Fields.insert selector name v) = .ok (x && y) := by
  cases hget : Fields.get? selector name with
  | none =>
    rw [Fields.erase_of_get?_eq_none hget] at hothers
    rw [Fields.insert_of_get?_eq_none hget]
    exact meets_append_eq_ok_iff.2 ⟨x, y, hothers, meets_singleton hentry, rfl⟩
  | some old =>
    obtain ⟨front, back, -, hinsert, herase, -⟩ := hselector.exists_place hget
    rw [herase] at hothers
    obtain ⟨a, b, ha, hb, rfl⟩ := meets_append_eq_ok_iff.1 hothers
    rw [hinsert]
    refine meets_place.2 ⟨a, y, b, ha, hentry, hb, ?_⟩
    rw [Bool.and_assoc, Bool.and_comm b y]

/-- **A selector restricted to an owner** is the conjunction of the rest of it and the owner's
clause. -/
theorem meets_ownedBy (hselector : Fields.Distinct selector)
    (hothers : d.meets (selector.disowned owner) = .ok x)
    (howner : d.meets (ownedBy [] owner) = .ok y) :
    d.meets (selector.ownedBy owner) = .ok (x && y) := by
  cases owner with
  | none =>
    obtain rfl : true = y := Except.ok.inj howner
    rwa [Bool.and_true]
  | some entry =>
    obtain ⟨z, _, hz, htrue, rfl⟩ := meets_cons_eq_ok_iff.1 howner
    obtain rfl := Except.ok.inj htrue
    rw [Bool.and_true]
    exact meets_insert hselector hothers hz

/-- **A conjunct is spliced in beside the owner's field**, whether that is there or not. -/
theorem conjoin_disowned (howner : ∀ entry ∈ owner, isOperator entry.1 = false)
    (h : conjoin selector clause = .ok narrowed) :
    conjoin (selector.disowned owner) clause = .ok (narrowed.disowned owner) := by
  cases owner with
  | none => exact h
  | some entry =>
    obtain ⟨field, v⟩ := entry
    have hne : field ≠ "$and" := by
      rintro rfl
      exact absurd (show isOperator "$and" = false from howner _ rfl) (by decide)
    unfold conjoin at h ⊢
    simp only [disowned, Fields.get?_erase, if_neg hne]
    split at h
    · obtain rfl := Except.ok.inj h
      rw [Fields.erase_insert_of_ne hne.symm]
    · obtain rfl := Except.ok.inj h
      rw [Fields.erase_insert_of_ne hne.symm]
    · cases h

theorem distinct_conjoin (hselector : Fields.Distinct selector)
    (h : conjoin selector clause = .ok narrowed) : Fields.Distinct narrowed := by
  unfold conjoin at h
  split at h
  · exact Except.ok.inj h ▸ hselector.insert _ _
  · exact Except.ok.inj h ▸ hselector.insert _ _
  · cases h

theorem get?_disowned_eq_some {name : String} {v : Value}
    (h : Fields.get? (selector.disowned owner) name = some v) :
    Fields.get? (selector.ownedBy owner) name = some v := by
  cases owner with
  | none => exact h
  | some entry =>
    obtain ⟨field, value⟩ := entry
    rw [disowned, Fields.get?_erase] at h
    rw [ownedBy, Fields.get?_insert]
    split at h
    · cases h
    · next hne => rwa [if_neg hne]

end Document

/-! ## The parts of a request -/

/-- The clause that the search term of a filter stands for, if any. -/
def searchPart? (searchable : List String) (filter : Document) : Option Document :=
  (Fields.get? filter searchKey).bind fun term => (searchOf searchable term).toOption.join

/-- A filter apart from its search term and from the field of the owner. -/
def filterPart (owner : Option (String × Value)) (filter : Document) : Document :=
  Document.disowned (Fields.erase filter searchKey) owner

/-- **The parts of a request**: its filter, its search and its owner. -/
def requestParts (searchable : List String) (owner : Option (String × Value))
    (filter : Document) : List Document :=
  filterPart owner filter :: ((searchPart? searchable filter).toList
    ++ (owner.map fun entry => [entry]).toList)

/-- A filter with its search is the rest of the filter, with the clause of the search as a conjunct
if there is one. -/
theorem searchedFilter_eq_ok {searchable : List String} {filter searched : Document}
    (h : searchedFilter searchable filter = .ok searched) :
    match searchPart? searchable filter with
    | none => searched = Fields.erase filter searchKey
    | some clause => Document.conjoin (Fields.erase filter searchKey) clause = .ok searched := by
  rw [searchedFilter] at h
  rw [searchPart?]
  cases hterm : Fields.get? filter searchKey with
  | none =>
    rw [hterm] at h
    rw [Fields.erase_of_get?_eq_none hterm]
    exact (Except.ok.inj h).symm
  | some term =>
    rw [hterm] at h
    dsimp only at h
    rw [Option.bind_some]
    cases hsearch : searchOf searchable term with
    | error e =>
      rw [hsearch] at h
      cases h
    | ok clause? =>
      rw [hsearch] at h
      cases clause? with
      | none => exact (Except.ok.inj h).symm
      | some clause => exact h

section Compiled

variable {searchable : List String} {owner : Option (String × Value)} {filter : Option Document}
  {selector d : Document}

/-- The clause of an owner holds where the part of the owner does, if there is one. -/
theorem meets_ownerPart
    (h : ∀ part ∈ (owner.map fun entry => [entry]).toList, ∃ b, d.meets part = .ok b) :
    d.meets (Document.ownedBy [] owner)
      = .ok ((owner.map fun entry => [entry]).toList.all (Document.fits · d)) := by
  cases owner with
  | none => rfl
  | some entry =>
    have hentry := Document.meets_eq_fits (h [entry] (by simp))
    simp [Document.ownedBy, Fields.insert, hentry]

/-- **A compiled selector can be evaluated where its parts can, and holds where all of them do.** -/
theorem meets_scopedSelector (hfilter : Fields.Distinct (filter.getD []))
    (howner : ∀ entry ∈ owner, isOperator entry.1 = false)
    (hselector : scopedSelector searchable owner filter = .ok selector)
    (hparts : ∀ part ∈ requestParts searchable owner (filter.getD []),
      ∃ b, d.meets part = .ok b) :
    d.meets selector
      = .ok ((requestParts searchable owner (filter.getD [])).all (Document.fits · d)) := by
  obtain ⟨searched, hsearched, rfl⟩ := map_eq_ok_iff.1 hselector
  have hdistinct := hfilter.erase searchKey
  have hsearch := searchedFilter_eq_ok hsearched
  rw [requestParts] at hparts ⊢
  have hrest := Document.meets_eq_fits (hparts _ List.mem_cons_self)
  have hscope := meets_ownerPart fun part hpart =>
    hparts part (List.mem_cons_of_mem _ (List.mem_append_right _ hpart))
  rw [List.all_cons, List.all_append, ← Bool.and_assoc]
  cases hpart : searchPart? searchable (filter.getD []) with
  | none =>
    rw [hpart] at hsearch
    subst hsearch
    rw [Option.toList_none, List.all_nil, Bool.and_true]
    exact Document.meets_ownedBy hdistinct hrest hscope
  | some clause =>
    rw [hpart] at hsearch
    have hclause := Document.meets_eq_fits (hparts clause (by simp [hpart]))
    refine Document.meets_ownedBy (Document.distinct_conjoin hdistinct hsearch) ?_ hscope
    rw [Document.meets_conjoin hrest hclause (Document.conjoin_disowned howner hsearch)]
    simp

/-- **What a filter asks under a name stays as it is**, but for its conjunction. -/
theorem get?_scopedSelector_of_filterPart (howner : ∀ entry ∈ owner, isOperator entry.1 = false)
    (hselector : scopedSelector searchable owner filter = .ok selector) {name : String} {v : Value}
    (hname : name ≠ "$and")
    (h : Fields.get? (filterPart owner (filter.getD [])) name = some v) :
    Fields.get? selector name = some v := by
  obtain ⟨searched, hsearched, rfl⟩ := map_eq_ok_iff.1 hselector
  refine Document.get?_disowned_eq_some ?_
  have hsearch := searchedFilter_eq_ok hsearched
  cases hpart : searchPart? searchable (filter.getD []) with
  | none =>
    rw [hpart] at hsearch
    exact hsearch ▸ h
  | some clause =>
    rw [hpart] at hsearch
    rw [Document.get?_conjoin (Document.conjoin_disowned howner hsearch) hname]
    exact h

/-- **A compiled selector that continues after a document means the conjunction of its parts**: the
filter, its search, its owner, and what comes after the document.  Where all of them can be
evaluated, so can the selector, and it holds where all of them do.  What the filter asks under a
name stays as it is, but for its conjunction.  The filter is a map, so it names each field once. -/
theorem continueAfter_compiled {order : SortOrder} {reference : Document}
    (hfilter : Fields.Distinct (filter.getD []))
    (howner : ∀ entry ∈ owner, isOperator entry.1 = false)
    (hselector : scopedSelector searchable owner filter = .ok selector)
    (hparts : ∀ part ∈ requestParts searchable owner (filter.getD [])
        ++ [Keyset.after order reference], ∃ b, d.meets part = .ok b) :
    ∃ narrowed, Keyset.continueAfter selector order reference = .ok narrowed ∧
      d.meets narrowed = .ok ((requestParts searchable owner (filter.getD [])
        ++ [Keyset.after order reference]).all (Document.fits · d)) ∧
      ∀ name v, name ≠ "$and" →
        Fields.get? (filterPart owner (filter.getD [])) name = some v →
        Fields.get? narrowed name = some v := by
  have hmeets := meets_scopedSelector hfilter howner hselector
    fun part hpart => hparts part (List.mem_append_left _ hpart)
  have hafter := Document.meets_eq_fits (hparts (Keyset.after order reference) (by simp))
  obtain ⟨narrowed, hnarrowed⟩ := Document.exists_conjoin hmeets (Keyset.after order reference)
  refine ⟨narrowed, hnarrowed, ?_, fun name v hname hget => ?_⟩
  · rw [Document.meets_conjoin hmeets hafter hnarrowed]
    simp
  · rw [Document.get?_conjoin hnarrowed hname]
    exact get?_scopedSelector_of_filterPart howner hselector hname hget

end Compiled

namespace Shelf

/-- A search for a term among the products under 100.  The filter has a conjunction of its own, and
asks for the field of the owner in a way that could not be evaluated. -/
def searchedBooks : Document :=
  [("q", .string "C++"), ("$and", .array [.document [("category", .string "books")]]),
    ("userId", .document [("$near", .int32 1)]), ("price", .document [("$lt", .int32 100)])]

/-- The dearest first. -/
def dearestFirst : SortOrder := SortOrder.compile [.descending "price"] "id"

/-- A product for 20. -/
def shownLast : Document := [("_id", .objectId (.ofNat 1)), ("price", .int32 20)]

/-- A cheaper product, with the term in its name. -/
def primer : Document :=
  [("_id", .objectId (.ofNat 2)), ("userId", .string "alice"), ("category", .string "books"),
    ("price", .int32 5), ("name", .string "A c++ primer")]

theorem meets_parts :
    ∀ part ∈ requestParts ["name"] (some ("userId", .string "alice")) searchedBooks
      ++ [Keyset.after dearestFirst shownLast], primer.meets part = .ok true := by
  have hsearch : primer.meets (searchClause ["name"] "C++") = .ok true := by
    obtain ⟨p, hp, hmatch⟩ := Pattern.isMatch_escape ofText_escape_ne_size
    rw [meets_searchClause (by simp) (by decide) hp]
    refine congrArg _ (List.any_eq_true.2 ⟨"name", by simp, ?_⟩)
    refine (isMatchAt_iff hmatch).2 ⟨_, rfl, .text ⟨['c', '+', '+'], ?_, by decide⟩⟩
    exact ⟨"A ".toList, " primer".toList, by decide⟩
  have hlist : requestParts ["name"] (some ("userId", .string "alice")) searchedBooks
      ++ [Keyset.after dearestFirst shownLast]
      = [[("$and", .array [.document [("category", .string "books")]]),
          ("price", .document [("$lt", .int32 100)])], searchClause ["name"] "C++",
        [("userId", .string "alice")], Keyset.after dearestFirst shownLast] := rfl
  rw [hlist]
  simp only [List.forall_mem_cons]
  exact ⟨rfl, hsearch, rfl, rfl, nofun⟩

/-- **The search of one owner continued after a product**: all parts hold of the cheaper one. -/
theorem continueAfter_searched :
    ∃ selector narrowed,
      scopedSelector ["name"] (some ("userId", .string "alice")) (some searchedBooks)
        = .ok selector ∧
      Keyset.continueAfter selector dearestFirst shownLast = .ok narrowed ∧
      primer.meets narrowed = .ok true ∧
      Fields.get? narrowed "price" = some (.document [("$lt", .int32 100)]) := by
  have hdistinct : Fields.Distinct ((some searchedBooks).getD []) := by
    unfold Fields.Distinct
    decide
  have howner : ∀ entry ∈ some ("userId", Value.string "alice"), isOperator entry.1 = false := by
    rintro _ ⟨⟩
    decide
  obtain ⟨narrowed, hnarrowed, hmeets, hget⟩ := continueAfter_compiled hdistinct howner rfl
    fun part hpart => ⟨true, meets_parts part hpart⟩
  refine ⟨_, narrowed, rfl, hnarrowed, hmeets.trans (congrArg _ ?_), hget _ _ (by decide) rfl⟩
  exact List.all_eq_true.2 fun part hpart => Document.fits_of_meets (meets_parts part hpart)

end Shelf

end KeysetStore
