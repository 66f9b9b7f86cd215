import KeysetStore.Proofs.Conjunction
import KeysetStore.Proofs.LiteralPattern

/-!
# Proofs/FreeTextSearch — a search finds the documents that mention its term

A search term is looked for as it stands, whatever its characters mean in a pattern, and in either
case (`Pattern.isMatch_escape`).  A document is found where one of the searched fields holds a text
with the term in it, or an array with such a text (`Value.Mentions`, `meets_searchClause`).  The
request that consists of a search alone asks for just that (`exists_meets_search`).

One assumption is made: that the pattern of the term is not too large.
-/

namespace KeysetStore

/-! ## Values that mention a term -/

/-- **A value mentions a term**: it is a text that holds the term in either case, or an array with
such a text among its items. -/
inductive Value.Mentions (term : String) : Value → Prop
  | text {s : String} (h : Pattern.HoldsFolded s term) : Mentions term (.string s)
  | item {s : String} {items : List Value} (hs : .string s ∈ items)
      (h : Pattern.HoldsFolded s term) : Mentions term (.array items)

section Search

variable {searchable : List String} {term : String} {p : Pattern} {d : Document}

/-- The pattern of a term matches the values that mention it. -/
theorem isMatchAt_iff (hp : ∀ text, p.isMatch text = true ↔ Pattern.HoldsFolded text term)
    {found : Option Value} :
    isMatchAt p found = true ↔ ∃ v, found = some v ∧ v.Mentions term := by
  rw [isMatchAt, Option.any_eq_true]
  refine exists_congr fun v => and_congr_right fun _ => ?_
  cases v with
  | string s =>
    refine ⟨fun h => .text ((hp s).1 (by simpa [Value.reaches] using h)), ?_⟩
    rintro (h | _)
    simpa [Value.reaches] using (hp s).2 h
  | array items =>
    simp only [Value.reaches, Bool.false_or, List.any_eq_true]
    constructor
    · rintro ⟨item, hitem, h⟩
      cases item
      case string s => exact .item hitem ((hp s).1 h)
      all_goals cases h
    · rintro (_ | ⟨hs, h⟩)
      exact ⟨_, hs, (hp _).2 h⟩
  | _ => exact iff_of_false nofun nofun

/-! ## The clause of a search -/

/-- What a search asks of each searched field. -/
def searchCondition (term : String) : Value :=
  .document [("$regex", .string (Pattern.escape term)), ("$options", .string "i")]

theorem searchClause_eq (searchable : List String) (term : String) :
    searchClause searchable term
      = [("$or", .array
          ((searchable.map fun field => [(field, searchCondition term)]).map .document))] := by
  rw [List.map_map]
  rfl

/-- A searched field is asked for the pattern of the term. -/
theorem holds_searchCondition (hp : Pattern.ofText (Pattern.escape term) "i" = .ok p)
    (found : Option Value) :
    Condition.holds (searchCondition term) found = .ok (isMatchAt p found) := by
  have hread : Condition.read (searchCondition term)
      = [Test.ofPattern (Pattern.escape term) "i", .trivial] := by
    rw [searchCondition, Condition.read, Document.listsOperators_cons, if_pos (by decide)]
    rfl
  rw [Condition.holds, hread, Test.ofPattern, hp]
  simp only [Test.allHold, Test.holds]
  cases isMatchAt p found <;> rfl

/-- **The clause of a search can be evaluated**, and holds where some searched field mentions the
term. -/
theorem meets_searchClause (hsearchable : searchable ≠ [])
    (hpaths : ∀ field ∈ searchable, isOperator field = false)
    (hp : Pattern.ofText (Pattern.escape term) "i" = .ok p) :
    d.meets (searchClause searchable term)
      = .ok (searchable.any fun field => isMatchAt p (d.lookup? field)) := by
  rw [searchClause_eq]
  refine Document.meets_singleton ?_
  rw [Document.meetsEntry_or (by simpa using hsearchable), List.map_map]
  refine Selector.someHolds_eq_any fun field hfield => Document.meets_singleton ?_
  rw [Document.meetsEntry_of_not_operator (hpaths field hfield), holds_searchCondition hp]

/-- **A search finds the documents that mention its term.**  The selector of a request that is a
search alone can be made and evaluated on every document.  It holds where a searched field is a text
with the term in it, or an array with such a text. -/
theorem exists_meets_search {input : String} (hsearchable : searchable ≠ [])
    (hpaths : ∀ field ∈ searchable, isOperator field = false) (hterm : trim input ≠ "")
    (hsize : Pattern.ofText (Pattern.escape (trim input)) "i" ≠ .error .size) (d : Document) :
    ∃ selector b,
      scopedSelector searchable none (some [(searchKey, .string input)]) = .ok selector ∧
      d.meets selector = .ok b ∧
      (b = true ↔
        ∃ field ∈ searchable, ∃ v, d.lookup? field = some v ∧ v.Mentions (trim input)) := by
  obtain ⟨p, hp, hmatch⟩ := Pattern.isMatch_escape hsize
  have hsearch : searchOf searchable (.string input)
      = .ok (some (searchClause searchable (trim input))) := by
    rw [searchOf, if_neg (by simpa using hterm), if_neg (by simpa using hsearchable)]
  have hselector : scopedSelector searchable none (some [(searchKey, .string input)])
      = (Document.conjoin [] (searchClause searchable (trim input))).map
        (Document.ownedBy · none) := by
    rw [scopedSelector, Option.getD_some, searchedFilter, Fields.get?_cons, if_pos rfl]
    simp only [hsearch]
    rw [Fields.erase_cons, if_pos rfl]
    rfl
  refine ⟨_, _, hselector.trans rfl, Document.meets_conjoin (show d.meets [] = .ok true from rfl)
    (meets_searchClause hsearchable hpaths hp) rfl, ?_⟩
  rw [Bool.true_and, List.any_eq_true]
  simp only [isMatchAt_iff hmatch]

open Pattern in
/-- A text with characters that mean something in a pattern makes no large one: the letter is laid out
in both its cases, and the signs as a text. -/
theorem ofText_escape_ne_size : Pattern.ofText (Pattern.escape "C++") "i" ≠ .error .size := by
  have hletter : Ranges.ofChars (CaseFold.orbit 'C') = ⟨#[(67, 67), (99, 99)]⟩ := by
    have horbit : CaseFold.orbit 'C' = ['c', 'C'] := by decide +kernel
    rw [horbit]
    simp [Ranges.ofChars, Ranges.ofList, Ranges.join, List.mergeSort]
  have hsign : Ranges.ofChars (CaseFold.orbit '+') = ⟨#[(43, 43)]⟩ := by
    have horbit : CaseFold.orbit '+' = ['+'] := by decide +kernel
    rw [horbit]
    simp [Ranges.ofChars, Ranges.ofList, Ranges.join]
  have hfits : (Regex.ofParts
      ((literals { ignoreCase := true } "C++".toList).map .set)).shape.fits = true := by
    change (Shape.ofConcat [.ofRanges (.ofChars (CaseFold.orbit 'C')),
      .ofRanges (.ofChars (CaseFold.orbit '+')), .ofRanges (.ofChars (CaseFold.orbit '+'))]).fits = true
    rw [hletter, hsign]
    decide +kernel
  rw [ofText_escape, if_pos hfits]
  intro h
  cases h

/-- A search among the names and the tags of a document, with blanks around the term, finds the
term in small letters inside one of the tags. -/
theorem exists_meets_search_tags :
    let d : Document := [("name", .string "Espresso"),
      ("tags", .array [.int32 7, .string "mini c++ #1"])]
    ∃ selector,
      scopedSelector ["name", "tags"] none (some [(searchKey, .string "  C++ ")]) = .ok selector ∧
      d.meets selector = .ok true := by
  intro d
  have htrim : trim "  C++ " = "C++" := by decide
  have hfields : ["name", "tags"] ≠ [] := by simp
  have hterm : trim "  C++ " ≠ "" := by decide
  obtain ⟨selector, b, hselector, hmeets, hb⟩ :=
    exists_meets_search hfields (by decide) hterm (htrim ▸ ofText_escape_ne_size) d
  refine ⟨selector, hselector, hmeets.trans (congrArg _ (hb.2 ?_))⟩
  rw [htrim]
  refine ⟨"tags", by simp, _, rfl, .item (.tail _ (.head _)) ⟨['c', '+', '+'], ?_, ?_⟩⟩
  · exact ⟨"mini ".toList, " #1".toList, by decide⟩
  · decide

end Search

end KeysetStore
