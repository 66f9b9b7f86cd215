import KeysetStore.Selector

/-!
# Selector/Scoped — a caller's filter, search and owner in one selector

A caller's filter is taken as it is, except for its search term, which becomes a conjunct of its
own, and for the field of the owner, which is overwritten.  So a search only narrows, and no filter
reaches beyond the owner.
-/

namespace KeysetStore

/-- **A selector document with one more conjunct**: at the end of the conjunction it has, or as the
first of a new one. -/
def Document.conjoin (selector clause : Document) : Except Error Document :=
  match Fields.get? selector "$and" with
  | none => .ok (Fields.insert selector "$and" (.array [.document clause]))
  | some (.array clauses) =>
    .ok (Fields.insert selector "$and" (.array (clauses ++ [.document clause])))
  | some v => .error (.conjunction v)

/-- The key of a filter that holds a search term. -/
def searchKey : String := "q"

/-- The clause of a text that some of the fields has to contain, in either case. -/
def searchClause (searchable : List String) (term : String) : Document :=
  [("$or", .array (searchable.map fun field =>
    .document [(field, .document
      [("$regex", .string (Pattern.escape term)), ("$options", .string "i")])]))]

/-- **What a search term adds**: nothing where it is null or blank, else the clause of its text
without the blanks around it. -/
def searchOf (searchable : List String) : Value → Except Error (Option Document)
  | .string s =>
    let term := trim s
    if term.isEmpty then .ok none
    else if searchable.isEmpty then .error .searchUnsupported
    else .ok (some (searchClause searchable term))
  | .null => .ok none
  | v => .error (.searchTerm v)

/-- The filter without its search term, which it becomes a conjunct of. -/
def searchedFilter (searchable : List String) (filter : Document) : Except Error Document :=
  match Fields.get? filter searchKey with
  | none => .ok filter
  | some term =>
    match searchOf searchable term with
    | .ok none => .ok (Fields.erase filter searchKey)
    | .ok (some clause) => Document.conjoin (Fields.erase filter searchKey) clause
    | .error e => .error e

/-- A document with the field of an owner: a selector restricted to the owner, or a body that
belongs to the owner. -/
def Document.ownedBy (d : Document) : Option (String × Value) → Document
  | none => d
  | some (field, owner) => Fields.insert d field owner

/-- **The selector of a request**: the filter with its search, restricted to the owner. -/
def scopedSelector (searchable : List String) (owner : Option (String × Value))
    (filter : Option Document) : Except Error Document :=
  (searchedFilter searchable (filter.getD [])).map (Document.ownedBy · owner)

end KeysetStore
