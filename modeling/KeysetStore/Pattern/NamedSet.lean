import KeysetStore.Pattern.Ranges

/-!
# Pattern/NamedSet — sets of characters that a pattern can name

A property has names, or each of its values has.  Names are compared without case, spaces,
underscores, hyphens and a leading "is".
-/

namespace KeysetStore.Pattern

/-- A name without what does not count in it: case, blanks, underscores, hyphens, characters beyond
ASCII and a leading "is". -/
def plainName (name : String) : String :=
  let bare (cs : List Char) : List Char :=
    (cs.filter fun c => c ≠ ' ' && c ≠ '_' && c ≠ '-' && c.toNat < 128).map Char.toLower
  let letters := name.toList
  let isPrefixed := (letters.take 2).map Char.toLower = ['i', 's']
  let rest := bare (letters.drop (if isPrefixed then 2 else 0))
  String.ofList (if isPrefixed ∧ rest = ['c'] then ['i', 's', 'c'] else rest)

/-- Whether two names are the same. -/
def sameName (a b : String) : Bool := plainName a = plainName b

/-- A set of characters and its names. -/
structure NamedSet where
  names : List String
  set : Ranges

/-- **The set of a name**, among some named sets. -/
def NamedSet.find? (sets : List NamedSet) (name : String) : Option Ranges :=
  (sets.find? fun s => s.names.any (sameName name)).map (·.set)

end KeysetStore.Pattern
