import KeysetStore.Pattern.Match
import KeysetStore.Pattern.Parser

/-!
# Pattern — regular expressions over Unicode text

A pattern is compiled from a text and option letters (`Pattern.ofText`) and asked whether it matches
somewhere in another text (`Pattern.isMatch`).  `Pattern.escape` writes the pattern of a literal
text.
-/

namespace KeysetStore

/-- A compiled pattern. -/
structure Pattern where
  /-- The tree of the pattern. -/
  regex : Pattern.Regex

namespace Pattern

/-- The flags that option letters set; letters without a meaning do not count. -/
def flagsOfOptions (options : String) : Flags where
  ignoreCase := options.toList.contains 'i'
  multiLine := options.toList.contains 'm'
  dotAll := options.toList.contains 's'
  ignoreSpace := options.toList.contains 'x'

/-- **Compiles a pattern.** -/
def ofText (text options : String) : Except PatternError Pattern :=
  (parse (flagsOfOptions options) text.toList).map (⟨·⟩)

/-- **Whether a pattern matches somewhere in a text.** -/
def isMatch (p : Pattern) (text : String) : Bool := p.regex.matchesIn text.toList.toArray

/-- One character, as a pattern for itself. -/
def escapeChar (c : Char) : List Char := if isMeta c then ['\\', c] else [c]

/-- **The pattern of a literal text**: a backslash before every character with a meaning. -/
def escape (text : String) : String := String.ofList (text.toList.flatMap escapeChar)

end Pattern

end KeysetStore
