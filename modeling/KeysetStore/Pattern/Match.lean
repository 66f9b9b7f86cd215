import KeysetStore.Pattern.Syntax

/-!
# Pattern/Match — where a tree matches

A tree is a step from places in a text to places: `advance` gives all places where a match that
begins at one of the given places can end.  Places are counted in characters, ascend, and occur
once.  A text matches where some place leads to another (`Regex.matchesIn`).
-/

namespace KeysetStore.Pattern

/-- The character before a place. -/
def charBefore? (text : Array Char) (place : Nat) : Option Char :=
  if place = 0 then none else text[place - 1]?

/-- Whether a line starts at a place. -/
def Lines.startsAt (text : Array Char) (place : Nat) : Lines → Bool
  | .text => place = 0
  | .lineFeed => place = 0 || charBefore? text place = some '\n'
  | .crlf =>
    place = 0 || charBefore? text place = some '\n'
      || (charBefore? text place = some '\r' && text[place]? ≠ some '\n')

/-- Whether a line ends at a place. -/
def Lines.endsAt (text : Array Char) (place : Nat) : Lines → Bool
  | .text => place = text.size
  | .lineFeed => place = text.size || text[place]? = some '\n'
  | .crlf =>
    place = text.size || text[place]? = some '\r'
      || (text[place]? = some '\n' && charBefore? text place ≠ some '\r')

/-- Whether an edge lies between a word on one side and a word on the other. -/
def WordEdge.between (before after : Bool) : WordEdge → Bool
  | .boundary => before != after
  | .inside => before == after
  | .start => !before && after
  | .finish => before && !after
  | .startHalf => !before
  | .finishHalf => !after

/-- **Whether a condition holds at a place.** -/
def Look.holds (text : Array Char) (place : Nat) : Look → Bool
  | .lineStart lines => lines.startsAt text place
  | .lineEnd lines => lines.endsAt text place
  | .edge kind asciiOnly =>
    let isWord := if asciiOnly then isAsciiWordChar else isWordChar
    kind.between ((charBefore? text place).any isWord) (text[place]?.any isWord)

/-! ## Sets of places -/

/-- The places of two ascending lists, each once. -/
def unite (a b : List Nat) : List Nat := (a.merge b (· ≤ ·)).eraseReps

/-- A step, taken so often.  Once it changes nothing it never will. -/
def times (f : List Nat → List Nat) : (count : Nat) → List Nat → List Nat
  | 0, places => places
  | count + 1, places =>
    let next := f places
    if next = places ∨ next = [] then next else times f count next

/-- A step, taken at most so often.  Once it adds nothing it never will. -/
def upTo (f : List Nat → List Nat) : (count : Nat) → List Nat → List Nat
  | 0, places => places
  | count + 1, places =>
    let next := unite places (f places)
    if next.length = places.length then places else upTo f count next

namespace Regex

mutual

/-- **The places where matches end** that begin at the given places. -/
def advance (text : Array Char) : Regex → List Nat → List Nat
  | set s, places => (places.filter fun place => text[place]?.any s.contains).map (· + 1)
  | look l, places => places.filter fun place => l.holds text place
  | flags, places => places
  | concat parts, places => advanceAll text parts places
  | branches options, places => advanceAny text options places
  | repeated part least most, places =>
    let more := match most with
      | some most => most - least
      | none => text.size + 1
    upTo (advance text part) more (times (advance text part) least places)
  | group _ part, places => advance text part places

/-- One tree after the other. -/
def advanceAll (text : Array Char) : List Regex → List Nat → List Nat
  | [], places => places
  | r :: rest, places => advanceAll text rest (advance text r places)

/-- Any one of the trees. -/
def advanceAny (text : Array Char) : List Regex → List Nat → List Nat
  | [], _ => []
  | r :: rest, places => unite (advance text r places) (advanceAny text rest places)

end

/-- **Whether a tree matches somewhere in a text.** -/
def matchesIn (r : Regex) (text : Array Char) : Bool :=
  r.advance text (List.range (text.size + 1)) ≠ []

end Regex

end KeysetStore.Pattern
