import KeysetStore.Pattern.CaseFold
import KeysetStore.Pattern.Property

/-!
# Pattern/CharSet — sets of characters, as a pattern writes them

A set keeps the form in which it was written.  `contains` is what it means character by character,
`ranges` what it means as a whole.  Ignoring case closes a set under the characters that are the
same up to case, and it does so before a complement is taken.
-/

namespace KeysetStore.Pattern

/-- The named classes of ASCII. -/
inductive AsciiClass where
  | alnum | alpha | ascii | blank | cntrl | digit | graph | lower | print | punct | space | upper
  | word | xdigit
deriving DecidableEq

namespace AsciiClass

/-- The class of a name. -/
def named? : String → Option AsciiClass
  | "alnum" => some alnum
  | "alpha" => some alpha
  | "ascii" => some ascii
  | "blank" => some blank
  | "cntrl" => some cntrl
  | "digit" => some digit
  | "graph" => some graph
  | "lower" => some lower
  | "print" => some print
  | "punct" => some punct
  | "space" => some space
  | "upper" => some upper
  | "word" => some word
  | "xdigit" => some xdigit
  | _ => none

/-- **The characters of a class.** -/
def set : AsciiClass → Ranges
  | alnum => .ofText "30-39 41-5A 61-7A"
  | alpha => .ofText "41-5A 61-7A"
  | ascii => .ofText "0-7F"
  | blank => .ofText "9 20"
  | cntrl => .ofText "0-1F 7F"
  | digit => .ofText "30-39"
  | graph => .ofText "21-7E"
  | lower => .ofText "61-7A"
  | print => .ofText "20-7E"
  | punct => .ofText "21-2F 3A-40 5B-60 7B-7E"
  | space => .ofText "9-D 20"
  | upper => .ofText "41-5A"
  | word => .ofText "30-39 41-5A 5F 61-7A"
  | xdigit => .ofText "30-39 41-46 61-66"

end AsciiClass

/-- **The characters of words**: letters, marks, decimal digits, connectors and the joiners. -/
def wordChars : Ranges :=
  .unionAll [Trait.alphabetic, Category.ofGroup 'M', Category.ofLabels ["Nd", "Pc"],
    Trait.joinControl]

/-- Whether a character is part of a word. -/
def isWordChar (c : Char) : Bool := wordChars.contains c

/-- The characters of words of ASCII. -/
def asciiWordChars : Ranges := AsciiClass.word.set

/-- Whether a character is part of a word of ASCII. -/
def isAsciiWordChar (c : Char) : Bool := asciiWordChars.contains c

/-- Which characters count as the same. -/
inductive Folding where
  /-- Each one for itself. -/
  | exact
  /-- The two cases of the letters of ASCII. -/
  | ascii
  /-- All characters that are the same up to case. -/
  | unicode
deriving DecidableEq

/-- The characters that count as the same as one. -/
def Folding.orbit : Folding → Char → List Char
  | exact, c => [c]
  | ascii, c => CaseFold.asciiOrbit c
  | unicode, c => CaseFold.orbit c

/-- A set, closed under the characters that count as the same. -/
def Folding.close : Folding → Ranges → Ranges
  | exact, r => r
  | ascii, r => CaseFold.closeUnder CaseFold.asciiGroups r
  | unicode, r => CaseFold.closeUnder CaseFold.groups r

/-- The operations between two sets. -/
inductive SetOp where
  | intersection
  | difference
  | symmetricDifference
deriving DecidableEq

/-- Whether a character belongs to the outcome, from whether it belongs to each set. -/
def SetOp.apply : SetOp → Bool → Bool → Bool
  | intersection, a, b => a && b
  | difference, a, b => a && !b
  | symmetricDifference, a, b => a != b

/-- The outcome for sets of ranges. -/
def SetOp.applyRanges : SetOp → Ranges → Ranges → Ranges
  | intersection, r, s => r.inter s
  | difference, r, s => r.diff s
  | symmetricDifference, r, s => r.symmDiff s

/-- A set of characters. -/
inductive CharSet where
  /-- One character. -/
  | one (c : Char)
  /-- The characters from one to another. -/
  | range (first last : Char)
  /-- The characters of a class or a property. -/
  | listed (r : Ranges)
  /-- All members of some sets. -/
  | union (sets : List CharSet)
  /-- Two sets, joined by an operation. -/
  | op (kind : SetOp) (a b : CharSet)
  /-- All characters outside a set. -/
  | complement (s : CharSet)
  /-- A set, closed under the characters that count as the same. -/
  | folded (folding : Folding) (s : CharSet)
  /-- A set in brackets of its own. -/
  | bracket (s : CharSet)

namespace CharSet

mutual

/-- **The ranges of a set.** -/
def ranges : CharSet → Ranges
  | one c => .ofChars [c]
  | range first last => .ofList [(first.toNat, last.toNat)]
  | listed r => r
  | union sets => .ofList (allRanges sets)
  | op kind a b => kind.applyRanges a.ranges b.ranges
  | complement s => s.ranges.complement
  | folded folding (one c) => .ofChars (folding.orbit c)
  | folded folding s => folding.close s.ranges
  | bracket s => s.ranges

/-- The ranges of several sets, in any order. -/
def allRanges : List CharSet → List (Nat × Nat)
  | [] => []
  | s :: rest => s.ranges.toList ++ allRanges rest

end

/-- Whether a character stands at the surrogates, on a side where two ranges of a set meet. -/
def facesGap (s : CharSet) (c : Char) : Bool :=
  (c.toNat = Ranges.gapStart || c.toNat = Ranges.gapEnd) && s.ranges.meetsAtGap

mutual

/-- **The members of a set.** -/
def contains : CharSet → Char → Bool
  | one d, c => c = d
  | range first last, c => first ≤ c && c ≤ last
  | listed r, c => r.contains c
  | union sets, c => anyContains sets c
  | op kind a b, c => kind.apply (a.contains c) (b.contains c)
  | complement s, c => !s.contains c || s.facesGap c
  | folded folding s, c => (folding.orbit c).any fun d => s.contains d
  | bracket s, c => s.contains c

/-- Whether one of several sets has a member. -/
def anyContains : List CharSet → Char → Bool
  | [], _ => false
  | s :: rest, c => s.contains c || anyContains rest c

end

mutual

/-- How deep brackets and operations nest. -/
def depth : CharSet → Nat
  | union sets => (if 2 ≤ sets.length then 1 else 0) + greatestDepth sets
  | op _ a b => 1 + max a.depth b.depth
  | complement s => s.depth
  | folded _ s => s.depth
  | bracket s => 1 + s.depth
  | _ => 0

/-- The greatest depth of several sets. -/
def greatestDepth : List CharSet → Nat
  | [] => 0
  | s :: rest => max s.depth (greatestDepth rest)

end

end CharSet

end KeysetStore.Pattern
