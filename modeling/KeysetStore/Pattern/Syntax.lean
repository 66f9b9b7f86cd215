import KeysetStore.Pattern.CharSet

/-!
# Pattern/Syntax — patterns as trees

The tree of a pattern has its flags worked in: every set knows the characters that count as the
same, every assertion knows the lines it looks at.  The tree keeps groups, because the limit on
nesting counts them.
-/

namespace KeysetStore.Pattern

/-- Which ends of lines an assertion knows. -/
inductive Lines where
  /-- None: only the ends of the text. -/
  | text
  /-- A line feed. -/
  | lineFeed
  /-- A line feed, a carriage return, or the two in this order. -/
  | crlf
deriving DecidableEq

/-- Which side of a word an assertion asks for. -/
inductive WordEdge where
  /-- A boundary of either side. -/
  | boundary
  /-- No boundary. -/
  | inside
  /-- The start of a word. -/
  | start
  /-- The end of a word. -/
  | finish
  /-- No word before. -/
  | startHalf
  /-- No word after. -/
  | finishHalf
deriving DecidableEq

/-- A condition on a place between two characters. -/
inductive Look where
  /-- The start of a line, or of the text. -/
  | lineStart (lines : Lines)
  /-- The end of a line, or of the text. -/
  | lineEnd (lines : Lines)
  /-- A place at a word, of ASCII or of all scripts. -/
  | edge (kind : WordEdge) (asciiOnly : Bool)
deriving DecidableEq

/-- The tree of a pattern. -/
inductive Regex where
  /-- One character of a set. -/
  | set (s : CharSet)
  /-- A condition on a place. -/
  | look (l : Look)
  /-- A change of flags, which matches the empty text. -/
  | flags
  /-- One part after the other. -/
  | concat (parts : List Regex)
  /-- Any one of some branches. -/
  | branches (options : List Regex)
  /-- A part, repeated at least so often and at most so often. -/
  | repeated (part : Regex) (least : Nat) (most : Option Nat)
  /-- A part in parentheses; some keep the place of a match within. -/
  | group (captures : Bool) (part : Regex)

namespace Regex

/-- One part stands for itself. -/
def ofParts : List Regex → Regex
  | [part] => part
  | parts => concat parts

/-- One branch stands for itself. -/
def ofBranches : List Regex → Regex
  | [branch] => branch
  | options => branches options

mutual

/-- How deep a tree nests. -/
def depth : Regex → Nat
  | set s => s.depth
  | look _ => 0
  | flags => 0
  | concat [] => 0
  | concat parts => 1 + greatestDepth parts
  | branches options => 1 + greatestDepth options
  | repeated part _ _ => 1 + part.depth
  | group _ part => 1 + part.depth

/-- The greatest depth of several trees. -/
def greatestDepth : List Regex → Nat
  | [] => 0
  | r :: rest => max r.depth (greatestDepth rest)

end

end Regex

end KeysetStore.Pattern
