import KeysetStore.Pattern.Automaton
import KeysetStore.Pattern.Bracket
import KeysetStore.Pattern.GroupName

/-!
# Pattern/Parser — from a text to a tree

The text is read from front to back.  Each step takes one piece and adds it to the part that is
open; groups that are open wait on a stack with the flags to return to.
-/

namespace KeysetStore.Pattern

/-- What a closing parenthesis returns to. -/
structure OpenGroup where
  /-- Whether the place of a match within the group is kept. -/
  captures : Bool
  /-- The parts before the group, last first. -/
  parts : List Regex
  /-- The finished branches around it, last first. -/
  done : List Regex
  /-- The flags outside. -/
  flags : Flags

/-- How far a text is read. -/
structure ParseState where
  /-- The parts of the open branch, last first. -/
  parts : List Regex
  /-- The finished branches of the open group, last first. -/
  done : List Regex
  /-- The flags in force. -/
  flags : Flags
  /-- The names of the groups so far. -/
  names : List (List Char)
  /-- The groups around, innermost first. -/
  outer : List OpenGroup

namespace ParseState

/-- Adds a part to the open branch. -/
def push (st : ParseState) (part : Regex) : ParseState := { st with parts := part :: st.parts }

/-- The tree of the open group. -/
def tree (st : ParseState) : Regex :=
  .ofBranches (.ofParts st.parts.reverse :: st.done).reverse

/-- Opens a group, with flags of its own. -/
def openGroup (st : ParseState) (captures : Bool) (flags : Flags) : ParseState :=
  let outer := ⟨captures, st.parts, st.done, st.flags⟩ :: st.outer
  { st with parts := [], done := [], flags, outer }

/-- Closes the open group and returns to the flags outside. -/
def closeGroup (st : ParseState) : Except PatternError ParseState :=
  match st.outer with
  | [] => .error .groupUnopened
  | around :: outer =>
    .ok { st with
      parts := .group around.captures st.tree :: around.parts
      done := around.done
      flags := around.flags
      outer }

end ParseState

/-- A reader that moves the state on. -/
abbrev Step := Except PatternError (ParseState × List Char)

/-! ## Groups -/

/-- A named group: the name ends with an angle and occurs once. -/
def readNamedGroup (st : ParseState) (text : List Char) : Step :=
  let name := text.takeWhile (· ≠ '>')
  match text.drop name.length with
  | _ :: rest =>
    if GroupName.isValid name && !st.names.contains name then
      .ok ({ st with names := name :: st.names }.openGroup true st.flags, rest)
    else .error .groupName
  | [] => .error .groupName

/-- Flags, for the rest of the open group or for a group of their own. -/
def readFlags (st : ParseState) (text : List Char) : Step :=
  let letters := text.takeWhile fun c => c ≠ ':' && c ≠ ')'
  match text.drop letters.length with
  | [] => .error (.unclosed "group")
  | c :: rest => do
    let flags ← st.flags.read letters
    if c = ':' then .ok (st.openGroup false flags, rest)
    else if letters = [] then .error .repetitionMissing
    else .ok ({ st.push .flags with flags }, rest)

/-- **What follows an opening parenthesis.** -/
def readGroup (st : ParseState) (text : List Char) : Step :=
  match st.flags.skip text with
  | '?' :: '=' :: _ => .error .lookAround
  | '?' :: '!' :: _ => .error .lookAround
  | '?' :: '<' :: '=' :: _ => .error .lookAround
  | '?' :: '<' :: '!' :: _ => .error .lookAround
  | '?' :: 'P' :: '<' :: rest => readNamedGroup st rest
  | '?' :: '<' :: rest => readNamedGroup st rest
  | '?' :: rest => readFlags st rest
  | rest => .ok (st.openGroup true st.flags, rest)

/-! ## Repetitions -/

/-- Repeats the last part of the open branch.  There has to be one, and a change of flags is
none. -/
def repeatLast (st : ParseState) (least : Nat) (most : Option Nat) (rest : List Char) : Step :=
  match st.parts with
  | [] => .error .repetitionMissing
  | .flags :: _ => .error .repetitionMissing
  | part :: parts => .ok ({ st with parts := .repeated part least most :: parts }, rest)

/-- The rest after a question mark, which asks for short matches first. -/
def dropLazy : List Char → List Char
  | '?' :: rest => rest
  | rest => rest

/-- The decimal digits at the front, with blanks between them where these do not count. -/
def takeDecimal (f : Flags) : (fuel : Nat) → List Char → List Char × List Char
  | fuel + 1, c :: rest =>
    if c.isDigit then
      let (digits, rest) := takeDecimal f fuel (f.skip rest)
      (c :: digits, rest)
    else ([], c :: rest)
  | _, rest => ([], rest)

/-- A count: decimal digits below `2 ^ 32`, with blanks around them. -/
def readCount (f : Flags) (text : List Char) : Except PatternError (Nat × List Char) :=
  let (digits, rest) := takeDecimal f text.length (text.dropWhile isWhiteSpace)
  let n := digits.foldl (fun n c => 10 * n + (c.toNat - '0'.toNat)) 0
  if digits = [] ∨ 2 ^ (32 : Nat) ≤ n then .error .repetitionCount
  else .ok (n, f.skip (rest.dropWhile isWhiteSpace))

/-- **A repetition in braces**: a count, a least count, or a least and a greatest one. -/
def readCounted (st : ParseState) (text : List Char) : Step := do
  let f := st.flags
  let finish (least : Nat) (most : Option Nat) (rest : List Char) : Step :=
    match rest with
    | '\x7d' :: rest => repeatLast st least most (dropLazy (f.skip rest))
    | _ => .error (.unclosed "count")
  let (least, rest) ← readCount f (f.skip text)
  match rest with
  | ',' :: rest =>
    match f.skip rest with
    | '\x7d' :: rest => finish least none ('\x7d' :: rest)
    | rest =>
      let (most, rest) ← readCount f rest
      if least ≤ most then finish least (some most) rest else .error .repetitionCount
  | rest => finish least (some least) rest

/-! ## Pieces -/

/-- An escape outside brackets. -/
def pushEscaped (st : ParseState) : Escaped → Except PatternError ParseState
  | .literal c byte =>
    if byte && !st.flags.unicode && 128 ≤ c.toNat then .error .splitsCharacters
    else .ok (st.push (.set (st.flags.literal c)))
  | .set s => .ok (st.push (.set s))
  | .look l => .ok (st.push (.look l))

/-- **One piece of a pattern**, from its first character on. -/
def step (st : ParseState) (c : Char) (rest : List Char) : Step :=
  match c with
  | '(' => readGroup st rest
  | ')' => st.closeGroup.map (·, rest)
  | '|' => .ok ({ st with parts := [], done := .ofParts st.parts.reverse :: st.done }, rest)
  | '[' => do
    let (s, rest) ← readBracket st.flags rest
    .ok (st.push (.set s), rest)
  | '?' => repeatLast st 0 (some 1) (dropLazy rest)
  | '*' => repeatLast st 0 none (dropLazy rest)
  | '+' => repeatLast st 1 none (dropLazy rest)
  | '\x7b' => readCounted st rest
  | '\\' => do
    let (escaped, rest) ← readEscape st.flags rest
    let st ← pushEscaped st escaped
    .ok (st, rest)
  | '.' => do
    let s ← st.flags.dot
    .ok (st.push (.set s), rest)
  | '^' => .ok (st.push (.look (.lineStart st.flags.lines)), rest)
  | '$' => .ok (st.push (.look (.lineEnd st.flags.lines)), rest)
  | c => .ok (st.push (.set (st.flags.literal c)), rest)

/-- Reads piece after piece.  Every piece takes a character at least, so the length of the text is
fuel enough. -/
def steps : (fuel : Nat) → ParseState → List Char → Except PatternError ParseState
  | 0, st, _ => .ok st
  | fuel + 1, st, text =>
    match st.flags.skip text with
    | [] => .ok st
    | c :: rest =>
      match step st c rest with
      | .ok (st, rest) => steps fuel st rest
      | .error e => .error e

/-- The greatest depth of a tree. -/
def depthLimit : Nat := 250

/-- **The tree of a text**, under the flags given with it.  Groups have to be closed, and the limits
on depth and memory hold. -/
def parse (flags : Flags) (text : List Char) : Except PatternError Regex := do
  let st ← steps text.length ⟨[], [], flags, [], []⟩ text
  if !st.outer.isEmpty then .error (.unclosed "group")
  else if depthLimit < st.tree.depth then .error .nesting
  else if !st.tree.shape.fits then .error .size
  else .ok st.tree

end KeysetStore.Pattern
