import KeysetStore.Pattern.Escape

/-!
# Pattern/Bracket — sets in brackets

Between brackets stand characters, ranges, escapes and further brackets, and the operations between
what stands on their two sides, which group from the left.  Brackets and operations that are open
wait on a stack.
-/

namespace KeysetStore.Pattern

/-- Something open between brackets. -/
inductive OpenSet where
  /-- A bracket: what stands before it in the one around it, and whether it asks for the
  complement. -/
  | bracket (outer : List CharSet) (negated : Bool)
  /-- An operation that waits for its right side. -/
  | operation (kind : SetOp) (left : CharSet)

/-- The items so far, last first, and what is open around them. -/
structure BracketState where
  items : List CharSet
  around : List OpenSet

namespace BracketState

/-- The items as one set. -/
def current (st : BracketState) : CharSet :=
  match st.items with
  | [s] => s
  | items => .union items.reverse

/-- Completes an operation that waits for the items as its right side. -/
def complete (f : Flags) (st : BracketState) : CharSet × List OpenSet :=
  match st.around with
  | .operation kind left :: around =>
    (.op kind (.folded f.folding left) (.folded f.folding st.current), around)
  | around => (st.current, around)

/-- Adds an item. -/
def push (st : BracketState) (s : CharSet) : BracketState := { st with items := s :: st.items }

end BracketState

/-- A character between brackets.  Where sets are of bytes it has to be one of ASCII. -/
def memberOf (f : Flags) (c : Char) : Except PatternError CharSet :=
  if f.unicode || c.toNat < 128 then .ok (.one c) else .error .splitsCharacters

/-- What was read of a set, and the rest of the text. -/
abbrev SetRead := Except PatternError (CharSet × List Char)

/-- One end of a range, or an item of its own. -/
def readMember (f : Flags) : List Char → EscapeRead
  | [] => .error (.unclosed "class")
  | '\\' :: rest => readEscape f rest
  | c :: rest => .ok (.literal c false, rest)

/-- The next character, past blanks and a number sign where these do not count. -/
def peek (f : Flags) (text : List Char) : Option Char :=
  if f.ignoreSpace then
    match text.dropWhile isWhiteSpace with
    | '#' :: rest => (rest.dropWhile isWhiteSpace).head?
    | rest => rest.head?
  else text.head?

/-- **An item between brackets**: a character, a set, or a range.  A hyphen before the closing
bracket or another hyphen makes no range. -/
def readItem (f : Flags) (text : List Char) : SetRead := do
  let (first, rest) ← readMember f text
  let single : SetRead :=
    match first with
    | .literal c _ => (memberOf f c).map (·, rest)
    | .set s => .ok (s, rest)
    | .look _ => .error .classItem
  match f.skip rest with
  | [] => .error (.unclosed "class")
  | '-' :: after =>
    if peek f after = some ']' ∨ peek f after = some '-' then single
    else
      let (last, rest) ← readMember f (f.skip after)
      match first, last with
      | .literal a _, .literal b _ =>
        let _ ← memberOf f a
        let _ ← memberOf f b
        if a ≤ b then .ok (.range a b, rest) else .error .range
      | _, _ => .error .range
  | _ => single

/-- A named class of ASCII, with its own brackets and colons. -/
def asciiClass? : List Char → Option (AsciiClass × Bool × List Char)
  | '[' :: ':' :: rest =>
    let (negated, rest) := match rest with
      | '^' :: rest => (true, rest)
      | rest => (false, rest)
    let name := rest.takeWhile (· ≠ ':')
    match rest.drop name.length with
    | ':' :: ']' :: rest => (AsciiClass.named? (String.ofList name)).map (·, negated, rest)
    | _ => none
  | _ => none

/-- The hyphens at the front, each of which stands for itself. -/
def takeHyphens (f : Flags) : (fuel : Nat) → List CharSet → List Char → List CharSet × List Char
  | fuel + 1, items, '-' :: rest => takeHyphens f fuel (.one '-' :: items) (f.skip rest)
  | _, items, rest => (items, rest)

/-- Opens a bracket: a caret asks for the complement, hyphens come first, and a closing bracket
right at the start stands for itself. -/
def openBracket (f : Flags) (st : BracketState) (text : List Char) : BracketState × List Char :=
  let (negated, rest) := match f.skip text with
    | '^' :: rest => (true, f.skip rest)
    | rest => (false, rest)
  let (items, rest) := takeHyphens f rest.length [] rest
  let (items, rest) := match items, rest with
    | [], ']' :: rest => ([.one ']'], f.skip rest)
    | items, rest => (items, rest)
  (⟨items, .bracket st.items negated :: st.around⟩, rest)

/-- Starts the right side of an operation. -/
def pushOperation (f : Flags) (kind : SetOp) (st : BracketState) : BracketState :=
  let (left, around) := st.complete f
  ⟨[], .operation kind left :: around⟩

/-- Reads on until the outermost bracket closes. -/
def readItems (f : Flags) : (fuel : Nat) → BracketState → List Char → SetRead
  | 0, _, _ => .error (.unclosed "class")
  | fuel + 1, st, text =>
    match f.skip text with
    | [] => .error (.unclosed "class")
    | '[' :: rest =>
      match asciiClass? ('[' :: rest) with
      | some (k, negated, rest) => do
        let s ← f.close negated (.listed k.set)
        readItems f fuel (st.push s) rest
      | none =>
        let (st, rest) := openBracket f st rest
        readItems f fuel st rest
    | ']' :: rest =>
      match st.complete f with
      | (s, .bracket outer negated :: around) => do
        let s ← f.close negated (.bracket s)
        if around.isEmpty then .ok (s, rest) else readItems f fuel ⟨s :: outer, around⟩ rest
      | _ => .error (.unclosed "class")
    | '&' :: '&' :: rest => readItems f fuel (pushOperation f .intersection st) rest
    | '-' :: '-' :: rest => readItems f fuel (pushOperation f .difference st) rest
    | '~' :: '~' :: rest => readItems f fuel (pushOperation f .symmetricDifference st) rest
    | c :: rest => do
      let (s, rest) ← readItem f (c :: rest)
      readItems f fuel (st.push s) rest

/-- **A set in brackets**, after the opening one. -/
def readBracket (f : Flags) (text : List Char) : SetRead :=
  let (st, rest) := openBracket f ⟨[], []⟩ text
  readItems f (rest.length + 1) st rest

end KeysetStore.Pattern
