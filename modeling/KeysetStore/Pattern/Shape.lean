import KeysetStore.Pattern.Syntax

/-!
# Pattern/Shape — what of a pattern has to be laid out

The shape of a pattern is its tree without what makes no difference to its matches.  Neighbouring
characters are one text, a choice between characters is a set, what several branches begin with
stands before them once, and a group that keeps no place is only its inside.  The constructors with
a capital condition — `ofRanges`, `ofConcat`, `ofBranches`, `ofRepeated` — keep this form.
-/

namespace KeysetStore.Pattern

/-- The shape of a pattern. -/
inductive Shape where
  /-- The empty text. -/
  | empty
  /-- A condition on a place. -/
  | look (l : Look)
  /-- Characters in a row, one at least. -/
  | text (chars : List Char)
  /-- One character of a set, which does not have exactly one. -/
  | set (r : Ranges)
  /-- A group that keeps the place of a match within. -/
  | group (part : Shape)
  /-- A part, repeated at least so often and at most so often. -/
  | repeated (part : Shape) (least : Nat) (most : Option Nat)
  /-- Two or more parts, one after the other. -/
  | concat (parts : List Shape)
  /-- Two or more branches. -/
  | branches (options : List Shape)

namespace Shape

/-! ## Extent -/

mutual

/-- **Whether a shape matches the empty text only.** -/
def isNarrow : Shape → Bool
  | empty => true
  | look _ => true
  | text _ => false
  | set _ => false
  | group part => part.isNarrow
  | repeated part _ most => part.isNarrow && most.isSome
  | concat parts => allNarrow parts
  | branches options => allNarrow options

/-- Whether several shapes match the empty text only. -/
def allNarrow : List Shape → Bool
  | [] => true
  | s :: rest => s.isNarrow && allNarrow rest

end

mutual

/-- **Whether every match of a shape takes a character**; nothing where a part of it has no match at
all. -/
def isSolid? : Shape → Option Bool
  | empty => some false
  | look _ => some false
  | text _ => some true
  | set r => if r.pairs.isEmpty then none else some true
  | group part => part.isSolid?
  | repeated part least _ => part.isSolid?.map (· && 0 < least)
  | concat parts => anySolid? parts
  | branches options => allSolid? options

/-- Whether every match of some shapes in a row takes a character. -/
def anySolid? : List Shape → Option Bool
  | [] => some false
  | s :: rest => s.isSolid?.bind fun a => (anySolid? rest).map (a || ·)

/-- Whether every match of any of some shapes takes a character. -/
def allSolid? : List Shape → Option Bool
  | [] => some true
  | s :: rest => s.isSolid?.bind fun a => (allSolid? rest).map (a && ·)

end

mutual

/-- **Whether every match of a shape begins at the start of the text.** -/
def startsAtText : Shape → Bool
  | look l => l = .lineStart .text
  | group part => part.startsAtText
  | repeated part least _ => 0 < least && part.startsAtText
  | concat parts => rowStartsAtText parts
  | branches options => allStartAtText options
  | _ => false

/-- Whether every match of some shapes in a row begins at the start of the text. -/
def rowStartsAtText : List Shape → Bool
  | [] => false
  | s :: rest => s.startsAtText || (s.isNarrow && rowStartsAtText rest)

/-- Whether every match of any of some shapes begins at the start of the text. -/
def allStartAtText : List Shape → Bool
  | [] => true
  | s :: rest => s.startsAtText && allStartAtText rest

end

mutual

/-- **Whether every match of a shape ends at the end of the text.** -/
def endsAtText : Shape → Bool
  | look l => l = .lineEnd .text
  | group part => part.endsAtText
  | repeated part least _ => 0 < least && part.endsAtText
  | concat parts => rowEndsAtText parts
  | branches options => allEndAtText options
  | _ => false

/-- Whether every match of some shapes in a row ends at the end of the text. -/
def rowEndsAtText : List Shape → Bool
  | [] => false
  | s :: rest => rowEndsAtText rest || (allNarrow rest && s.endsAtText)

/-- Whether every match of any of some shapes ends at the end of the text. -/
def allEndAtText : List Shape → Bool
  | [] => true
  | s :: rest => s.endsAtText && allEndAtText rest

end

/-! ## Likeness -/

mutual

/-- **Whether two shapes can stand in for each other.**  Two groups cannot, for each keeps a place
of its own. -/
def isLike : Shape → Shape → Bool
  | empty, empty => true
  | look a, look b => a = b
  | text a, text b => a = b
  | set r, set s => r = s
  | repeated a least most, repeated b least' most' => least = least' && most = most' && a.isLike b
  | concat as, concat bs => allLike as bs
  | branches as, branches bs => allLike as bs
  | _, _ => false

/-- Whether the shapes of two lists can stand in for each other. -/
def allLike : List Shape → List Shape → Bool
  | [], [] => true
  | a :: as, b :: bs => a.isLike b && allLike as bs
  | _, _ => false

end

/-! ## Making shapes -/

/-- One character of a set.  The only character of a set is a text. -/
def ofRanges (r : Ranges) : Shape :=
  match r.single? with
  | some c => text [c]
  | none => set r

/-- The shapes in a row that a shape stands for. -/
def row : Shape → List Shape
  | empty => []
  | concat parts => parts
  | s => [s]

/-- Makes neighbouring texts one. -/
def joinTexts : List Shape → List Shape
  | [] => []
  | text a :: rest =>
    match joinTexts rest with
    | text b :: more => text (a ++ b) :: more
    | more => text a :: more
  | s :: rest => s :: joinTexts rest

/-- **One shape after the other.** -/
def ofConcat (parts : List Shape) : Shape :=
  match joinTexts (parts.flatMap row) with
  | [] => empty
  | [s] => s
  | parts => concat parts

/-- The branches that a shape stands for. -/
def choices : Shape → List Shape
  | branches options => options
  | s => [s]

/-- The character of a text that has one. -/
def char? : Shape → Option Char
  | text [c] => some c
  | _ => none

/-- The set of a shape that is one. -/
def set? : Shape → Option Ranges
  | set r => some r
  | _ => none

/-- Branches as one set, where all are characters or all are sets. -/
def merged? (options : List Shape) : Option Shape :=
  match options.mapM char?, options.mapM set? with
  | some chars, _ => some (ofRanges (.ofChars chars))
  | none, some sets => some (ofRanges (.unionAll sets))
  | none, none => none

/-- The branches of some shapes, as one set where they make one. -/
def ofChoices (options : List Shape) : Shape :=
  match options.flatMap choices with
  | [] => set (.ofList [])
  | [s] => s
  | options => (merged? options).getD (branches options)

/-- The parts of a shape that has several. -/
def parts? : Shape → Option (List Shape)
  | concat parts => some parts
  | _ => none

/-- How many shapes at the front of two lists can stand in for each other. -/
def likeCount : List Shape → List Shape → Nat
  | a :: as, b :: bs => if a.isLike b then likeCount as bs + 1 else 0
  | _, _ => 0

/-- Puts before the branches what all of them begin with. -/
def lift (s : Shape) : Shape :=
  match s with
  | branches options =>
    match options.mapM parts? with
    | some (first :: others) =>
      let count := others.foldl (fun n parts => min n (likeCount first parts)) first.length
      let rests := (first :: others).map fun parts => ofConcat (parts.drop count)
      if count = 0 then s else ofConcat (first.take count ++ [ofChoices rests])
    | _ => s
  | s => s

/-- **Any one of some shapes.** -/
def ofBranches (options : List Shape) : Shape := (ofChoices options).lift

/-- **A shape, repeated.**  What takes no character is repeated once at most. -/
def ofRepeated (part : Shape) (least : Nat) (most : Option Nat) : Shape :=
  let cap (n : Nat) : Nat := if part.isNarrow then min n 1 else n
  let least := cap least
  let most := if part.isNarrow then some (most.elim 1 cap) else most
  if least = 0 ∧ most = some 0 then empty
  else if least = 1 ∧ most = some 1 then part
  else repeated part least most

end Shape

mutual

/-- **The shape of a tree.** -/
def Regex.shape : Regex → Shape
  | set s => .ofRanges s.ranges
  | look l => .look l
  | flags => .empty
  | concat parts => .ofConcat (Regex.shapes parts)
  | branches options => .ofBranches (Regex.shapes options)
  | repeated part least most => .ofRepeated part.shape least most
  | group captures part => if captures then .group part.shape else part.shape

/-- The shapes of several trees. -/
def Regex.shapes : List Regex → List Shape
  | [] => []
  | r :: rest => r.shape :: Regex.shapes rest

end

end KeysetStore.Pattern
