import KeysetStore.Pattern.Automaton.Sets
import KeysetStore.Pattern.Automaton.Words
import KeysetStore.Pattern.Shape

/-!
# Pattern/Automaton — a pattern as states

The shape of a pattern is laid out twice, once for reading a text forward and once for reading it
backward.  Groups keep places only forward.  `Shape.fits` says whether both layouts keep to the
limit on memory.
-/

namespace KeysetStore.Pattern

open Automaton

/-- Which way a text is read. -/
inductive Direction where
  | forward
  | backward
deriving DecidableEq

namespace Shape

/-- The bytes of a text, in the order in which they are read. -/
def bytes (direction : Direction) (chars : List Char) : Word :=
  let bytes := chars.flatMap String.utf8EncodeChar
  match direction with
  | .forward => bytes
  | .backward => bytes.reverse

/-- The texts among which a choice is, if all branches are texts. -/
def texts? (options : List Shape) : Option (List (List Char)) :=
  options.mapM fun
    | text chars => some chars
    | _ => none

mutual

/-- **Lays out a shape.** -/
def layOut (direction : Direction) : Shape → Build Fragment
  | empty => plainState
  | look _ => plainState
  | text chars => exactly plainState (bytes direction chars).length
  | set r =>
    if r.isAscii then setAscii r.pairs.size
    else
      match direction with
      | .forward => setForward (Utf8.sequences r)
      | .backward => setBackward (Utf8.sequences r)
  | group part =>
    match direction with
    | .forward => do
      let start ← newState 0
      let f ← layOut direction part
      let finish ← newState 0
      f.leave
      return ⟨start, finish, false⟩
    | .backward => layOut direction part
  | repeated part least most =>
    let one := layOut direction part
    match least, most with
    | 0, some 1 => optional one
    | 0, none => anyTimes (part.isSolid?.getD false) one
    | least, none => atLeast one least
    | least, some most =>
      if least = most then exactly one least else between one least (most - least)
  | concat parts => layOutRow direction parts
  | branches options =>
    match texts? options with
    | some texts => choiceOfWords (texts.map (bytes direction))
    | none => layOutChoice direction options

/-- Lays out shapes in a row, in the order in which they are read. -/
def layOutRow (direction : Direction) : List Shape → Build Fragment
  | [] => plainState
  | [s] => layOut direction s
  | s :: rest =>
    match direction with
    | .forward => do
      let f ← layOut direction s
      let g ← layOutRow direction rest
      f.andThen g
    | .backward => do
      let g ← layOutRow direction rest
      let f ← layOut direction s
      g.andThen f

/-- Lays out branches.  The fork before them and the state after them come behind the first two. -/
def layOutChoice (direction : Direction) : List Shape → Build Fragment
  | [] => plainState
  | [s] => layOut direction s
  | s :: t :: rest => do
    let f ← layOut direction s
    let g ← layOut direction t
    let fork ← newState 8
    let finish ← newState 0
    f.leave
    g.leave
    layOutMore direction rest
    return ⟨fork, finish, false⟩

/-- Lays out further branches. -/
def layOutMore (direction : Direction) : List Shape → Build Unit
  | [] => pure ()
  | s :: rest => do
    let f ← layOut direction s
    addEdge
    f.leave
    layOutMore direction rest

end

/-- What stands before a pattern: nothing but a state where every match is bound to an end of the
text, and else a loop over all bytes. -/
def layOutEntry (bound : Bool) : Build Unit := do
  if bound then discard (newState 0)
  else
    let _ ← newState 8
    discard (setAscii 1)

/-- **Lays out a whole pattern**: what stands before it, its shape as a group, and the state that
says a match is found. -/
def layOutWhole (s : Shape) (direction : Direction) : Build Unit := do
  match direction with
  | .forward =>
    layOutEntry s.startsAtText
    discard (layOut .forward (.group s))
  | .backward =>
    layOutEntry s.endsAtText
    (← layOut .backward s).leave
  discard (newState 0)

/-- The layout of a pattern. -/
def layout (s : Shape) (direction : Direction) : Layout := ((s.layOutWhole direction).run .empty).2

/-- How many texts a choice has that is searched for without states. -/
def manyTexts : Nat := 3000

/-- Whether a pattern is nothing but a choice between very many texts. -/
def isTextList : Shape → Bool
  | branches options => manyTexts ≤ options.length && (texts? options).isSome
  | _ => false

/-- **Whether a pattern keeps to the limit on memory**, read either way. -/
def fits (s : Shape) : Bool :=
  s.isTextList || ((s.layout .forward).fits && (s.layout .backward).fits)

end Shape

end KeysetStore.Pattern
