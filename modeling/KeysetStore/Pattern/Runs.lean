import KeysetStore.Pattern.Ranges

/-!
# Pattern/Runs — a property of all code points, as labelled runs

A property with one value for every code point is written as the runs in which its value stays the
same: a label, which begins with a capital letter, and the length of the run, left out where it is
one.
-/

namespace KeysetStore.Pattern

/-- **A partition of the code points into labelled runs**: the ends of each and its label, in
order. -/
structure Runs where
  stretches : List (Nat × Nat × String)

namespace Runs

/-- Reading so far: the finished runs, last first, the next free code point, the current label and
the digits of its length. -/
structure Reading where
  done : List (Nat × Nat × String)
  next : Nat
  label : List Char
  length : Option Nat

/-- Finishes the current run. -/
def Reading.finish (r : Reading) : Reading :=
  if r.label.isEmpty then r
  else
    let next := r.next + r.length.getD 1
    { done := (r.next, next - 1, String.ofList r.label.reverse) :: r.done
      next
      label := []
      length := none }

/-- Takes one more character of the text. -/
def Reading.take (r : Reading) (c : Char) : Reading :=
  if c.isDigit then { r with length := some (10 * r.length.getD 0 + (c.toNat - '0'.toNat)) }
  else if c.isUpper then { r.finish with label := [c] }
  else { r with label := c :: r.label }

/-- The runs a text writes, from the first code point on. -/
def ofText (text : String) : Runs :=
  ⟨(text.toList.foldl Reading.take ⟨[], 0, [], none⟩).finish.done.reverse⟩

/-- **The code points whose label passes a test.** -/
def ranges (r : Runs) (test : String → Bool) : Ranges :=
  .ofList <| r.stretches.filterMap fun (first, last, label) =>
    if test label then some (first, last) else none

end Runs

end KeysetStore.Pattern
