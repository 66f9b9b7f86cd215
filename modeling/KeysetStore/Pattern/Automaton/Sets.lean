import Std.Data.HashMap
import KeysetStore.Pattern.Automaton.Layout
import KeysetStore.Pattern.Utf8

/-!
# Pattern/Automaton/Sets — sets of characters as states

A set is laid out as the sequences of bytes that write its characters.  Forward, sequences with the
same beginning branch where they part, and equal ends are laid out once; backward, every sequence is
entered from a fork, and those that begin alike lead to the same states.

States are found again by way of a table with a fixed number of slots.  The numbers that make up a
state choose its slot, and a later state displaces an earlier one.
-/

namespace KeysetStore.Pattern.Automaton

/-! ## States that are laid out once -/

/-- States found by the numbers that make them up. -/
structure Slots where
  /-- How many slots there are. -/
  count : Nat
  /-- The numbers and the state in each slot that is taken. -/
  taken : Std.HashMap Nat (List Nat × Nat)

/-- A table with all slots free. -/
def Slots.free (count : Nat) : Slots := ⟨count, ∅⟩

/-- Stirs a number into a hash. -/
def stir (hash : UInt64) (n : Nat) : UInt64 := (hash ^^^ UInt64.ofNat n) * 1099511628211

/-- The slot that some numbers choose. -/
def Slots.choose (slots : Slots) (key : List Nat) : Nat :=
  (key.foldl stir 14695981039346656037).toNat % slots.count

/-- A step that lays out more and finds states again. -/
abbrev Sharing := StateT Slots Build

/-- **The state made up by some numbers**: the one in their slot, or a new one whose edges take so
many bytes. -/
def sharedState (edgeBytes : Nat) (key : List Nat) : Sharing Nat := do
  let slots ← get
  let slot := slots.choose key
  let found := match slots.taken[slot]? with
    | some (other, state) => if other = key then some state else none
    | none => none
  match found with
  | some state => return state
  | none =>
    let state ← newState edgeBytes
    modify fun slots => { slots with taken := slots.taken.insert slot (key, state) }
    return state

/-! ## Forward -/

/-- Sequences by their first range: neighbours that begin alike are kept together. -/
def byFirst : List (List Utf8.ByteRange) → List (Utf8.ByteRange × List (List Utf8.ByteRange))
  | [] => []
  | [] :: rest => byFirst rest
  | (b :: tail) :: rest =>
    match byFirst rest with
    | (c, tails) :: more =>
      if b = c then (c, tail :: tails) :: more else (b, [tail]) :: (c, tails) :: more
    | [] => [(b, [tail])]

/-- The numbers of an edge: its range of bytes, and the state it leads to. -/
def edgeKey (bytes : Utf8.ByteRange) (target : Nat) : List Nat :=
  [bytes.first.toNat, bytes.last.toNat, target]

/-- The state from which some sequences lead to the last one.  A sequence has `depth` ranges at
most. -/
def layOutTails (finish : Nat) : (depth : Nat) → List (List Utf8.ByteRange) → Sharing Nat
  | 0, _ => pure finish
  | depth + 1, tails => do
    let edges ← (byFirst tails).mapM fun (bytes, rests) => do
      let target ← if rests.all List.isEmpty then pure finish else layOutTails finish depth rests
      return edgeKey bytes target
    sharedState (8 * edges.length) edges.flatten

/-- A set, read from the first byte to the last. -/
def setForward (sequences : List (List Utf8.ByteRange)) : Build Fragment := do
  let finish ← newState 0
  let (start, _) ← (layOutTails finish 4 sequences).run (.free 10000)
  return ⟨start, finish, false⟩

/-! ## Backward -/

/-- Lays out sequences from the last state on, and an edge from the fork to the end of each. -/
def layOutReversed (finish : Nat) : List (List Utf8.ByteRange) → Sharing Unit
  | [] => pure ()
  | sequence :: rest => do
    let _ ← sequence.foldlM
      (fun target bytes => sharedState 0 [target, bytes.first.toNat, bytes.last.toNat]) finish
    addEdge
    layOutReversed finish rest

/-- A set, read from the last byte to the first. -/
def setBackward (sequences : List (List Utf8.ByteRange)) : Build Fragment := do
  let fork ← newState 0
  let finish ← newState 0
  let _ ← (layOutReversed finish sequences).run (.free 1000)
  return ⟨fork, finish, false⟩

/-- A set within ASCII: one state that tells its ranges apart. -/
def setAscii (ranges : Nat) : Build Fragment := do
  let finish ← newState 0
  let start ← newState (8 * ranges)
  return ⟨start, finish, false⟩

end KeysetStore.Pattern.Automaton
