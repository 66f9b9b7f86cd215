import KeysetStore.Power

/-!
# Pattern/Automaton/Layout — states and the memory they take

A pattern is laid out as numbered states.  A state takes 32 bytes, and its edges take more: four
bytes each out of a fork, eight out of a state that tells bytes apart.  Any other state has room for
its one edge.
-/

namespace KeysetStore.Pattern.Automaton

/-- What is laid out: how many states, and how many bytes their edges take besides. -/
structure Layout where
  states : Nat
  edgeBytes : Nat

namespace Layout

/-- Nothing yet. -/
def empty : Layout := ⟨0, 0⟩

/-- **The memory of a layout**, in bytes. -/
def memory (l : Layout) : Nat := 32 * l.states + l.edgeBytes

/-- The greatest memory of a layout: ten mebibytes. -/
def limit : Nat := 10 * 2 ^ (20 : Nat)

/-- Whether a layout keeps to the limit. -/
def fits (l : Layout) : Bool := l.memory ≤ limit

end Layout

/-- A step that lays out more. -/
abbrev Build := StateM Layout

/-- A state whose edges take so many bytes. -/
def newState (edgeBytes : Nat) : Build Nat := fun l =>
  (l.states, ⟨l.states + 1, l.edgeBytes + edgeBytes⟩)

/-- One more edge out of a fork. -/
def addEdge : Build Unit := modify fun l => { l with edgeBytes := l.edgeBytes + 4 }

/-- A part that is laid out. -/
structure Fragment where
  /-- The first state. -/
  start : Nat
  /-- The last state. -/
  finish : Nat
  /-- Whether the last state is a fork. -/
  forks : Bool

namespace Fragment

/-- A state by itself. -/
def one (state : Nat) : Fragment := ⟨state, state, false⟩

/-- Leads on from the last state. -/
def leave (f : Fragment) : Build Unit := if f.forks then addEdge else pure ()

/-- Two fragments, one after the other. -/
def andThen (f g : Fragment) : Build Fragment := do
  f.leave
  return ⟨f.start, g.finish, g.forks⟩

end Fragment

/-- A state without further edges. -/
def plainState : Build Fragment := return .one (← newState 0)

/-! ## Repeating a part

Once the limit is passed more states decide nothing, so repeating stops. -/

/-- Adds so many copies of a part at the end of a fragment. -/
def extend (part : Build Fragment) : (count : Nat) → Fragment → Build Fragment
  | 0, f => pure f
  | count + 1, f => do
    if (← get).fits then
      let g ← part
      extend part count (← f.andThen g)
    else pure f

/-- **A part, so many times.** -/
def exactly (part : Build Fragment) : (count : Nat) → Build Fragment
  | 0 => plainState
  | count + 1 => do extend part count (← part)

/-- Adds so many copies of a part at the end of a fragment, each after a fork that can pass it and
what follows. -/
def extendOptional (part : Build Fragment) : (count : Nat) → Fragment → Build Fragment
  | 0, f => pure f
  | count + 1, f => do
    if (← get).fits then
      f.leave
      let _ ← newState 8
      let g ← part
      extendOptional part count ⟨f.start, g.finish, g.forks⟩
    else pure f

/-- **A part, so many times and up to some times more.** -/
def between (part : Build Fragment) (least more : Nat) : Build Fragment := do
  let f ← exactly part least
  let finish ← newState 0
  let g ← extendOptional part more f
  g.leave
  return ⟨g.start, finish, false⟩

/-- **A part or nothing.** -/
def optional (part : Build Fragment) : Build Fragment := do
  let fork ← newState 8
  let f ← part
  let finish ← newState 0
  f.leave
  return ⟨fork, finish, false⟩

/-- **A part, any number of times**; `solid` says that every match of it takes a character. -/
def anyTimes (solid : Bool) (part : Build Fragment) : Build Fragment := do
  if solid then
    let fork ← newState 4
    let f ← part
    f.leave
    return ⟨fork, fork, true⟩
  else
    let f ← part
    f.leave
    let _ ← newState 8
    let fork ← newState 8
    let finish ← newState 0
    return ⟨fork, finish, false⟩

/-- **A part, so many times or more**, once at least. -/
def atLeast (part : Build Fragment) (least : Nat) : Build Fragment := do
  let f ← exactly part least
  f.leave
  let fork ← newState 4
  return ⟨f.start, fork, true⟩

end KeysetStore.Pattern.Automaton
