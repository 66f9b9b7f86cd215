import KeysetStore.Pattern.Automaton.Layout

/-!
# Pattern/Automaton/Words — a choice between texts as states

Texts to choose from are laid out as a tree of their bytes: those that begin alike share states up
to where they part.  A text that ends where another one goes on is a rank of its own between the
texts before it and after it, so that earlier ones keep coming first.
-/

namespace KeysetStore.Pattern.Automaton

/-- The bytes of a text to choose. -/
abbrev Word := List UInt8

/-- Words met at a place: finished ranks, last first, and the open one, last word first. -/
structure Ranks where
  done : List (List Word)
  current : List Word

/-- Adds a word.  An empty word ends here and closes the rank, unless nothing goes on from here and
one has ended already. -/
def Ranks.add (ranks : Ranks) (word : Word) : Ranks :=
  match word with
  | [] =>
    if ranks.current.isEmpty && !ranks.done.isEmpty && ranks.done.all List.isEmpty then ranks
    else ⟨ranks.current.reverse :: ranks.done, []⟩
  | word => { ranks with current := word :: ranks.current }

/-- **The ranks of some words**: those before the first that ends here, those between it and the
next one, and so on. -/
def ranksOf (words : List Word) : List (List Word) :=
  let ranks := words.foldl Ranks.add ⟨[], []⟩
  (ranks.current.reverse :: ranks.done).reverse

/-- Puts a word with those that have the same first byte; bytes ascend. -/
def insertWord (word : Word) (groups : List (UInt8 × List Word)) : List (UInt8 × List Word) :=
  match word, groups with
  | [], groups => groups
  | b :: tail, [] => [(b, [tail])]
  | b :: tail, (c, tails) :: more =>
    if b < c then (b, [tail]) :: (c, tails) :: more
    else if b = c then (c, tails ++ [tail]) :: more
    else (c, tails) :: insertWord (b :: tail) more

/-- Words by their first byte. -/
def byFirstByte (words : List Word) : List (UInt8 × List Word) :=
  words.foldl (fun groups word => insertWord word groups) []

/-- The fork from which some words lead to the last state.  A word has fewer bytes than the fuel. -/
def layOutWords : (fuel : Nat) → List Word → Build Unit
  | 0, _ => pure ()
  | fuel + 1, words => do
    let ranks := ranksOf words
    let groups := ranks.map byFirstByte
    groups.forM fun group => do
      group.forM fun (_, tails) =>
        if tails.all List.isEmpty then pure () else layOutWords fuel tails
      if group.isEmpty then pure ()
      else discard (newState (if group.length = 1 then 0 else 8 * group.length))
    let edges := (groups.filter (!·.isEmpty)).length + (ranks.length - 1)
    let _ ← newState (4 * edges)

/-- **A choice between words.** -/
def choiceOfWords (words : List Word) : Build Fragment := do
  let finish ← newState 0
  let fuel := (words.map List.length).foldl max 0 + 1
  layOutWords fuel words
  let start := (← get).states - 1
  return ⟨start, finish, false⟩

end KeysetStore.Pattern.Automaton
