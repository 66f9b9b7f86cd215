import KeysetStore.Hex

/-!
# Pattern/Ranges — sets of characters as ranges

A set of characters is an array of closed ranges of code points, ascending and apart.  Sets are
joined, cut and complemented range by range, and a character is looked up by halving.

The surrogates lie between `U+D7FF` and `U+E000` and are no characters: the code point after the one
is the other.  Two ranges that meet there are not joined, and where a complement is taken the two
ends that face each other belong to it.
-/

namespace KeysetStore.Pattern

/-- **A set of characters**: closed ranges of code points, ascending and apart. -/
structure Ranges where
  pairs : Array (Nat × Nat)
deriving DecidableEq

namespace Ranges

/-- The greatest code point. -/
def maxCode : Nat := 0x10FFFF

/-- The last code point before the surrogates. -/
def gapStart : Nat := 0xD7FF

/-- The first code point after the surrogates. -/
def gapEnd : Nat := 0xE000

/-- The code point after one, past the surrogates. -/
def next (code : Nat) : Nat := if code = gapStart then gapEnd else code + 1

/-- The code point before one, past the surrogates. -/
def previous (code : Nat) : Nat := if code = gapEnd then gapStart else code - 1

/-! ## Making sets -/

/-- Ranges that begin in ascending order, those made one that overlap or touch. -/
def join : List (Nat × Nat) → List (Nat × Nat)
  | (a, b) :: (c, d) :: rest =>
    if c ≤ b + 1 then join ((a, max b d) :: rest) else (a, b) :: join ((c, d) :: rest)
  | short => short
termination_by ranges => ranges.length

/-- **The set of some ranges**, in any order. -/
def ofList (ranges : List (Nat × Nat)) : Ranges :=
  ⟨(join (ranges.mergeSort fun x y => x.1 ≤ y.1)).toArray⟩

/-- The ranges of a set. -/
def toList (r : Ranges) : List (Nat × Nat) := r.pairs.toList

/-- The set of some characters. -/
def ofChars (chars : List Char) : Ranges := ofList (chars.map fun c => (c.toNat, c.toNat))

/-- All characters. -/
def all : Ranges := ⟨#[(0, maxCode)]⟩

/-- The code point a text writes in hexadecimal digits. -/
def codeOf (text : String) : Nat := (Hex.value? 0 text.toList).getD 0

/-- The ranges an item of a text writes: one code point, all from one to another around a hyphen, or
every second one around a tilde. -/
def readItem (item : String) : List (Nat × Nat) :=
  match item.splitOn "-", item.splitOn "~" with
  | [first, last], _ => [(codeOf first, codeOf last)]
  | _, [first, last] =>
    let a := codeOf first
    (List.range ((codeOf last - a) / 2 + 1)).map fun n => (a + 2 * n, a + 2 * n)
  | _, _ => [(codeOf item, codeOf item)]

/-- **The set a text writes**, in items with a space between. -/
def ofText (text : String) : Ranges := ofList ((text.splitOn " ").flatMap readItem)

/-! ## Members -/

/-- Halves the places between `low` and `high` until one is left: the last range that starts at or
before the code point. -/
def search (pairs : Array (Nat × Nat)) (code : Nat) : (steps low high : Nat) → Nat
  | 0, low, _ => low
  | steps + 1, low, high =>
    if high ≤ low + 1 then low
    else
      let middle := (low + high) / 2
      match pairs[middle]? with
      | some (first, _) =>
        if first ≤ code then search pairs code steps middle high
        else search pairs code steps low middle
      | none => low

/-- Whether a code point lies in a range of a set. -/
def containsCode (r : Ranges) (code : Nat) : Bool :=
  r.pairs[search r.pairs code r.pairs.size 0 r.pairs.size]?.any fun (first, last) =>
    first ≤ code && code ≤ last

/-- **Whether a character is a member of a set.** -/
def contains (r : Ranges) (c : Char) : Bool := r.containsCode c.toNat

/-- The only member of a set that has one. -/
def single? (r : Ranges) : Option Char :=
  match r.toList with
  | [(a, b)] => if a = b then some (Char.ofNat a) else none
  | _ => none

/-- Whether all members of a set lie in ASCII. -/
def isAscii (r : Ranges) : Bool := r.pairs.back?.all fun (_, last) => last < 128

/-! ## Operations -/

/-- The members of either set. -/
def union (r s : Ranges) : Ranges := ofList (r.toList ++ s.toList)

/-- The members of any of several sets. -/
def unionAll (sets : List Ranges) : Ranges := ofList (sets.flatMap toList)

/-- The ranges that ascending ranges have in common. -/
def meet : List (Nat × Nat) → List (Nat × Nat) → List (Nat × Nat)
  | (a, b) :: xs, (c, d) :: ys =>
    let rest := if b < d then meet xs ((c, d) :: ys) else meet ((a, b) :: xs) ys
    if max a c ≤ min b d then (max a c, min b d) :: rest else rest
  | _, _ => []
termination_by xs ys => xs.length + ys.length

/-- The members of both sets. -/
def inter (r s : Ranges) : Ranges := ⟨(meet r.toList s.toList).toArray⟩

/-- The ranges from a code point on that lie outside ascending ranges. -/
def gaps : (start : Nat) → List (Nat × Nat) → List (Nat × Nat)
  | start, [] => if start ≤ maxCode then [(start, maxCode)] else []
  | start, (a, b) :: rest =>
    if start < a then (start, previous a) :: gaps (next b) rest else gaps (next b) rest

/-- The members of one set that are none of another. -/
def diff (r s : Ranges) : Ranges := ⟨(meet r.toList (gaps 0 s.toList)).toArray⟩

/-- The members of one of two sets and not of the other. -/
def symmDiff (r s : Ranges) : Ranges := (r.union s).diff (r.inter s)

/-- Whether two ranges of a set meet at the surrogates. -/
def meetsAtGap (r : Ranges) : Bool :=
  r.pairs.any (fun (_, last) => last = gapStart) && r.pairs.any (fun (first, _) => first = gapEnd)

/-- The ranges between neighbours, and the one after the last.  The ends of a range keep their
order, so between two that meet at the surrogates lie the ends that face each other. -/
def between : List (Nat × Nat) → List (Nat × Nat)
  | (_, b) :: (c, d) :: rest =>
    (min (next b) (previous c), max (next b) (previous c)) :: between ((c, d) :: rest)
  | [(_, b)] => if b < maxCode then [(next b, maxCode)] else []
  | [] => []

/-- **The complement of a set.** -/
def complement (r : Ranges) : Ranges :=
  match r.toList with
  | [] => all
  | (a, b) :: rest =>
    let front := if 0 < a then [(0, previous a)] else []
    ⟨(front ++ between ((a, b) :: rest)).toArray⟩

end Ranges

end KeysetStore.Pattern
