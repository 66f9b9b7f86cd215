import KeysetStore.Pattern.Ranges

/-!
# Pattern/Utf8 — ranges of characters as sequences of bytes

A character takes one to four bytes.  A range of characters is cut where the length of the writing
changes, and then at the blocks of 64, 64² and 64³ characters, so that in each piece every byte
ranges on its own.
-/

namespace KeysetStore.Pattern.Utf8

/-- The bytes from one to another. -/
structure ByteRange where
  first : UInt8
  last : UInt8
deriving DecidableEq

/-- The bytes of a character. -/
def bytesOf (code : Nat) : List UInt8 := String.utf8EncodeChar (Char.ofNat code)

/-- A piece of the characters, as the ranges of its bytes. -/
def ofPiece (piece : Nat × Nat) : List ByteRange :=
  (bytesOf piece.1).zipWith ByteRange.mk (bytesOf piece.2)

/-- Cuts a range at the blocks it does not fill, from the small blocks to the large ones. -/
def cut : (sizes : List Nat) → (first last : Nat) → List (Nat × Nat)
  | [], first, last => [(first, last)]
  | size :: sizes, first, last =>
    if first / size = last / size then [(first, last)]
    else
      let start := (first + size - 1) / size * size
      let stop := (last + 1) / size * size
      let front := if first < start then [(first, start - 1)] else []
      let middle := if start < stop then cut sizes start (stop - 1) else []
      let back := if stop ≤ last then [(stop, last)] else []
      front ++ middle ++ back

/-- The characters of two, three and four bytes; no character lies at the surrogates. -/
def longStretches : List (Nat × Nat) :=
  [(0x80, 0x7FF), (0x800, 0xD7FF), (0xE000, 0xFFFF), (0x10000, 0x10FFFF)]

/-- The sequences of a range of characters. -/
def sequencesOf (range : Nat × Nat) : List (List ByteRange) :=
  let ascii := if range.1 < 128 then [ofPiece (range.1, min range.2 127)] else []
  ascii ++ longStretches.flatMap fun (a, b) =>
    let (first, last) := (max range.1 a, min range.2 b)
    if first ≤ last then (cut [64, 64 ^ (2 : Nat), 64 ^ (3 : Nat)] first last).map ofPiece else []

/-- **The sequences of bytes that write the characters of a set**, in ascending order. -/
def sequences (r : Ranges) : List (List ByteRange) := r.toList.flatMap sequencesOf

end KeysetStore.Pattern.Utf8
