/-!
# WhiteSpace — the blank characters

The white space of Unicode: the ASCII blanks from tab to carriage return, the space, the next line,
and the spaces and separators beyond ASCII.
-/

namespace KeysetStore

/-- The ranges of the blank characters. -/
def whiteSpaceCodes : List (Nat × Nat) :=
  [(9, 13), (0x20, 0x20), (0x85, 0x85), (0xA0, 0xA0), (0x1680, 0x1680), (0x2000, 0x200A),
    (0x2028, 0x2029), (0x202F, 0x202F), (0x205F, 0x205F), (0x3000, 0x3000)]

/-- Whether a character is white space. -/
def isWhiteSpace (c : Char) : Bool :=
  whiteSpaceCodes.any fun (first, last) => first ≤ c.toNat && c.toNat ≤ last

/-- **A text without the white space around it.** -/
def trim (text : String) : String :=
  let front := text.toList.dropWhile isWhiteSpace
  String.ofList (front.reverse.dropWhile isWhiteSpace).reverse

end KeysetStore
