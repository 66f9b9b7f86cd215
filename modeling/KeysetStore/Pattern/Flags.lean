import KeysetStore.Pattern.Error
import KeysetStore.Pattern.Syntax

/-!
# Pattern/Flags — how the letters of a pattern are read

Flags change what a letter, a dot or an assertion stands for.  They are given with the pattern, and
a pattern changes them itself from one place to the end of the group.
-/

namespace KeysetStore.Pattern

/-- The flags in force at a place of a pattern. -/
structure Flags where
  /-- Letters match in both cases. -/
  ignoreCase : Bool := false
  /-- Assertions see the lines of the text. -/
  multiLine : Bool := false
  /-- The dot matches the end of a line too. -/
  dotAll : Bool := false
  /-- A carriage return ends a line as well. -/
  crlf : Bool := false
  /-- Blanks and comments between the parts do not count. -/
  ignoreSpace : Bool := false
  /-- Sets reach beyond ASCII. -/
  unicode : Bool := true
deriving DecidableEq

namespace Flags

/-- Which characters count as the same. -/
def folding (f : Flags) : Folding :=
  if !f.ignoreCase then .exact else if f.unicode then .unicode else .ascii

/-- A set under the flags: closed under case, then complemented where that is asked for.  Where sets
are of bytes, one that leaves ASCII could match a part of a character. -/
def close (f : Flags) (negated : Bool) (s : CharSet) : Except PatternError CharSet :=
  let folded := if f.ignoreCase then .folded f.folding s else s
  let outcome := if negated then .complement folded else folded
  if f.unicode || !outcome.contains '\u0080' then .ok outcome else .error .splitsCharacters

/-- **The set of one letter.** -/
def literal (f : Flags) (c : Char) : CharSet :=
  if f.ignoreCase && (f.unicode || c.toNat < 128) then .folded f.folding (.one c) else .one c

/-- **The set of the dot.** -/
def dot (f : Flags) : Except PatternError CharSet :=
  if !f.unicode then .error .splitsCharacters
  else if f.dotAll then .ok (.listed .all)
  else if f.crlf then .ok (.complement (.union [.one '\r', .one '\n']))
  else .ok (.complement (.one '\n'))

/-- A class of one letter: digits, blanks or the characters of words, or all others. -/
def letterClass (f : Flags) (unicodeSet : Ranges) (asciiSet : AsciiClass) (negated : Bool) :
    Except PatternError CharSet :=
  match f.unicode, negated with
  | true, false => .ok (.listed unicodeSet)
  | true, true => .ok (.complement (.listed unicodeSet))
  | false, false => .ok (.listed asciiSet.set)
  | false, true => .error .splitsCharacters

/-- The lines an assertion knows. -/
def lines (f : Flags) : Lines :=
  if !f.multiLine then .text else if f.crlf then .crlf else .lineFeed

/-- Sets the flag of a letter; a letter that names none is refused. -/
def set? (f : Flags) (letter : Char) (value : Bool) : Option Flags :=
  match letter with
  | 'i' => some { f with ignoreCase := value }
  | 'm' => some { f with multiLine := value }
  | 's' => some { f with dotAll := value }
  | 'R' => some { f with crlf := value }
  | 'x' => some { f with ignoreSpace := value }
  | 'u' => some { f with unicode := value }
  | 'U' => some f
  | _ => none

/-- **The flags of a run of letters**, those after a minus sign switched off.  Each letter and the
sign come once at most, and the sign goes before a letter. -/
def read (f : Flags) (letters : List Char) : Except PatternError Flags :=
  let on := letters.takeWhile (· ≠ '-')
  let off := letters.drop (on.length + 1)
  let all := on ++ off
  if off.contains '-' ∨ (on.length < letters.length ∧ off = []) ∨ ¬ all.Nodup then .error .flags
  else
    let step (value : Bool) (f : Option Flags) (letter : Char) : Option Flags :=
      f.bind fun f => f.set? letter value
    match off.foldl (step false) (on.foldl (step true) (some f)) with
    | some f => .ok f
    | none => .error .flags

end Flags

end KeysetStore.Pattern
