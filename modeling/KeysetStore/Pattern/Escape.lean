import KeysetStore.Hex
import KeysetStore.Pattern.Flags

/-!
# Pattern/Escape — what follows a backslash

A backslash takes the meaning from a character of the syntax, or gives one to a letter.  Reading
consumes the text from the front and returns the rest.
-/

namespace KeysetStore.Pattern

/-- The rest of a text after blanks, and after comments from a number sign to the end of the
line. -/
def dropBlank : (comment : Bool) → List Char → List Char
  | _, [] => []
  | true, c :: rest => dropBlank (c ≠ '\n') rest
  | false, c :: rest =>
    if isWhiteSpace c then dropBlank false rest
    else if c = '#' then dropBlank true rest
    else c :: rest

/-- The rest of a text after what does not count under the flags. -/
def Flags.skip (f : Flags) (text : List Char) : List Char :=
  if f.ignoreSpace then dropBlank false text else text

/-- The characters that have a meaning in patterns. -/
def isMeta (c : Char) : Bool :=
  ['\\', '.', '+', '*', '?', '(', ')', '|', '[', ']', '\x7b', '\x7d', '^', '$', '#', '&', '-',
    '~'].contains c

/-- The characters a backslash leaves as they are: all of ASCII but letters, digits and angles. -/
def isEscapable (c : Char) : Bool := c.toNat < 128 && !c.isAlphanum && c ≠ '<' && c ≠ '>'

/-- What a backslash and the characters after it stand for. -/
inductive Escaped where
  /-- A character; `byte` marks one that is written as a byte. -/
  | literal (c : Char) (byte : Bool)
  /-- A set of characters. -/
  | set (s : CharSet)
  /-- A condition on the place. -/
  | look (l : Look)

/-- What was read of an escape, and the rest of the text. -/
abbrev EscapeRead := Except PatternError (Escaped × List Char)

/-! ## Characters by number -/

/-- The character of a list of hexadecimal digits, at most as great as characters are. -/
def charOfHex (digits : List Char) (byte : Bool) (rest : List Char) : EscapeRead :=
  match Hex.value? 0 digits with
  | some n =>
    if digits ≠ [] ∧ n.isValidChar then .ok (.literal (Char.ofNat n) byte, rest)
    else .error .codePoint
  | none => .error .codePoint

/-- Takes a fixed count of digits, with blanks between them where these do not count. -/
def takeDigits (f : Flags) : (count : Nat) → List Char → Option (List Char × List Char)
  | 0, text => some ([], text)
  | _ + 1, [] => none
  | count + 1, c :: rest =>
    (takeDigits f count (if count = 0 then rest else f.skip rest)).map fun (digits, rest) =>
      (c :: digits, rest)

/-- Takes everything up to a closing brace, without the blanks where these do not count. -/
def takeBraced (f : Flags) (text : List Char) : Option (List Char × List Char) :=
  let rec go : Nat → List Char → Option (List Char × List Char)
    | 0, _ => none
    | fuel + 1, text =>
      match f.skip text with
      | [] => none
      | '\x7d' :: rest => some ([], rest)
      | c :: rest => (go fuel rest).map fun (inside, rest) => (c :: inside, rest)
  go (text.length + 1) text

/-- **A character by its number**: so many hexadecimal digits, or any count of them in braces. -/
def readHex (f : Flags) (count : Nat) (byte : Bool) (text : List Char) : EscapeRead :=
  match f.skip text with
  | '\x7b' :: rest =>
    match takeBraced f rest with
    | some (digits, rest) => charOfHex digits false rest
    | none => .error (.unclosed "escape")
  | rest =>
    match takeDigits f count rest with
    | some (digits, rest) => charOfHex digits byte rest
    | none => .error (.unclosed "escape")

/-! ## Properties -/

/-- The first place of a separator in a name, and the name and the value around it. -/
def splitOnce (separator : List Char) : List Char → Option (List Char × List Char)
  | [] => none
  | c :: rest =>
    if separator.isPrefixOf (c :: rest) then some ([], (c :: rest).drop separator.length)
    else (splitOnce separator rest).map fun (before, after) => (c :: before, after)

/-- The property a text between braces asks for, and whether it asks for its complement. -/
def propertyOf? (inside : List Char) : Option (Ranges × Bool) :=
  let valued (pair : List Char × List Char) (negated : Bool) : Option (Ranges × Bool) :=
    (Property.valued? (String.ofList pair.1) (String.ofList pair.2)).map (·, negated)
  match splitOnce ['!', '='] inside with
  | some pair => valued pair true
  | none =>
    match (splitOnce [':'] inside).or (splitOnce ['='] inside) with
    | some pair => valued pair false
    | none => (Property.named? (String.ofList inside)).map (·, false)

/-- **A set by a property**: one letter, or a name in braces. -/
def readProperty (f : Flags) (negated : Bool) (text : List Char) : EscapeRead :=
  let finish (inside rest : List Char) : EscapeRead :=
    match propertyOf? inside with
    | some (r, other) =>
      if f.unicode then (f.close (negated != other) (.listed r)).map fun s => (.set s, rest)
      else .error .splitsCharacters
    | none => .error .property
  match f.skip text with
  | [] => .error (.unclosed "escape")
  | '\x7b' :: rest =>
    match takeBraced f rest with
    | some (inside, rest) => finish inside rest
    | none => .error (.unclosed "escape")
  | c :: rest => finish [c] rest

/-! ## Word boundaries -/

/-- Whether a character can stand in the name of a word boundary. -/
def isEdgeName (c : Char) : Bool := c.isAlpha || c = '-'

/-- The word boundary of a name. -/
def WordEdge.named? : String → Option WordEdge
  | "start" => some .start
  | "end" => some .finish
  | "start-half" => some .startHalf
  | "end-half" => some .finishHalf
  | _ => none

/-- **A word boundary**, which a name in braces may restrict to one side.  Braces that begin with
anything but a name are left for a count. -/
def readEdge (f : Flags) (text : List Char) : EscapeRead :=
  let plain : EscapeRead := .ok (.look (.edge .boundary !f.unicode), text)
  match text with
  | '\x7b' :: rest =>
    match f.skip rest with
    | [] => .error (.unclosed "word boundary")
    | c :: _ =>
      if !isEdgeName c then plain
      else
        match takeBraced f rest with
        | none => .error (.unclosed "word boundary")
        | some (inside, rest) =>
          match WordEdge.named? (String.ofList inside) with
          | some edge => .ok (.look (.edge edge !f.unicode), rest)
          | none => .error .escape
  | _ => plain

/-! ## All escapes -/

/-- **What follows a backslash.** -/
def readEscape (f : Flags) : List Char → EscapeRead
  | [] => .error (.unclosed "escape")
  | c :: rest =>
    let letterClass (s : Ranges) (k : AsciiClass) (negated : Bool) : EscapeRead :=
      (f.letterClass s k negated).map fun s => (.set s, rest)
    let look (l : Look) : EscapeRead := .ok (.look l, rest)
    let literal (c : Char) : EscapeRead := .ok (.literal c false, rest)
    if c.isDigit then .error .backreference
    else if isMeta c || isEscapable c then literal c
    else
      match c with
      | 'x' => readHex f 2 true rest
      | 'u' => readHex f 4 false rest
      | 'U' => readHex f 8 false rest
      | 'p' => readProperty f false rest
      | 'P' => readProperty f true rest
      | 'd' => letterClass Category.digits .digit false
      | 'D' => letterClass Category.digits .digit true
      | 's' => letterClass Trait.whiteSpace .space false
      | 'S' => letterClass Trait.whiteSpace .space true
      | 'w' => letterClass wordChars .word false
      | 'W' => letterClass wordChars .word true
      | 'a' => literal '\x07'
      | 'f' => literal '\x0c'
      | 't' => literal '\t'
      | 'n' => literal '\n'
      | 'r' => literal '\r'
      | 'v' => literal '\x0b'
      | 'A' => look (.lineStart .text)
      | 'z' => look (.lineEnd .text)
      | 'b' => readEdge f rest
      | 'B' => look (.edge .inside !f.unicode)
      | '<' => look (.edge .start !f.unicode)
      | '>' => look (.edge .finish !f.unicode)
      | _ => .error .escape

end KeysetStore.Pattern
