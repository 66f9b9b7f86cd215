import KeysetStore.Hex

/-!
# Json/Text — reading JSON

A text is read into a tree that keeps of each scalar what the records need: of a number whether it
is a plain natural one, of a string whether its escapes form characters.  So a record can pass over
a field it does not know, whatever the field holds, as long as the text around it is well formed.
-/

namespace KeysetStore

/-- A JSON value. -/
inductive Json where
  | null
  | bool (b : Bool)
  /-- A number; its value is kept where it is written with digits alone. -/
  | number (natural : Option Nat)
  /-- A string, or none where an escaped surrogate has no partner. -/
  | string (s : Option String)
  | array (items : List Json)
  | object (members : List (Option String × Json))
deriving Inhabited

namespace Json

/-- What was read, and the rest of the text. -/
abbrev ReadOf (α : Type) := Option (α × List Char)

/-- The rest of a text after blanks. -/
def skip : List Char → List Char
  | c :: rest =>
    if c = ' ' ∨ c = '\t' ∨ c = '\n' ∨ c = '\r' then skip rest else c :: rest
  | [] => []

/-! ## Numbers -/

/-- The digits at the front. -/
def takeDigits (text : List Char) : List Char × List Char :=
  let digits := text.takeWhile Char.isDigit
  (digits, text.drop digits.length)

/-- The rest after one digit or more. -/
def dropDigits? (text : List Char) : Option (List Char) :=
  match takeDigits text with
  | ([], _) => none
  | (_, rest) => some rest

/-- The rest after a fraction, where there is one. -/
def dropFraction? : List Char → Option (List Char)
  | '.' :: rest => dropDigits? rest
  | rest => some rest

/-- The rest after an exponent, where there is one. -/
def dropExponent? : List Char → Option (List Char)
  | c :: rest =>
    if c = 'e' ∨ c = 'E' then
      match rest with
      | '+' :: rest => dropDigits? rest
      | '-' :: rest => dropDigits? rest
      | rest => dropDigits? rest
    else some (c :: rest)
  | [] => some []

/-- **A number**: no leading zeros, and digits on both sides of a point. -/
def readNumber (text : List Char) : ReadOf Json :=
  let (negative, unsigned) := match text with
    | '-' :: rest => (true, rest)
    | rest => (false, rest)
  match takeDigits unsigned with
  | ([], _) => none
  | ('0' :: _ :: _, _) => none
  | (digits, rest) =>
    (dropFraction? rest).bind fun afterFraction =>
      (dropExponent? afterFraction).map fun afterNumber =>
        let plain := !negative && afterNumber.length = rest.length
        let n := digits.foldl (fun n c => 10 * n + (c.toNat - '0'.toNat)) 0
        (.number (if plain then some n else none), afterNumber)

/-! ## Strings -/

/-- The four digits of an escaped code unit. -/
def readUnit : List Char → ReadOf Nat
  | a :: b :: c :: d :: rest => (Hex.value? 0 [a, b, c, d]).map (·, rest)
  | _ => none

/-- The character of an escape of one letter. -/
def simpleEscape? : Char → Option Char
  | '"' => some '"'
  | '\\' => some '\\'
  | '/' => some '/'
  | 'b' => some '\x08'
  | 'f' => some '\x0c'
  | 'n' => some '\n'
  | 'r' => some '\r'
  | 't' => some '\t'
  | _ => none

/-- The character of two surrogates. -/
def paired (high low : Nat) : Char :=
  Char.ofNat (0x10000 + (high - 0xD800) * 0x400 + (low - 0xDC00))

/-- The rest after a second surrogate, with the character the two form. -/
def readLow (high : Nat) : List Char → ReadOf Char
  | '\\' :: 'u' :: rest =>
    (readUnit rest).bind fun (low, rest) =>
      if 0xDC00 ≤ low ∧ low < 0xE000 then some (paired high low, rest) else none
  | _ => none

/-- **A string after its opening quote.**  A surrogate without a partner spoils the string but not
the text. -/
def readString : (fuel : Nat) → List Char → ReadOf (Option (List Char))
  | 0, _ => none
  | fuel + 1, text =>
    let more (c : Option Char) (rest : List Char) : ReadOf (Option (List Char)) :=
      (readString fuel rest).map fun (cs, rest) => (c.bind fun c => cs.map (c :: ·), rest)
    match text with
    | [] => none
    | '"' :: rest => some (some [], rest)
    | '\\' :: 'u' :: rest =>
      (readUnit rest).bind fun (unit, rest) =>
        if unit < 0xD800 ∨ 0xE000 ≤ unit then more (some (Char.ofNat unit)) rest
        else if unit < 0xDC00 then
          match readLow unit rest with
          | some (c, rest) => more (some c) rest
          | none => more none rest
        else more none rest
    | '\\' :: c :: rest => (simpleEscape? c).bind fun c => more (some c) rest
    | c :: rest => if c.toNat < 0x20 ∨ c = '\\' then none else more (some c) rest

/-- A string after its opening quote, as text. -/
def readText (text : List Char) : ReadOf (Option String) :=
  (readString (text.length + 1) text).map fun (cs, rest) => (cs.map String.ofList, rest)

/-! ## Values -/

mutual

/-- **A value**, after the blanks before it. -/
def readValue : (fuel : Nat) → List Char → ReadOf Json
  | 0, _ => none
  | fuel + 1, text =>
    match skip text with
    | 'n' :: 'u' :: 'l' :: 'l' :: rest => some (.null, rest)
    | 't' :: 'r' :: 'u' :: 'e' :: rest => some (.bool true, rest)
    | 'f' :: 'a' :: 'l' :: 's' :: 'e' :: rest => some (.bool false, rest)
    | '"' :: rest => (readText rest).map fun (s, rest) => (.string s, rest)
    | '[' :: rest =>
      match skip rest with
      | ']' :: rest => some (.array [], rest)
      | rest => (readItems fuel rest).map fun (items, rest) => (.array items, rest)
    | '\x7b' :: rest =>
      match skip rest with
      | '\x7d' :: rest => some (.object [], rest)
      | rest => (readMembers fuel rest).map fun (members, rest) => (.object members, rest)
    | rest => readNumber rest

/-- The items of an array, up to the bracket that closes it. -/
def readItems : (fuel : Nat) → List Char → ReadOf (List Json)
  | 0, _ => none
  | fuel + 1, text =>
    match readValue fuel text with
    | none => none
    | some (item, rest) =>
      match skip rest with
      | ',' :: rest => (readItems fuel rest).map fun (items, rest) => (item :: items, rest)
      | ']' :: rest => some ([item], rest)
      | _ => none

/-- The members of an object, up to the brace that closes it. -/
def readMembers : (fuel : Nat) → List Char → ReadOf (List (Option String × Json))
  | 0, _ => none
  | fuel + 1, text =>
    match skip text with
    | '"' :: rest =>
      match readText rest with
      | none => none
      | some (name, rest) =>
        match skip rest with
        | ':' :: rest =>
          match readValue fuel rest with
          | none => none
          | some (v, rest) =>
            match skip rest with
            | ',' :: rest =>
              (readMembers fuel rest).map fun (members, rest) => ((name, v) :: members, rest)
            | '\x7d' :: rest => some ([(name, v)], rest)
            | _ => none
        | _ => none
    | _ => none

end

/-- **The value a text holds**, with nothing but blanks around it. -/
def ofText? (text : String) : Option Json :=
  match readValue (2 * text.toList.length + 2) text.toList with
  | some (v, rest) => if skip rest = [] then some v else none
  | none => none

end Json

end KeysetStore
