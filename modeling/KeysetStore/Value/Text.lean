import KeysetStore.Calendar
import KeysetStore.Double.Decimal
import KeysetStore.Value

/-!
# Value/Text — values as messages show them

The text of a value is for people: strings stand in quotes without escapes, numbers of every width
look alike, and nothing promises to be read back.
-/

namespace KeysetStore

/-! ## Bytes in base 64 -/

namespace Base64

/-- The digit of a six-bit number. -/
def digit (n : Nat) : Char :=
  if n < 26 then Char.ofNat (65 + n)
  else if n < 52 then Char.ofNat (71 + n)
  else if n < 62 then Char.ofNat (n - 4)
  else if n = 62 then '+' else '/'

/-- Four digits for every three bytes; the last group is filled up with equal signs. -/
def encode : List UInt8 → List Char
  | a :: b :: c :: rest =>
    let n := (a.toNat * 256 + b.toNat) * 256 + c.toNat
    digit (n / 262144) :: digit (n / 4096 % 64) :: digit (n / 64 % 64) :: digit (n % 64)
      :: encode rest
  | [a, b] =>
    let n := (a.toNat * 256 + b.toNat) * 4
    [digit (n / 4096), digit (n / 64 % 64), digit (n % 64), '=']
  | [a] =>
    let n := a.toNat * 16
    [digit (n / 64), digit (n % 64), '=', '=']
  | [] => []

end Base64

/-! ## Decimals -/

namespace Decimal128

/-- The text of a finite decimal of the given digits and power of ten: positional down to six zeros
after the point, scientific beyond that or where the power is positive. -/
def finite (digits : Nat) (exponent : Int) : String :=
  let text := (toString digits).toList
  let adjusted := exponent + (text.length - 1 : Nat)
  let point (cs : List Char) (whole : Nat) : String :=
    String.ofList (cs.take whole ++ if cs.length ≤ whole then [] else '.' :: cs.drop whole)
  if exponent ≤ 0 ∧ -6 ≤ adjusted then
    let zeros := List.replicate (-adjusted).toNat '0'
    let padded := zeros ++ text
    point padded (padded.length - (-exponent).toNat)
  else point text 1 ++ "E" ++ (if 0 ≤ adjusted then "+" else "") ++ toString adjusted

/-- **The text of a decimal**, from its sign, its combination field and its coefficient.  A
coefficient past 34 digits stands for zero. -/
def text (bits : BitVec 128) : String :=
  let n := bits.toNat
  let sign := if n / 2 ^ (127 : Nat) = 1 then "-" else ""
  let combination := n / 2 ^ (122 : Nat) % 32
  if combination = 31 then "NaN"
  else if combination = 30 then sign ++ "Infinity"
  else
    let wide := 24 ≤ combination
    let place := if wide then n / 2 ^ (111 : Nat) else n / 2 ^ (113 : Nat)
    let exponent : Int := (place % 2 ^ (14 : Nat) : Nat) - 6176
    let digits := if wide then 0 else n % 2 ^ (113 : Nat)
    sign ++ finite (if digits < 10 ^ (34 : Nat) then digits else 0) exponent

end Decimal128

/-! ## Values -/

namespace Value

mutual

/-- **The text of a value.** -/
def text : Value → String
  | null => "null"
  | undefined => "undefined"
  | minKey => "MinKey"
  | maxKey => "MaxKey"
  | boolean b => if b then "true" else "false"
  | int32 n => toString n.toInt
  | int64 n => toString n.toInt
  | double x => x.text
  | string s => "\"" ++ s ++ "\""
  | array items => "[" ++ itemsText items ++ "]"
  | document fields =>
    if fields.isEmpty then "\x7b\x7d" else "\x7b " ++ fieldsText fields ++ " \x7d"
  | objectId id => "ObjectId(\"" ++ id.toHex ++ "\")"
  | dateTime millis => "DateTime(\"" ++ Calendar.text millis.toInt ++ "\")"
  | regex pattern options => "/" ++ pattern ++ "/" ++ options
  | binary subtype bytes =>
    let digits := String.ofList (Nat.toDigits 16 subtype.toNat)
    "Binary(0x" ++ digits ++ ", " ++ String.ofList (Base64.encode bytes) ++ ")"
  | timestamp time increment =>
    "Timestamp(" ++ toString time.toNat ++ ", " ++ toString increment.toNat ++ ")"
  | symbol s => "Symbol(\"" ++ s ++ "\")"
  | code source => source
  | codeWithScope source _ => source
  | decimal128 bits => Decimal128.text bits

/-- Fields, with commas between them. -/
def fieldsText : List (String × Value) → String
  | [] => ""
  | [(name, v)] => "\"" ++ name ++ "\": " ++ v.text
  | (name, v) :: rest => "\"" ++ name ++ "\": " ++ v.text ++ ", " ++ fieldsText rest

/-- Items, with commas between them. -/
def itemsText : List Value → String
  | [] => ""
  | [v] => v.text
  | v :: rest => v.text ++ ", " ++ itemsText rest

end

end Value

end KeysetStore
