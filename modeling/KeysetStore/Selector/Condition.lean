import KeysetStore.Error
import KeysetStore.Pattern
import KeysetStore.Value.Order

/-!
# Selector/Condition — what a selector asks of one value

A condition is read into tests, all of which have to hold (`Condition.read`).  A document whose
first name begins with a dollar sign lists operators; a regular expression is a pattern; any other
value asks for equality.  A test that cannot be read is kept as its error, which comes up only when
the test is reached.
-/

namespace KeysetStore

/-- Whether a name is that of an operator. -/
def isOperator (name : String) : Bool := name.toList.head? = some '$'

/-- Whether a document lists operators: its first name decides. -/
def Document.listsOperators (d : Document) : Bool := (Fields.names d).head?.any isOperator

@[simp] theorem Document.listsOperators_cons (name : String) (v : Value) (rest : Document) :
    listsOperators ((name, v) :: rest) = isOperator name := rfl

/-! ## Values that are met in a document -/

/-- **Whether a value, or an item of an array, has a property.** -/
def Value.reaches (p : Value → Bool) (v : Value) : Bool :=
  p v || match v with
    | .array items => items.any p
    | _ => false

/-- Whether the value at a path equals another one.  Null also asks for a value that is missing. -/
def equalsAt (found : Option Value) (wanted : Value) : Bool :=
  found.any (Value.reaches fun v => v.orderKey.equals wanted.orderKey)
    || (wanted.isNull && (found.getD .null).isNull)

/-- The comparisons with a bound. -/
inductive Comparison where
  | greater
  | greaterOrEqual
  | less
  | lessOrEqual
deriving DecidableEq

/-- Whether an ordering of value and bound is the one asked for. -/
def Comparison.accepts : Comparison → Ordering → Bool
  | greater, o => o.isGT
  | greaterOrEqual, o => o.isGE
  | less, o => o.isLT
  | lessOrEqual, o => o.isLE

/-- Whether the value at a path compares with a bound of its own kind. -/
def comparesAt (kind : Comparison) (found : Option Value) (bound : Value) : Bool :=
  found.any (Value.reaches fun v => (v.orderKey.compareWithin? bound.orderKey).any kind.accepts)

/-- Whether the value at a path is text that a pattern matches. -/
def isMatchAt (p : Pattern) (found : Option Value) : Bool :=
  found.any (Value.reaches fun v =>
    match v with
    | .string s => p.isMatch s
    | _ => false)

/-! ## Tests -/

/-- One test of a condition. -/
inductive Test where
  /-- Equality. -/
  | equal (v : Value)
  /-- Anything but equality. -/
  | unequal (v : Value)
  /-- A comparison with a bound. -/
  | compare (kind : Comparison) (bound : Value)
  /-- Equality with one of several values. -/
  | oneOf (vs : List Value)
  /-- Equality with none of several values. -/
  | noneOf (vs : List Value)
  /-- Presence or absence. -/
  | present (wanted : Bool)
  /-- A pattern. -/
  | pattern (p : Pattern)
  /-- No demand. -/
  | trivial
  /-- The failure of some test among others. -/
  | not (tests : List Test)
  /-- A test that could not be read. -/
  | invalid (e : Error)

namespace Test

/-- The test for a pattern. -/
def ofPattern (text options : String) : Test :=
  match Pattern.ofText text options with
  | .ok p => pattern p
  | .error e => invalid (.pattern e)

/-- The test for a pattern among operators, with the options that stand beside it. -/
def ofRegex (operators : Document) (operand : Value) : Test :=
  let build (options : String) : Test :=
    match operand with
    | .string text => ofPattern text options
    | .regex text own => ofPattern text (own ++ options)
    | v => invalid (.patternOperand v)
  match Fields.get? operators "$options" with
  | none => build ""
  | some (.string options) => build options
  | some v => invalid (.patternOptions v)

/-- The test for membership in a list. -/
def ofMembers (make : List Value → Test) : Value → Test
  | .array vs => make vs
  | v => invalid (.membership v)

/-- The test of an operator that holds no operators of its own. -/
def ofSimple (operators : Document) (op : String) (v : Value) : Test :=
  match op with
  | "$eq" => equal v
  | "$ne" => unequal v
  | "$gt" => compare .greater v
  | "$gte" => compare .greaterOrEqual v
  | "$lt" => compare .less v
  | "$lte" => compare .lessOrEqual v
  | "$in" => ofMembers oneOf v
  | "$nin" => ofMembers noneOf v
  | "$exists" => present v.truthy
  | "$regex" => ofRegex operators v
  | "$options" => trivial
  | "$not" =>
    match v with
    | .regex text options => not [ofPattern text options]
    | v => invalid (.negation v)
  | op => invalid (.operator op)

mutual

/-- **The test of one operator** among those it stands with. -/
def ofOperator (operators : Document) (op : String) : Value → Test
  | .document inner =>
    if op = "$not" then not (ofOperators inner inner) else ofSimple operators op (.document inner)
  | v => ofSimple operators op v

/-- The tests of operators, in order. -/
def ofOperators (operators : Document) : List (String × Value) → List Test
  | [] => []
  | (op, v) :: rest => ofOperator operators op v :: ofOperators operators rest

end

/-- Only a negation looks into the operators of a document. -/
theorem ofOperator_of_ne {op : String} (h : op ≠ "$not") (operators : Document) (v : Value) :
    ofOperator operators op v = ofSimple operators op v := by
  cases v <;> simp [ofOperator, h]

mutual

/-- **Whether a test holds of the value at a path.** -/
def holds (found : Option Value) : Test → Except Error Bool
  | equal v => .ok (equalsAt found v)
  | unequal v => .ok (!equalsAt found v)
  | compare kind bound => .ok (comparesAt kind found bound)
  | oneOf vs => .ok (vs.any (equalsAt found))
  | noneOf vs => .ok (!vs.any (equalsAt found))
  | present wanted => .ok (found.isSome == wanted)
  | pattern p => .ok (isMatchAt p found)
  | trivial => .ok true
  | not tests => (allHold found tests).map (!·)
  | invalid e => .error e

/-- Whether all tests hold; the first that fails ends the matter. -/
def allHold (found : Option Value) : List Test → Except Error Bool
  | [] => .ok true
  | t :: rest =>
    match holds found t with
    | .ok true => allHold found rest
    | .ok false => .ok false
    | .error e => .error e

end

end Test

namespace Condition

/-- **The tests of a condition.** -/
def read : Value → List Test
  | .document d =>
    if Document.listsOperators d then Test.ofOperators d d else [.equal (.document d)]
  | .regex text options => [Test.ofPattern text options]
  | v => [.equal v]

/-- Whether a condition holds of the value at a path. -/
def holds (condition : Value) (found : Option Value) : Except Error Bool :=
  Test.allHold found (read condition)

end Condition

end KeysetStore
