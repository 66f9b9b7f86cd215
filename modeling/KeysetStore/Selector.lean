import KeysetStore.Selector.Condition

/-!
# Selector — which documents are meant

A selector is a document of clauses, all of which have to hold: logical operators over selectors,
and conditions on the values at paths.  It is read once into clauses (`Selector.ofDocument`).  A
clause that cannot be read is kept as its error, which comes up when evaluation reaches it; the
operands of a logical operator are evaluated only as far as the outcome needs.
-/

namespace KeysetStore

/-- The logical operators. -/
inductive Logic where
  /-- All operands hold. -/
  | and
  /-- Some operand holds. -/
  | or
  /-- No operand holds. -/
  | nor
deriving DecidableEq

/-- The name of a logical operator in a selector. -/
def Logic.name : Logic → String
  | and => "$and"
  | or => "$or"
  | nor => "$nor"

/-- The logical operator of a name. -/
def Logic.named? : String → Option Logic
  | "$and" => some and
  | "$or" => some or
  | "$nor" => some nor
  | _ => none

/-- One clause of a selector. -/
inductive Clause where
  /-- A logical operator over selectors. -/
  | logical (kind : Logic) (operands : List (List Clause))
  /-- A condition on the value at a path. -/
  | field (path : String) (condition : Value)
  /-- A clause that could not be read. -/
  | invalid (e : Error)

/-- A selector: clauses that all have to hold. -/
abbrev Selector := List Clause

namespace Selector

/-! ## Reading -/

/-- The clause of a name that is no logical operator. -/
def simple (name : String) (v : Value) : Clause :=
  if isOperator name then .invalid (.clauseOperator name) else .field name v

mutual

/-- **The clauses of a selector document.** -/
def ofDocument : List (String × Value) → Selector
  | [] => []
  | (name, v) :: rest => clause name v :: ofDocument rest

/-- The clause of one name. -/
def clause (name : String) : Value → Clause
  | .array items =>
    match Logic.named? name with
    | some kind =>
      if items.isEmpty then .invalid (.operands name)
      else
        match operands name items with
        | .ok selectors => .logical kind selectors
        | .error e => .invalid e
    | none => simple name (.array items)
  | v => if (Logic.named? name).isSome then .invalid (.operands name) else simple name v

/-- The selectors of a list, up to the first item that is none. -/
def operands (name : String) : List Value → Except Error (List Selector)
  | [] => .ok []
  | v :: rest =>
    match v with
    | .document fields =>
      match operands name rest with
      | .ok selectors => .ok (ofDocument fields :: selectors)
      | .error e => .error e
    | v => .error (.operand name v)

end

/-! ## Evaluation -/

mutual

/-- **Whether a document meets a selector.**  Every clause is evaluated, so an error in one comes up
whatever the others say. -/
def holds (d : Document) : Selector → Except Error Bool
  | [] => .ok true
  | c :: rest =>
    match clauseHolds d c with
    | .ok b =>
      match holds d rest with
      | .ok others => .ok (b && others)
      | .error e => .error e
    | .error e => .error e

/-- Whether a document meets a clause. -/
def clauseHolds (d : Document) : Clause → Except Error Bool
  | .logical .and operands => everyHolds d operands
  | .logical .or operands => someHolds d operands
  | .logical .nor operands => (someHolds d operands).map (!·)
  | .field path condition => Condition.holds condition (d.lookup? path)
  | .invalid e => .error e

/-- Whether a document meets all selectors of a list; the first one it does not meet ends the
matter. -/
def everyHolds (d : Document) : List Selector → Except Error Bool
  | [] => .ok true
  | s :: rest =>
    match holds d s with
    | .ok true => everyHolds d rest
    | .ok false => .ok false
    | .error e => .error e

/-- Whether a document meets some selector of a list; the first one it meets ends the matter. -/
def someHolds (d : Document) : List Selector → Except Error Bool
  | [] => .ok false
  | s :: rest =>
    match holds d s with
    | .ok true => .ok true
    | .ok false => someHolds d rest
    | .error e => .error e

end

/-! ## Faults -/

mutual

/-- **The first fault of a selector**, from front to back and into the operands. -/
def fault? : Selector → Option Error
  | [] => none
  | c :: rest => (clauseFault? c).or (fault? rest)

/-- The first fault of a clause.  A condition is not looked into. -/
def clauseFault? : Clause → Option Error
  | .logical _ operands => operandFault? operands
  | .field _ _ => none
  | .invalid e => some e

/-- The first fault of several selectors. -/
def operandFault? : List Selector → Option Error
  | [] => none
  | s :: rest => (fault? s).or (operandFault? rest)

end

end Selector

/-- **Whether a document is meant by a selector document.** -/
def Document.meets (d : Document) (selector : Document) : Except Error Bool :=
  Selector.holds d (Selector.ofDocument selector)

end KeysetStore
