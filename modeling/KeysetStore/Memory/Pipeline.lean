import KeysetStore.Selector
import KeysetStore.Sort

/-!
# Memory/Pipeline — documents, stage by stage

A pipeline takes documents through its stages.  A stage is read when the documents reach it, so an
error of an earlier stage comes before a fault of a later one.
-/

namespace KeysetStore

/-- **The documents that meet a selector**, in their order, or the first error on the way. -/
def Selector.select (s : Selector) : List Document → Except Error (List Document)
  | [] => .ok []
  | d :: rest =>
    match Selector.holds d s with
    | .ok true => (Selector.select s rest).map (d :: ·)
    | .ok false => Selector.select s rest
    | .error e => .error e

/-- **A selection is the filtered list** wherever every document is evaluated without an error. -/
theorem Selector.select_eq_filter {s : Selector} {p : Document → Bool} {documents : List Document}
    (h : ∀ d ∈ documents, Selector.holds d s = .ok (p d)) :
    s.select documents = .ok (documents.filter p) := by
  induction documents with
  | nil => rfl
  | cons d rest ih =>
    have hd := h d (by simp)
    have hrest := ih fun e he => h e (by simp [he])
    cases hp : p d <;> simp [Selector.select, hd, hp, hrest, Except.map]

/-- One stage of a pipeline. -/
inductive Stage where
  /-- Keeps the documents that meet a selector. -/
  | filter (s : Selector)
  /-- Puts the documents in order. -/
  | sort (keys : List SortKey)
  /-- Drops the first documents. -/
  | skip (count : Nat)
  /-- Keeps the first documents. -/
  | limit (count : Nat)
  /-- Gives one document with the count of all, where there are any. -/
  | count (field : String)

namespace Stage

/-- How many documents a value stands for: a whole number, not below zero. -/
def countOf (name : String) (v : Value) : Except Error Nat :=
  let whole? := match v with
    | .int32 n => some n.toInt
    | .int64 n => some n.toInt
    | .double x => x.whole?
    | _ => none
  match whole? with
  | some n => if n < 0 then .error (.stageNegative name) else .ok n.toNat
  | none => .error (.stageCount name v)

/-- **The stage of a name and its argument.** -/
def ofEntry (name : String) (v : Value) : Except Error Stage :=
  match name, v with
  | "$match", .document selector => .ok (filter (Selector.ofDocument selector))
  | "$sort", .document spec => (SortKey.ofDocument spec).map sort
  | "$skip", v => (countOf "$skip" v).map skip
  | "$limit", v => (countOf "$limit" v).map limit
  | "$count", .string field =>
    if field.isEmpty || isOperator field then .error (.stage name v) else .ok (count field)
  | name, v => .error (.stage name v)

/-- The stage of a document, which has exactly one name. -/
def ofDocument : Document → Except Error Stage
  | [(name, v)] => ofEntry name v
  | d => .error (.stageShape d)

/-- **What a stage makes of documents.** -/
def apply : Stage → List Document → Except Error (List Document)
  | filter s, documents => s.select documents
  | sort keys, documents => .ok (sortBy keys documents)
  | skip n, documents => .ok (documents.drop n)
  | limit n, documents => .ok (documents.take n)
  | count field, documents =>
    if documents.isEmpty then .ok []
    else .ok [[(field, .int64 (Int64.ofNat documents.length))]]

end Stage

/-- **What a pipeline makes of documents.** -/
def runPipeline : List Document → List Document → Except Error (List Document)
  | [], documents => .ok documents
  | stage :: rest, documents => do
    let stage ← Stage.ofDocument stage
    let documents ← stage.apply documents
    runPipeline rest documents

end KeysetStore
