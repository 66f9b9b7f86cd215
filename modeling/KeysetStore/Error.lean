import KeysetStore.Pattern.Error
import KeysetStore.Value.Text

/-!
# Error — why an operation fails

An error is its cause.  Its category says who can do something about it (`category`, `isClient`),
its message names what was wrong (`message`), and its text is the two together (`text`).
-/

namespace KeysetStore

/-- Whose matter a failure is. -/
inductive ErrorCategory where
  /-- The caller asked for something that cannot be. -/
  | invalidArgument
  /-- The caller named something that is not there. -/
  | notFound
  /-- The storage does not answer now. -/
  | unavailable
  /-- A document and a model do not fit. -/
  | serialization
deriving DecidableEq

/-- The words a category puts before a message. -/
def ErrorCategory.label : ErrorCategory → String
  | invalidArgument => "Invalid argument: "
  | notFound => "Not found: "
  | unavailable => "Storage unavailable: "
  | serialization => "Serialization error: "

/-- Why an operation fails. -/
inductive Error where
  /-- A text that names no primary key. -/
  | invalidIdentifier (id : String)
  /-- A text that is no cursor. -/
  | malformedCursor (cursor : String)
  /-- A cursor whose document is gone. -/
  | staleCursor (cursor : String)
  /-- No document under an identifier. -/
  | documentMissing (collection id : String)
  /-- A page of no items. -/
  | zeroLimit
  /-- A page so large that one item more cannot be counted. -/
  | pageSizeTooLarge (size : Nat)
  /-- A configuration without a collection. -/
  | collectionUnnamed
  /-- A configuration without a name for the identifier or the scope. -/
  | fieldUnnamed
  /-- A configuration with pages of no items. -/
  | zeroPageSize
  /-- A sort direction that is none. -/
  | sortDirection (v : Value)
  /-- A conjunction that is no list. -/
  | conjunction (v : Value)
  /-- A logical operator over something that is no selector. -/
  | operand (op : String) (v : Value)
  /-- A logical operator over nothing. -/
  | operands (op : String)
  /-- A clause under an operator that is none. -/
  | clauseOperator (op : String)
  /-- A condition under an operator that is none. -/
  | operator (op : String)
  /-- A membership test in something that is no list. -/
  | membership (v : Value)
  /-- Options of a pattern that are no text. -/
  | patternOptions (v : Value)
  /-- A pattern that is no text. -/
  | patternOperand (v : Value)
  /-- A text that is no pattern. -/
  | pattern (e : PatternError)
  /-- A negation of something that is no condition. -/
  | negation (v : Value)
  /-- A search term that is no text. -/
  | searchTerm (v : Value)
  /-- A search where no fields are searched. -/
  | searchUnsupported
  /-- A primary key of the wrong type. -/
  | primaryKey (v : Value)
  /-- A primary key that is taken. -/
  | duplicateKey (id : ObjectId) (collection : String)
  /-- A pipeline stage without exactly one key. -/
  | stageShape (fields : Document)
  /-- A pipeline stage that is none. -/
  | stage (name : String) (v : Value)
  /-- A stage that counts with something that is no whole number. -/
  | stageCount (name : String) (v : Value)
  /-- A stage that counts below zero. -/
  | stageNegative (name : String)
  /-- The storage is not connected. -/
  | notConnected
  /-- A document without a key to build a cursor from. -/
  | cursorKey
  /-- A stored document whose key has the wrong type. -/
  | storedKey (v : Value)
  /-- A model that is no document, by the type of what it is. -/
  | modelType (name : String)
  /-- A document that does not have the shape of the model, or a text that does not. -/
  | shape (what : String)
  /-- A failure that a storage driver reports in its own words. -/
  | reported (category : ErrorCategory) (detail : String)

namespace Error

/-- **Whose matter a failure is.** -/
def category : Error → ErrorCategory
  | documentMissing .. => .notFound
  | notConnected => .unavailable
  | cursorKey => .serialization
  | storedKey _ => .serialization
  | modelType _ => .serialization
  | shape _ => .serialization
  | reported category _ => category
  | _ => .invalidArgument

/-- Whether the caller can mend a failure. -/
def isClient (e : Error) : Bool := e.category = .invalidArgument || e.category = .notFound

/-- What was wrong. -/
def message : Error → String
  | invalidIdentifier id => "invalid identifier '" ++ id ++ "'"
  | malformedCursor cursor => "malformed cursor '" ++ cursor ++ "'"
  | staleCursor cursor => "cursor '" ++ cursor ++ "' is no longer valid"
  | documentMissing collection id => "document " ++ id ++ " in collection " ++ collection
  | zeroLimit => "page limit must be at least 1"
  | pageSizeTooLarge size => "page size " ++ toString size ++ " is too large"
  | collectionUnnamed => "collection name must not be empty"
  | fieldUnnamed => "id and scope field names must not be empty"
  | zeroPageSize => "page sizes must be at least 1"
  | sortDirection v => "invalid sort direction " ++ v.text
  | conjunction v => "$and must be an array, got " ++ v.text
  | operand op v => op ++ " operand must be a document, got " ++ v.text
  | operands op => op ++ " must be a non-empty array"
  | clauseOperator op => "unsupported top-level operator " ++ op
  | operator op => "unsupported operator " ++ op
  | membership v => "$in/$nin need an array, got " ++ v.text
  | patternOptions v => "$options must be a string, got " ++ v.text
  | patternOperand v => "$regex must be a string, got " ++ v.text
  | pattern e => "invalid regular expression: " ++ e.message
  | negation v => "$not needs an operator document, got " ++ v.text
  | searchTerm v => "search term must be a string, got " ++ v.text
  | searchUnsupported =>
    "free-text search is not supported: no searchable fields are configured"
  | primaryKey v => "primary key must be an object id, got " ++ v.text
  | duplicateKey id collection => "duplicate key " ++ id.toHex ++ " in collection " ++ collection
  | stageShape fields =>
    "a pipeline stage must have exactly one key, got " ++ (Value.document fields).text
  | stage name v => "unsupported pipeline stage " ++ name ++ ": " ++ v.text
  | stageCount name v => name ++ " needs a whole number, got " ++ v.text
  | stageNegative name => name ++ " must not be negative"
  | notConnected => "connection not initialized"
  | cursorKey => "document has no " ++ KeysetStore.primaryKey ++ " to build a cursor from"
  | storedKey v => "stored primary key is not an object id: " ++ v.text
  | modelType name => "model must serialize to a document, got " ++ name
  | shape what => what
  | reported _ detail => detail

/-- **The text of an error**: its category and its message. -/
def text (e : Error) : String := e.category.label ++ e.message

end Error

end KeysetStore
