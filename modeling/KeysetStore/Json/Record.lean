import KeysetStore.Config
import KeysetStore.Json.Text
import KeysetStore.Page
import KeysetStore.Sort

/-!
# Json/Record — requests, pages and setups as JSON

A record is written as an object, whose unknown members are passed over and whose known members
occur once, or as the list of its fields in order.
-/

namespace KeysetStore

/-- The fields of a record, as far as they are written. -/
structure Json.Record where
  /-- Whether the record is written as a list. -/
  listed : Bool
  /-- The fields that are written. -/
  fields : Fields Json

namespace Json

/-! ## Scalars -/

/-- Text. -/
def asText? : Json → Option String
  | string s => s
  | _ => none

/-- A truth value. -/
def asBool? : Json → Option Bool
  | bool b => some b
  | _ => none

/-- A size: a natural number, written plainly, within the limit. -/
def asSize? : Json → Option Nat
  | number (some n) => if n ≤ sizeLimit then some n else none
  | _ => none

/-- Null, or something else. -/
def asOption? {α : Type} (read : Json → Option α) : Json → Option (Option α)
  | null => some none
  | v => (read v).map some

/-- A list of texts. -/
def asTexts? : Json → Option (List String)
  | array items => items.mapM asText?
  | _ => none

/-- A direction: its name, alone or over null. -/
def asDirection? : Json → Option Direction
  | string (some "asc") => some .ascending
  | string (some "desc") => some .descending
  | object [(some "asc", null)] => some .ascending
  | object [(some "desc", null)] => some .descending
  | _ => none

/-! ## Records -/

/-- **The fields of a record of known names.** -/
def asRecord? (names : List String) : Json → Option Record
  | object members =>
    let named (member : Option String × Json) : Option (String × Json) :=
      member.1.map (·, member.2)
    (members.mapM named).bind fun members =>
      let known : Fields Json := members.filter fun member => names.contains member.1
      if known.names.Nodup then some ⟨false, known⟩ else none
  | array items => if items.length ≤ names.length then some ⟨true, names.zip items⟩ else none
  | _ => none

/-- A field that has to be there. -/
def Record.required? {α : Type} (r : Record) (name : String) (read : Json → Option α) :
    Option α :=
  (r.fields.get? name).bind read

/-- A field that has a value where it is missing. -/
def Record.withDefault? {α : Type} (r : Record) (name : String) (read : Json → Option α)
    (missing : α) : Option α :=
  match r.fields.get? name with
  | some v => read v
  | none => some missing

/-- A text as a record, or the error that it is none. -/
def decode {α : Type} (read : Json → Option α) (text : String) : Except Error α :=
  match (Json.ofText? text).bind read with
  | some record => .ok record
  | none => .error (.shape "the text is not such a record")

end Json

/-- A request as JSON; everything may be missing. -/
def Pagination.ofJson? (j : Json) : Option Pagination := do
  let r ← j.asRecord? ["limit", "cursor"]
  let limit ← r.withDefault? "limit" (Json.asOption? Json.asSize?) none
  let cursor ← r.withDefault? "cursor" (Json.asOption? Json.asText?) none
  pure { limit, cursor }

/-- A page of texts as JSON; in an object the cursor may be missing. -/
def Page.ofJson? (j : Json) : Option (Page String) := do
  let r ← j.asRecord? ["items", "has_more", "next_cursor"]
  let items ← r.required? "items" Json.asTexts?
  let hasMore ← r.required? "has_more" Json.asBool?
  let nextCursor ←
    if r.listed then r.required? "next_cursor" (Json.asOption? Json.asText?)
    else r.withDefault? "next_cursor" (Json.asOption? Json.asText?) none
  pure ⟨items, hasMore, nextCursor⟩

/-- A sort key as JSON. -/
def SortKey.ofJson? (j : Json) : Option SortKey := do
  let r ← j.asRecord? ["field", "direction"]
  let field ← r.required? "field" Json.asText?
  let direction ← r.required? "direction" Json.asDirection?
  pure ⟨field, direction⟩

/-- A setup as JSON; what is missing is as by default. -/
def Config.ofJson? (j : Json) : Option Config := do
  let base : Config := {}
  let r ← j.asRecord? ["collection", "id_field", "scope_field", "searchable_fields",
    "default_page_size", "max_page_size"]
  let collection ← r.withDefault? "collection" Json.asText? base.collection
  let idField ← r.withDefault? "id_field" Json.asText? base.idField
  let scopeField ← r.withDefault? "scope_field" Json.asText? base.scopeField
  let searchable ← r.withDefault? "searchable_fields" Json.asTexts? base.searchable
  let defaultPageSize ← r.withDefault? "default_page_size" Json.asSize? base.defaultPageSize
  let maxPageSize ← r.withDefault? "max_page_size" (Json.asOption? Json.asSize?) base.maxPageSize
  pure { collection, idField, scopeField, searchable, defaultPageSize, maxPageSize }

end KeysetStore
