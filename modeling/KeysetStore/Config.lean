import KeysetStore.Error

/-!
# Config — how a repository is set up
-/

namespace KeysetStore

/-- The setup of a repository over one collection. -/
structure Config where
  /-- The collection. -/
  collection : String := ""
  /-- The field of a model that holds its identifier. -/
  idField : String := "id"
  /-- The field of a document that holds its owner. -/
  scopeField : String := "userId"
  /-- The fields a search term is looked for in. -/
  searchable : List String := []
  /-- The size of a page where the caller names none. -/
  defaultPageSize : Nat := 20
  /-- The greatest size of a page. -/
  maxPageSize : Option Nat := none
deriving DecidableEq

/-- The greatest size that can be asked for. -/
def sizeLimit : Nat := 2 ^ (64 : Nat) - 1

namespace Config

/-- **The size of a page**: as requested or by default, and cut to the greatest one. -/
def pageSize (c : Config) (requested : Option Nat) : Except Error Nat :=
  let size := requested.getD c.defaultPageSize
  if size = 0 then .error .zeroLimit
  else
    match c.maxPageSize with
    | some most => .ok (min size most)
    | none => .ok size

/-- Whether a setup is usable, or what is wrong with it. -/
def validate (c : Config) : Except Error Unit :=
  if c.collection.isEmpty then .error .collectionUnnamed
  else if c.idField.isEmpty || c.scopeField.isEmpty then .error .fieldUnnamed
  else if c.defaultPageSize = 0 || c.maxPageSize = some 0 then .error .zeroPageSize
  else .ok ()

end Config

end KeysetStore
