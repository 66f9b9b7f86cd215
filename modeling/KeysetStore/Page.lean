/-!
# Page — a page of items and the way to the next one

A page that has a successor names it by a cursor, which the next request hands back.
-/

namespace KeysetStore

/-- A page of items. -/
structure Page (α : Type) where
  items : List α
  /-- Whether items follow. -/
  hasMore : Bool
  /-- Where the next page continues. -/
  nextCursor : Option String
deriving DecidableEq

namespace Page

variable {α β : Type}

/-- A page has a successor exactly when it has a cursor for it. -/
def ofItems (items : List α) (nextCursor : Option String) : Page α :=
  ⟨items, nextCursor.isSome, nextCursor⟩

/-- The page of nothing. -/
def empty : Page α := ofItems [] none

/-- A page of other items, in the same place. -/
def map (f : α → β) (p : Page α) : Page β := ⟨p.items.map f, p.hasMore, p.nextCursor⟩

@[simp] theorem hasMore_ofItems (items : List α) (nextCursor : Option String) :
    (ofItems items nextCursor).hasMore = nextCursor.isSome := rfl

end Page

/-- What a caller asks of a page: its size and where to continue. -/
structure Pagination where
  limit : Option Nat := none
  cursor : Option String := none
deriving DecidableEq

/-- **The request for the page after a page**, where there is one. -/
def Pagination.after {α : Type} (request : Pagination) (page : Page α) : Option Pagination :=
  page.nextCursor.map fun cursor => { limit := request.limit, cursor := some cursor }

end KeysetStore
