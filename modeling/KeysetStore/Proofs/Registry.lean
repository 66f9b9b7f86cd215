import Mathlib.Data.List.Forall2
import KeysetStore.Codec.Models
import KeysetStore.Proofs.CreatedModel

/-!
# Proofs/Registry — a repository is a finite map

To its callers a repository is a registry: under each identifier an item and perhaps its owner
(`Registry`).  The collection behind it holds the same entries in the same order, as documents with
the key in front, the identifier taken out, and the owner written in (`Repository.Represents`).  Each
operation gives the answer of the registry and keeps the two together
(`Operation.perform_represents`), and so does every sequence of operations
(`Operation.performAll_eq_run`).
-/

namespace KeysetStore

/-! ## Registries -/

/-- An item of a registry, and its owner. -/
structure Entry (α : Type) where
  owner : Option String
  item : α

/-- Whether an entry can be seen under a scope: every entry without one, else the owner's. -/
def Entry.visible {α : Type} (scope : Option String) (e : Entry α) : Bool :=
  scope.all fun owner => e.owner == some owner

/-- **A registry**: entries under the texts of keys, and how many keys have been issued. -/
structure Registry (α : Type) where
  entries : Fields (Entry α) := []
  issued : Nat := 0

/-- An operation of a repository, on behalf of an owner or of nobody in particular. -/
inductive Operation (α : Type) where
  /-- Stores an item. -/
  | create (item : α) (scope : Option String)
  /-- Reads the item under an identifier. -/
  | read (id : String) (scope : Option String)
  /-- Replaces the item under an identifier. -/
  | update (id : String) (item : α) (scope : Option String)
  /-- Deletes the item under an identifier. -/
  | delete (id : String) (scope : Option String)
  /-- Counts the items. -/
  | count (scope : Option String)

/-- What an operation that succeeds answers. -/
inductive Answer (α : Type) where
  /-- An item, with its identifier. -/
  | item (item : α)
  /-- Nothing but success. -/
  | done
  /-- A number of items. -/
  | number (n : Nat)

namespace Registry

variable {α : Type}

/-- **The entry an identifier names**, with the text of its key: the identifier has to be well-formed,
and the entry to be there and to be seen. -/
def locate (registry : Registry α) (collection id : String) (scope : Option String) :
    Except Error (String × Entry α) := do
  let key ← Repository.keyOf id
  match registry.entries.get? key.toHex with
  | some e =>
    if e.visible scope then .ok (key.toHex, e) else .error (.documentMissing collection id)
  | none => .error (.documentMissing collection id)

theorem locate_of_keyOf {registry : Registry α} {collection id : String} {key : ObjectId}
    (hid : Repository.keyOf id = .ok key) (scope : Option String) :
    registry.locate collection id scope
      = match registry.entries.get? key.toHex with
        | some e => if e.visible scope then .ok (key.toHex, e)
          else .error (.documentMissing collection id)
        | none => .error (.documentMissing collection id) := by
  rw [locate, hid]
  rfl

/-- An entry that is located is there. -/
theorem get?_of_locate {registry : Registry α} {collection id text : String}
    {scope : Option String} {e : Entry α}
    (h : registry.locate collection id scope = .ok (text, e)) :
    registry.entries.get? text = some e := by
  obtain ⟨key, hid, -⟩ := bind_eq_ok_iff.1 h
  rw [locate_of_keyOf hid] at h
  split at h
  · next hget =>
    split at h
    · obtain ⟨rfl, rfl⟩ := Prod.mk.inj (Except.ok.inj h)
      exact hget
    · cases h
  · cases h

variable (supply : Nat → ObjectId) (withId : α → String → α) (collection : String)

/-- **What a registry answers to an operation**, and what becomes of it. -/
def perform (registry : Registry α) : Operation α → Except Error (Answer α) × Registry α
  | .create item scope =>
    let text := (supply (registry.issued + 1)).toHex
    (.ok (.item (withId item text)),
      ⟨registry.entries.insert text ⟨scope, withId item text⟩, registry.issued + 1⟩)
  | .read id scope =>
    match registry.locate collection id scope with
    | .ok (_, e) => (.ok (.item e.item), registry)
    | .error e => (.error e, registry)
  | .update id item scope =>
    match registry.locate collection id scope with
    | .ok (text, _) =>
      (.ok (.item (withId item text)),
        { registry with entries := registry.entries.insert text ⟨scope, withId item text⟩ })
    | .error e => (.error e, registry)
  | .delete id scope =>
    match registry.locate collection id scope with
    | .ok (text, _) => (.ok .done, { registry with entries := registry.entries.erase text })
    | .error e => (.error e, registry)
  | .count scope =>
    (.ok (.number (registry.entries.countP fun pair => pair.2.visible scope)), registry)

/-- The answers of a registry to operations in a row, and what becomes of it. -/
def run : List (Operation α) → Registry α → List (Except Error (Answer α)) × Registry α
  | [], registry => ([], registry)
  | operation :: rest, registry =>
    let (answer, next) := registry.perform supply withId collection operation
    let (answers, last) := run rest next
    (answer :: answers, last)

end Registry

namespace Operation

variable {α : Type}

/-- An operation of a repository whose owners are texts. -/
def perform (r : Repository Memory α) : Operation α → Action Memory (Answer α)
  | create item scope => .item <$> r.create item (scope.map .string)
  | read id scope => .item <$> r.read id (scope.map .string)
  | update id item scope => .item <$> r.update id item (scope.map .string)
  | delete id scope => (fun _ => .done) <$> r.delete id (scope.map .string)
  | count scope => .number <$> r.count (scope.map .string) none

/-- The answers of a repository to operations in a row, and the memory after them. -/
def performAll (r : Repository Memory α) :
    List (Operation α) → Memory → List (Except Error (Answer α)) × Memory
  | [], m => ([], m)
  | operation :: rest, m =>
    let (answer, next) := operation.perform r m
    let (answers, last) := performAll r rest next
    (answer :: answers, last)

end Operation

/-! ## Codecs that keep items -/

/-- **A codec keeps items** in documents without their identifier: every item has a document, none
of them uses the scope field, and the item comes back under any identifier, with an owner in the
document or without. -/
structure Codec.Keeps {α : Type} (codec : Codec α) (idField scopeField : String)
    (withId : α → String → α) : Prop where
  encodes : ∀ item, ∃ d, codec.encode item = .ok d ∧ Fields.get? d scopeField = none
  decodes : ∀ item d, codec.encode item = .ok d → ∀ (owner : Option String) (id : String),
    codec.decode (Fields.insert (Document.ownedBy (Fields.erase (Fields.erase d idField) primaryKey)
      (owner.map fun owner => (scopeField, .string owner))) idField (.string id))
      = .ok (withId item id)

/-! ## Lists in step -/

section Forall₂

variable {α β : Type} {R : α → β → Prop}

/-- In lists in step, every item on the right has one on the left. -/
theorem forall_of_forall₂ {as : List α} {bs : List β} (h : List.Forall₂ R as bs)
    {p : β → Prop} (hp : ∀ a ∈ as, ∀ b, R a b → p b) : ∀ b ∈ bs, p b := by
  induction h with
  | nil => exact nofun
  | cons hab _ ih =>
    intro b hb
    rcases List.mem_cons.1 hb with rfl | hb
    · exact hp _ List.mem_cons_self _ hab
    · exact ih (fun a ha => hp a (List.mem_cons_of_mem _ ha)) b hb

/-- A place in the left list is one in the right list. -/
theorem exists_place_of_forall₂ {front back : List α} {a : α} {bs : List β}
    (h : List.Forall₂ R (front ++ a :: back) bs) :
    ∃ before b after, bs = before ++ b :: after ∧ List.Forall₂ R front before ∧ R a b ∧
      List.Forall₂ R back after := by
  induction front generalizing bs with
  | nil =>
    obtain ⟨b, after, hab, hback, rfl⟩ := List.forall₂_cons_left_iff.1 h
    exact ⟨[], b, after, rfl, .nil, hab, hback⟩
  | cons c front ih =>
    obtain ⟨b, rest, hcb, hrest, rfl⟩ := List.forall₂_cons_left_iff.1 h
    obtain ⟨before, b', after, rfl, hfront, hab, hback⟩ := ih hrest
    exact ⟨b :: before, b', after, rfl, .cons hcb hfront, hab, hback⟩

/-- Items that are counted together. -/
theorem countP_of_forall₂ {as : List α} {bs : List β} (h : List.Forall₂ R as bs) {p : α → Bool}
    {q : β → Bool} (hpq : ∀ a b, R a b → q b = p a) : bs.countP q = as.countP p := by
  induction h with
  | nil => rfl
  | cons hab _ ih => rw [List.countP_cons, List.countP_cons, ih, hpq _ _ hab]

end Forall₂

/-! ## Entries and documents -/

namespace Repository

variable {α : Type} {r : Repository Memory α} {withId : α → String → α}

/-- **A document holds an entry**: it has the key of the entry's identifier, the entry's owner in the
scope field, and is read as the entry's item. -/
structure Holds (r : Repository Memory α) (pair : String × Entry α) (d : Document) : Prop where
  key : ∃ key, d.key? = some key ∧ pair.1 = key.toHex
  owner : Fields.get? d r.config.scopeField = pair.2.owner.map .string
  load : r.codec.load r.config.idField d = .ok pair.2.item

section

variable (hkeeps : r.codec.Keeps r.config.idField r.config.scopeField withId)
  (hid : r.config.scopeField ≠ primaryKey)
include hkeeps hid

/-- **The body of an item**: it has no key, it has the owner in the scope field, and under every key
it is read as the item with that identifier. -/
theorem exists_body (item : α) (owner : Option String) :
    ∃ body, r.body item (owner.map .string) = .ok body ∧ Fields.get? body primaryKey = none ∧
      Fields.get? body r.config.scopeField = owner.map .string ∧
      ∀ key : ObjectId,
        r.codec.loadAs r.config.idField body key = .ok (withId item key.toHex) := by
  obtain ⟨d, hencode, hscope⟩ := hkeeps.encodes item
  have hbody : r.body item (owner.map .string)
      = .ok (Document.ownedBy (Fields.erase (Fields.erase d r.config.idField) primaryKey)
        (owner.map fun owner => (r.config.scopeField, .string owner))) := by
    rw [body, Codec.body, hencode, Repository.owner, Option.map_map]
    rfl
  have hkey : Fields.get? (Document.ownedBy
      (Fields.erase (Fields.erase d r.config.idField) primaryKey)
      (owner.map fun owner => (r.config.scopeField, .string owner))) primaryKey = none := by
    cases owner <;> simp [Document.ownedBy, hid]
  refine ⟨_, hbody, hkey, ?_, fun key => ?_⟩
  · cases owner <;> simp [Document.ownedBy, hscope]
  · rw [Codec.loadAs_eq _ _ hkey]
    exact hkeeps.decodes item d hencode owner key.toHex

/-- A body that is stored under a key holds the entry of its item. -/
theorem holds_stored {item : α} {owner : Option String} {body : Document}
    (hbody : r.body item (owner.map .string) = .ok body) (key : ObjectId) :
    r.Holds (key.toHex, ⟨owner, withId item key.toHex⟩) (Store.stored (.objectId key) body) := by
  obtain ⟨other, hother, -, howner, hload⟩ := exists_body hkeeps hid item owner
  obtain rfl : body = other := Except.ok.inj (hbody.symm.trans hother)
  refine ⟨⟨key, Store.key?_stored key body, rfl⟩, ?_, ?_⟩
  · rw [Store.get?_stored _ _ hid, howner]
  · rw [Codec.load_stored, hload]

end

/-- A text as an owner is found again. -/
theorem recognizes_string (hfield : isFieldName r.config.scopeField = true)
    (scope : Option String) : r.Recognizes (scope.map .string) := by
  intro owner howner
  obtain ⟨s, -, rfl⟩ := Option.map_eq_some_iff.1 howner
  exact ⟨hfield, rfl⟩

/-- **An entry is seen under a scope** where its document is among those of the owner. -/
theorem Holds.inScope_eq {pair : String × Entry α} {d : Document} (h : r.Holds pair d)
    (hfield : isFieldName r.config.scopeField = true) (scope : Option String) :
    d.inScope (r.owner (scope.map .string)) = pair.2.visible scope := by
  cases scope with
  | none => rfl
  | some s =>
    have hequal (t : String) : (Value.string t).orderKey.equals (Value.string s).orderKey
        = (some t == some s) := by
      rw [Bool.eq_iff_iff]
      simp [OrderKey.equals, OrderKey.compareWithin?, Value.orderKey, OrderKey.rank,
        OrderKey.compare]
    refine ((recognizes_string hfield (some s)).inScope_eq d).trans ?_
    rw [h.owner, Entry.visible, Option.all_some]
    cases pair.2.owner with
    | none => rfl
    | some t => simp [equalsAt, Value.reaches, Value.isNull, hequal]

/-- Under an identifier that is not the entry's, its document is not meant. -/
theorem Holds.means_eq_false {pair : String × Entry α} {d : Document} {key : ObjectId}
    (h : r.Holds pair d) (hne : pair.1 ≠ key.toHex) (scope : Option Value) :
    r.means key scope d = false := by
  obtain ⟨other, hother, hpair⟩ := h.key
  have hkey : other ≠ key := fun heq => hne (heq ▸ hpair)
  simp [means, hother, hkey]

/-- Under its own identifier the document of an entry is meant where the entry is seen. -/
theorem Holds.means_eq {e : Entry α} {d : Document} {key : ObjectId}
    (h : r.Holds (key.toHex, e) d) (hfield : isFieldName r.config.scopeField = true)
    (scope : Option String) : r.means key (scope.map .string) d = e.visible scope := by
  obtain ⟨other, hother, hpair⟩ := h.key
  obtain rfl := ObjectId.toHex_injective hpair
  rw [means, hother, h.inScope_eq hfield]
  simp

/-! ## Registries and collections -/

/-- **A collection represents a registry**: it can be reached, as many keys have been issued, no two
entries share an identifier, and the documents hold the entries one by one. -/
structure Represents (r : Repository Memory α) (registry : Registry α) (m : Memory) : Prop where
  ready : m.store.ready
  issued : m.issued = registry.issued
  distinct : registry.entries.Distinct
  holds : List.Forall₂ r.Holds registry.entries (m.store.documents r.config.collection)

/-- **What a registry locates is in the same place of the collection.** -/
inductive Locates (r : Repository Memory α) (registry : Registry α) (documents : List Document)
    (id : String) (scope : Option String) : Except Error (String × Entry α) → Prop
  /-- The identifier is malformed. -/
  | malformed {e : Error} (hid : keyOf id = .error e) :
      Locates r registry documents id scope (.error e)
  /-- No document is meant. -/
  | missing {key : ObjectId} (hid : keyOf id = .ok key)
      (hnone : ∀ d ∈ documents, r.means key (scope.map .string) d = false) :
      Locates r registry documents id scope (.error (.documentMissing r.config.collection id))
  /-- One document is meant, and holds the entry. -/
  | found {key : ObjectId} {e : Entry α} {front back : Fields (Entry α)}
      {before after : List Document} {d : Document} (hid : keyOf id = .ok key)
      (hinsert : ∀ other, registry.entries.insert key.toHex other
        = front ++ (key.toHex, other) :: back)
      (herase : registry.entries.erase key.toHex = front ++ back)
      (hdocuments : documents = before ++ d :: after)
      (hbefore : List.Forall₂ r.Holds front before) (hd : r.Holds (key.toHex, e) d)
      (hafter : List.Forall₂ r.Holds back after)
      (hothers : ∀ d ∈ before, r.means key (scope.map .string) d = false)
      (hmeant : r.means key (scope.map .string) d = true) :
      Locates r registry documents id scope (.ok (key.toHex, e))

namespace Represents

variable {registry : Registry α} {m : Memory} {supply : Nat → ObjectId}

/-- **Locating an entry** comes to the same place of the collection. -/
theorem locates (h : r.Represents registry m) (hfield : isFieldName r.config.scopeField = true)
    (id : String) (scope : Option String) :
    r.Locates registry (m.store.documents r.config.collection) id scope
      (registry.locate r.config.collection id scope) := by
  cases hid : keyOf id with
  | error e =>
    have hlocate : registry.locate r.config.collection id scope = .error e := by
      rw [Registry.locate, hid]
      rfl
    rw [hlocate]
    exact .malformed hid
  | ok key =>
    rw [Registry.locate_of_keyOf hid]
    cases hget : registry.entries.get? key.toHex with
    | none =>
      refine .missing hid (forall_of_forall₂ h.holds fun pair hpair d hd => ?_)
      refine hd.means_eq_false (fun heq => ?_) _
      exact Fields.get?_eq_none_iff.1 hget (heq ▸ List.mem_map_of_mem hpair)
    | some e =>
      obtain ⟨front, back, hentries, hinsert, herase, hfront, hback⟩ := h.distinct.exists_place hget
      have hholds := h.holds
      rw [hentries] at hholds
      obtain ⟨before, d, after, hdocuments, hbefore, hd, hafter⟩ := exists_place_of_forall₂ hholds
      have hothers := forall_of_forall₂ hbefore fun pair hpair d hd =>
        hd.means_eq_false (hfront pair hpair) (scope.map .string)
      have hbehind := forall_of_forall₂ hafter fun pair hpair d hd =>
        hd.means_eq_false (hback pair hpair) (scope.map .string)
      have hmeans := hd.means_eq hfield scope
      dsimp only
      split
      · next hvisible =>
        exact .found hid hinsert herase hdocuments hbefore hd hafter hothers (hmeans.trans hvisible)
      · next hvisible =>
        refine .missing hid fun d' hd' => ?_
        rw [hdocuments] at hd'
        rcases List.mem_append.1 hd' with hd' | hd'
        · exact hothers d' hd'
        · rcases List.mem_cons.1 hd' with rfl | hd'
          · rw [hmeans]
            exact eq_false_of_ne_true hvisible
          · exact hbehind d' hd'

/-- Every document can be evaluated under the selector of a key. -/
theorem meets (h : r.Represents registry m) (hfield : isFieldName r.config.scopeField = true)
    (hid : r.config.scopeField ≠ primaryKey) (key : ObjectId) (scope : Option String) :
    ∀ d ∈ m.store.documents r.config.collection,
      d.meets (keySelector key (r.owner (scope.map .string)))
        = .ok (r.means key (scope.map .string) d) := by
  refine forall_of_forall₂ h.holds fun pair _ d hd => ?_
  obtain ⟨other, hother, -⟩ := hd.key
  exact (recognizes_string hfield scope).meets_keySelector hother fun heq => absurd heq hid

end Represents

end Repository

/-! ## Calls -/

namespace Operation

variable {α : Type} {r : Repository Memory α} {withId : α → String → α} {registry : Registry α}
  {m : Memory} {supply : Nat → ObjectId}

/-- **An operation keeps a repository and a registry together**: both give the same answer, and
afterwards the collection represents the registry. -/
def Agrees (r : Repository Memory α) (supply : Nat → ObjectId) (withId : α → String → α)
    (registry : Registry α) (m : Memory) (operation : Operation α) : Prop :=
  (operation.perform r m).1 = (registry.perform supply withId r.config.collection operation).1 ∧
    r.Represents (registry.perform supply withId r.config.collection operation).2
      (operation.perform r m).2

section

variable (hr : r.backend = Memory.backend supply)
  (hfield : isFieldName r.config.scopeField = true) (h : r.Represents registry m)
include hr hfield h

theorem agrees_count (scope : Option String) :
    Agrees r supply withId registry m (.count scope) := by
  have hselector : r.selector (scope.map .string) none
      = .ok (Document.ownedBy [] (r.owner (scope.map .string))) := rfl
  have hcount := Repository.count_eq hr h.ready hselector fun d _ =>
    (Repository.recognizes_string hfield scope).meets d
  rw [countP_of_forall₂ h.holds fun pair d hd => hd.inScope_eq hfield scope] at hcount
  rw [Agrees, Operation.perform, Action.map_ok hcount]
  exact ⟨rfl, h⟩

variable (hid : r.config.scopeField ≠ primaryKey)
include hid

theorem agrees_read (id : String) (scope : Option String) :
    Agrees r supply withId registry m (.read id scope) := by
  have hlocates := h.locates hfield id scope
  rw [Agrees, Operation.perform, Registry.perform]
  generalize registry.locate r.config.collection id scope = located at hlocates
  cases hlocates with
  | malformed hmalformed =>
    rw [Action.map_error (Repository.read_malformed hmalformed)]
    exact ⟨rfl, h⟩
  | missing hkey hnone =>
    have hread := Repository.read_eq hr h.ready hkey (h.meets hfield hid _ scope)
    rw [List.find?_eq_none.2 fun d hd => by simp [hnone d hd]] at hread
    rw [Action.map_error hread]
    exact ⟨rfl, h⟩
  | found hkey hinsert herase hdocuments hbefore hd hafter hothers hmeant =>
    have hread := Repository.read_eq hr h.ready hkey (h.meets hfield hid _ scope)
    rw [hdocuments, find?_place hothers hmeant] at hread
    dsimp only at hread
    rw [hd.load] at hread
    rw [Action.map_ok hread]
    exact ⟨rfl, h⟩

theorem agrees_delete (id : String) (scope : Option String) :
    Agrees r supply withId registry m (.delete id scope) := by
  have hlocates := h.locates hfield id scope
  rw [Agrees, Operation.perform, Registry.perform]
  generalize registry.locate r.config.collection id scope = located at hlocates
  cases hlocates with
  | malformed hmalformed =>
    rw [Action.map_error (Repository.delete_malformed hmalformed)]
    exact ⟨rfl, h⟩
  | missing hkey hnone =>
    have hdelete := Repository.delete_eq hr h.ready hkey (h.meets hfield hid _ scope)
    rw [List.findIdx?_eq_none_iff.2 hnone] at hdelete
    rw [Action.map_error hdelete]
    exact ⟨rfl, h⟩
  | found hkey hinsert herase hdocuments hbefore hd hafter hothers hmeant =>
    have hdelete := Repository.delete_eq hr h.ready hkey (h.meets hfield hid _ scope)
    rw [hdocuments, findIdx?_place hothers hmeant] at hdelete
    dsimp only at hdelete
    rw [eraseIdx_place] at hdelete
    rw [Action.map_ok hdelete]
    refine ⟨rfl, h.ready, h.issued, h.distinct.erase _, ?_⟩
    dsimp only
    rw [herase, Memory.documents_withDocuments]
    exact List.rel_append hbefore hafter

variable (hkeeps : r.codec.Keeps r.config.idField r.config.scopeField withId)
include hkeeps

theorem agrees_update (id : String) (item : α) (scope : Option String) :
    Agrees r supply withId registry m (.update id item scope) := by
  obtain ⟨body, hbody, -, -, hload⟩ := Repository.exists_body hkeeps hid item scope
  have hlocates := h.locates hfield id scope
  rw [Agrees, Operation.perform, Registry.perform]
  generalize registry.locate r.config.collection id scope = located at hlocates
  cases hlocates with
  | malformed hmalformed =>
    rw [Action.map_error (Repository.update_malformed hmalformed)]
    exact ⟨rfl, h⟩
  | missing hkey hnone =>
    have hupdate := Repository.update_eq hr h.ready hkey hbody (h.meets hfield hid _ scope)
    rw [List.findIdx?_eq_none_iff.2 hnone] at hupdate
    rw [Action.map_error hupdate]
    exact ⟨rfl, h⟩
  | @found key e front back before after d hkey hinsert herase hdocuments hbefore hd hafter hothers
      hmeant =>
    have hupdate := Repository.update_eq hr h.ready hkey hbody (h.meets hfield hid _ scope)
    rw [hdocuments, findIdx?_place hothers hmeant] at hupdate
    dsimp only at hupdate
    rw [modify_place, hload] at hupdate
    rw [Action.map_ok hupdate]
    refine ⟨rfl, h.ready, h.issued, h.distinct.insert _ _, ?_⟩
    obtain ⟨other, hother, hsame⟩ := hd.key
    obtain rfl := ObjectId.toHex_injective hsame
    dsimp only
    rw [hinsert, Memory.documents_withDocuments, Document.get?_of_key? hother]
    exact List.rel_append hbefore
      (.cons (Repository.holds_stored hkeeps hid hbody _) hafter)

omit hfield in
theorem agrees_create
    (hfresh : (supply (registry.issued + 1)).toHex ∉ Fields.names registry.entries) (item : α)
    (scope : Option String) : Agrees r supply withId registry m (.create item scope) := by
  obtain ⟨body, hbody, hkey, -, hload⟩ := Repository.exists_body hkeeps hid item scope
  have hissued : m.issuedFor body = registry.issued + 1 := by
    rw [Memory.issuedFor, hkey, h.issued]
    rfl
  have hnew : ∀ d ∈ m.store.documents r.config.collection,
      d.key? ≠ some (supply (registry.issued + 1)) := by
    refine forall_of_forall₂ h.holds fun pair hpair d hd heq => hfresh ?_
    obtain ⟨other, hother, hname⟩ := hd.key
    obtain rfl := Option.some.inj (hother.symm.trans heq)
    exact hname ▸ List.mem_map_of_mem hpair
  have hcreate := (Repository.create_eq_ok_iff hr).2 ⟨h.ready, body, _, hbody,
    show Store.keyFor (supply (m.issuedFor body)) body = _ by rw [Store.keyFor, hkey, hissued],
    hnew, hload _, rfl⟩
  rw [Agrees, Operation.perform, Action.map_ok hcreate]
  refine ⟨rfl, h.ready, hissued, h.distinct.insert _ _, ?_⟩
  rw [Memory.documents_storing, Registry.perform]
  dsimp only
  rw [Fields.insert_of_get?_eq_none (Fields.get?_eq_none_iff.2 hfresh)]
  exact List.rel_append h.holds (.cons (Repository.holds_stored hkeeps hid hbody _) .nil)

end

/-- **The next keys are fresh**: no two of them are the same, and no entry has one of them. -/
def Fresh (supply : Nat → ObjectId) (registry : Registry α) (count : Nat) : Prop :=
  ∀ i, registry.issued < i → i ≤ registry.issued + count →
    (supply i).toHex ∉ Fields.names registry.entries ∧
    ∀ j, i < j → j ≤ registry.issued + count → supply i ≠ supply j

namespace Fresh

variable {count : Nat} {entries : Fields (Entry α)}

theorem less (h : Fresh supply registry (count + 1)) : Fresh supply registry count :=
  fun i hi hle => ⟨(h i hi (by omega)).1, fun j hj hle => (h i hi (by omega)).2 j hj (by omega)⟩

/-- Fewer entries leave the keys fresh. -/
theorem of_subset (h : Fresh supply registry count)
    (hnames : Fields.names entries ⊆ Fields.names registry.entries) :
    Fresh supply { registry with entries } count :=
  fun i hi hle => ⟨fun hm => (h i hi hle).1 (hnames hm), (h i hi hle).2⟩

/-- An entry under the next key leaves the keys behind it fresh. -/
theorem issue (h : Fresh supply registry (count + 1)) (e : Entry α) :
    Fresh supply ⟨registry.entries.insert (supply (registry.issued + 1)).toHex e,
      registry.issued + 1⟩ count := by
  intro i hi hle
  dsimp only at hi hle ⊢
  obtain ⟨hnew, hapart⟩ := h i (by omega) (by omega)
  have hne := (h (registry.issued + 1) (by omega) (by omega)).2 i (by omega) (by omega)
  refine ⟨fun hm => ?_, fun j hj hle => hapart j hj (by omega)⟩
  rw [Fields.names_insert, if_neg (h _ (by omega) (by omega)).1, List.mem_append] at hm
  rcases hm with hm | hm
  · exact hnew hm
  · exact hne (ObjectId.toHex_injective (List.mem_singleton.1 hm).symm)

end Fresh

/-- **An operation uses up at most one fresh key.** -/
theorem fresh_perform {count : Nat} (h : Fresh supply registry (count + 1))
    (operation : Operation α) (collection : String) :
    Fresh supply (registry.perform supply withId collection operation).2 count := by
  cases operation with
  | create item scope => exact h.issue _
  | read id scope =>
    rw [Registry.perform]
    split <;> exact h.less
  | update id item scope =>
    rw [Registry.perform]
    split
    · next text e hlocate =>
      have hmem : text ∈ Fields.names registry.entries :=
        Fields.mem_names_of_get? (Registry.get?_of_locate hlocate)
      refine h.less.of_subset ?_
      rw [Fields.names_insert, if_pos hmem]
      exact List.Subset.refl _
    · exact h.less
  | delete id scope =>
    rw [Registry.perform]
    split
    · exact h.less.of_subset (List.map_subset _ (List.filter_subset_self _))
    · exact h.less
  | count scope => exact h.less

/-- **One operation.**  Where the next key is fresh, a repository and the registry it represents give
the same answer and stay together. -/
theorem perform_represents (hr : r.backend = Memory.backend supply)
    (hkeeps : r.codec.Keeps r.config.idField r.config.scopeField withId)
    (hfield : isFieldName r.config.scopeField = true) (hid : r.config.scopeField ≠ primaryKey)
    (h : r.Represents registry m) (hfresh : Fresh supply registry 1) (operation : Operation α) :
    Agrees r supply withId registry m operation := by
  cases operation with
  | create item scope =>
    exact agrees_create hr h hid hkeeps (hfresh _ (by omega) (by omega)).1 item scope
  | read id scope => exact agrees_read hr hfield h hid id scope
  | update id item scope => exact agrees_update hr hfield h hid hkeeps id item scope
  | delete id scope => exact agrees_delete hr hfield h hid id scope
  | count scope => exact agrees_count hr hfield h scope

/-- Operations in a row, from a registry that the collection represents. -/
theorem performAll_represents (hr : r.backend = Memory.backend supply)
    (hkeeps : r.codec.Keeps r.config.idField r.config.scopeField withId)
    (hfield : isFieldName r.config.scopeField = true) (hid : r.config.scopeField ≠ primaryKey)
    (operations : List (Operation α)) (h : r.Represents registry m)
    (hfresh : Fresh supply registry operations.length) :
    (performAll r operations m).1
        = (Registry.run supply withId r.config.collection operations registry).1 ∧
      r.Represents (Registry.run supply withId r.config.collection operations registry).2
        (performAll r operations m).2 := by
  induction operations generalizing registry m with
  | nil => exact ⟨rfl, h⟩
  | cons operation rest ih =>
    have hnext : Fresh supply registry 1 := fun i hi hle =>
      ⟨(hfresh i hi (by rw [List.length_cons]; omega)).1, fun j hj hle' => by omega⟩
    obtain ⟨hanswer, hkept⟩ := perform_represents hr hkeeps hfield hid h hnext operation
    obtain ⟨hanswers, hlast⟩ := ih hkept (fresh_perform hfresh operation r.config.collection)
    exact ⟨congrArg₂ List.cons hanswer hanswers, hlast⟩

/-- **A repository is a finite map.**  Operations in a row on a collection that is empty at first, where
keys that are issued do not repeat, are answered as a registry answers them, and afterwards the
collection represents what has become of the registry. -/
theorem performAll_eq_run (hr : r.backend = Memory.backend supply)
    (hkeeps : r.codec.Keeps r.config.idField r.config.scopeField withId)
    (hfield : isFieldName r.config.scopeField = true) (hid : r.config.scopeField ≠ primaryKey)
    (hready : m.store.ready) (hempty : m.store.documents r.config.collection = [])
    (operations : List (Operation α))
    (hsupply : ∀ i j, m.issued < i → i < j → j ≤ m.issued + operations.length →
      supply i ≠ supply j) :
    (performAll r operations m).1
        = (Registry.run supply withId r.config.collection operations { issued := m.issued }).1 ∧
      r.Represents
        (Registry.run supply withId r.config.collection operations { issued := m.issued }).2
        (performAll r operations m).2 := by
  have h : r.Represents { issued := m.issued } m :=
    ⟨hready, rfl, List.nodup_nil, hempty ▸ .nil⟩
  exact performAll_represents hr hkeeps hfield hid operations h fun i hi _ =>
    ⟨List.not_mem_nil, fun j hj hle => hsupply i j hi hj hle⟩

end Operation

namespace Shelf

/-- The repository of the labels on the shelf. -/
def labels : Repository Memory Label :=
  ⟨{ collection := "labels" }, Memory.backend .ofNat, Label.codec⟩

/-- A label under another identifier. -/
def relabelled (l : Label) (id : String) : Label := { l with id }

theorem keeps_labels : Label.codec.Keeps "id" "userId" relabelled := by
  refine ⟨fun item => ⟨_, rfl, rfl⟩, fun item d hd owner id => ?_⟩
  obtain rfl := Except.ok.inj hd
  cases owner <;> simp [Label.codec, relabelled, Fields.erase, Document.ownedBy, Fields.insert,
    Fields.get?_cons, primaryKey]

/-- Alice and nobody in particular write labels; Bob looks for one of Alice's. -/
def operations : List (Operation Label) :=
  [.create ⟨"", "new"⟩ (some "alice"), .create ⟨"", "old"⟩ none,
    .read (ObjectId.ofNat 1).toHex (some "bob"),
    .update (ObjectId.ofNat 1).toHex ⟨"", "hot"⟩ (some "alice"),
    .delete (ObjectId.ofNat 2).toHex none, .count none]

theorem ofNat_ne {i j : Nat} (hij : i < j) (hj : j ≤ 6) : ObjectId.ofNat i ≠ ObjectId.ofNat j := by
  intro heq
  have hbits := congrArg (fun id : ObjectId => id.bits.toNat) heq
  simp only [ObjectId.ofNat, BitVec.toNat_ofNat] at hbits
  omega

/-- Both labels are stored, Bob does not find Alice's, and in the end hers is the only one. -/
theorem performAll_operations : (Operation.performAll labels operations {}).1
    = [.ok (.item ⟨(ObjectId.ofNat 1).toHex, "new"⟩), .ok (.item ⟨(ObjectId.ofNat 2).toHex, "old"⟩),
      .error (.documentMissing "labels" (ObjectId.ofNat 1).toHex),
      .ok (.item ⟨(ObjectId.ofNat 1).toHex, "hot"⟩), .ok .done, .ok (.number 1)] := by
  have hrun := (Operation.performAll_eq_run (r := labels) (m := {}) rfl keeps_labels (by decide)
    (by decide) rfl rfl operations fun i j _ hij hj => ofNat_ne hij hj).1
  have hid (n : Nat) : Repository.keyOf (ObjectId.ofNat n).toHex = .ok (.ofNat n) := by
    rw [Repository.keyOf, ObjectId.ofHex?_toHex]
  have hne : (ObjectId.ofNat 1).toHex ≠ (ObjectId.ofNat 2).toHex :=
    fun heq => ofNat_ne (by decide) (by decide) (ObjectId.toHex_injective heq)
  rw [hrun]
  simp [operations, Registry.run, Registry.perform, Registry.locate_of_keyOf (hid _), Fields.insert,
    Fields.get?_cons, Fields.erase_cons, hne, Entry.visible, relabelled, labels]

end Shelf

end KeysetStore
