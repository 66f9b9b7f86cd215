import KeysetStore.Proofs.ListingPage
import KeysetStore.Proofs.StoreRuns

/-!
# Proofs/CallProtocol — what a repository asks of its backend, and when

Whatever the backend, a repository looks at the arguments of a command first.  The first fault among
them is reported without a call, also where the backend is not ready; then it has to be ready; and
only then is it called (`Guarded`).

What follows is the one call that the command names, and an error of it is passed on (`OneCall`).  Only
a listing with a cursor makes two: it asks for the document under the cursor, among those of the owner,
and where there is one it goes on to search, unless the filter has no room for one more condition
(`Resumes`).  All commands keep to this (`Command.guarded_perform`).

The key of the cursor is asked for unless the scope field is that of the key.  Such a setup is usable,
and there the owner is asked for in its place (`Shelf.resumed_elsewhere`).
-/

namespace KeysetStore

/-! ## Commands -/

/-- **A command to a repository**, on behalf of an owner or of nobody in particular. -/
inductive Command (α : Type) where
  /-- Lists a page of models. -/
  | readAll (scope : Option Value) (filter : Option Document) (sort : List SortKey)
      (request : Pagination)
  /-- Reads the model under an identifier. -/
  | read (id : String) (scope : Option Value)
  /-- Stores a model. -/
  | create (model : α) (scope : Option Value)
  /-- Replaces the model under an identifier. -/
  | update (id : String) (model : α) (scope : Option Value)
  /-- Deletes the model under an identifier. -/
  | delete (id : String) (scope : Option Value)
  /-- Counts models. -/
  | count (scope : Option Value) (filter : Option Document)
  /-- Runs a pipeline. -/
  | aggregate (pipeline : List Document) (scope : Option Value)
  /-- Asks for an index that serves an order. -/
  | ensureSortIndex (sort : List SortKey)

/-- What a command gives where it succeeds. -/
inductive Response (α : Type) where
  /-- A page of models. -/
  | page (p : Page α)
  /-- A model. -/
  | model (model : α)
  /-- What comes out of a pipeline. -/
  | documents (found : List Document)
  /-- A count. -/
  | number (n : Nat)
  /-- Nothing but the success. -/
  | done

namespace Command

variable {σ α : Type}

/-- **A command, performed by a repository.** -/
def perform (r : Repository σ α) : Command α → Action σ (Response α)
  | readAll scope filter sort request => .page <$> r.readAll scope filter sort request
  | read id scope => .model <$> r.read id scope
  | create model scope => .model <$> r.create model scope
  | update id model scope => .model <$> r.update id model scope
  | delete id scope => (fun _ => .done) <$> r.delete id scope
  | count scope filter => .number <$> r.count scope filter
  | aggregate pipeline scope => .documents <$> r.aggregate pipeline scope
  | ensureSortIndex sort => (fun _ => .done) <$> r.ensureSortIndex sort

end Command

/-! ## What can be wrong with arguments -/

/-- The size of a page, cut to the greatest one. -/
def Config.shownSize (c : Config) (requested : Option Nat) : Nat :=
  c.maxPageSize.elim (requested.getD c.defaultPageSize) (min (requested.getD c.defaultPageSize))

/-- What is wrong with the size of a page: it is zero, or leaves no room to look ahead. -/
def Config.sizeFaults (c : Config) (requested : Option Nat) : List Error :=
  if requested.getD c.defaultPageSize = 0 then [.zeroLimit]
  else if sizeLimit ≤ c.shownSize requested then [.pageSizeTooLarge (c.shownSize requested)]
  else []

/-- What is wrong with a selector that gets one more condition: its conjunction is no list. -/
def conjunctionFaults (selector : Document) : List Error :=
  match Fields.get? selector "$and" with
  | none => []
  | some (.array _) => []
  | some v => [.conjunction v]

/-- What is wrong with the search of a filter: its term is no text, or nothing is searched, or beside
its clause stands a conjunction that is no list. -/
def searchFaults (searchable : List String) (filter : Document) : List Error :=
  match Fields.get? filter searchKey with
  | none => []
  | some .null => []
  | some (.string term) =>
    if (trim term).isEmpty then []
    else if searchable.isEmpty then [.searchUnsupported]
    else conjunctionFaults filter
  | some v => [.searchTerm v]

/-- What is wrong with a cursor: it is no text of a key. -/
def cursorFaults : Option String → List Error
  | none => []
  | some cursor => if (ObjectId.ofHex? cursor).isSome then [] else [.malformedCursor cursor]

/-- What is wrong with an identifier: it is no text of a key. -/
def idFaults (id : String) : List Error :=
  if (ObjectId.ofHex? id).isSome then [] else [.invalidIdentifier id]

/-- What is wrong with a model: the codec cannot write it. -/
def Codec.faults {α : Type} (codec : Codec α) (model : α) : List Error :=
  match codec.encode model with
  | .ok _ => []
  | .error e => [e]

/-- **What is wrong with the arguments of a command**, the first fault first. -/
def Command.faults {σ α : Type} (r : Repository σ α) : Command α → List Error
  | readAll _ filter _ request =>
    r.config.sizeFaults request.limit
      ++ (searchFaults r.config.searchable (filter.getD []) ++ cursorFaults request.cursor)
  | read id _ => idFaults id
  | create model _ => r.codec.faults model
  | update id model _ => idFaults id ++ r.codec.faults model
  | delete id _ => idFaults id
  | count _ filter => searchFaults r.config.searchable (filter.getD [])
  | aggregate .. => []
  | ensureSortIndex _ => []

/-! ## Checks -/

/-- **A check reports faults**: it fails with the first of them, and passes where there is none. -/
inductive Reports {α : Type} : Except Error α → List Error → Prop where
  | ok (a : α) : Reports (.ok a) []
  | error (e : Error) (others : List Error) : Reports (.error e) (e :: others)

namespace Reports

variable {α β : Type} {check : Except Error α} {faults others : List Error}

theorem eq_error {e : Error} (h : Reports check faults) (he : faults.head? = some e) :
    check = .error e := by
  rcases h with a | ⟨first, others⟩
  · cases he
  · rw [Option.some.inj he]

theorem exists_ok (h : Reports check []) : ∃ a, check = .ok a := by
  rcases h with ⟨a⟩
  exact ⟨a, rfl⟩

/-- A check after another one reports its faults after those of the other. -/
theorem bind {next : α → Except Error β} (h : Reports check faults)
    (hnext : ∀ a, Reports (next a) others) : Reports (check >>= next) (faults ++ others) := by
  rcases h with a | ⟨e, rest⟩
  · exact hnext a
  · exact .error e (rest ++ others)

theorem map (h : Reports check faults) (f : α → β) : Reports (check.map f) faults := by
  rcases h with a | ⟨e, others⟩
  · exact .ok (f a)
  · exact .error e others

end Reports

theorem reports_keyOf (id : String) : Reports (Repository.keyOf id) (idFaults id) := by
  rw [Repository.keyOf, idFaults]
  rcases ObjectId.ofHex? id with _ | key
  · exact .error _ []
  · exact .ok key

theorem reports_referenceOf (request : Pagination) :
    Reports (Repository.referenceOf request) (cursorFaults request.cursor) := by
  rw [Repository.referenceOf]
  rcases request.cursor with _ | cursor
  · exact .ok none
  · refine .map ?_ some
    rw [Repository.keyOfCursor, cursorFaults]
    rcases ObjectId.ofHex? cursor with _ | key
    · exact .error _ []
    · exact .ok key

theorem reports_conjoin (selector clause : Document) :
    Reports (Document.conjoin selector clause) (conjunctionFaults selector) := by
  rw [Document.conjoin, conjunctionFaults]
  rcases Fields.get? selector "$and" with _ | v
  · exact .ok _
  · rcases v
    case array clauses => exact .ok _
    all_goals exact .error _ []

theorem conjunctionFaults_erase {filter : Document} {name : String} (hname : name ≠ "$and") :
    conjunctionFaults (Fields.erase filter name) = conjunctionFaults filter := by
  rw [conjunctionFaults, Fields.get?_erase, if_neg hname, conjunctionFaults]

theorem reports_searchedFilter (searchable : List String) (filter : Document) :
    Reports (searchedFilter searchable filter) (searchFaults searchable filter) := by
  rw [searchedFilter, searchFaults]
  rcases Fields.get? filter searchKey with _ | v
  · exact .ok _
  · rcases v
    case null => exact .ok _
    case string term =>
      dsimp only
      rw [searchOf]
      by_cases hblank : (trim term).isEmpty = true
      · rw [if_pos hblank, if_pos hblank]
        exact .ok _
      rw [if_neg hblank, if_neg hblank]
      by_cases hnone : searchable.isEmpty = true
      · rw [if_pos hnone, if_pos hnone]
        exact .error _ []
      rw [if_neg hnone, if_neg hnone, ← conjunctionFaults_erase (by decide : searchKey ≠ "$and")]
      exact reports_conjoin ..
    all_goals exact .error _ []

namespace Config

theorem pageSize_eq (c : Config) (requested : Option Nat) :
    c.pageSize requested = if requested.getD c.defaultPageSize = 0 then .error .zeroLimit
      else .ok (c.shownSize requested) := by
  rw [pageSize, shownSize]
  rcases c.maxPageSize with _ | most <;> rfl

end Config

namespace Repository

variable {σ α : Type} (r : Repository σ α)

theorem reports_selector (scope : Option Value) (filter : Option Document) :
    Reports (r.selector scope filter) (searchFaults r.config.searchable (filter.getD [])) :=
  (reports_searchedFilter ..).map _

theorem reports_body (model : α) (scope : Option Value) :
    Reports (r.body model scope) (r.codec.faults model) := by
  refine .map (.map ?_ _) _
  rw [Codec.faults]
  rcases r.codec.encode model with e | d
  · exact .error e []
  · exact .ok d

/-- **A listing is checked for all its faults.** -/
theorem reports_listing (scope : Option Value) (filter : Option Document) (sort : List SortKey)
    (request : Pagination) : Reports (r.listing scope filter sort request)
      (r.config.sizeFaults request.limit
        ++ (searchFaults r.config.searchable (filter.getD []) ++ cursorFaults request.cursor)) := by
  rw [listing_eq, Config.pageSize_eq, Config.sizeFaults]
  split
  · exact .error ..
  · change Reports (if sizeLimit ≤ r.config.shownSize request.limit then _ else _) _
    split
    · exact .error ..
    · exact (r.reports_selector scope filter).bind fun _ => (reports_referenceOf request).map _

end Repository

/-! ## Calls -/

/-- The search of a listing, under a selector. -/
def Listing.query (l : Listing) (selector : Document) : Query :=
  { selector, sort := some l.order.toDocument, limit := some (l.limit + 1) }

namespace Command

variable {σ α : Type}

/-- The owner a command is performed for. -/
def scope : Command α → Option Value
  | readAll scope .. => scope
  | read _ scope => scope
  | create _ scope => scope
  | update _ _ scope => scope
  | delete _ scope => scope
  | count scope _ => scope
  | aggregate _ scope => scope
  | ensureSortIndex _ => none

/-- The cursor a command continues from. -/
def cursor? : Command α → Option String
  | readAll _ _ _ request => request.cursor
  | _ => none

/-- **The call of a command** that needs only one: each has its own operation, on the collection of the
repository. -/
def Makes (r : Repository σ α) : Command α → Call → Prop
  | readAll scope filter sort request, call => ∃ l, r.listing scope filter sort request = .ok l ∧
    call = .find r.config.collection (l.query l.selector)
  | read id scope, call => ∃ key, ObjectId.ofHex? id = some key ∧
    call = .findOne r.config.collection (Repository.keySelector key (r.owner scope))
  | create model scope, call => ∃ body, r.body model scope = .ok body ∧
    call = .insertOne r.config.collection body
  | update id model scope, call => ∃ key body, ObjectId.ofHex? id = some key ∧
    r.body model scope = .ok body ∧
    call = .replaceOne r.config.collection (Repository.keySelector key (r.owner scope)) body
  | delete id scope, call => ∃ key, ObjectId.ofHex? id = some key ∧
    call = .deleteOne r.config.collection (Repository.keySelector key (r.owner scope))
  | count scope filter, call => ∃ selector, r.selector scope filter = .ok selector ∧
    call = .count r.config.collection selector
  | aggregate pipeline scope, call => call = .aggregate r.config.collection
    (Repository.scopedPipeline (r.owner scope) pipeline)
  | ensureSortIndex sort, call => call = .createIndex r.config.collection
    (SortOrder.compile sort r.config.idField).toDocument false

end Command

section Calls

variable {σ β γ : Type} (b : Backend σ)

/-- **One call**: the state is that of the backend after it, the call is noted, and an error of it is
passed on. -/
structure OneCall (call : Call) (t : Traced σ) (outcome : Except Error β × Traced σ) : Prop where
  after : outcome.2 = ⟨(b.reply call t.state).2, t.calls ++ [call]⟩
  error : ∀ e, (b.reply call t.state).1 = .error e → outcome.1 = .error e

/-- **A listing that continues from a key**: one call for the document that a selector means, and one
search at most, only after there was such a document. -/
inductive Resumes (collection : String) (key : ObjectId) (selector : Document) (t : Traced σ) :
    Except Error β × Traced σ → Prop where
  /-- The call fails, and so does the listing. -/
  | failed {e : Error} {s : σ} (answer : b.findOne collection selector t.state = (.error e, s)) :
    Resumes collection key selector t (.error e, ⟨s, t.calls ++ [.findOne collection selector]⟩)
  /-- There is no such document, so the cursor is no longer valid. -/
  | stale {s : σ} (answer : b.findOne collection selector t.state = (.ok none, s)) :
    Resumes collection key selector t
      (.error (.staleCursor key.toHex), ⟨s, t.calls ++ [.findOne collection selector]⟩)
  /-- There is one, but the conjunction of the filter is no list. -/
  | unnarrowed {d : Document} {s : σ} (v : Value)
    (answer : b.findOne collection selector t.state = (.ok (some d), s)) :
    Resumes collection key selector t
      (.error (.conjunction v), ⟨s, t.calls ++ [.findOne collection selector]⟩)
  /-- There is one, and the documents after it are searched for. -/
  | searched {d : Document} {s : σ} {query : Query} {outcome : Except Error β × Traced σ}
    (answer : b.findOne collection selector t.state = (.ok (some d), s))
    (search : OneCall b (.find collection query) ⟨s, t.calls ++ [.findOne collection selector]⟩
      outcome) :
    Resumes collection key selector t outcome

variable {b}

/-- A call that is noted is one call. -/
theorem oneCall_noted {call : Call} {op : Action σ β} {reply : β → Reply}
    (hreply : b.reply call = reply <$> op) (t : Traced σ) : OneCall b call t (op.noted call t) := by
  rw [Action.noted]
  rcases hop : op t.state with ⟨outcome, s⟩
  have hcall : b.reply call t.state = (outcome.map reply, s) := by
    rw [hreply, Action.map_apply, hop]
  refine ⟨by rw [hcall], fun e he => ?_⟩
  rw [hcall] at he
  exact map_eq_error_iff.1 he

/-- Checks of the outcome are no calls. -/
theorem OneCall.bind {call : Call} {t : Traced σ} {action : Action (Traced σ) γ}
    (h : OneCall b call t (action t)) {next : γ → Action (Traced σ) β}
    (hnext : ∀ a t, (next a t).2 = t) : OneCall b call t ((action >>= next) t) := by
  refine ⟨by rw [Action.bind_state hnext, h.after], fun e he => ?_⟩
  have haction : action t = (.error e, (action t).2) := Prod.ext (h.error e he) rfl
  rw [Action.bind_error haction]

variable {t : Traced σ} {outcome : Except Error γ × Traced σ}

/-! What is made of a success does not show in the calls. -/

theorem OneCall.map {call : Call} (h : OneCall b call t outcome) (f : γ → β) :
    OneCall b call t (outcome.1.map f, outcome.2) := by
  refine ⟨h.after, fun e he => ?_⟩
  rw [h.error e he]
  rfl

theorem Resumes.map {collection : String} {key : ObjectId} {selector : Document}
    (h : Resumes b collection key selector t outcome) (f : γ → β) :
    Resumes b collection key selector t (outcome.1.map f, outcome.2) := by
  rcases h with answer | answer | ⟨v, answer⟩ | ⟨answer, search⟩
  · exact .failed answer
  · exact .stale answer
  · exact .unnarrowed v answer
  · exact .searched answer (search.map f)

end Calls

/-- **What comes of a command once it is served**: its one call, or two of them where it continues from a
cursor.  The first of these asks for the key and the owner, unless the owner is written over the
key. -/
def Command.Serves {σ α : Type} (r : Repository σ α) (command : Command α) (t : Traced σ)
    (outcome : Except Error (Response α) × Traced σ) : Prop :=
  match command.cursor? with
  | none => ∃ call, command.Makes r call ∧ OneCall r.backend call t outcome
  | some cursor => ∃ key, ObjectId.ofHex? cursor = some key ∧
    (r.config.scopeField ≠ primaryKey → Repository.keySelector key (r.owner command.scope)
      = (primaryKey, .objectId key) :: Document.ownedBy [] (r.owner command.scope)) ∧
    Resumes r.backend r.config.collection key
      (Repository.keySelector key (r.owner command.scope)) t outcome

/-! ## Checks, then readiness, then calls -/

/-- **An action that is guarded**: the first fault is reported without a call, also where the backend
is not ready; without a fault the backend has to be ready; and only then is it called. -/
structure Guarded {σ β : Type} (b : Backend σ) (faults : List Error)
    (serves : Traced σ → Except Error β × Traced σ → Prop) (action : Action (Traced σ) β) :
    Prop where
  refused : ∀ e t, faults.head? = some e → action t = (.error e, t)
  offline : ∀ t, faults = [] → b.isReady t.state = false → action t = (.error .notConnected, t)
  served : ∀ t, faults = [] → b.isReady t.state = true → serves t (action t)

namespace Repository

variable {σ α β γ δ ε : Type} (r : Repository σ α)

/-- The repository over its backend with a record of the calls. -/
def traced : Repository (Traced σ) α := { r with backend := r.backend.traced }

theorem ensureReady_traced (t : Traced σ) : r.traced.ensureReady t
    = (if r.backend.isReady t.state then .ok () else .error .notConnected, t) := by
  change (if r.backend.isReady t.state then (pure () : Action (Traced σ) Unit)
    else throw .notConnected) t = _
  split <;> rfl

variable {r} {check : Except Error γ} {faults : List Error}

/-- **An action that checks, makes sure that the backend is ready and goes on is guarded.** -/
theorem guarded_of_reports (hreports : Reports check faults)
    {serves : Traced σ → Except Error δ × Traced σ → Prop} {action : Action (Traced σ) β}
    {rest : γ → Action (Traced σ) β}
    (haction : action = liftM check >>= fun a => r.traced.ensureReady >>= fun _ => rest a) (f : β → δ)
    (hserves : ∀ a t, check = .ok a → serves t ((rest a t).1.map f, (rest a t).2)) :
    Guarded r.backend faults serves (f <$> action) := by
  subst haction
  refine ⟨fun e t he => ?_, fun t hnone hoffline => ?_, fun t hnone hready => ?_⟩
  · exact Action.map_error (Action.bind_error (Action.lift_error (hreports.eq_error he) t) _) f
  · subst hnone
    obtain ⟨a, ha⟩ := hreports.exists_ok
    have hensure := r.ensureReady_traced t
    rw [hoffline] at hensure
    exact Action.map_error ((Action.bind_ok (Action.lift_eq_ok_iff.2 ⟨ha, rfl⟩) _).trans
      (Action.bind_error hensure _)) f
  · subst hnone
    obtain ⟨a, ha⟩ := hreports.exists_ok
    have hensure := r.ensureReady_traced t
    rw [hready] at hensure
    rw [Action.map_apply, Action.bind_ok (Action.lift_eq_ok_iff.2 ⟨ha, rfl⟩),
      Action.bind_ok hensure]
    exact hserves a t ha

/-- An action that makes one call after its checks. -/
theorem guarded_call (hreports : Reports check faults) {makes : Call → Prop} (call : γ → Call)
    (hmakes : ∀ a, check = .ok a → makes (call a)) {action : Action (Traced σ) β}
    {rest : γ → Action (Traced σ) β}
    (haction : action = liftM check >>= fun a => r.traced.ensureReady >>= fun _ => rest a)
    (hrest : ∀ a t, OneCall r.backend (call a) t (rest a t)) (f : β → δ) :
    Guarded r.backend faults (fun t outcome => ∃ call, makes call ∧ OneCall r.backend call t outcome)
      (f <$> action) :=
  guarded_of_reports hreports haction f fun a t ha => ⟨call a, hmakes a ha, (hrest a t).map f⟩

theorem ofHex?_of_keyOf {id : String} {key : ObjectId} (h : keyOf id = .ok key) :
    ObjectId.ofHex? id = some key := by
  rw [keyOf] at h
  split at h
  · next hkey => rw [hkey, Except.ok.inj h]
  · cases h

theorem ofHex?_of_keyOfCursor {cursor : String} {key : ObjectId} (h : keyOfCursor cursor = .ok key) :
    ObjectId.ofHex? cursor = some key := by
  rw [keyOfCursor] at h
  split at h
  · next hkey => rw [hkey, Except.ok.inj h]
  · cases h

/-- Finding the document of a cursor is one call. -/
theorem resolve_traced {key : ObjectId} {owner : Option (String × Value)} {t : Traced σ}
    {found : Except Error (Option Document)} {s : σ}
    (h : r.backend.findOne r.config.collection (keySelector key owner) t.state = (found, s)) :
    resolve r.traced.backend r.traced.config.collection key owner t
      = (found.bind fun d? => match d? with
          | some d => .ok d
          | none => .error (.staleCursor key.toHex),
        ⟨s, t.calls ++ [.findOne r.config.collection (keySelector key owner)]⟩) := by
  have hnoted : r.traced.backend.findOne r.traced.config.collection (keySelector key owner) t
      = (found, ⟨s, t.calls ++ [.findOne r.config.collection (keySelector key owner)]⟩) := by
    change (r.backend.findOne r.config.collection (keySelector key owner)).noted _ t = _
    rw [Action.noted, h]
    rfl
  rw [resolve]
  rcases found with e | d?
  · rw [Action.bind_error hnoted]
    rfl
  · rw [Action.bind_ok hnoted]
    rcases d? with _ | d <;> rfl

variable (r)

/-- Replacing a model makes both of its checks first. -/
theorem update_eq_checks (id : String) (model : α) (scope : Option Value) :
    r.update id model scope
      = liftM (keyOf id >>= fun key => (r.body model scope).map fun body => (key, body)) >>=
          fun pair => r.ensureReady >>= fun _ =>
            r.backend.replaceOne r.config.collection (keySelector pair.1 (r.owner scope)) pair.2 >>=
              fun replaced =>
                (do
                  if replaced = 0 then throw (.documentMissing r.config.collection id)
                  r.codec.loadAs r.config.idField pair.2 pair.1) := by
  rw [update]
  rcases keyOf id with e | key
  · rfl
  · rcases r.body model scope with e | body <;> rfl

theorem guarded_update (id : String) (model : α) (scope : Option Value) :
    Guarded r.backend (Command.faults r (.update id model scope))
      (fun t outcome => ∃ call, Command.Makes r (.update id model scope) call ∧
        OneCall r.backend call t outcome)
      (Response.model <$> r.traced.update id model scope) := by
  have hreports := (reports_keyOf id).bind fun key =>
    (r.reports_body model scope).map fun body => (key, body)
  refine guarded_call hreports
    (fun pair => .replaceOne r.config.collection (keySelector pair.1 (r.owner scope)) pair.2)
    (fun pair hpair => ?_) (r.traced.update_eq_checks id model scope) (fun pair t => ?_) _
  · obtain ⟨key, hkey, hpair⟩ := bind_eq_ok_iff.1 hpair
    obtain ⟨body, hbody, rfl⟩ := map_eq_ok_iff.1 hpair
    exact ⟨key, body, ofHex?_of_keyOf hkey, hbody, rfl⟩
  · refine (oneCall_noted rfl t).bind fun replaced t => ?_
    dsimp only
    split <;> rfl

theorem conjoin_eq_error {selector clause : Document} {e : Error}
    (h : Document.conjoin selector clause = .error e) : ∃ v, e = .conjunction v := by
  rw [Document.conjoin] at h
  split at h
  · cases h
  · cases h
  · exact ⟨_, (Except.error.inj h).symm⟩

/-- The page of a listing under a selector. -/
def searchPage (l : Listing) (selector : Document) : Action σ (Page α) := do
  let documents ← r.backend.find r.config.collection (l.query selector)
  r.pageOf l.limit documents

/-- The page of a listing after the document under a key, among those of an owner. -/
def resumePage (l : Listing) (key : ObjectId) (owner : Option (String × Value)) :
    Action σ (Page α) := do
  let reference ← resolve r.backend r.config.collection key owner
  let selector ← Keyset.continueAfter l.selector l.order reference
  r.searchPage l selector

/-- A listing searches at once, or from the document of its cursor on. -/
theorem readAll_eq_checks (scope : Option Value) (filter : Option Document) (sort : List SortKey)
    (request : Pagination) : r.readAll scope filter sort request
      = liftM (r.listing scope filter sort request) >>= fun l => r.ensureReady >>= fun _ =>
          match l.reference with
          | none => r.searchPage l l.selector
          | some key => r.resumePage l key (r.owner scope) := by
  refine bind_congr fun l => bind_congr fun _ => ?_
  rcases l.reference with _ | key <;> rfl

theorem oneCall_searchPage (l : Listing) (selector : Document) (t : Traced σ) :
    OneCall r.backend (.find r.config.collection (l.query selector)) t
      (r.traced.searchPage l selector t) :=
  (oneCall_noted rfl t).bind fun _ _ => rfl

theorem resumes_resumePage (l : Listing) (key : ObjectId) (owner : Option (String × Value))
    (t : Traced σ) :
    Resumes r.backend r.config.collection key (keySelector key owner) t
      (r.traced.resumePage l key owner t) := by
  rcases hfound : r.backend.findOne r.config.collection (keySelector key owner) t.state with
    ⟨e | _ | d, s⟩
  · rw [resumePage, Action.bind_error (resolve_traced hfound)]
    exact .failed hfound
  · rw [resumePage, Action.bind_error (resolve_traced hfound)]
    exact .stale hfound
  · rw [resumePage, Action.bind_ok (resolve_traced hfound)]
    rcases hnarrow : Keyset.continueAfter l.selector l.order d with e | selector
    · obtain ⟨v, rfl⟩ := conjoin_eq_error hnarrow
      exact .unnarrowed v hfound
    · exact .searched hfound (r.oneCall_searchPage l selector _)

theorem guarded_readAll (scope : Option Value) (filter : Option Document) (sort : List SortKey)
    (request : Pagination) :
    Guarded r.backend (Command.faults r (.readAll scope filter sort request))
      (Command.Serves r (.readAll scope filter sort request))
      (Response.page <$> r.traced.readAll scope filter sort request) := by
  refine guarded_of_reports (r.reports_listing scope filter sort request)
    (r.traced.readAll_eq_checks scope filter sort request) _ fun l t hl => ?_
  have hreference := (listing_eq_ok_iff.1 hl).2.2.2.2
  rcases hcursor : request.cursor with _ | cursor
  · rw [referenceOf, hcursor] at hreference
    rw [← Except.ok.inj hreference, Command.Serves, Command.cursor?, hcursor]
    exact ⟨_, ⟨l, hl, rfl⟩, (r.oneCall_searchPage l l.selector t).map _⟩
  · rw [referenceOf, hcursor] at hreference
    obtain ⟨key, hkey, hreference⟩ := map_eq_ok_iff.1 hreference
    rw [← hreference, Command.Serves, Command.cursor?, hcursor]
    refine ⟨key, ofHex?_of_keyOfCursor hkey, fun hfield => keySelector_eq key ?_,
      (r.resumes_resumePage l key _ t).map _⟩
    intro pair hpair
    obtain ⟨v, -, rfl⟩ := Option.map_eq_some_iff.1 hpair
    exact hfield

end Repository

namespace Command

variable {σ α : Type}

/-- **Every command keeps to the protocol**, over every backend: its faults come first, then the
backend has to be ready, and then come the calls of the command and no others. -/
theorem guarded_perform (r : Repository σ α) (command : Command α) :
    Guarded r.backend (command.faults r) (command.Serves r) (command.perform r.traced) := by
  rcases command with ⟨scope, filter, sort, request⟩ | ⟨id, scope⟩ | ⟨model, scope⟩ |
    ⟨id, model, scope⟩ | ⟨id, scope⟩ | ⟨scope, filter⟩ | ⟨pipeline, scope⟩ | ⟨sort⟩
  case readAll => exact r.guarded_readAll scope filter sort request
  case read =>
    refine Repository.guarded_call (reports_keyOf id)
      (fun key => .findOne r.config.collection (Repository.keySelector key (r.owner scope)))
      (fun key hkey => ⟨key, Repository.ofHex?_of_keyOf hkey, rfl⟩) rfl (fun key t => ?_)
      Response.model
    refine (oneCall_noted rfl t).bind fun found t => ?_
    rcases found with _ | d <;> rfl
  case create =>
    exact Repository.guarded_call (r.reports_body model scope)
      (fun body => .insertOne r.config.collection body)
      (fun body hbody => ⟨body, hbody, rfl⟩) rfl
      (fun body t => (oneCall_noted rfl t).bind fun _ _ => rfl) Response.model
  case update => exact r.guarded_update id model scope
  case delete =>
    refine Repository.guarded_call (reports_keyOf id)
      (fun key => .deleteOne r.config.collection (Repository.keySelector key (r.owner scope)))
      (fun key hkey => ⟨key, Repository.ofHex?_of_keyOf hkey, rfl⟩) rfl (fun key t => ?_)
      fun _ => Response.done
    refine (oneCall_noted rfl t).bind fun deleted t => ?_
    split <;> rfl
  case count =>
    exact Repository.guarded_call (r.reports_selector scope filter)
      (fun selector => .count r.config.collection selector)
      (fun selector hselector => ⟨selector, hselector, rfl⟩) rfl
      (fun selector t => oneCall_noted rfl t) Response.number
  case aggregate =>
    have haction : r.traced.aggregate pipeline scope
        = liftM (.ok () : Except Error Unit) >>= fun _ => r.traced.ensureReady >>= fun _ =>
            r.traced.backend.aggregate r.config.collection
              (Repository.scopedPipeline (r.owner scope) pipeline) := rfl
    refine Repository.guarded_call (.ok ()) (fun _ => _) (fun _ _ => ?_) haction
      (fun _ t => oneCall_noted rfl t) Response.documents
    rfl
  case ensureSortIndex =>
    have haction : r.traced.ensureSortIndex sort
        = liftM (.ok () : Except Error Unit) >>= fun _ => r.traced.ensureReady >>= fun _ =>
            r.traced.backend.createIndex r.config.collection
              (SortOrder.compile sort r.config.idField).toDocument false := rfl
    refine Repository.guarded_call (.ok ()) (fun _ => _) (fun _ _ => ?_) haction
      (fun _ t => oneCall_noted rfl t) fun _ => Response.done
    rfl

end Command

namespace Shelf

/-- A repository whose owners are the keys of the products. -/
def keyOwned : Repository Memory Value :=
  ⟨{ collection := "products", scopeField := "_id" }, Memory.backend .ofNat, Codec.value⟩

/-- What is listed: all that comes after the first product. -/
def rest : Listing :=
  ⟨20, [("_id", .objectId (.ofNat 2))], .compile [] "id", some (.ofNat 1)⟩

theorem listing_rest : keyOwned.traced.listing (some (.objectId (.ofNat 2))) none []
    { cursor := some (ObjectId.ofNat 1).toHex } = .ok rest :=
  Repository.listing_eq_ok_iff.2
    ⟨rfl, by decide, rfl, rfl, Repository.referenceOf_toHex none (.ofNat 1)⟩

/-- The search for what comes after the second product. -/
def searched : Query :=
  rest.query [("_id", .objectId (.ofNat 2)), ("$and", .array [.document
    [("$or", .array [.document [("_id", .document [("$gt", .objectId (.ofNat 2))])]])]])]

theorem find_searched : memory.store.find "products" searched = .ok [] :=
  congrArg (fun found => (Except.ok (Store.limited (some 21) found) : Except Error (List Document)))
    List.mergeSort_nil

/-- **The key is not asked for where the owner is written over it.**  The setup is usable, the cursor
names the first product, and the call is for the second, so the page is empty where the cursor should
be no longer valid. -/
theorem resumed_elsewhere : keyOwned.config.validate = .ok () ∧
    keyOwned.traced.readAll (some (.objectId (.ofNat 2))) none []
        { cursor := some (ObjectId.ofNat 1).toHex } ⟨memory, []⟩
      = (.ok Page.empty, ⟨memory, [.findOne "products" [("_id", .objectId (.ofNat 2))],
          .find "products" searched]⟩) := by
  refine ⟨rfl, ?_⟩
  have hresolve : Repository.resolve keyOwned.traced.backend "products" (.ofNat 1)
      (some ("_id", .objectId (.ofNat 2))) ⟨memory, []⟩
        = (.ok documents[1], ⟨memory, [.findOne "products" [("_id", .objectId (.ofNat 2))]]⟩) := rfl
  have hfind (calls : List Call) :
      keyOwned.traced.backend.find "products" searched ⟨memory, calls⟩
        = (.ok [], ⟨memory, calls ++ [.find "products" searched]⟩) :=
    Prod.ext find_searched rfl
  rw [Repository.readAll_eq_checks, Action.bind_ok (Action.lift_eq_ok_iff.2 ⟨listing_rest, rfl⟩),
    Action.bind_ok (keyOwned.ensureReady_traced ⟨memory, []⟩)]
  refine (Action.bind_ok hresolve _).trans ?_
  refine (Action.bind_ok (hfind _) _).trans ?_
  rfl

end Shelf

end KeysetStore
