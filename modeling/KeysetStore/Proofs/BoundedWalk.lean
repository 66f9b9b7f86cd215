import Mathlib.Data.List.Perm.Subperm
import KeysetStore.Proofs.AnsweredPage
import KeysetStore.Proofs.KeysetSoundness

/-!
# Proofs/BoundedWalk — a walk over any values ends and repeats nothing

A walk needs no rule on the kinds of values to come to an end.  Each page shows what comes after the
document named by its cursor, because a keyset lets nothing else through, so the pages of a walk keep
rising; and a page with a successor shows something.  Hence a walk never shows a document twice, and
has at most one page more than there are documents to show (`Repository.walk_ascends`).

What it needs are values that can be placed: no NaN, no arrays under the keys, and going down no
undefined value (`Walkable`).  With one a walk stands still on the document that holds it
(`Shelf.stands_still`).
-/

namespace KeysetStore

/-- **Documents of any kinds that a walk can go through**: the fields of the keys are paths, and under
them stand no NaN, no array, and, going down, no undefined value. -/
structure Walkable (keys : List SortKey) (documents : List Document) : Prop where
  path : ∀ key ∈ keys, isOperator key.field = false
  placed : ∀ d ∈ documents, d.placedAt keys
  plain : ∀ key ∈ keys, ∀ d ∈ documents, ∀ items, d.lookup? key.field ≠ some (.array items)
  defined : ∀ key ∈ keys, key.direction = .descending → ∀ d ∈ documents,
    d.lookup? key.field ≠ some .undefined

theorem Walkable.placeable {keys : List SortKey} {documents : List Document}
    (h : Walkable keys documents) {reference d : Document} (hreference : reference ∈ documents)
    (hd : d ∈ documents) {key : SortKey} (hkey : key ∈ keys) :
    Keyset.Placeable reference d key := by
  refine ⟨h.path key hkey, h.plain key hkey d hd, fun hdirection hvalue => ?_⟩
  have hdefined := h.defined key hkey hdirection reference hreference
  rw [Keyset.referenceValue] at hvalue
  cases hlookup : reference.lookup? key.field with
  | none => rw [hlookup] at hvalue; cases hvalue
  | some v =>
    rw [hlookup] at hvalue
    exact hdefined (hlookup.trans (congrArg some hvalue))

/-- **A keyset over any values can be evaluated**, and what it lets through comes after. -/
theorem isAfter_of_walkable {spec : List SortKey} {idField : String} {documents : List Document}
    (hkeyed : Keyed documents) (h : Walkable (SortOrder.compile spec idField).keys documents)
    {reference d : Document} (hreference : reference ∈ documents) (hd : d ∈ documents) :
    ∃ b, d.meets (Keyset.after (.compile spec idField) reference) = .ok b ∧
      (b = true →
        Document.isAfter (SortOrder.compile spec idField).keys reference d = true) := by
  obtain ⟨others, direction, hkeys, -⟩ := SortOrder.exists_compile_eq spec idField
  obtain ⟨id, hid⟩ := hkeyed.key reference hreference
  exact Keyset.exists_meets_after ⟨⟨primaryKey, direction⟩, by simp [hkeys], rfl⟩ hid
    fun key hkey => h.placeable hreference hd hkey

theorem exists_meets_of_walkable {spec : List SortKey} {idField : String}
    {documents : List Document} (hkeyed : Keyed documents)
    (h : Walkable (SortOrder.compile spec idField).keys documents) :
    ∀ reference ∈ documents, ∀ d ∈ documents,
      ∃ b, d.meets (Keyset.after (.compile spec idField) reference) = .ok b := by
  intro reference href d hd
  obtain ⟨b, hb, -⟩ := isAfter_of_walkable hkeyed h href hd
  exact ⟨b, hb⟩

/-! ## The pages of a walk -/

namespace Repository

variable {α : Type}

/-- **The pages that a walk reads** from a memory that stays as it is, with their requests. -/
def visits (r : Repository Memory α) (scope : Option Value) (filter : Option Document)
    (sort : List SortKey) (m : Memory) : (pages : Nat) → Pagination → List (Visit α)
  | 0, _ => []
  | pages + 1, request =>
    match (r.readAll scope filter sort request m).1 with
    | .error _ => []
    | .ok page =>
      ⟨request, m, page⟩ ::
        match request.after page with
        | none => []
        | some next => visits r scope filter sort m pages next

/-- The documents that a listing is about; a filter that is refused is about none. -/
def matching (r : Repository Memory α) (s : Store) (scope : Option Value)
    (filter : Option Document) : List Document :=
  match r.selector scope filter with
  | .ok selector => (s.documents r.config.collection).filter (Document.fits selector)
  | .error _ => []

variable {r : Repository Memory α} {supply : Nat → ObjectId} {scope : Option Value}
  {filter : Option Document} {sort : List SortKey} {request : Pagination} {m : Memory} {pages : Nat}

/-- **One step of a walk**: it fails, or reads its last page, or reads a page and goes on. -/
theorem walk_step (hr : r.backend = Memory.backend supply) (pages : Nat) (request : Pagination) :
    (∃ e, r.visits scope filter sort m (pages + 1) request = [] ∧
      r.walk scope filter sort (pages + 1) request m = ([.error e], m)) ∨
    ∃ page, r.page m.store scope filter sort request = .ok page ∧
      ((request.after page = none ∧
        r.visits scope filter sort m (pages + 1) request = [⟨request, m, page⟩] ∧
        r.walk scope filter sort (pages + 1) request m = ([.ok page], m)) ∨
      ∃ next, request.after page = some next ∧
        r.visits scope filter sort m (pages + 1) request
          = ⟨request, m, page⟩ :: r.visits scope filter sort m pages next ∧
        r.walk scope filter sort (pages + 1) request m
          = (.ok page :: (r.walk scope filter sort pages next m).1,
              (r.walk scope filter sort pages next m).2)) := by
  have hread := reads_readAll hr scope filter sort request m
  cases hpage : r.page m.store scope filter sort request with
  | error e =>
    have hfails : r.readAll scope filter sort request m = (.error e, m) :=
      hread.trans (congrArg (·, m) hpage)
    have hrun : (r.readAll scope filter sort request).run m = (.error e, m) := hfails
    refine .inl ⟨e, by rw [visits, hfails], ?_⟩
    rw [walk]
    simp only [bind, StateT.bind, hrun]
    rfl
  | ok page =>
    have hreads : r.readAll scope filter sort request m = (.ok page, m) :=
      hread.trans (congrArg (·, m) hpage)
    refine .inr ⟨page, rfl, ?_⟩
    cases hafter : request.after page with
    | none => exact .inl ⟨rfl, by simp [visits, hreads, hafter], walk_last hreads hafter pages⟩
    | some next =>
      exact .inr ⟨next, rfl, by simp [visits, hreads, hafter], walk_next hreads hafter pages⟩

/-- A visit of a walk is a page read from the memory. -/
theorem mem_visits (hr : r.backend = Memory.backend supply) {v : Visit α}
    (hv : v ∈ r.visits scope filter sort m pages request) :
    ∃ request' page, v = ⟨request', m, page⟩ ∧
      r.page m.store scope filter sort request' = .ok page := by
  induction pages generalizing request with
  | zero => cases hv
  | succ pages ih =>
    rcases walk_step (m := m) hr pages request with
      ⟨e, hvisits, -⟩ | ⟨page, hpage, ⟨-, hvisits, -⟩ | ⟨next, -, hvisits, -⟩⟩
    · rw [hvisits] at hv
      cases hv
    · rw [hvisits] at hv
      obtain rfl := List.mem_singleton.1 hv
      exact ⟨request, page, rfl, hpage⟩
    · rw [hvisits] at hv
      rcases List.mem_cons.1 hv with rfl | hv
      · exact ⟨request, page, rfl, hpage⟩
      · exact ih hv

/-- The first visit of a walk is that of its request. -/
theorem head?_visits (hr : r.backend = Memory.backend supply) :
    ∀ v ∈ (r.visits scope filter sort m pages request).head?, v.request = request := by
  cases pages with
  | zero => simp [visits]
  | succ pages =>
    rcases walk_step (m := m) hr pages request with
      ⟨e, hvisits, -⟩ | ⟨page, -, ⟨-, hvisits, -⟩ | ⟨next, -, hvisits, -⟩⟩
    · rw [hvisits]
      simp
    · rw [hvisits]
      rintro v ⟨⟩
      rfl
    · rw [hvisits]
      rintro v ⟨⟩
      rfl

/-- **Each page of a walk is asked for with the cursor of the page before.** -/
theorem linked_visits (hr : r.backend = Memory.backend supply) :
    Linked (fun v w => v.request.after v.page = some w.request)
      (r.visits scope filter sort m pages request) := by
  induction pages generalizing request with
  | zero => trivial
  | succ pages ih =>
    rcases walk_step (m := m) hr pages request with
      ⟨e, hvisits, -⟩ | ⟨page, -, ⟨-, hvisits, -⟩ | ⟨next, hafter, hvisits, -⟩⟩
    · rw [hvisits]
      trivial
    · rw [hvisits]
      trivial
    · rw [hvisits]
      exact ih.cons fun w hw => hafter.trans (congrArg some (head?_visits hr w hw).symm)

/-- **The pages of a walk are those of its visits**, where the first can be read and each page with a
successor is followed by one. -/
theorem walk_eq_map_visits (hr : r.backend = Memory.backend supply)
    (hnext : ∀ request page next, r.page m.store scope filter sort request = .ok page →
      request.after page = some next → ∃ page', r.page m.store scope filter sort next = .ok page')
    (hfirst : ∃ page, r.page m.store scope filter sort request = .ok page) :
    (r.walk scope filter sort pages request m).1
      = (r.visits scope filter sort m pages request).map fun v => .ok v.page := by
  induction pages generalizing request with
  | zero => rfl
  | succ pages ih =>
    obtain ⟨page, hpage⟩ := hfirst
    have hread : r.readAll scope filter sort request m = (.ok page, m) :=
      (reads_readAll hr scope filter sort request m).trans (congrArg (·, m) hpage)
    cases hafter : request.after page with
    | none => rw [walk_last hread hafter, visits]; simp [hread, hafter]
    | some next =>
      rw [walk_next hread hafter, visits]
      simp [hread, hafter, ih (hnext request page next hpage hafter)]

/-- **Where each page with a successor shows something**, a walk has at most one page more than it
shows documents. -/
theorem length_walk_le (hr : r.backend = Memory.backend supply)
    (hshows : ∀ v ∈ r.visits scope filter sort m pages request,
      v.request.after v.page ≠ none → 0 < (r.shown scope filter sort v).length) :
    (r.walk scope filter sort pages request m).1.length
      ≤ ((r.visits scope filter sort m pages request).flatMap (r.shown scope filter sort)).length
        + 1 := by
  induction pages generalizing request with
  | zero => exact Nat.zero_le _
  | succ pages ih =>
    rcases walk_step (m := m) hr pages request with
      ⟨e, hvisits, hwalk⟩ | ⟨page, -, ⟨-, hvisits, hwalk⟩ | ⟨next, hafter, hvisits, hwalk⟩⟩
    · rw [hwalk]
      exact Nat.le_add_left ..
    · rw [hwalk]
      exact Nat.le_add_left ..
    · rw [hvisits] at hshows ⊢
      have hfirst := hshows _ List.mem_cons_self (by simp [hafter])
      have hrest := ih fun v hv => hshows v (List.mem_cons_of_mem _ hv)
      rw [hwalk, List.flatMap_cons, List.length_append, List.length_cons]
      omega

/-! ## Pages over any values -/

section Pages

variable {page : Page α} {l : Listing} {base : Document} {start : Option Document}

section Placed

variable (hkeyed : Keyed (m.store.documents r.config.collection))
  (hwalkable : Walkable (SortOrder.compile sort r.config.idField).keys
    (m.store.documents r.config.collection))
include hkeyed hwalkable

/-- A page over values that can be placed answers its request. -/
theorem exists_answers_of_walkable (hfield : r.config.scopeField ≠ primaryKey)
    (h : r.page m.store scope filter sort request = .ok page) :
    ∃ l base start, r.Answers m.store scope filter sort request page l base start :=
  exists_answers hfield hkeyed (exists_meets_of_walkable hkeyed hwalkable) h

/-- What is left rises. -/
theorem Answers.pairwise_remaining
    (h : r.Answers m.store scope filter sort request page l base start) :
    (l.remaining base start (m.store.documents r.config.collection)).Pairwise
      fun a b => compareBy (SortOrder.compile sort r.config.idField).keys a b = .lt := by
  have horderly : Orderly (SortOrder.compile sort r.config.idField).keys
      (m.store.documents r.config.collection) := .of_keyed hkeyed hwalkable.placed
  rw [Listing.remaining, h.order]
  exact (horderly.filter _).pairwise_sortBy

/-- **A page ascends**: it shows documents that come after the one its cursor names, in order. -/
theorem Answers.ascends (h : r.Answers m.store scope filter sort request page l base start) :
    (r.stretch scope filter sort ⟨request, m, page⟩).Ascends
      (SortOrder.compile sort r.config.idField).keys := by
  have hnamed : (r.stretch scope filter sort ⟨request, m, page⟩).start = start :=
    h.named_eq_start hkeyed
  have hmem : ∀ d ∈ r.shown scope filter sort ⟨request, m, page⟩,
      d ∈ l.remaining base start (m.store.documents r.config.collection) := fun d hd => by
    rw [h.shown_eq] at hd
    exact List.mem_of_mem_take hd
  refine ⟨?_, fun d hd => ?_, ?_⟩
  · rintro d (hd | hd)
    · rw [hnamed] at hd
      exact hwalkable.placed d (h.stored d hd).1
    · exact hwalkable.placed d (Listing.mem_remaining.1 (hmem d hd)).1
  · rw [Stretch.reaches, hnamed, Option.all_eq_true]
    intro reference href
    obtain ⟨hstored, -, hafter⟩ := Listing.mem_remaining.1 (hmem d hd)
    obtain ⟨b, hb, hsound⟩ := isAfter_of_walkable hkeyed hwalkable (h.stored reference href).1 hstored
    have hfits := hafter reference href
    rw [h.order, Document.fits_of_meets hb] at hfits
    exact hsound hfits
  · change (r.shown scope filter sort ⟨request, m, page⟩).Pairwise _
    rw [h.shown_eq]
    exact (h.pairwise_remaining hkeyed hwalkable).sublist (List.take_sublist ..)

end Placed

/-- **A page starts where the page before has stopped.** -/
theorem Answers.follows {request' : Pagination} {page' : Page α} {l' : Listing} {base' : Document}
    {start' : Option Document}
    (h : r.Answers m.store scope filter sort request page l base start)
    (h' : r.Answers m.store scope filter sort request' page' l' base' start')
    (hkeyed : Keyed (m.store.documents r.config.collection))
    (hafter : request.after page = some request') :
    (r.stretch scope filter sort ⟨request, m, page⟩).Follows
      (r.stretch scope filter sort ⟨request', m, page'⟩) := by
  obtain ⟨items, -, hpage⟩ := h.page
  rw [hpage] at hafter
  obtain ⟨-, last, key, hlast, hkey, hrequest⟩ := Listing.exists_last_of_after hafter
  obtain ⟨-, -, -, -, hreference⟩ := listing_eq_ok_iff.1 h'.listing
  rw [hrequest, referenceOf_toHex, h'.reference] at hreference
  obtain ⟨reference, href, hsame⟩ := Option.bind_eq_some_iff.1 (Except.ok.inj hreference).symm
  have hmem := (Listing.mem_remaining.1 (List.mem_of_mem_take (List.mem_of_getLast? hlast))).1
  obtain rfl := hkeyed.eq_of_key? (h'.stored reference href).1 hmem (hsame.trans hkey.symm)
  refine ⟨reference, ?_, (h'.named_eq_start hkeyed).trans href⟩
  change (r.shown scope filter sort ⟨request, m, page⟩).getLast? = _
  rw [h.shown_eq, hlast]

/-- A page with a successor shows something. -/
theorem Answers.shown_pos (h : r.Answers m.store scope filter sort request page l base start)
    (hafter : request.after page ≠ none) :
    0 < (r.shown scope filter sort ⟨request, m, page⟩).length := by
  obtain ⟨next, hnext⟩ := Option.ne_none_iff_exists'.1 hafter
  obtain ⟨items, -, hpage⟩ := h.page
  rw [hpage] at hnext
  obtain ⟨-, last, key, hlast, -, -⟩ := Listing.exists_last_of_after hnext
  rw [h.shown_eq]
  exact List.length_pos_of_mem (List.mem_of_getLast? hlast)

/-- **From the first page on, every page shows documents that the listing is about.** -/
theorem Answers.matching_of_mem_shown {page₀ : Page α} {l₀ : Listing} {base₀ : Document}
    {start₀ : Option Document} {limit : Option Nat}
    (h₀ : r.Answers m.store scope filter sort { limit } page₀ l₀ base₀ start₀)
    (h : r.Answers m.store scope filter sort request page l base start) {d : Document}
    (hd : d ∈ r.shown scope filter sort ⟨request, m, page⟩) :
    d ∈ r.matching m.store scope filter := by
  obtain ⟨-, -, hselector₀, -, hreference₀⟩ := listing_eq_ok_iff.1 h₀.listing
  obtain ⟨-, -, hselector, -, -⟩ := listing_eq_ok_iff.1 h.listing
  rw [h.shown_eq] at hd
  obtain ⟨hstored, hfits, -⟩ := Listing.mem_remaining.1 (List.mem_of_mem_take hd)
  rw [matching, hselector, List.mem_filter]
  refine ⟨hstored, ?_⟩
  rcases h.based with rfl | hidle
  · exact hfits
  · -- The first page has evaluated the selector itself, so an empty conjunct changes nothing.
    obtain ⟨b, hb⟩ := h₀.evaluates d hstored
    rw [h₀.first (Except.ok.inj hreference₀).symm,
      Except.ok.inj (hselector₀.symm.trans hselector)] at hb
    rw [Document.fits_of_meets hb]
    rwa [Document.fits_of_meets (Document.meets_idle hb hidle)] at hfits

end Pages

/-! ## What a walk shows -/

section Visits

variable (hr : r.backend = Memory.backend supply) (hfield : r.config.scopeField ≠ primaryKey)
  (hkeyed : Keyed (m.store.documents r.config.collection))
  (hwalkable : Walkable (SortOrder.compile sort r.config.idField).keys
    (m.store.documents r.config.collection))
include hr hfield hkeyed hwalkable

/-- Every page of a walk answers its request. -/
theorem exists_answers_of_mem_visits {v : Visit α}
    (hv : v ∈ r.visits scope filter sort m pages request) :
    ∃ request' page, v = ⟨request', m, page⟩ ∧
      ∃ l base start, r.Answers m.store scope filter sort request' page l base start := by
  obtain ⟨request', page, rfl, hpage⟩ := mem_visits hr hv
  exact ⟨request', page, rfl, exists_answers_of_walkable hkeyed hwalkable hfield hpage⟩

theorem ascends_of_mem_visits {v : Visit α}
    (hv : v ∈ r.visits scope filter sort m pages request) :
    (r.stretch scope filter sort v).Ascends (SortOrder.compile sort r.config.idField).keys := by
  obtain ⟨request', page, rfl, l, base, start, h⟩ :=
    exists_answers_of_mem_visits hr hfield hkeyed hwalkable hv
  exact h.ascends hkeyed hwalkable

/-- **No page of a walk shows a document of another.** -/
theorem nodup_shown :
    ((r.visits scope filter sort m pages request).flatMap (r.shown scope filter sort)).Nodup := by
  have hchain : Linked Stretch.Follows
      ((r.visits scope filter sort m pages request).map (r.stretch scope filter sort)) := by
    refine (linked_visits hr).map (linked_visits hr) fun v hv w hw hafter _ => ?_
    obtain ⟨request, page, rfl, l, base, start, h⟩ :=
      exists_answers_of_mem_visits hr hfield hkeyed hwalkable hv
    obtain ⟨request', page', rfl, l', base', start', h'⟩ :=
      exists_answers_of_mem_visits hr hfield hkeyed hwalkable hw
    exact h.follows h' hkeyed hafter
  have hrising := (Stretch.rising_of_ascends (List.forall_mem_map.2 fun v hv =>
    ascends_of_mem_visits hr hfield hkeyed hwalkable hv) hchain).1
  rw [List.flatMap_map] at hrising
  refine hrising.imp fun hlt heq => ?_
  rw [heq, compareBy_self] at hlt
  cases hlt

/-- A walk shows documents that the listing is about. -/
theorem shown_subset_matching (limit : Option Nat) :
    (r.visits scope filter sort m pages { limit }).flatMap (r.shown scope filter sort)
      ⊆ r.matching m.store scope filter := by
  intro d hd
  obtain ⟨v, hv, hd⟩ := List.mem_flatMap.1 hd
  obtain ⟨first, hfirst⟩ := Option.ne_none_iff_exists'.1
    (mt List.head?_eq_none_iff.1 (List.ne_nil_of_mem hv))
  obtain ⟨request₀, page₀, rfl, l₀, base₀, start₀, h₀⟩ :=
    exists_answers_of_mem_visits hr hfield hkeyed hwalkable (List.mem_of_head? hfirst)
  obtain rfl : request₀ = { limit } := head?_visits hr _ hfirst
  obtain ⟨request, page, rfl, l, base, start, h⟩ :=
    exists_answers_of_mem_visits hr hfield hkeyed hwalkable hv
  exact h₀.matching_of_mem_shown h hd

/-- **Only the first page of a walk can be refused**, where the documents can be read. -/
theorem walk_eq_or_refused {model : Document → α}
    (hload : ∀ d ∈ m.store.documents r.config.collection,
      r.codec.load r.config.idField d = .ok (model d)) :
    (∃ e, r.readAll scope filter sort request m = (.error e, m)) ∨
      (r.walk scope filter sort pages request m).1
        = (r.visits scope filter sort m pages request).map fun v => .ok v.page := by
  cases hpage : r.page m.store scope filter sort request with
  | error e =>
    exact .inl ⟨e, (reads_readAll hr scope filter sort request m).trans (congrArg (·, m) hpage)⟩
  | ok page =>
    refine .inr (walk_eq_map_visits hr (fun request page next hpage hafter => ?_) ⟨page, hpage⟩)
    obtain ⟨l, base, start, h⟩ := exists_answers_of_walkable hkeyed hwalkable hfield hpage
    obtain ⟨page', idle, last, -, -, -, h'⟩ :=
      h.exists_next hfield hkeyed (exists_meets_of_walkable hkeyed hwalkable) hload hafter
    exact ⟨page', h'.reads hkeyed⟩

end Visits

variable (scope filter) in
/-- **A walk over any values ends and repeats nothing.**  From the first page on, whatever kinds of
values stand under the keys: only the first page can be refused, every page shows documents that come
after the one named by its cursor, no document is shown twice, and the walk has at most one page more
than there are documents that the listing is about. -/
theorem walk_ascends {config : Config} {codec : Codec α} {model : Document → α}
    (hr : ofConfig (Memory.backend supply) config codec = .ok r)
    (hfield : r.config.scopeField ≠ primaryKey)
    (hkeyed : Keyed (m.store.documents r.config.collection))
    (hwalkable : Walkable (SortOrder.compile sort r.config.idField).keys
      (m.store.documents r.config.collection))
    (hload : ∀ d ∈ m.store.documents r.config.collection,
      r.codec.load r.config.idField d = .ok (model d)) (limit : Option Nat) (bound : Nat) :
    ((∃ e, r.readAll scope filter sort { limit } m = (.error e, m)) ∨
      (r.walk scope filter sort bound { limit } m).1
        = (r.visits scope filter sort m bound { limit }).map fun v => .ok v.page) ∧
    (∀ v ∈ r.visits scope filter sort m bound { limit },
      r.loadAll (r.shown scope filter sort v) = .ok v.page.items ∧
      (v.request.cursor.isSome →
        (named v.request (m.store.documents r.config.collection)).isSome) ∧
      ∀ reference ∈ named v.request (m.store.documents r.config.collection),
        ∀ d ∈ r.shown scope filter sort v,
          Document.isAfter (SortOrder.compile sort r.config.idField).keys reference d = true) ∧
    ((r.visits scope filter sort m bound { limit }).flatMap
      (r.shown scope filter sort)).Nodup ∧
    (r.walk scope filter sort bound { limit } m).1.length
      ≤ (r.matching m.store scope filter).length + 1 := by
  obtain ⟨-, hbackend⟩ := of_ofConfig hr
  have hnodup : ((r.visits scope filter sort m bound { limit }).flatMap
      (r.shown scope filter sort)).Nodup := nodup_shown hbackend hfield hkeyed hwalkable
  refine ⟨walk_eq_or_refused hbackend hfield hkeyed hwalkable hload, fun v hv => ?_, hnodup, ?_⟩
  · obtain ⟨request, page, rfl, l, base, start, h⟩ :=
      exists_answers_of_mem_visits hbackend hfield hkeyed hwalkable hv
    obtain ⟨items, hitems, rfl⟩ := h.page
    refine ⟨h.shown_eq ▸ hitems, fun hcursor => ?_, fun reference href d hd => ?_⟩
    · exact h.named_eq_start hkeyed ▸ h.isSome_start hcursor
    · have hreach := (h.ascends hkeyed hwalkable).after d hd
      rw [Stretch.reaches, Option.all_eq_true] at hreach
      exact hreach reference href
  · have hsubset : (r.visits scope filter sort m bound { limit }).flatMap
        (r.shown scope filter sort) ⊆ r.matching m.store scope filter :=
      shown_subset_matching hbackend hfield hkeyed hwalkable limit
    refine Nat.le_trans (length_walk_le hbackend fun v hv hafter => ?_)
      (Nat.succ_le_succ (List.subperm_of_subset hnodup hsubset).length_le)
    obtain ⟨request, page, rfl, l, base, start, h⟩ :=
      exists_answers_of_mem_visits hbackend hfield hkeyed hwalkable hv
    exact h.shown_pos hafter

end Repository

/-! ## Shelves with values of all kinds -/

namespace Shelf

/-- Prices of many kinds: undefined, a text, a number, and none. -/
def assorted : List Document :=
  [[("_id", .objectId (.ofNat 1)), ("price", .undefined)],
    [("_id", .objectId (.ofNat 2)), ("price", .string "five")],
    [("_id", .objectId (.ofNat 3)), ("price", .int32 5)],
    [("_id", .objectId (.ofNat 4))]]

/-- The shelf as a collection. -/
def assortment : Memory := { store := { collections := [("products", assorted)] } }

theorem mem_assorted {d : Document} : d ∈ assorted ↔
    d = assorted[0] ∨ d = assorted[1] ∨ d = assorted[2] ∨ d = assorted[3] := by
  simp [assorted]

theorem keyed_assorted : Keyed assorted := by
  have hkeys : ∀ d ∈ assorted, d.key?.isSome := by decide
  exact ⟨fun d hd => Option.isSome_iff_exists.1 (hkeys d hd), by decide⟩

theorem walkable_assorted :
    Walkable (SortOrder.compile [.ascending "price"] "id").keys assorted where
  path := by decide
  placed := by decide
  plain key hkey d hd := by
    rcases List.mem_cons.1 hkey with rfl | hkey
    · rcases mem_assorted.1 hd with rfl | rfl | rfl | rfl <;> intro items hitems <;> cases hitems
    · obtain rfl := List.mem_singleton.1 hkey
      rcases mem_assorted.1 hd with rfl | rfl | rfl | rfl <;> intro items hitems <;> cases hitems
  defined key hkey hdirection := by
    rcases List.mem_cons.1 hkey with rfl | hkey
    · cases hdirection
    · obtain rfl := List.mem_singleton.1 hkey
      cases hdirection

theorem load_assorted : ∀ d ∈ assorted,
    products.codec.load products.config.idField d = .ok (model d) := by
  intro d hd
  rcases mem_assorted.1 hd with rfl | rfl | rfl | rfl <;> rfl

/-- The products, three a page, cheapest first. -/
def cheapest : Listing := ⟨3, [], .compile [.ascending "price"] "id", none⟩

theorem sorted_assorted : sortBy cheapest.order.keys assorted
    = [assorted[0], assorted[3], assorted[2], assorted[1]] := by
  refine (Orderly.eq_sortBy (.of_keyed keyed_assorted walkable_assorted.placed) ?_ ?_).symm
  · exact (List.reverse_perm [assorted[1], assorted[2], assorted[3]]).cons _
  · decide

theorem listing_cheapest : products.listing none none [.ascending "price"] { limit := some 3 }
    = .ok cheapest := rfl

theorem read_assorted : products.readAll none none [.ascending "price"] { limit := some 3 } assortment
    = (.ok ⟨[model assorted[0], model assorted[3], model assorted[2]], true,
        some (ObjectId.ofNat 3).toHex⟩, assortment) := by
  have hmeets : ∀ d ∈ assortment.store.documents products.config.collection,
      d.meets [] = .ok true := fun _ _ => rfl
  rw [Repository.readAll_of_narrowed rfl rfl listing_cheapest rfl hmeets, List.filter_true]
  exact congrArg (fun found => (products.pageOf 3 (found.take 4), assortment)) sorted_assorted

/-- Whatever the kinds, the walk over them ends in time and shows nothing twice. -/
theorem walk_assorted :
    (products.walk none none [.ascending "price"] 9 { limit := some 3 } assortment).1
        = (products.visits none none [.ascending "price"] assortment 9 { limit := some 3 }).map
            (fun v => .ok v.page) ∧
    ((products.visits none none [.ascending "price"] assortment 9 { limit := some 3 }).flatMap
      (products.shown none none [.ascending "price"])).Nodup ∧
    (products.walk none none [.ascending "price"] 9 { limit := some 3 } assortment).1.length
      ≤ 5 := by
  have hr : Repository.ofConfig (Memory.backend .ofNat) products.config Codec.value
      = .ok products := rfl
  obtain ⟨hwalk, -, hnodup, hlength⟩ := Repository.walk_ascends (m := assortment) none none hr
    (by decide) keyed_assorted walkable_assorted load_assorted (some 3) 9
  refine ⟨hwalk.resolve_left ?_, hnodup, hlength⟩
  rintro ⟨e, he⟩
  rw [read_assorted] at he
  cases he

/-- Two products with the undefined value for a price. -/
def unpriced : List Document :=
  [[("_id", .objectId (.ofNat 1)), ("price", .undefined)],
    [("_id", .objectId (.ofNat 2)), ("price", .undefined)]]

/-- The two products as a collection. -/
def standing : Memory := { store := { collections := [("products", unpriced)] } }

/-- The two products, one a page, dearest first. -/
def dearest : Listing := ⟨1, [], .compile [.descending "price"] "id", none⟩

/-- The page of the first of the two products. -/
def firstUnpriced : Page Value := ⟨[model unpriced[0]], true, some (ObjectId.ofNat 1).toHex⟩

theorem sorted_unpriced : sortBy dearest.order.keys unpriced = unpriced :=
  (Orderly.eq_sortBy ⟨by decide, by decide⟩ (.refl _) (by decide)).symm

/-- The keyset of the first product lets both through, itself included. -/
theorem meets_unpriced : ∃ narrowed, Document.conjoin [] (Keyset.after dearest.order unpriced[0])
    = .ok narrowed ∧ ∀ d ∈ unpriced, d.meets narrowed = .ok true := by
  refine ⟨_, rfl, fun d hd => ?_⟩
  rcases List.mem_cons.1 hd with rfl | hd
  · rfl
  · obtain rfl := List.mem_singleton.1 hd
    rfl

theorem listing_dearest : products.listing none none [.descending "price"] { limit := some 1 }
    = .ok dearest := rfl

theorem read_unpriced : products.readAll none none [.descending "price"] { limit := some 1 } standing
    = (.ok firstUnpriced, standing) := by
  have hmeets : ∀ d ∈ standing.store.documents products.config.collection,
      d.meets [] = .ok true := fun _ _ => rfl
  rw [Repository.readAll_of_narrowed rfl rfl listing_dearest rfl hmeets, List.filter_true]
  exact congrArg (fun found => (products.pageOf 1 (found.take 2), standing)) sorted_unpriced

theorem reread_unpriced : products.readAll none none [.descending "price"]
    { limit := some 1, cursor := some (ObjectId.ofNat 1).toHex } standing
      = (.ok firstUnpriced, standing) := by
  obtain ⟨narrowed, hconjoin, hmeets⟩ := meets_unpriced
  have hnarrowed : products.narrowed standing.store none
      { dearest with reference := some (.ofNat 1) } = .ok narrowed :=
    bind_eq_ok_iff.2 ⟨unpriced[0], rfl, hconjoin⟩
  rw [Repository.readAll_of_narrowed rfl rfl (Repository.listing_after listing_dearest (.ofNat 1))
    hnarrowed hmeets, List.filter_true]
  exact congrArg (fun found => (products.pageOf 1 (found.take 2), standing)) sorted_unpriced

theorem walk_unpriced (pages : Nat) {request : Pagination}
    (hrequest : products.readAll none none [.descending "price"] request standing
      = (.ok firstUnpriced, standing)) (hlimit : request.limit = some 1) :
    products.walk none none [.descending "price"] pages request standing
      = (List.replicate pages (.ok firstUnpriced), standing) := by
  induction pages generalizing request with
  | zero => rfl
  | succ pages ih =>
    rw [Repository.walk_next hrequest rfl, hlimit, ih reread_unpriced rfl]
    rfl

/-- **With the undefined value under a descending key a walk stands still**: the page after the first
product is its own page again, and however many pages are asked for, it is always that one. -/
theorem stands_still : (products.matching standing.store none none).length = 2 ∧
    ∀ pages, products.walk none none [.descending "price"] pages { limit := some 1 } standing
      = (List.replicate pages (.ok firstUnpriced), standing) :=
  ⟨rfl, fun pages => walk_unpriced pages read_unpriced rfl⟩

end Shelf
end KeysetStore
