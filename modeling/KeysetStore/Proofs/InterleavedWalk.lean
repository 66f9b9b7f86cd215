import KeysetStore.Proofs.PageWalk
import KeysetStore.Proofs.StoreWrites

/-!
# Proofs/InterleavedWalk — a walk while others write

Between two pages of a walk others may write what they like, so no two pages need come from the same
collection and no slice describes the walk.  What holds the pages together is the order itself, which
is there before and after every write: a page shows what its own collection has after the document
that was shown last (`Stretch.Covers`).  So what is shown keeps rising over all pages
(`Stretch.rising_shown`), and a document that stays lies between two cursors
(`Stretch.mem_shown`).  `Repository.interleaved_walk` says this of every run that interleaves
pages with writes.
-/

namespace KeysetStore

/-! ## Neighbours in a list -/

/-- **Each item of a list is related to the next one.** -/
def Linked {α : Type} (R : α → α → Prop) : List α → Prop
  | [] => True
  | [_] => True
  | a :: b :: rest => R a b ∧ Linked R (b :: rest)

namespace Linked

variable {α β : Type} {R S : α → α → Prop} {T : β → β → Prop}

theorem cons {a : α} {rest : List α} (h : Linked R rest) (ha : ∀ b ∈ rest.head?, R a b) :
    Linked R (a :: rest) := by
  cases rest with
  | nil => trivial
  | cons b rest => exact ⟨ha b rfl, h⟩

/-- What two relations between neighbours say together, of the images of the items. -/
theorem map {items : List α} {f : α → β} (hR : Linked R items) (hS : Linked S items)
    (h : ∀ a ∈ items, ∀ b ∈ items, R a b → S a b → T (f a) (f b)) :
    Linked T (items.map f) := by
  induction items with
  | nil => trivial
  | cons a rest ih =>
    cases rest with
    | nil => trivial
    | cons b rest =>
      have hb : b ∈ a :: b :: rest := List.mem_cons_of_mem _ List.mem_cons_self
      exact ⟨h a List.mem_cons_self b hb hR.1 hS.1, ih hR.2 hS.2 fun c hc d hd =>
        h c (List.mem_cons_of_mem _ hc) d (List.mem_cons_of_mem _ hd)⟩

end Linked

/-! ## Stretches of an order -/

/-- **One step along an order**: from where it starts, through which documents, what it shows of
them, and whether it leaves more behind. -/
structure Stretch where
  start : Option Document
  documents : List Document
  shown : List Document
  more : Bool

namespace Stretch

variable {keys : List SortKey} {meant : Document → Bool}

/-- Whether a document comes after the start, where there is one. -/
def reaches (keys : List SortKey) (s : Stretch) (d : Document) : Bool :=
  s.start.all fun reference => Document.isAfter keys reference d

/-- **A stretch covers the documents that are meant**: those it shows come after its start and rise,
and one that it does not show is left behind the last one shown. -/
structure Covers (keys : List SortKey) (meant : Document → Bool) (s : Stretch) : Prop where
  placed : ∀ d, d ∈ s.start ∨ d ∈ s.shown → d.placedAt keys
  after : ∀ d ∈ s.shown, s.reaches keys d = true
  rising : s.shown.Pairwise fun a b => compareBy keys a b = .lt
  complete : ∀ d ∈ s.documents, meant d = true → s.reaches keys d = true →
    d ∈ s.shown ∨ s.more = true ∧ ∃ last ∈ s.shown.getLast?, Document.isAfter keys last d = true

/-- **A stretch ascends**: what it shows comes after its start and rises. -/
structure Ascends (keys : List SortKey) (s : Stretch) : Prop where
  placed : ∀ d, d ∈ s.start ∨ d ∈ s.shown → d.placedAt keys
  after : ∀ d ∈ s.shown, s.reaches keys d = true
  rising : s.shown.Pairwise fun a b => compareBy keys a b = .lt

theorem Covers.ascends {s : Stretch} (h : s.Covers keys meant) : s.Ascends keys :=
  ⟨h.placed, h.after, h.rising⟩

/-- One stretch goes on where another one has stopped. -/
def Follows (a b : Stretch) : Prop := ∃ last, a.shown.getLast? = some last ∧ b.start = some last

/-- In a rising list nothing is above the last document. -/
theorem eq_or_lt_getLast? {rising : List Document} {last d : Document}
    (h : rising.Pairwise fun a b => compareBy keys a b = .lt)
    (hlast : rising.getLast? = some last) (hd : d ∈ rising) :
    d = last ∨ compareBy keys d last = .lt := by
  obtain ⟨front, rfl⟩ := List.getLast?_eq_some_iff.1 hlast
  rcases List.mem_append.1 hd with hd | hd
  · exact .inr ((List.pairwise_append.1 h).2.2 d hd last (List.mem_singleton_self last))
  · exact .inl (List.mem_singleton.1 hd)

/-- **What stretches show that follow each other keeps rising**, from the start of the first on.  The
induction is over the stretches; the last document shown is below all that later stretches show. -/
theorem rising_of_ascends {stretches : List Stretch} (hascends : ∀ s ∈ stretches, s.Ascends keys)
    (hchain : Linked Follows stretches) :
    (stretches.flatMap (·.shown)).Pairwise (fun a b => compareBy keys a b = .lt) ∧
      ∀ first ∈ stretches.head?, ∀ d ∈ stretches.flatMap (·.shown), first.reaches keys d = true := by
  induction stretches with
  | nil => exact ⟨.nil, fun _ h => nomatch h⟩
  | cons s rest ih =>
    have hs := hascends s List.mem_cons_self
    have hplaced : ∀ d ∈ (s :: rest).flatMap (·.shown), d.placedAt keys := by
      intro d hd
      obtain ⟨t, ht, hd⟩ := List.mem_flatMap.1 hd
      exact (hascends t ht).placed d (.inr hd)
    cases rest with
    | nil =>
      rw [List.flatMap_cons, List.flatMap_nil, List.append_nil]
      refine ⟨hs.rising, fun first hfirst => ?_⟩
      obtain rfl : s = first := Option.some.inj hfirst
      exact hs.after
    | cons t rest =>
      obtain ⟨⟨last, hlast, hstart⟩, hchain⟩ := hchain
      obtain ⟨hrising, hafter⟩ :=
        ih (fun u hu => hascends u (List.mem_cons_of_mem _ hu)) hchain
      have hlastmem : last ∈ s.shown := List.mem_of_getLast? hlast
      have hbeyond : ∀ d ∈ (t :: rest).flatMap (·.shown), compareBy keys last d = .lt := by
        intro d hd
        have hreach := hafter t rfl d hd
        rw [reaches, hstart, Option.all_some, Document.isAfter, decide_eq_true_eq] at hreach
        exact compareBy_eq_gt_iff.1 hreach
      have hplaced' : ∀ d ∈ (t :: rest).flatMap (·.shown), d.placedAt keys := by
        intro d hd
        exact hplaced d (List.mem_append_right _ hd)
      rw [List.flatMap_cons]
      refine ⟨List.pairwise_append.2 ⟨hs.rising, hrising, fun a ha b hb => ?_⟩, ?_⟩
      · rcases eq_or_lt_getLast? hs.rising hlast ha with rfl | halast
        · exact hbeyond b hb
        · exact compareBy_lt_trans (hs.placed a (.inr ha)) (hs.placed last (.inr hlastmem))
            (hplaced' b hb) halast (hbeyond b hb)
      · intro first hfirst d hd
        obtain rfl : s = first := Option.some.inj hfirst
        rcases List.mem_append.1 hd with hd | hd
        · exact hs.after d hd
        · have hreach := hs.after last hlastmem
          rw [reaches] at hreach ⊢
          cases hreference : s.start with
          | none => rfl
          | some reference =>
            rw [hreference, Option.all_some, Document.isAfter, decide_eq_true_eq] at hreach
            rw [Option.all_some, Document.isAfter, decide_eq_true_eq, compareBy_eq_gt_iff]
            exact compareBy_lt_trans (hs.placed reference (.inl hreference))
              (hs.placed last (.inr hlastmem)) (hplaced' d hd) (compareBy_eq_gt_iff.1 hreach)
              (hbeyond d hd)

/-- What stretches show that cover what is meant keeps rising. -/
theorem rising_shown {stretches : List Stretch} (hcovers : ∀ s ∈ stretches, s.Covers keys meant)
    (hchain : Linked Follows stretches) :
    (stretches.flatMap (·.shown)).Pairwise (fun a b => compareBy keys a b = .lt) ∧
      ∀ first ∈ stretches.head?, ∀ d ∈ stretches.flatMap (·.shown), first.reaches keys d = true :=
  rising_of_ascends (fun s hs => (hcovers s hs).ascends) hchain

/-- **A document that is meant and in every stretch is shown**, where the last stretch leaves nothing
behind: from stretch to stretch it is shown or still ahead. -/
theorem mem_shown {stretches : List Stretch} (hne : stretches ≠ [])
    (hcovers : ∀ s ∈ stretches, s.Covers keys meant) (hchain : Linked Follows stretches)
    (hend : ∀ last ∈ stretches.getLast?, last.more = false) {d : Document}
    (hd : ∀ s ∈ stretches, d ∈ s.documents) (hmeant : meant d = true)
    (hstart : ∀ first ∈ stretches.head?, first.reaches keys d = true) :
    d ∈ stretches.flatMap (·.shown) := by
  induction stretches with
  | nil => exact absurd rfl hne
  | cons s rest ih =>
    rw [List.flatMap_cons, List.mem_append]
    rcases (hcovers s List.mem_cons_self).complete d (hd s List.mem_cons_self) hmeant
      (hstart s rfl) with hshown | ⟨hmore, last, hlast, hbeyond⟩
    · exact .inl hshown
    · cases rest with
      | nil =>
        rw [hend s rfl] at hmore
        cases hmore
      | cons t rest =>
        obtain ⟨⟨last', hlast', hnext⟩, hchain⟩ := hchain
        obtain rfl : last' = last := Option.some.inj (hlast'.symm.trans hlast)
        refine .inr (ih (List.cons_ne_nil _ _)
          (fun u hu => hcovers u (List.mem_cons_of_mem _ hu)) hchain ?_
          (fun u hu => hd u (List.mem_cons_of_mem _ hu)) ?_)
        · intro u hu
          exact hend u (by rwa [List.getLast?_cons_cons])
        · intro first hfirst
          obtain rfl : t = first := Option.some.inj hfirst
          rw [reaches, hnext, Option.all_some]
          exact hbeyond

end Stretch

/-! ## Runs -/

/-- **A page that was read**: the request, the memory that answered, and the page. -/
structure Visit (α : Type) where
  request : Pagination
  memory : Memory
  page : Page α

namespace Repository

variable {α : Type}

/-- **A walk among writes.**  It starts with a request on a memory; before each page anybody may
write, and each page is asked for with the cursor of the page before. -/
inductive Interleaved (r : Repository Memory α) (supply : Nat → ObjectId) (scope : Option Value)
    (filter : Option Document) (sort : List SortKey) :
    Pagination → Memory → List (Visit α) → Prop
  /-- Somebody writes. -/
  | write {request : Pagination} {m : Memory} {visits : List (Visit α)} (w : Write)
      (rest : Interleaved r supply scope filter sort request (w.apply supply m) visits) :
      Interleaved r supply scope filter sort request m visits
  /-- A page is read, and no other one after it. -/
  | last {request : Pagination} {m : Memory} {page : Page α}
      (read : r.readAll scope filter sort request m = (.ok page, m)) :
      Interleaved r supply scope filter sort request m [⟨request, m, page⟩]
  /-- A page is read, and the walk goes on after it. -/
  | next {request next : Pagination} {m : Memory} {page : Page α} {visits : List (Visit α)}
      (read : r.readAll scope filter sort request m = (.ok page, m))
      (goesOn : request.after page = some next)
      (rest : Interleaved r supply scope filter sort next m visits) :
      Interleaved r supply scope filter sort request m (⟨request, m, page⟩ :: visits)

/-- The document that the cursor of a request names, where it has a cursor. -/
def named (request : Pagination) (documents : List Document) : Option Document :=
  match referenceOf request with
  | .ok (some key) => documents.find? fun d => d.key? == some key
  | _ => none

/-- The documents of the collection at a visit. -/
def documentsAt (r : Repository Memory α) (v : Visit α) : List Document :=
  v.memory.store.documents r.config.collection

/-- **The documents that the page of a visit shows.** -/
def shown (r : Repository Memory α) (scope : Option Value) (filter : Option Document)
    (sort : List SortKey) (v : Visit α) : List Document :=
  match r.listing scope filter sort v.request with
  | .ok l =>
    match r.fetch v.memory.store scope l with
    | .ok documents => documents.take l.limit
    | .error _ => []
  | .error _ => []

/-- A visit as a stretch of the order. -/
def stretch (r : Repository Memory α) (scope : Option Value) (filter : Option Document)
    (sort : List SortKey) (v : Visit α) : Stretch where
  start := named v.request (r.documentsAt v)
  documents := r.documentsAt v
  shown := r.shown scope filter sort v
  more := v.page.hasMore

section Runs

variable {r : Repository Memory α} {supply : Nat → ObjectId} {scope : Option Value}
  {filter : Option Document} {sort : List SortKey} {request : Pagination} {m : Memory}
  {visits : List (Visit α)}

/-- A run visits at least one page, the first one with its own request. -/
theorem Interleaved.head? (h : Interleaved r supply scope filter sort request m visits) :
    ∃ first, visits.head? = some first ∧ first.request = request := by
  induction h with
  | write w rest ih => exact ih
  | last read => exact ⟨_, rfl, rfl⟩
  | next read goesOn rest ih => exact ⟨_, rfl, rfl⟩

/-- **At every visit of a run the page is that of the memory, and documents have keys of their
own.** -/
theorem Interleaved.visited (h : Interleaved r supply scope filter sort request m visits)
    (hkeyed : Keyed (m.store.documents r.config.collection)) :
    ∀ v ∈ visits, Keyed (r.documentsAt v) ∧
      r.readAll scope filter sort v.request v.memory = (.ok v.page, v.memory) := by
  induction h with
  | write w rest ih => exact ih (w.keyed_apply hkeyed)
  | last read =>
    intro v hv
    rw [List.mem_singleton.1 hv]
    exact ⟨hkeyed, read⟩
  | next read goesOn rest ih =>
    intro v hv
    rcases List.mem_cons.1 hv with rfl | hv
    · exact ⟨hkeyed, read⟩
    · exact ih hkeyed v hv

/-- **Each page of a run is asked for with the cursor of the page before.** -/
theorem Interleaved.linked (h : Interleaved r supply scope filter sort request m visits) :
    Linked (fun a b => a.request.after a.page = some b.request) visits := by
  induction h with
  | write w rest ih => exact ih
  | last read => trivial
  | next read goesOn rest ih =>
    obtain ⟨first, hfirst, hrequest⟩ := rest.head?
    refine ih.cons fun b hb => ?_
    obtain rfl : first = b := Option.some.inj (hfirst.symm.trans hb)
    rw [hrequest]
    exact goesOn

end Runs

/-! ## One visit -/

section Visits

variable {r : Repository Memory α} {supply : Nat → ObjectId} {scope : Option Value}
  {filter : Option Document} {sort : List SortKey} {selector : Document} {v : Visit α}

/-- The document that a cursor names is the one its listing continues after. -/
theorem named_eq {request : Pagination} {documents : List Document} {start : Option Document}
    (hkeyed : Keyed documents) (hreference : referenceOf request = .ok (start.bind (·.key?)))
    (hstart : ∀ reference ∈ start, reference ∈ documents) : named request documents = start := by
  rw [named, hreference]
  cases start with
  | none => rfl
  | some reference =>
    have hmem := hstart reference rfl
    obtain ⟨key, hkey⟩ := hkeyed.key reference hmem
    rw [Option.bind_some, hkey]
    refine hkeyed.find?_eq_some hmem (by simp [hkey]) fun e _ he => ?_
    rw [beq_iff_eq] at he
    rw [he, hkey]

/-- **The documents a page shows are the first ones that its listing has left.** -/
theorem shown_eq_take {l : Listing} {start : Option Document}
    (hready : v.memory.store.ready) (hfield : r.config.scopeField ≠ primaryKey)
    (hl : r.listing scope filter sort v.request = .ok l) (h : Listable l (r.documentsAt v))
    (hreference : l.reference = start.bind (·.key?))
    (hstart : ∀ reference ∈ start,
      reference ∈ r.documentsAt v ∧ reference.inScope (r.owner scope) = true) :
    r.shown scope filter sort v = (l.left start (r.documentsAt v)).take l.limit := by
  simp only [shown, hl, fetch_eq hready hfield hl h hreference hstart]
  rw [List.take_take, Nat.min_eq_left (Nat.le_succ _)]
  rfl

/-- What a listing has left at a visit, after the document named by the cursor. -/
def leftAt (r : Repository Memory α) (l : Listing) (v : Visit α) : List Document :=
  l.left (named v.request (r.documentsAt v)) (r.documentsAt v)

/-- **What a page that was read shows**: the first documents that its listing has left after the one
named by the cursor. -/
structure Shows (r : Repository Memory α) (scope : Option Value) (filter : Option Document)
    (sort : List SortKey) (v : Visit α) (l : Listing) : Prop where
  order : l.order = .compile sort r.config.idField
  limit : 0 < l.limit
  listable : Listable l (r.documentsAt v)
  start : ∀ reference ∈ named v.request (r.documentsAt v), reference ∈ r.documentsAt v
  reference : referenceOf v.request = .ok ((named v.request (r.documentsAt v)).bind (·.key?))
  shown : r.shown scope filter sort v = (r.leftAt l v).take l.limit
  page : ∃ items, r.loadAll (r.shown scope filter sort v) = .ok items ∧
    v.page = .ofItems items (l.cursorAfter (r.leftAt l v))

theorem exists_shows (hr : r.backend = Memory.backend supply)
    (hvalid : r.config.validate = .ok ()) (hfield : r.config.scopeField ≠ primaryKey)
    (hselector : r.selector scope filter = .ok selector)
    (hread : r.readAll scope filter sort v.request v.memory = (.ok v.page, v.memory))
    (hkeyed : Keyed (r.documentsAt v))
    (hsortable : Sortable (SortOrder.compile sort r.config.idField).keys (r.documentsAt v))
    (hevaluates : ∀ d ∈ r.documentsAt v, ∃ b, d.meets selector = .ok b) :
    ∃ l : Listing, l.selector = selector ∧ r.Shows scope filter sort v l := by
  have hpage : r.page v.memory.store scope filter sort v.request = .ok v.page :=
    congrArg Prod.fst ((reads_readAll hr scope filter sort v.request v.memory).symm.trans hread)
  obtain ⟨l, documents, hl, hready, hfetch, -⟩ := page_eq_ok_iff.1 hpage
  obtain ⟨hsize, -, hsel, horder, hreference⟩ := listing_eq_ok_iff.1 hl
  obtain rfl : l.selector = selector := Except.ok.inj (hsel.symm.trans hselector)
  rw [← horder] at hsortable
  have h : Listable l (r.documentsAt v) := ⟨hkeyed, hsortable, hevaluates⟩
  obtain ⟨start, hstart, hstored⟩ := exists_start_of_fetch hready hfield hl h hfetch
  have hnamed : named v.request (r.documentsAt v) = start :=
    named_eq hkeyed (hstart ▸ hreference) fun reference href => (hstored reference href).1
  subst hnamed
  have hshown : r.shown scope filter sort v = (r.leftAt l v).take l.limit :=
    shown_eq_take hready hfield hl h hstart hstored
  rw [page_eq hready hfield hl h hstart hstored] at hpage
  obtain ⟨items, hitems, hpage⟩ := map_eq_ok_iff.1 hpage
  exact ⟨l, rfl, horder, Config.pageSize_pos hvalid hsize, h,
    fun reference href => (hstored reference href).1, hstart ▸ hreference, hshown,
    items, hshown ▸ hitems, hpage.symm⟩

namespace Shows

variable {l : Listing}

theorem mem_leftAt {d : Document} : d ∈ r.leftAt l v ↔
    d ∈ r.documentsAt v ∧ l.leaves (named v.request (r.documentsAt v)) d = true :=
  Listable.mem_left

theorem mem_of_shown (h : r.Shows scope filter sort v l) {d : Document}
    (hd : d ∈ r.shown scope filter sort v) :
    d ∈ r.documentsAt v ∧ l.leaves (named v.request (r.documentsAt v)) d = true := by
  rw [h.shown] at hd
  exact mem_leftAt.1 (List.mem_of_mem_take hd)

/-- A page says that more are left exactly where the listing has more left than it shows. -/
theorem hasMore_eq (h : r.Shows scope filter sort v l) :
    v.page.hasMore = decide (l.limit < (r.leftAt l v).length) := by
  obtain ⟨items, -, hpage⟩ := h.page
  rw [hpage, Page.hasMore_ofItems, Listing.isSome_cursorAfter h.limit]
  exact fun d hd => h.listable.keyed.key d (mem_leftAt.1 hd).1

/-- **A page that was read is a stretch that covers what its collection has.** -/
theorem covers (h : r.Shows scope filter sort v l) :
    (r.stretch scope filter sort v).Covers l.order.keys (Document.fits l.selector) := by
  have hplaced := (h.listable.orderly h.order).placed
  refine ⟨?_, fun d hd => (Bool.and_eq_true_iff.1 (h.mem_of_shown hd).2).2, ?_, ?_⟩
  · rintro d (hd | hd)
    · exact hplaced d (h.start d hd)
    · exact hplaced d (h.mem_of_shown hd).1
  · change (r.shown scope filter sort v).Pairwise _
    rw [h.shown]
    exact (h.listable.pairwise_left h.order _).sublist (List.take_sublist ..)
  · intro d hd hfits hreach
    have hmem : d ∈ r.leftAt l v := mem_leftAt.2 ⟨hd, Bool.and_eq_true_iff.2 ⟨hfits, hreach⟩⟩
    change d ∈ r.shown scope filter sort v ∨ v.page.hasMore = true ∧
      ∃ last ∈ (r.shown scope filter sort v).getLast?, _
    rw [h.shown, h.hasMore_eq]
    rw [← List.take_append_drop l.limit (r.leftAt l v), List.mem_append] at hmem
    refine hmem.imp id fun hbehind => ?_
    have hmore : l.limit < (r.leftAt l v).length := by
      have hpos := List.length_pos_of_mem hbehind
      rw [List.length_drop] at hpos
      omega
    obtain ⟨last, -, hlast, hrest⟩ := h.listable.exists_last h.order h.start h.limit hmore
    refine ⟨decide_eq_true hmore, last, hlast, ?_⟩
    rw [leftAt, ← hrest, Listable.mem_left] at hbehind
    exact (Bool.and_eq_true_iff.1 hbehind.2).2

/-- **A page starts where the page before has stopped**, if the document it names has been kept as it
was. -/
theorem follows {w : Visit α} {l' : Listing} (h : r.Shows scope filter sort v l)
    (h' : r.Shows scope filter sort w l') (hafter : v.request.after v.page = some w.request)
    (hkept : ∀ last ∈ (r.shown scope filter sort v).getLast?, ∀ d ∈ r.documentsAt w,
      d.key? = last.key? → d = last) :
    (r.stretch scope filter sort v).Follows (r.stretch scope filter sort w) := by
  obtain ⟨items, -, hpage⟩ := h.page
  rw [hpage] at hafter
  obtain ⟨-, last, key, hlast, hkey, hrequest⟩ := Listing.exists_last_of_after hafter
  have hreference : referenceOf w.request = .ok (some key) := by
    rw [hrequest, referenceOf_toHex]
  obtain ⟨reference, hnamed, hsame⟩ :=
    Option.bind_eq_some_iff.1 (Except.ok.inj (h'.reference.symm.trans hreference))
  rw [← h.shown] at hlast
  obtain rfl := hkept last hlast reference (h'.start reference hnamed) (hsame.trans hkey.symm)
  exact ⟨reference, hlast, hnamed⟩

end Shows

end Visits

/-- **A walk among writes shows every document once.**  Each page shows what comes after the document
named by its cursor, what is shown rises over all pages, so that nothing is shown twice, and where the
last page says that nothing more is left, every document that was there and meant at each page has
been shown. -/
theorem interleaved_walk {supply : Nat → ObjectId} {config : Config} {codec : Codec α}
    {r : Repository Memory α} {scope : Option Value} {filter : Option Document}
    {sort : List SortKey} {request : Pagination} {m : Memory} {visits : List (Visit α)}
    {selector : Document} (hr : ofConfig (Memory.backend supply) config codec = .ok r)
    (hfield : r.config.scopeField ≠ primaryKey) (hselector : r.selector scope filter = .ok selector)
    (hkeyed : Keyed (m.store.documents r.config.collection))
    (hrun : Interleaved r supply scope filter sort request m visits)
    (hsortable : ∀ v ∈ visits,
      Sortable (SortOrder.compile sort r.config.idField).keys (r.documentsAt v))
    (hevaluates : ∀ v ∈ visits, ∀ d ∈ r.documentsAt v, ∃ b, d.meets selector = .ok b)
    (hkept : Linked (fun v w => ∀ last ∈ (r.shown scope filter sort v).getLast?,
      ∀ d ∈ r.documentsAt w, d.key? = last.key? → d = last) visits) :
    (∀ v ∈ visits, r.loadAll (r.shown scope filter sort v) = .ok v.page.items) ∧
    (∀ v ∈ visits, ∀ reference ∈ named v.request (r.documentsAt v),
      ∀ d ∈ r.shown scope filter sort v,
        Document.isAfter (SortOrder.compile sort r.config.idField).keys reference d = true) ∧
    (visits.flatMap (r.shown scope filter sort)).Nodup ∧
    ((∀ last ∈ visits.getLast?, last.page.hasMore = false) → ∀ d,
      (∀ v ∈ visits, d ∈ r.documentsAt v) → Document.fits selector d = true →
      (∀ first ∈ visits.head?, ∀ reference ∈ named request (r.documentsAt first),
        Document.isAfter (SortOrder.compile sort r.config.idField).keys reference d = true) →
      d ∈ visits.flatMap (r.shown scope filter sort)) := by
  obtain ⟨hvalid, hbackend⟩ := of_ofConfig hr
  have hshows : ∀ v ∈ visits, ∃ l : Listing, l.selector = selector ∧ r.Shows scope filter sort v l := by
    intro v hv
    obtain ⟨hkeyed, hread⟩ := hrun.visited hkeyed v hv
    exact exists_shows hbackend hvalid hfield hselector hread hkeyed (hsortable v hv)
      (hevaluates v hv)
  have hcovers : ∀ s ∈ visits.map (r.stretch scope filter sort),
      s.Covers (SortOrder.compile sort r.config.idField).keys (Document.fits selector) := by
    intro s hs
    obtain ⟨v, hv, rfl⟩ := List.mem_map.1 hs
    obtain ⟨l, rfl, h⟩ := hshows v hv
    rw [← h.order]
    exact h.covers
  have hchain : Linked Stretch.Follows (visits.map (r.stretch scope filter sort)) := by
    refine hrun.linked.map hkept fun v hv w hw hafter hkept => ?_
    obtain ⟨l, -, h⟩ := hshows v hv
    obtain ⟨l', -, h'⟩ := hshows w hw
    exact h.follows h' hafter hkept
  have hflat : (visits.map (r.stretch scope filter sort)).flatMap (·.shown)
      = visits.flatMap (r.shown scope filter sort) := List.flatMap_map ..
  obtain ⟨first, hfirst, hrequest⟩ := hrun.head?
  refine ⟨fun v hv => ?_, fun v hv reference href d hd => ?_, ?_, fun hend d hd hfits hstart => ?_⟩
  · obtain ⟨l, -, h⟩ := hshows v hv
    obtain ⟨items, hitems, hpage⟩ := h.page
    rw [hitems, hpage]
    rfl
  · have hafter := (hcovers _ (List.mem_map_of_mem hv)).after d hd
    rwa [Stretch.reaches, show (r.stretch scope filter sort v).start = some reference from href,
      Option.all_some] at hafter
  · rw [← hflat]
    refine (Stretch.rising_shown hcovers hchain).1.imp fun hlt heq => ?_
    rw [heq, compareBy_self] at hlt
    cases hlt
  · rw [← hflat]
    refine Stretch.mem_shown (fun hnil => ?_) hcovers hchain (fun s hs => ?_) (fun s hs => ?_) hfits
      (fun s hs => ?_)
    · rw [List.map_eq_nil_iff.1 hnil] at hfirst
      cases hfirst
    · rw [List.getLast?_map] at hs
      obtain ⟨last, hlast, rfl⟩ := Option.map_eq_some_iff.1 hs
      exact hend last hlast
    · obtain ⟨v, hv, rfl⟩ := List.mem_map.1 hs
      exact hd v hv
    · rw [List.head?_map] at hs
      obtain ⟨v, hv, rfl⟩ := Option.map_eq_some_iff.1 hs
      obtain rfl : first = v := Option.some.inj (hfirst.symm.trans hv)
      rw [Stretch.reaches, Option.all_eq_true]
      intro reference href
      refine hstart first hfirst reference ?_
      rw [← hrequest]
      exact href

end Repository

namespace Shelf

/-- The shelf without the product of the other owner. -/
def cleared : Memory :=
  (Write.delete "products" [("_id", .objectId (.ofNat 2))]).apply .ofNat memory

/-- The first page, and the second one after the other owner's product has gone. -/
def visits : List (Visit Value) :=
  [⟨{ limit := some 2 }, memory,
      ⟨[model documents[0], model documents[3]], true, some (ObjectId.ofNat 4).toHex⟩⟩,
    ⟨{ limit := some 2, cursor := some (ObjectId.ofNat 4).toHex }, cleared,
      ⟨[model documents[2]], false, none⟩⟩]

/-- The listing of the second page. -/
def further : Listing := { listing with reference := some (.ofNat 4) }

theorem backend_products : products.backend = Memory.backend .ofNat := rfl

theorem reference_further : further.reference = (some documents[3]).bind (·.key?) := rfl

theorem listable_cleared : Listable further (cleared.store.documents "products") := by
  have hcleared : (cleared.store.documents "products").Sublist documents :=
    .cons_cons _ (.cons _ (.refl _))
  have h := listable_documents.sublist hcleared
  exact ⟨h.keyed, h.sortable, h.evaluates⟩

theorem left_cleared :
    further.left (some documents[3]) (cleared.store.documents "products") = [documents[2]] := by
  change sortBy listing.order.keys [documents[2]] = [documents[2]]
  exact List.mergeSort_singleton _

theorem start_cleared : ∀ reference ∈ some documents[3],
    reference ∈ cleared.store.documents "products" ∧
      reference.inScope (products.owner (some (.string "alice"))) = true := by
  rintro reference href
  obtain rfl := Option.some.inj href
  exact ⟨.tail _ (.tail _ (.head _)), rfl⟩

theorem read_first : products.readAll (some (.string "alice")) none [.descending "price"]
    { limit := some 2 } memory
      = (.ok ⟨[model documents[0], model documents[3]], true, some (ObjectId.ofNat 4).toHex⟩,
          memory) := by
  have hread := Repository.readAll_eq_slice (m := memory) backend_products rfl (by decide)
    (by decide) listing_eq listable_documents reference_listing (fun _ h => nomatch h) load_left
  rw [hread, show memory.store.documents products.config.collection = documents from rfl,
    left_documents]
  rfl

theorem read_second : products.readAll (some (.string "alice")) none [.descending "price"]
    { limit := some 2, cursor := some (ObjectId.ofNat 4).toHex } cleared
      = (.ok ⟨[model documents[2]], false, none⟩, cleared) := by
  have hload : ∀ d ∈ further.left (some documents[3]) (cleared.store.documents "products"),
      products.codec.load products.config.idField d = .ok (model d) := by
    intro d hd
    rw [left_cleared, List.mem_singleton] at hd
    rw [hd]
    rfl
  have hread := Repository.readAll_eq_slice (m := cleared) backend_products rfl (by decide)
    (by decide) (Repository.listing_after listing_eq (.ofNat 4)) listable_cleared
    reference_further start_cleared hload
  rw [hread, show products.config.collection = "products" from rfl]
  change (Except.ok (Page.slice model 2 (further.left (some documents[3]) _) 0), cleared) = _
  rw [left_cleared]
  rfl

theorem shown_first : products.shown (some (.string "alice")) none [.descending "price"] visits[0]
    = [documents[0], documents[3]] := by
  rw [Repository.shown_eq_take rfl (by decide) listing_eq listable_documents reference_listing
    fun _ h => nomatch h]
  change (listing.left none documents).take 2 = _
  rw [left_documents]
  rfl

theorem forall_visits {p : Visit Value → Prop} : (∀ v ∈ visits, p v) ↔ p visits[0] ∧ p visits[1] := by
  simp [visits]

/-- The first page, the other owner's product deleted, and the second page: the product without a
price is shown, and nothing twice. -/
theorem interleaved_visits :
    Repository.Interleaved products .ofNat (some (.string "alice")) none [.descending "price"]
      { limit := some 2 } memory visits ∧
    (visits.flatMap (products.shown (some (.string "alice")) none [.descending "price"])).Nodup ∧
    documents[2] ∈
      visits.flatMap (products.shown (some (.string "alice")) none [.descending "price"]) := by
  have hr : Repository.ofConfig (Memory.backend .ofNat) products.config Codec.value
      = .ok products := rfl
  have hrun : Repository.Interleaved products .ofNat (some (.string "alice")) none
      [.descending "price"] { limit := some 2 } memory visits :=
    .next read_first rfl (.write (.delete "products" [("_id", .objectId (.ofNat 2))])
      (.last read_second))
  have hkept : Linked (fun v w =>
      ∀ last ∈ (products.shown (some (.string "alice")) none [.descending "price"] v).getLast?,
        ∀ d ∈ products.documentsAt w, d.key? = last.key? → d = last) visits := by
    refine ⟨fun last hlast d hd hkey => ?_, trivial⟩
    change last ∈ (products.shown _ _ _ visits[0]).getLast? at hlast
    rw [shown_first] at hlast
    obtain rfl : documents[3] = last := Option.some.inj hlast
    exact listable_cleared.keyed.eq_of_key? hd (.tail _ (.tail _ (.head _))) hkey
  have hkeyed : Keyed (memory.store.documents products.config.collection) := keyed_documents
  have hselector : products.selector (some (.string "alice")) none
      = .ok [("userId", .string "alice")] := rfl
  obtain ⟨-, -, hnodup, hshown⟩ := Repository.interleaved_walk hr (by decide) hselector hkeyed hrun
    (forall_visits.2 ⟨listable_documents.sortable, listable_cleared.sortable⟩)
    (forall_visits.2 ⟨listable_documents.evaluates, listable_cleared.evaluates⟩) hkept
  refine ⟨hrun, hnodup, hshown ?_ _ (forall_visits.2 ⟨?_, ?_⟩) rfl ?_⟩
  · rintro last hlast
    obtain rfl := Option.some.inj hlast
    rfl
  · exact .tail _ (.tail _ (.head _))
  · exact .tail _ (.head _)
  · rintro first - reference href
    cases href

end Shelf

end KeysetStore
