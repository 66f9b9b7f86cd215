import KeysetStore.Proofs.CaseFolding
import KeysetStore.Pattern
import Mathlib.Data.List.Forall2

/-!
# Proofs/LiteralPattern — the pattern of a literal text

An escaped text is read character by character, each as the set of that character
(`Pattern.steps_escape`), so its tree is a row of sets (`Pattern.parse_escape`).  A row of sets
matches in a text where a run of its characters are members one by one
(`Pattern.matchesIn_sets`).  Without regard to case, the set of a character holds those that fold to
the same one, and the pattern of a literal text matches the texts with such a run in them
(`Pattern.isMatch_escape`).

Reading goes by fuel, of which a text has enough by its own length; the only error left is that of
a text too large to be compiled.
-/

namespace KeysetStore.Pattern

/-! ## Reading an escaped text -/

variable {f : Flags} {st : ParseState} {c : Char} {rest : List Char}

/-- The parts that a text is as a pattern, character by character. -/
def literals (f : Flags) (chars : List Char) : List CharSet := chars.map f.literal

theorem skip_of_not_ignoreSpace (hf : f.ignoreSpace = false) (text : List Char) :
    f.skip text = text := by
  rw [Flags.skip, hf]
  rfl

/-- A character without a meaning is read as itself. -/
theorem step_of_not_meta (h : isMeta c = false) :
    step st c rest = .ok (st.push (.set (st.flags.literal c)), rest) := by
  unfold step
  split <;> first | rfl | exact absurd h (by decide)

theorem isDigit_of_isMeta (h : isMeta c) : c.isDigit = false := by
  simp only [isMeta, List.contains_eq_mem, decide_eq_true_eq, List.mem_cons, List.not_mem_nil,
    or_false] at h
  rcases h with rfl | rfl | rfl | rfl | rfl | rfl | rfl | rfl | rfl | rfl | rfl | rfl | rfl | rfl |
    rfl | rfl | rfl | rfl <;> rfl

/-- A backslash takes the meaning from a character. -/
theorem step_of_isMeta (h : isMeta c) :
    step st '\\' (c :: rest) = .ok (st.push (.set (st.flags.literal c)), rest) := by
  have hread : readEscape st.flags (c :: rest) = .ok (.literal c false, rest) := by
    simp [readEscape, isDigit_of_isMeta h, h]
  rw [step, hread]
  rfl

/-- **An escaped text is read character by character.** -/
theorem steps_escape (hf : st.flags.ignoreSpace = false) {chars : List Char} {fuel : Nat}
    (hfuel : chars.length ≤ fuel) :
    steps fuel st (chars.flatMap escapeChar)
      = .ok { st with parts := ((literals st.flags chars).map .set).reverse ++ st.parts } := by
  induction chars generalizing st fuel with
  | nil =>
    cases fuel with
    | zero => rfl
    | succ fuel => rw [steps, skip_of_not_ignoreSpace hf]; rfl
  | cons c rest ih =>
    obtain ⟨fuel, rfl⟩ : ∃ n, fuel = n + 1 := ⟨fuel - 1, by simp at hfuel; omega⟩
    have hstep : steps (fuel + 1) st ((c :: rest).flatMap escapeChar)
        = steps fuel (st.push (.set (st.flags.literal c))) (rest.flatMap escapeChar) := by
      rw [steps, skip_of_not_ignoreSpace hf, List.flatMap_cons, escapeChar]
      cases hmeta : isMeta c
      · simp [step_of_not_meta hmeta]
      · simp [step_of_isMeta hmeta]
    rw [hstep]
    refine (ih (by exact hf) (by simpa using hfuel)).trans ?_
    simp [ParseState.push, literals]

/-! ## The tree of an escaped text -/

theorem depth_literal (f : Flags) (c : Char) : (f.literal c).depth = 0 := by
  rw [Flags.literal]
  split <;> rfl

theorem greatestDepth_literals (f : Flags) (chars : List Char) :
    Regex.greatestDepth ((literals f chars).map .set) = 0 := by
  induction chars with
  | nil => rfl
  | cons c rest ih =>
    rw [literals, List.map_cons, List.map_cons, Regex.greatestDepth, Regex.depth, depth_literal]
    rw [Nat.zero_max]
    exact ih

/-- A text nests once at most: its characters stand side by side. -/
theorem depth_literals_le (f : Flags) (chars : List Char) :
    (Regex.ofParts ((literals f chars).map .set)).depth ≤ 1 := by
  match chars with
  | [] => exact Nat.zero_le 1
  | [c] => exact Nat.le_trans (Nat.le_of_eq (depth_literal f c)) (Nat.zero_le 1)
  | c :: d :: rest =>
    change 1 + Regex.greatestDepth ((literals f (c :: d :: rest)).map .set) ≤ 1
    rw [greatestDepth_literals]

theorem length_le_length_escape (chars : List Char) :
    chars.length ≤ (chars.flatMap escapeChar).length := by
  induction chars with
  | nil => exact Nat.le_refl 0
  | cons c rest ih =>
    have hone : 1 ≤ (escapeChar c).length := by
      rw [escapeChar]
      split <;> simp
    rw [List.flatMap_cons, List.length_append, List.length_cons]
    omega

/-- **The tree of an escaped text is the row of its characters**, unless that is too large. -/
theorem parse_escape (hf : f.ignoreSpace = false) (chars : List Char) :
    parse f (chars.flatMap escapeChar)
      = if (Regex.ofParts ((literals f chars).map .set)).shape.fits then
          .ok (Regex.ofParts ((literals f chars).map .set))
        else .error .size := by
  have hsteps : steps (chars.flatMap escapeChar).length ⟨[], [], f, [], []⟩
      (chars.flatMap escapeChar)
      = .ok ⟨((literals f chars).map .set).reverse ++ [], [], f, [], []⟩ :=
    steps_escape hf (length_le_length_escape chars)
  have hdepth : ¬ depthLimit < (Regex.ofParts ((literals f chars).map .set)).depth :=
    Nat.not_lt.2 (Nat.le_trans (depth_literals_le f chars) (by decide))
  have htree : ParseState.tree ⟨((literals f chars).map .set).reverse ++ [], [], f, [], []⟩
      = Regex.ofParts ((literals f chars).map .set) := by
    rw [ParseState.tree, List.append_nil, List.reverse_reverse]
    rfl
  rw [parse, hsteps]
  change (if depthLimit < (ParseState.tree _).depth then _
    else if !(ParseState.tree _).shape.fits then _ else _) = _
  rw [htree, if_neg hdepth]
  cases (Regex.ofParts ((literals f chars).map .set)).shape.fits <;> rfl

/-! ## Where a row of characters matches -/

/-- One part stands for itself. -/
theorem advance_ofParts (text : Array Char) (parts : List Regex) (places : List Nat) :
    (Regex.ofParts parts).advance text places = Regex.advanceAll text parts places := by
  match parts with
  | [] => rfl
  | [_] => rfl
  | _ :: _ :: _ => rfl

/-- What stands from a place on begins with the character at that place. -/
theorem drop_eq_cons_iff {text tail : List Char} {place : Nat} :
    text.drop place = c :: tail ↔ text[place]? = some c ∧ text.drop (place + 1) = tail := by
  rw [← List.head?_drop, ← List.tail_drop]
  cases text.drop place <;> simp

/-- **A row of sets leads past every run of characters that are members one by one.** -/
theorem mem_advanceAll_sets {text : List Char} {sets : List CharSet} {places : List Nat}
    {place : Nat} :
    place ∈ Regex.advanceAll text.toArray (sets.map .set) places
      ↔ ∃ start ∈ places, ∃ run back, text.drop start = run ++ back ∧
        List.Forall₂ (fun s c => CharSet.contains s c = true) sets run ∧
        place = start + run.length := by
  induction sets generalizing places with
  | nil =>
    constructor
    · exact fun h => ⟨place, h, [], _, rfl, .nil, rfl⟩
    · rintro ⟨start, hstart, run, back, -, hrun, rfl⟩
      cases hrun
      exact hstart
  | cons s rest ih =>
    rw [List.map_cons, Regex.advanceAll, ih]
    simp only [Regex.advance, List.mem_map, List.mem_filter]
    constructor
    · rintro ⟨_, ⟨start, ⟨hstart, hany⟩, rfl⟩, run, back, hdrop, hrun, rfl⟩
      obtain ⟨c, hc, hs⟩ := Option.any_eq_true .. |>.1 hany
      rw [List.getElem?_toArray] at hc
      refine ⟨start, hstart, c :: run, back, drop_eq_cons_iff.2 ⟨hc, hdrop⟩, .cons hs hrun, ?_⟩
      rw [List.length_cons]
      omega
    · rintro ⟨start, hstart, run, back, hdrop, hrun, rfl⟩
      obtain _ | ⟨hs, hrun⟩ := hrun
      obtain ⟨hc, hdrop⟩ := drop_eq_cons_iff.1 hdrop
      refine ⟨start + 1, ⟨start, ⟨hstart, ?_⟩, rfl⟩, _, back, hdrop, hrun, ?_⟩
      · rw [List.getElem?_toArray, hc]
        exact hs
      · rw [List.length_cons]
        omega

/-- **A row of sets matches in a text where a run of its characters are members one by one.** -/
theorem matchesIn_sets {text : List Char} {sets : List CharSet} :
    (Regex.ofParts (sets.map .set)).matchesIn text.toArray = true
      ↔ ∃ run, run <:+: text ∧ List.Forall₂ (fun s c => CharSet.contains s c = true) sets run := by
  rw [Regex.matchesIn, decide_eq_true_eq, ne_eq, List.eq_nil_iff_forall_not_mem, not_forall_not,
    advance_ofParts]
  simp only [mem_advanceAll_sets]
  constructor
  · rintro ⟨_, start, -, run, back, hdrop, hrun, -⟩
    refine ⟨run, ⟨text.take start, back, ?_⟩, hrun⟩
    rw [List.append_assoc, ← hdrop, List.take_append_drop]
  · rintro ⟨run, ⟨front, back, rfl⟩, hrun⟩
    refine ⟨_, front.length, ?_, run, back, ?_, hrun, rfl⟩
    · rw [List.mem_range, List.size_toArray]
      simp only [List.length_append]
      omega
    · rw [List.append_assoc, List.drop_left]

/-! ## Texts in either case -/

/-- **A text holds another one in either case**: some run of its characters folds to the same
characters, one by one. -/
def HoldsFolded (text term : String) : Prop :=
  ∃ run, run <:+: text.toList ∧ run.map CaseFold.fold = term.toList.map CaseFold.fold

/-- The set of a letter in either case holds the characters with the same folding. -/
theorem contains_literal (hcase : f.ignoreCase = true) (hunicode : f.unicode = true) {c d : Char} :
    (f.literal c).contains d = true ↔ CaseFold.fold c = CaseFold.fold d := by
  rw [Flags.literal, hcase, hunicode, if_pos (by rfl), Flags.folding, hcase, hunicode]
  simp [CharSet.contains, Folding.orbit, CaseFold.mem_orbit]

theorem forall₂_contains_literals (hcase : f.ignoreCase = true) (hunicode : f.unicode = true)
    {term run : List Char} :
    List.Forall₂ (fun s c => CharSet.contains s c = true) (literals f term) run
      ↔ run.map CaseFold.fold = term.map CaseFold.fold := by
  rw [literals, List.forall₂_map_left_iff]
  simp only [contains_literal hcase hunicode]
  rw [eq_comm, ← List.forall₂_eq_eq_eq, List.forall₂_map_left_iff, List.forall₂_map_right_iff]

/-- The pattern of a literal text in either case is the row of its characters, unless that is too
large. -/
theorem ofText_escape (term : String) :
    let row := Regex.ofParts ((literals { ignoreCase := true } term.toList).map .set)
    ofText (escape term) "i" = if row.shape.fits then .ok ⟨row⟩ else .error .size := by
  intro row
  have hflags : flagsOfOptions "i" = { ignoreCase := true } := by decide
  rw [ofText, escape, hflags, String.toList_ofList, parse_escape rfl]
  cases row.shape.fits <;> rfl

/-- **The pattern of a literal text in either case** can be made unless it is too large, and matches
the texts that hold the literal one in either case. -/
theorem isMatch_escape {term : String} (h : ofText (escape term) "i" ≠ .error .size) :
    ∃ p, ofText (escape term) "i" = .ok p ∧
      ∀ text, p.isMatch text = true ↔ HoldsFolded text term := by
  rw [ofText_escape] at h ⊢
  split at h
  · next hfits =>
    rw [if_pos hfits]
    refine ⟨_, rfl, fun text => ?_⟩
    rw [isMatch, matchesIn_sets]
    simp only [forall₂_contains_literals (f := { ignoreCase := true }) rfl rfl]
    rfl
  · exact absurd rfl h

end KeysetStore.Pattern
