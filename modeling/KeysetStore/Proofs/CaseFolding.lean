import KeysetStore.Pattern.CaseFold
import Mathlib.Data.List.Chain

/-!
# Proofs/CaseFolding — the characters that are the same up to case

The orbit of a character is looked up backward: it holds what its folding is the folding of.  It is
the class of all characters with the same folding (`CaseFold.mem_orbit`), because the table folds no
character in two ways (`CaseFold.findSome?_forward`) and none twice (`CaseFold.fold_fold`).  Both
are read off the way its stretches lie: they ascend (`CaseFold.stretches_isChain`), and none folds into
another one (`CaseFold.stretches_clear`).
-/

namespace KeysetStore.Pattern.CaseFold

/-! ## How the stretches lie -/

namespace Stretch

/-- **A stretch that is one of characters**, and folds to characters: it goes up, and neither it nor
what it folds to reaches over the surrogates. -/
structure Regular (s : Stretch) : Prop where
  le : s.first ≤ s.last
  source : s.last < 0xD800 ∨ 0xDFFF < s.first ∧ s.last < 0x110000
  target : s.target + (s.last - s.first) < 0xD800 ∨
    0xDFFF < s.target ∧ s.target + (s.last - s.first) < 0x110000

instance (s : Stretch) : Decidable s.Regular :=
  decidable_of_iff
    (s.first ≤ s.last ∧ (s.last < 0xD800 ∨ 0xDFFF < s.first ∧ s.last < 0x110000) ∧
      (s.target + (s.last - s.first) < 0xD800 ∨
        0xDFFF < s.target ∧ s.target + (s.last - s.first) < 0x110000))
    ⟨fun ⟨le, source, target⟩ => ⟨le, source, target⟩, fun ⟨le, source, target⟩ =>
      ⟨le, source, target⟩⟩

/-- One stretch ends before another one begins. -/
def Precedes (s t : Stretch) : Prop := s.last < t.first ∧ t.first ≤ t.last

instance : DecidableRel Precedes := fun s t =>
  inferInstanceAs (Decidable (s.last < t.first ∧ t.first ≤ t.last))

instance : Trans Precedes Precedes Precedes where
  trans h h' := ⟨Nat.lt_of_lt_of_le h.1 (Nat.le_trans h.2 (Nat.le_of_lt h'.1)), h'.2⟩

/-- Whether a stretch and what another one folds to go by twos, past each other. -/
def alternates (s t : Stretch) : Bool :=
  t.stride = 2 && (s.stride = 2 || s.first = s.last) && (s.target + t.first) % 2 = 1

/-- **Whether a stretch folds into none of some ascending ones**, of which those behind what it
folds to are passed over, and those beyond it are not looked at. -/
def clears (s : Stretch) : List Stretch → Bool
  | [] => true
  | t :: rest =>
    bif t.last.blt s.target then s.clears rest
    else (s.target + (s.last - s.first)).blt t.first || (s.alternates t && s.clears rest)

end Stretch

/-- All stretches are of characters. -/
theorem stretches_regular : ∀ s ∈ stretches, s.Regular := by decide +kernel

/-- **The stretches ascend.** -/
theorem stretches_isChain : stretches.IsChain Stretch.Precedes := by decide +kernel

/-- **No stretch folds into another one.** -/
theorem stretches_clear : ∀ s ∈ stretches, s.clears stretches := by decide +kernel

/-! ## Folding by one stretch -/

namespace Stretch

variable {s t : Stretch} {code folded : Nat}

theorem forward?_eq_some_iff : s.forward? code = some folded ↔
    (s.first ≤ code ∧ code ≤ s.last ∧ (code - s.first) % s.stride = 0) ∧
      s.target + (code - s.first) = folded := by
  rw [forward?]
  split
  · next h => simp [h]
  · next h => exact iff_of_false nofun fun h' => h h'.1

/-- **A stretch is looked up backward as it folds forward.** -/
theorem backward?_eq_some_iff (hle : s.first ≤ s.last) :
    s.backward? folded = some code ↔ s.forward? code = some folded := by
  rw [forward?_eq_some_iff, backward?]
  constructor
  · intro h
    split at h
    · next hfolded =>
      obtain ⟨htarget, hlast, hstride⟩ := hfolded
      obtain rfl := Option.some.inj h
      rw [Nat.add_sub_cancel_left]
      exact ⟨⟨Nat.le_add_right _ _, by omega, hstride⟩, by omega⟩
    · cases h
  · rintro ⟨⟨hfirst, hlast, hstride⟩, rfl⟩
    rw [if_pos ⟨Nat.le_add_right _ _, by omega, by rwa [Nat.add_sub_cancel_left]⟩]
    exact congrArg some (by omega)

theorem forward?_eq_none_of_precedes (h : s.Precedes t) (hcode : t.first ≤ code) :
    s.forward? code = none := by
  rw [forward?, if_neg fun hs => by have := h.1; omega]

/-- What a stretch folds to, and what it folds, are characters. -/
theorem Regular.isValidChar (h : s.Regular) (hforward : s.forward? code = some folded) :
    code.isValidChar ∧ folded.isValidChar := by
  obtain ⟨⟨hfirst, hlast, -⟩, rfl⟩ := forward?_eq_some_iff.1 hforward
  obtain ⟨hle, hsource, htarget⟩ := h
  exact ⟨by unfold Nat.isValidChar; omega, by unfold Nat.isValidChar; omega⟩

/-- Past a stretch by twos there is no way into it. -/
theorem forward?_of_alternates (h : s.alternates t) (hforward : s.forward? code = some folded) :
    t.forward? folded = none := by
  obtain ⟨⟨hfirst, hlast, hstride⟩, rfl⟩ := forward?_eq_some_iff.1 hforward
  simp only [alternates, Bool.and_eq_true, Bool.or_eq_true, decide_eq_true_eq] at h
  obtain ⟨⟨ht, hs⟩, hodd⟩ := h
  have heven : (code - s.first) % 2 = 0 := by
    rcases hs with hs | hs
    · rwa [hs] at hstride
    · omega
  rw [forward?, ht, if_neg (by omega)]

/-- **A stretch that clears others folds no character into them.** -/
theorem forward?_of_clears {others : List Stretch} (hothers : others.Pairwise Precedes)
    (hregular : ∀ t ∈ others, t.Regular) (h : s.clears others)
    (hforward : s.forward? code = some folded) : ∀ t ∈ others, t.forward? folded = none := by
  obtain ⟨⟨hfirst, hlast, -⟩, hfolded⟩ := forward?_eq_some_iff.1 hforward
  induction others with
  | nil => exact nofun
  | cons next rest ih =>
    have hrest := ih (List.pairwise_cons.1 hothers).2 fun t ht =>
      hregular t (List.mem_cons_of_mem _ ht)
    rw [List.forall_mem_cons]
    rw [clears] at h
    cases hbehind : next.last.blt s.target <;> rw [hbehind] at h
    case true =>
      rw [Nat.blt_eq] at hbehind
      exact ⟨by rw [forward?, if_neg (by omega)], hrest h⟩
    case false =>
      rcases Bool.or_eq_true_iff.1 h with hbeyond | h
      · -- All later stretches begin behind this one.
        rw [Nat.blt_eq] at hbeyond
        refine ⟨by rw [forward?, if_neg (by omega)], fun t ht => ?_⟩
        have hle := (hregular next List.mem_cons_self).le
        have hlt := ((List.pairwise_cons.1 hothers).1 t ht).1
        rw [forward?, if_neg (by omega)]
      · obtain ⟨halternates, h⟩ := Bool.and_eq_true_iff.1 h
        exact ⟨forward?_of_alternates halternates hforward, hrest h⟩

end Stretch

/-! ## Folding by the table -/

theorem pairwise_stretches : stretches.Pairwise Stretch.Precedes :=
  List.isChain_iff_pairwise.1 stretches_isChain

variable {s : Stretch} {code folded : Nat}

/-- **A character is folded in one way**: no stretch before the one that folds it does so. -/
theorem findSome?_forward (hs : s ∈ stretches) (h : s.forward? code = some folded) :
    stretches.findSome? (·.forward? code) = some folded := by
  obtain ⟨front, back, hstretches⟩ := List.append_of_mem hs
  refine List.findSome?_eq_some_iff.2 ⟨front, s, back, hstretches, h, fun t ht => ?_⟩
  have hpairwise := pairwise_stretches
  rw [hstretches] at hpairwise
  refine Stretch.forward?_eq_none_of_precedes
    ((List.pairwise_append.1 hpairwise).2.2 t ht s List.mem_cons_self) ?_
  exact (Stretch.forward?_eq_some_iff.1 h).1.1

/-- **What is folded to is not folded again.** -/
theorem findSome?_folded (hs : s ∈ stretches) (h : s.forward? code = some folded) :
    stretches.findSome? (·.forward? folded) = none :=
  List.findSome?_eq_none_iff.2 <|
    Stretch.forward?_of_clears pairwise_stretches stretches_regular (stretches_clear s hs) h

theorem toNat_ofNat {n : Nat} (h : n.isValidChar) : (Char.ofNat n).toNat = n := by
  rw [Char.ofNat, dif_pos h]
  rfl

/-- A character that is folded, and what it folds to. -/
theorem fold_of_forward {c : Char} (hs : s ∈ stretches) (h : s.forward? c.toNat = some folded) :
    fold c = Char.ofNat folded := by
  rw [fold, findSome?_forward hs h]
  rfl

/-- A character folds to itself, or some stretch folds it. -/
theorem fold_eq_or (c : Char) :
    fold c = c ∨ ∃ s ∈ stretches, s.forward? c.toNat = some (fold c).toNat := by
  cases h : stretches.findSome? (·.forward? c.toNat) with
  | none =>
    refine .inl ?_
    rw [fold, h]
    rfl
  | some folded =>
    obtain ⟨s, hs, hforward⟩ := List.exists_of_findSome?_eq_some h
    refine .inr ⟨s, hs, ?_⟩
    rw [fold_of_forward hs hforward,
      toNat_ofNat ((stretches_regular s hs).isValidChar hforward).2, hforward]

/-- **Folding twice is folding once.** -/
theorem fold_fold (c : Char) : fold (fold c) = fold c := by
  rcases fold_eq_or c with h | ⟨s, hs, hforward⟩
  · rw [h, h]
  · rw [fold, findSome?_folded hs hforward]
    rfl

/-- **A character is in the orbit of another one where both have the same folding.** -/
theorem mem_orbit {c d : Char} : d ∈ orbit c ↔ fold d = fold c := by
  rw [orbit, preimages, List.mem_cons, List.mem_filterMap]
  constructor
  · rintro (rfl | ⟨s, hs, h⟩)
    · exact fold_fold c
    · obtain ⟨code, hbackward, rfl⟩ := Option.map_eq_some_iff.1 h
      have hregular := stretches_regular s hs
      have hforward := (Stretch.backward?_eq_some_iff hregular.le).1 hbackward
      have hfold : fold (Char.ofNat code) = Char.ofNat (fold c).toNat := by
        refine fold_of_forward hs ?_
        rwa [toNat_ofNat (hregular.isValidChar hforward).1]
      rw [hfold, Char.ofNat_toNat]
  · intro h
    rcases fold_eq_or d with hd | ⟨s, hs, hforward⟩
    · exact .inl (hd.symm.trans h)
    · refine .inr ⟨s, hs, Option.map_eq_some_iff.2 ⟨d.toNat, ?_, Char.ofNat_toNat d⟩⟩
      rw [Stretch.backward?_eq_some_iff (stretches_regular s hs).le, ← h]
      exact hforward

end KeysetStore.Pattern.CaseFold
