import KeysetStore.Proofs.CompiledOrder
import KeysetStore.Proofs.Conjunction
import KeysetStore.Repository

/-!
# Proofs/KeyText — identifiers and cursors are one exact code of the primary keys

A text names a key where it is 24 hexadecimal digits of either case, and nowhere else
(`ObjectId.exists_ofHex?_iff`).  The key it names is written as that text in lower case
(`ObjectId.toHex_of_ofHex?`): writing undoes reading digit by digit (`Hex.digits_of_value?`), as
reading undoes writing.  Reading passes over case (`ObjectId.ofHex?_toLower`), so texts that differ
in case alone name one key.

Identifiers and cursors are read in this one way and differ in the words of their refusal
(`Repository.ReadsKeys`).  The cursor of a document is the text of its key, and a document without a
key has none.
-/

namespace KeysetStore

/-! ## Digits -/

namespace Hex

/-- The hexadecimal digits, of either case. -/
def alphabet : List Char := "0123456789abcdefABCDEF".toList

/-- **Each digit has a value**, whose own digit is the same one in lower case. -/
theorem exists_digitValue? {c : Char} (h : c ∈ alphabet) :
    ∃ d < 16, digitValue? c = some d ∧ digit d = c.toLower := by
  have hall : ∀ place : Fin alphabet.length, ∃ d < 16,
      digitValue? alphabet[place] = some d ∧ digit d = alphabet[place].toLower := by
    decide
  obtain ⟨place, hplace, rfl⟩ := List.getElem_of_mem h
  exact hall ⟨place, hplace⟩

/-- What holds of the codes below 128, one by one, and of all characters beyond them, holds of every
character. -/
theorem forall_of_ascii {p : Char → Prop} (hascii : ∀ code < 128, p (Char.ofNat code))
    (hbeyond : ∀ c : Char, 128 ≤ c.toNat → p c) (c : Char) : p c := by
  by_cases h : c.toNat < 128
  · rw [← Char.ofNat_toNat c]
    exact hascii _ h
  · exact hbeyond c (Nat.le_of_not_lt h)

/-- Beyond the codes below 128 no character has a value. -/
theorem digitValue?_of_le {c : Char} (h : 128 ≤ c.toNat) : digitValue? c = none := by
  have hbeyond (last : Char) (hlast : last.toNat < 128) : ¬ c ≤ last := fun hle =>
    Nat.not_lt.2 (Nat.le_trans h (UInt32.le_iff_toNat_le.1 hle)) hlast
  rw [digitValue?, if_neg fun hc => hbeyond _ (by decide) hc.2,
    if_neg fun hc => hbeyond _ (by decide) hc.2, if_neg fun hc => hbeyond _ (by decide) hc.2]

/-- **Only digits have values.** -/
theorem mem_alphabet_of_digitValue? (c : Char) : (digitValue? c).isSome → c ∈ alphabet := by
  revert c
  refine forall_of_ascii (by decide) fun c hc hsome => ?_
  rw [digitValue?_of_le hc] at hsome
  cases hsome

/-- What has a value has one below sixteen, and the digit of that value is the same one in lower
case. -/
theorem digit_of_digitValue? {c : Char} {d : Nat} (h : digitValue? c = some d) :
    d < 16 ∧ digit d = c.toLower := by
  obtain ⟨e, hlt, he, hdigit⟩ :=
    exists_digitValue? (mem_alphabet_of_digitValue? c (Option.isSome_of_eq_some h))
  obtain rfl := Option.some.inj (he.symm.trans h)
  exact ⟨hlt, hdigit⟩

/-- **The case of a digit does not matter.** -/
theorem digitValue?_toLower (c : Char) : digitValue? c.toLower = digitValue? c := by
  revert c
  refine forall_of_ascii (by decide) fun c hc => ?_
  have hcapital : ¬ (c.val ≥ 'A'.val ∧ c.val ≤ 'Z'.val) := fun h =>
    absurd (UInt32.le_iff_toNat_le.1 h.2) (Nat.not_le.2 (Nat.lt_of_lt_of_le (by decide) hc))
  have hsame : c.toLower = c := dif_neg hcapital
  rw [hsame]

/-! ## Lists of digits -/

theorem value?_cons_eq_some_iff {acc n : Nat} {c : Char} {rest : List Char} :
    value? acc (c :: rest) = some n
      ↔ ∃ d, digitValue? c = some d ∧ value? (16 * acc + d) rest = some n :=
  Option.bind_eq_some_iff

/-- **A list has a value where it is one of digits.** -/
theorem exists_value?_iff (acc : Nat) (cs : List Char) :
    (∃ n, value? acc cs = some n) ↔ ∀ c ∈ cs, c ∈ alphabet := by
  induction cs generalizing acc with
  | nil => simp [value?]
  | cons c rest ih =>
    rw [List.forall_mem_cons]
    constructor
    · rintro ⟨n, hn⟩
      obtain ⟨d, hd, hrest⟩ := value?_cons_eq_some_iff.1 hn
      exact ⟨mem_alphabet_of_digitValue? c (Option.isSome_of_eq_some hd), (ih _).1 ⟨n, hrest⟩⟩
    · rintro ⟨hc, hrest⟩
      obtain ⟨d, -, hd, -⟩ := exists_digitValue? hc
      obtain ⟨n, hn⟩ := (ih (16 * acc + d)).2 hrest
      exact ⟨n, value?_cons_eq_some_iff.2 ⟨d, hd, hn⟩⟩

section Reading

variable {cs : List Char} {acc n : Nat}

/-- **Writing undoes reading**, behind any count of digits of what was read before. -/
theorem digits_of_value? (h : value? acc cs = some n) (count : Nat) :
    digits (count + cs.length) n = digits count acc ++ cs.map Char.toLower := by
  -- The digit read first becomes the last one of those read before the rest.
  induction cs generalizing acc count with
  | nil =>
    obtain rfl := Option.some.inj h
    simp
  | cons c rest ih =>
    obtain ⟨d, hd, hrest⟩ := value?_cons_eq_some_iff.1 h
    obtain ⟨hlt, hdigit⟩ := digit_of_digitValue? hd
    calc digits (count + (c :: rest).length) n
        = digits (count + 1 + rest.length) n := by
          rw [List.length_cons, Nat.add_assoc, Nat.add_comm 1]
      _ = digits (count + 1) (16 * acc + d) ++ rest.map Char.toLower := ih hrest _
      _ = digits count acc ++ [digit d] ++ rest.map Char.toLower := by
          rw [digits, show (16 * acc + d) / 16 = acc by omega,
            show (16 * acc + d) % 16 = d by omega]
      _ = digits count acc ++ (c :: rest).map Char.toLower := by
          rw [hdigit, List.append_assoc, List.singleton_append, List.map_cons]

/-- The number that is read has no more digits than were read. -/
theorem lt_of_value? (h : value? acc cs = some n) : n < 16 ^ cs.length * (acc + 1) := by
  induction cs generalizing acc with
  | nil =>
    obtain rfl := Option.some.inj h
    simp
  | cons c rest ih =>
    obtain ⟨d, hd, hrest⟩ := value?_cons_eq_some_iff.1 h
    have hlt := (digit_of_digitValue? hd).1
    calc n < 16 ^ rest.length * (16 * acc + d + 1) := ih hrest
      _ ≤ 16 ^ rest.length * (16 * (acc + 1)) := Nat.mul_le_mul_left _ (by omega)
      _ = 16 ^ (c :: rest).length * (acc + 1) := by
          rw [List.length_cons, Nat.pow_succ, Nat.mul_assoc]

end Reading

theorem value?_map_toLower (acc : Nat) (cs : List Char) :
    value? acc (cs.map Char.toLower) = value? acc cs := by
  induction cs generalizing acc with
  | nil => rfl
  | cons c rest ih => simp only [List.map_cons, value?, digitValue?_toLower, ih]

end Hex

/-! ## Texts of keys -/

namespace ObjectId

/-- **The texts that name keys**: exactly 24 hexadecimal digits, of either case. -/
def IsText (text : String) : Prop := text.length = 24 ∧ ∀ c ∈ text.toList, c ∈ Hex.alphabet

variable {text : String} {key : ObjectId}

theorem toList_toLower (text : String) : text.toLower.toList = text.toList.map Char.toLower :=
  String.toList_map

/-- **A text names a key where it is 24 digits.** -/
theorem exists_ofHex?_iff : (∃ key, ofHex? text = some key) ↔ IsText text := by
  rw [IsText, ← String.length_toList, ← Hex.exists_value?_iff 0, ofHex?]
  by_cases hlength : text.toList.length = 24
  · rw [if_pos hlength, ← Option.isSome_iff_exists, Option.isSome_map, Option.isSome_iff_exists]
    exact (and_iff_right hlength).symm
  · simp [hlength]

/-- **The text of the key that a text names is that text in lower case.** -/
theorem toHex_of_ofHex? (h : ofHex? text = some key) : key.toHex = text.toLower := by
  rw [ofHex?] at h
  split at h
  · next hlength =>
    obtain ⟨n, hn, rfl⟩ := Option.map_eq_some_iff.1 h
    have hlt : n < 2 ^ (96 : Nat) := by
      have hdigits := Hex.lt_of_value? hn
      rw [hlength] at hdigits
      omega
    have hdigits := Hex.digits_of_value? hn 0
    rw [hlength, Hex.digits, List.nil_append, Nat.zero_add] at hdigits
    rw [toHex, ofNat, BitVec.toNat_ofNat, Nat.mod_eq_of_lt hlt, hdigits, ← toList_toLower,
      String.ofList_toList]
  · cases h

/-- **Reading passes over case.** -/
theorem ofHex?_toLower (text : String) : ofHex? text.toLower = ofHex? text := by
  rw [ofHex?, ofHex?, toList_toLower, List.length_map, Hex.value?_map_toLower]

/-- **Two texts name one key where they differ in case alone.** -/
theorem exists_ofHex?_both_iff {other : String} :
    (∃ key, ofHex? text = some key ∧ ofHex? other = some key)
      ↔ IsText text ∧ text.toLower = other.toLower := by
  constructor
  · rintro ⟨key, htext, hother⟩
    exact ⟨exists_ofHex?_iff.1 ⟨key, htext⟩,
      (toHex_of_ofHex? htext).symm.trans (toHex_of_ofHex? hother)⟩
  · rintro ⟨htext, hlower⟩
    obtain ⟨key, hkey⟩ := exists_ofHex?_iff.2 htext
    exact ⟨key, hkey, by rw [← ofHex?_toLower other, ← hlower, ofHex?_toLower, hkey]⟩

end ObjectId

/-! ## Identifiers and cursors -/

theorem Document.key?_eq_some_iff {d : Document} {key : ObjectId} :
    d.key? = some key ↔ Fields.get? d primaryKey = some (.objectId key) :=
  ⟨get?_of_key?, fun h => by rw [key?, h]⟩

namespace Repository

open ObjectId

/-- **A way of reading keys from texts is exact**, up to the case of the digits, and refuses all other
texts in its own words. -/
structure ReadsKeys (read : String → Except Error ObjectId) (refusal : String → Error) : Prop where
  /-- What is read is exactly 24 digits. -/
  accepts : ∀ text, (∃ key, read text = .ok key) ↔ IsText text
  /-- Every key is read from its text. -/
  written : ∀ key, read key.toHex = .ok key
  /-- The key of a text is written as the text in lower case. -/
  lowered : ∀ text key, read text = .ok key → key.toHex = text.toLower
  /-- Two texts are of one key where they differ in case alone. -/
  shares : ∀ text other, (∃ key, read text = .ok key ∧ read other = .ok key)
    ↔ IsText text ∧ text.toLower = other.toLower
  /-- All other texts are refused. -/
  refuses : ∀ text, ¬ IsText text → read text = .error (refusal text)
  /-- The refusal says that the argument is invalid. -/
  invalid : ∀ text, (refusal text).category = .invalidArgument

/-- **Whatever reads a key as digits and refuses in words for the caller reads keys exactly.** -/
theorem ReadsKeys.of_ofHex? {read : String → Except Error ObjectId} {refusal : String → Error}
    (hread : ∀ text, read text = (ofHex? text).elim (.error (refusal text)) .ok)
    (hinvalid : ∀ text, (refusal text).category = .invalidArgument) :
    ReadsKeys read refusal := by
  have hok (text : String) (key : ObjectId) : read text = .ok key ↔ ofHex? text = some key := by
    rw [hread]
    cases ofHex? text <;> simp
  refine ⟨fun text => ?_, fun key => ?_, fun text key h => ?_, fun text other => ?_,
    fun text h => ?_, hinvalid⟩
  · simp only [hok]
    exact exists_ofHex?_iff
  · exact (hok _ _).2 (ofHex?_toHex key)
  · exact toHex_of_ofHex? ((hok _ _).1 h)
  · simp only [hok]
    exact exists_ofHex?_both_iff
  · have hnone : ofHex? text = none := by
      rw [Option.eq_none_iff_forall_ne_some]
      exact fun key hkey => h (exists_ofHex?_iff.1 ⟨key, hkey⟩)
    rw [hread, hnone, Option.elim_none]

theorem keyOf_eq (text : String) :
    keyOf text = (ofHex? text).elim (.error (.invalidIdentifier text)) .ok := by
  rw [keyOf]
  cases ofHex? text <;> rfl

theorem keyOfCursor_eq (text : String) :
    keyOfCursor text = (ofHex? text).elim (.error (.malformedCursor text)) .ok := by
  rw [keyOfCursor]
  cases ofHex? text <;> rfl

/-- A cursor names the key that it names as an identifier. -/
theorem keyOfCursor_eq_ok_iff {text : String} {key : ObjectId} :
    keyOfCursor text = .ok key ↔ keyOf text = .ok key := by
  rw [keyOf_eq, keyOfCursor_eq]
  cases ofHex? text <;> simp

/-- **The cursor of a document names the key of the document.** -/
theorem keyOfCursor_cursorOf_eq_ok_iff {d : Document} {key : ObjectId} :
    cursorOf d >>= keyOfCursor = .ok key ↔ d.key? = some key := by
  rw [bind_eq_ok_iff]
  cases hkey : d.key? <;> simp [cursorOf, hkey, keyOfCursor_eq]

/-- A document without a key is refused a cursor, and no other one is. -/
theorem cursorOf_eq_error_iff {d : Document} :
    cursorOf d = .error .cursorKey ↔ ∀ key, d.key? ≠ some key := by
  cases hkey : d.key? <;> simp [cursorOf, hkey]

/-- **Identifiers and cursors are one exact code of the primary keys.**  Both are read from the same
texts as the same keys.  The cursor of a document is read as its key, and just the documents without
a key are refused one, as documents that do not fit. -/
theorem readsKeys_identifiers_cursors :
    ReadsKeys keyOf .invalidIdentifier ∧ ReadsKeys keyOfCursor .malformedCursor ∧
    (∀ text key, keyOfCursor text = .ok key ↔ keyOf text = .ok key) ∧
    (∀ d key, cursorOf d >>= keyOfCursor = .ok key
      ↔ Fields.get? d primaryKey = some (.objectId key)) ∧
    (∀ d, cursorOf d = .error .cursorKey
      ↔ ∀ key, Fields.get? d primaryKey ≠ some (.objectId key)) ∧
    Error.category .cursorKey = .serialization := by
  refine ⟨.of_ofHex? keyOf_eq fun _ => rfl, .of_ofHex? keyOfCursor_eq fun _ => rfl,
    fun _ _ => keyOfCursor_eq_ok_iff, fun d key => ?_, fun d => ?_, rfl⟩
  · exact keyOfCursor_cursorOf_eq_ok_iff.trans Document.key?_eq_some_iff
  · exact cursorOf_eq_error_iff.trans
      (forall_congr' fun _ => not_congr Document.key?_eq_some_iff)

/-- A key in capitals is written in lower case; a sign or a blank is no digit. -/
example : (keyOf "65F0C0FFEE00112233445566").map toHex = .ok "65f0c0ffee00112233445566" ∧
    keyOf "+5f0c0ffee0011223344556 " = .error (.invalidIdentifier "+5f0c0ffee0011223344556 ") :=
  ⟨rfl, rfl⟩

end Repository

end KeysetStore
