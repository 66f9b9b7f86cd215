import KeysetStore.Pattern.Break.Word

/-!
# Pattern/Break/Sentence — where a sentence ends

The part each code point plays in sentences.  The tables are those of Unicode 16.0.
-/

namespace KeysetStore.Pattern.Break.Sentence

/-- What extends the character before. -/
def extend : Ranges :=
  .unionAll [Trait.graphemeExtend, Category.ofLabels ["Mc"], .ofText "200D"]

/-- Digits, and the separator of thousands. -/
def numeric : Ranges := Break.Word.numeric.union (.ofText "66C")

/-- Format controls. -/
def format : Ranges :=
  (Category.ofLabels ["Cf"]).diff (.unionAll [extend, numeric, .ofText "200C-200D"])

/-- Blanks within a line. -/
def space : Ranges := Trait.whiteSpace.diff (.ofText "A D 85 2028-2029")

/-- The Georgian letters whose capitals are used in titles only. -/
def caselessSmall : Ranges := .ofText "10D0-10FA 10FD-10FF"

/-- These capitals. -/
def caselessCapital : Ranges := .ofText "1C90-1CBA 1CBD-1CBF"

/-- Small letters. -/
def small : Ranges := Trait.lowercase.diff (Trait.graphemeExtend.union caselessSmall)

/-- Capitals, and the letters of titles. -/
def capital : Ranges := (Trait.uppercase.union (Category.ofLabels ["Lt"])).diff caselessCapital

/-- All other letters. -/
def otherLetter : Ranges :=
  (Trait.alphabetic.union (.ofText "5F3")).diff (.unionAll [small, capital, extend])

/-- Full stops, which may also stand within a sentence. -/
def stop : Ranges := .ofText "2E 2024 FE52 FF0E"

/-- Signs between the parts of a sentence. -/
def continued : Ranges :=
  .ofText <| String.join [
      "2C-2D 3A-3B 37E 55D 60C-60D 7F8 1802 1808 2013-2014 3001 FE10-FE11 FE13-FE14 FE31-FE32 ",
      "FE50-FE51 FE54-FE55 FE58 FE63 FF0C-FF0D FF1A-FF1B FF64"]

/-- Signs that always end a sentence. -/
def terminal : Ranges := Trait.sentenceTerminal.diff stop

/-- The quotation marks that are none by category. -/
def otherQuote : Ranges := .ofText "22 27 275B-2760 2E00-2E01 2E06-2E08 2E0B 1F676-1F678"

/-- Brackets and quotation marks. -/
def closing : Ranges :=
  ((Category.ofLabels ["Ps", "Pe", "Pi", "Pf"]).union otherQuote).diff (.unionAll [stop, terminal])

/-- **The parts code points play**, by name. -/
def values : List NamedSet :=
  [⟨["CR"], .ofText "D"⟩, ⟨["LF"], .ofText "A"⟩, ⟨["Sep", "SE"], .ofText "85 2028-2029"⟩,
    ⟨["Extend", "EX"], extend⟩, ⟨["Format", "FO"], format⟩, ⟨["Sp", "SP"], space⟩,
    ⟨["Lower", "LO"], small⟩, ⟨["Upper", "UP"], capital⟩, ⟨["OLetter", "LE"], otherLetter⟩,
    ⟨["Numeric", "NU"], numeric⟩, ⟨["ATerm", "AT"], stop⟩, ⟨["SContinue", "SC"], continued⟩,
    ⟨["STerm", "ST"], terminal⟩, ⟨["Close", "CL"], closing⟩]

end KeysetStore.Pattern.Break.Sentence
