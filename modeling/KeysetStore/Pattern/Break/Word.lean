import KeysetStore.Pattern.NamedSet
import KeysetStore.Pattern.Script
import KeysetStore.Pattern.Trait.Letter
import KeysetStore.Pattern.Trait.Mark
import KeysetStore.Pattern.Trait.Sign

/-!
# Pattern/Break/Word — where a word ends

The part each code point plays in words.  The tables are those of Unicode 16.0.
-/

namespace KeysetStore.Pattern.Break.Word

/-- The joiner, which plays a part of its own. -/
def joiner : Ranges := .ofText "200D"

/-- What extends the character before. -/
def extend : Ranges :=
  (Ranges.unionAll [Trait.graphemeExtend, Category.ofLabels ["Mc"], Trait.emojiModifier]).diff
    joiner

/-- The signs used with Katakana. -/
def otherKatakana : Ranges := .ofText "3031-3035 309B-309C 30A0 30FC FF70"

/-- Katakana. -/
def katakana : Ranges := (Script.own "Kana").union otherKatakana

/-- The letters of Hebrew. -/
def hebrewLetter : Ranges := (Script.own "Hebr").inter (Category.ofLabels ["Lo"])

/-- The signs that count as letters within words. -/
def otherLetter : Ranges :=
  .ofText <| String.join [
      "2C2-2C5 2D2-2D7 2DE-2DF 2E5-2EB 2ED 2EF-2FF 55A-55C 55E 58A 5F3 70F A708-A716 A720-A721 ",
      "A789-A78A AB5B"]

/-- The scripts written without spaces between words. -/
def spaceless : Ranges :=
  .ofText <| String.join [
      "E01-E3A E40-E4E E81-E82 E84 E86-E8A E8C-EA3 EA5 EA7-EBD EC0-EC4 EC6 EC8-ECE EDC-EDF ",
      "1000-103F 1050-108F 109A-109F 1780-17D3 17D7 17DC-17DD 1950-196D 1970-1974 1980-19AB ",
      "19B0-19C9 19DA 19DE-19DF 1A20-1A5E 1A60-1A7C 1AA0-1AAD A9E0-A9EF A9FA-A9FE AA60-AAC2 ",
      "AADB-AADF 11700-1171A 1171D-1172B 1173A-1173B 1173F-11746"]

/-- Letters of the scripts that set spaces between words. -/
def letter : Ranges :=
  (Trait.alphabetic.union otherLetter).diff <|
    .unionAll [Trait.ideographic, katakana, spaceless, Script.own "Hira", extend, hebrewLetter]

/-- The signs that count as digits. -/
def otherNumeric : Ranges := .ofText "600-605 66B 6DD 890-891 8E2 110BD 110CD"

/-- Digits. -/
def numeric : Ranges := Category.digits.union otherNumeric

/-- The signs that do not end a word between two digits. -/
def midNumber : Ranges := .ofText "2C 3B 37E 589 60C-60D 66C 7F8 2044 FE10 FE14 FE50 FE54 FF0C FF1B"

/-- The format controls with another part. -/
def unformatted : Ranges := .ofText "70F 200B-200D"

/-- Format controls. -/
def format : Ranges := (Category.ofLabels ["Cf"]).diff (.unionAll [unformatted, extend, numeric])

/-- **The parts code points play**, by name. -/
def values : List NamedSet :=
  [⟨["CR"], .ofText "D"⟩, ⟨["LF"], .ofText "A"⟩, ⟨["Newline", "NL"], .ofText "B-C 85 2028-2029"⟩,
    ⟨["Extend"], extend⟩, ⟨["ZWJ"], joiner⟩,
    ⟨["Regional_Indicator", "RI"], Trait.regionalIndicator⟩, ⟨["Format", "FO"], format⟩,
    ⟨["Katakana", "KA"], katakana⟩, ⟨["Hebrew_Letter", "HL"], hebrewLetter⟩,
    ⟨["ALetter", "LE"], letter⟩, ⟨["Single_Quote", "SQ"], .ofText "27"⟩,
    ⟨["Double_Quote", "DQ"], .ofText "22"⟩, ⟨["MidNumLet", "MB"], Trait.midLetterOrNumber⟩,
    ⟨["MidLetter", "ML"], Trait.midLetter⟩, ⟨["MidNum", "MN"], midNumber⟩,
    ⟨["Numeric", "NU"], numeric⟩,
    ⟨["ExtendNumLet", "EX"], (Category.ofLabels ["Pc"]).union (.ofText "202F")⟩,
    ⟨["WSegSpace"], (Category.ofLabels ["Zs"]).diff (.ofText "A0 2007 202F")⟩]

end KeysetStore.Pattern.Break.Word
