import KeysetStore.Pattern.NamedSet
import KeysetStore.Pattern.Trait.Mark
import KeysetStore.Pattern.Trait.Sign

/-!
# Pattern/Break/Grapheme — where a character of the reader ends

The part each code point plays in the characters a reader sees.  The tables are those of Unicode
16.0.
-/

namespace KeysetStore.Pattern.Break.Grapheme

/-- What extends the character before. -/
def extend : Ranges := Trait.graphemeExtend.union Trait.emojiModifier

/-- The ends of lines and the joiner, which play parts of their own. -/
def ends : Ranges := .ofText "A D 200D"

/-- Controls, among them the places kept for some. -/
def control : Ranges :=
  let kept := (Category.ofLabels ["Cn"]).inter Trait.defaultIgnorable
  (kept.union (Category.ofLabels ["Zl", "Zp", "Cc", "Cf"])).diff <|
    .unionAll [ends, extend, Trait.prependedConcatenationMark]

/-- What begins the character after it. -/
def prepended : Ranges :=
  .ofText <| String.join [
      "600-605 6DD 70F 890-891 8E2 D4E 110BD 110CD 111C2-111C3 113D1 1193F 11941 11A3A ",
      "11A84-11A89 11D46 11F02"]

/-- Vowels within syllables. -/
def vowel : Ranges := .ofText "1160-11A7 D7B0-D7C6 16D63 16D67-16D6A"

/-- Spacing marks that stand by themselves. -/
def standingMark : Ranges :=
  .ofText <| String.join [
      "102B-102C 1038 1062-1064 1067-106D 1083 1087-108C 108F 109A-109C 1A61 1A63-1A64 AA7B AA7D ",
      "11720-11721"]

/-- The vowels of Thai and Lao that are spacing marks here. -/
def thaiMark : Ranges := .ofText "E33 EB3"

/-- Spacing marks, which go with the character before. -/
def spacingMark : Ranges :=
  ((Category.ofLabels ["Mc"]).union thaiMark).diff (.unionAll [extend, standingMark, vowel])

/-- The composed syllables of Korean. -/
def syllable : Ranges := .ofText "AC00-D7A3"

/-- Those of them that end with a vowel: every 28th. -/
def openSyllable : Ranges :=
  .ofList ((List.range 399).map fun n => (0xAC00 + 28 * n, 0xAC00 + 28 * n))

/-- **The parts code points play**, by name. -/
def values : List NamedSet :=
  [⟨["CR"], .ofText "D"⟩, ⟨["LF"], .ofText "A"⟩, ⟨["ZWJ"], .ofText "200D"⟩,
    ⟨["Control", "CN"], control⟩, ⟨["Extend", "EX"], extend⟩, ⟨["Prepend", "PP"], prepended⟩,
    ⟨["SpacingMark", "SM"], spacingMark⟩, ⟨["Regional_Indicator", "RI"], Trait.regionalIndicator⟩,
    ⟨["L"], .ofText "1100-115F A960-A97C"⟩, ⟨["V"], vowel⟩, ⟨["T"], .ofText "11A8-11FF D7CB-D7FB"⟩,
    ⟨["LV"], openSyllable⟩, ⟨["LVT"], syllable.diff openSyllable⟩]

end KeysetStore.Pattern.Break.Grapheme
