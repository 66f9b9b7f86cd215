import KeysetStore.Pattern.Age
import KeysetStore.Pattern.Break.Grapheme
import KeysetStore.Pattern.Break.Sentence
import KeysetStore.Pattern.Script.Shared
import KeysetStore.Pattern.Trait.Identifier

/-!
# Pattern/Property — the properties a pattern can name

A single name is a trait, which a character has or has not, a general category or a script.  A name
and a value ask for one value of a property with several.
-/

namespace KeysetStore.Pattern.Property

/-! ## Traits -/

/-- Letters and their case. -/
def letterTraits : List NamedSet :=
  [⟨["Alphabetic", "Alpha"], Trait.alphabetic⟩,
    ⟨["Other_Alphabetic", "OAlpha"], Trait.otherAlphabetic⟩,
    ⟨["Ideographic", "Ideo"], Trait.ideographic⟩,
    ⟨["Unified_Ideograph", "UIdeo"], Trait.unifiedIdeograph⟩, ⟨["Radical"], Trait.radical⟩,
    ⟨["Lowercase", "Lower"], Trait.lowercase⟩,
    ⟨["Other_Lowercase", "OLower"], Trait.otherLowercase⟩,
    ⟨["Uppercase", "Upper"], Trait.uppercase⟩,
    ⟨["Other_Uppercase", "OUpper"], Trait.otherUppercase⟩, ⟨["Cased"], Trait.cased⟩,
    ⟨["Case_Ignorable", "CI"], Trait.caseIgnorable⟩, ⟨["Soft_Dotted", "SD"], Trait.softDotted⟩,
    ⟨["Changes_When_Lowercased", "CWL"], Trait.changesWhenLowercased⟩,
    ⟨["Changes_When_Uppercased", "CWU"], Trait.changesWhenUppercased⟩,
    ⟨["Changes_When_Titlecased", "CWT"], Trait.changesWhenTitlecased⟩,
    ⟨["Changes_When_Casemapped", "CWCM"], Trait.changesWhenCasemapped⟩,
    ⟨["Changes_When_Casefolded", "CWCF"], Trait.changesWhenCasefolded⟩]

/-- Characters of identifiers. -/
def identifierTraits : List NamedSet :=
  [⟨["Pattern_Syntax", "Pat_Syn"], Trait.patternSyntax⟩,
    ⟨["Pattern_White_Space", "Pat_WS"], Trait.patternWhiteSpace⟩,
    ⟨["Other_ID_Start", "OIDS"], Trait.otherIdStart⟩, ⟨["ID_Start", "IDS"], Trait.idStart⟩,
    ⟨["Other_ID_Continue", "OIDC"], Trait.otherIdContinue⟩,
    ⟨["ID_Continue", "IDC"], Trait.idContinue⟩, ⟨["XID_Start", "XIDS"], Trait.xidStart⟩,
    ⟨["XID_Continue", "XIDC"], Trait.xidContinue⟩,
    ⟨["ID_Compat_Math_Start"], Trait.idCompatMathStart⟩,
    ⟨["ID_Compat_Math_Continue"], Trait.idCompatMathContinue⟩]

/-- Marks, blanks and controls. -/
def markTraits : List NamedSet :=
  [⟨["Diacritic", "Dia"], Trait.diacritic⟩, ⟨["Extender", "Ext"], Trait.extender⟩,
    ⟨["Modifier_Combining_Mark", "MCM"], Trait.modifierCombiningMark⟩,
    ⟨["Other_Grapheme_Extend", "OGr_Ext"], Trait.otherGraphemeExtend⟩,
    ⟨["Grapheme_Extend", "Gr_Ext"], Trait.graphemeExtend⟩,
    ⟨["Grapheme_Base", "Gr_Base"], Trait.graphemeBase⟩,
    ⟨["Grapheme_Link", "Gr_Link"], Trait.graphemeLink⟩,
    ⟨["Logical_Order_Exception", "LOE"], Trait.logicalOrderException⟩,
    ⟨["Prepended_Concatenation_Mark", "PCM"], Trait.prependedConcatenationMark⟩,
    ⟨["White_Space", "WSpace", "space"], Trait.whiteSpace⟩,
    ⟨["Join_Control", "Join_C"], Trait.joinControl⟩,
    ⟨["Bidi_Control", "Bidi_C"], Trait.bidiControl⟩,
    ⟨["Bidi_Mirrored", "Bidi_M"], Trait.bidiMirrored⟩,
    ⟨["Variation_Selector", "VS"], Trait.variationSelector⟩,
    ⟨["Other_Default_Ignorable_Code_Point", "ODI"], Trait.otherDefaultIgnorable⟩,
    ⟨["Default_Ignorable_Code_Point", "DI"], Trait.defaultIgnorable⟩,
    ⟨["Noncharacter_Code_Point", "NChar"], Trait.noncharacter⟩,
    ⟨["Deprecated", "Dep"], Trait.deprecated⟩]

/-- Punctuation, symbols and pictures. -/
def signTraits : List NamedSet :=
  [⟨["Dash"], Trait.dash⟩, ⟨["Hyphen"], Trait.hyphen⟩,
    ⟨["Quotation_Mark", "QMark"], Trait.quotationMark⟩,
    ⟨["Sentence_Terminal", "STerm"], Trait.sentenceTerminal⟩,
    ⟨["Terminal_Punctuation", "Term"], Trait.terminalPunctuation⟩,
    ⟨["Other_Math", "OMath"], Trait.otherMath⟩, ⟨["Math"], Trait.math⟩,
    ⟨["ASCII_Hex_Digit", "AHex"], Trait.asciiHexDigit⟩, ⟨["Hex_Digit", "Hex"], Trait.hexDigit⟩,
    ⟨["IDS_Binary_Operator", "IDSB"], Trait.idsBinaryOperator⟩,
    ⟨["IDS_Trinary_Operator", "IDST"], Trait.idsTrinaryOperator⟩,
    ⟨["IDS_Unary_Operator", "IDSU"], Trait.idsUnaryOperator⟩, ⟨["Emoji"], Trait.emoji⟩,
    ⟨["Emoji_Component", "EComp"], Trait.emojiComponent⟩,
    ⟨["Emoji_Modifier", "EMod"], Trait.emojiModifier⟩,
    ⟨["Emoji_Modifier_Base", "EBase"], Trait.emojiModifierBase⟩,
    ⟨["Emoji_Presentation", "EPres"], Trait.emojiPresentation⟩,
    ⟨["Extended_Pictographic", "ExtPict"], Trait.extendedPictographic⟩,
    ⟨["Regional_Indicator", "RI"], Trait.regionalIndicator⟩]

/-- **The traits**, by name. -/
def traits : List NamedSet := letterTraits ++ identifierTraits ++ markTraits ++ signTraits

/-! ## Names -/

/-- **The characters of a single name**: a trait, a general category, or a script. -/
def named? (name : String) : Option Ranges :=
  (NamedSet.find? traits name).or <|
    (Category.named? name).or ((Script.label? name).map Script.own)

/-- **The characters for which a property has a value.** -/
def valued? (name value : String) : Option Ranges :=
  match plainName name with
  | "generalcategory" | "gc" => Category.named? value
  | "script" | "sc" => (Script.label? value).map Script.own
  | "scriptextensions" | "scx" => (Script.label? value).map Script.usedIn
  | "age" => Age.named? value
  | "graphemeclusterbreak" | "gcb" => NamedSet.find? Break.Grapheme.values value
  | "wordbreak" | "wb" => NamedSet.find? Break.Word.values value
  | "sentencebreak" | "sb" => NamedSet.find? Break.Sentence.values value
  | _ => none

end KeysetStore.Pattern.Property
