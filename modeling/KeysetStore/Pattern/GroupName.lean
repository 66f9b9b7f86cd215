import KeysetStore.Pattern.Category
import KeysetStore.Pattern.Trait.Letter

/-!
# Pattern/GroupName — the names of groups

A name begins with a letter or an underscore and goes on with letters, numbers and a few signs.
Letters and numbers are those of Unicode 17.0, one version after the one properties ask for.
-/

namespace KeysetStore.Pattern.GroupName

/-- The letters that Unicode 17.0 added. -/
def newLetters : Ranges :=
  .ofText <| String.join [
      "88F C5C CDC A7CE-A7CF A7D2 A7D4 A7F1 10940-10959 10EC5-10EC7 10EFA-10EFB 11B60-11B67 ",
      "11DB0-11DDB 16EA0-16EB8 16EBB-16ED3 16FF2-16FF6 187F8-187FF 18D09-18D1E 18D80-18DF2 ",
      "1E6C0-1E6DE 1E6E0-1E6F5 1E6FE-1E6FF 2B73A-2B73F 2CEA2-2CEAD 323B0-33479"]

/-- The numbers that Unicode 17.0 added. -/
def newNumbers : Ranges := .ofText "11DE0-11DE9 16FF4-16FF6"

/-- The characters a name begins with. -/
def initials : Ranges := .unionAll [.ofChars ['_'], Trait.alphabetic, newLetters]

/-- The characters a name goes on with. -/
def others : Ranges :=
  .unionAll [initials, .ofChars ['.', '[', ']'], Category.ofGroup 'N', newNumbers]

/-- **Whether a text is the name of a group.** -/
def isValid : List Char → Bool
  | [] => false
  | c :: rest => initials.contains c && rest.all others.contains

end KeysetStore.Pattern.GroupName
