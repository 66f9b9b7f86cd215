/-!
# Pattern/Error — why a text is no pattern
-/

namespace KeysetStore

/-- Why a text is no pattern. -/
inductive PatternError where
  /-- A group, a class or a count is open at the end. -/
  | unclosed (what : String)
  /-- A parenthesis closes no group. -/
  | groupUnopened
  /-- A group name that is empty, malformed or used before. -/
  | groupName
  /-- A group that looks around without matching. -/
  | lookAround
  /-- A flag that is unknown or repeated, a sign without a flag, or no flag at all. -/
  | flags
  /-- A repetition of nothing. -/
  | repetitionMissing
  /-- A count that is no number, or a least count above the greatest. -/
  | repetitionCount
  /-- A backslash before something it does not go with. -/
  | escape
  /-- A reference to an earlier group. -/
  | backreference
  /-- Digits that name no character. -/
  | codePoint
  /-- A range from a later character to an earlier one, or between things that are no characters. -/
  | range
  /-- Something in a class that is no set of characters. -/
  | classItem
  /-- A property that does not exist. -/
  | property
  /-- A piece that could match a part of a character. -/
  | splitsCharacters
  /-- Groups or classes that nest too deep. -/
  | nesting
  /-- A pattern that would take too much memory. -/
  | size
deriving DecidableEq

namespace PatternError

/-- What is wrong, in words. -/
def message : PatternError → String
  | unclosed what => "unclosed " ++ what
  | groupUnopened => "unopened group"
  | groupName => "bad group name"
  | lookAround => "look-around is not supported"
  | flags => "bad flags"
  | repetitionMissing => "repetition of nothing"
  | repetitionCount => "bad repetition count"
  | escape => "unrecognized escape"
  | backreference => "backreferences are not supported"
  | codePoint => "no such character"
  | range => "bad character range"
  | classItem => "bad character class"
  | property => "no such property"
  | splitsCharacters => "a match could split a character"
  | nesting => "nesting is too deep"
  | size => "the compiled pattern is too large"

end PatternError

end KeysetStore
