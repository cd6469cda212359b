import TapScript.Integer

/-! # Errors in patterns

What can be wrong with a pattern, and where. The place is a character position, with line and
column when the pattern has several lines.
-/

namespace TapScript.Regex

/-- What is wrong with a pattern. -/
inductive Complaint
  | badEscape (escape : String)
  | escapeAtEnd
  | incompleteEscape (escape : String)
  | octalTooLarge (escape : String)
  | missingBrace
  | undefinedCharacter (name : String)
  | openGroup
  | groupInLookBehind
  | noSuchGroup (number : Nat)
  | noSuchName (name : String)
  | badGroupName (name : String)
  | badGroupNumber
  | nameTaken (name : String) (group earlier : Nat)
  | missingGroupName
  | unterminatedName (closing : String)
  | missingCharacterName
  | unterminatedSet
  | badRange (low high : String)
  | repeatBounds
  | repeatTooLarge
  | repeatTooLong (digits : Nat)
  | nothingToRepeat
  | multipleRepeat
  | unexpectedEnd
  | unknownExtension (text : String)
  | unterminatedComment
  | unterminatedGroup
  | threeBranches
  | lateFlags
  | flagForBytes
  | flagsIncompatible
  | flagNotScoped
  | flagNotUnset
  | flagTypeUnset
  | flagBothWays
  | unknownFlag
  | missingFlag
  | missingFlagEnd
  | missingColon
  | unbalanced
  | variableLookBehind
  | distantLookBehind
  | repeatInTemplate (name : String)
  | asciiAndUnicode
  | tooDeep (message : String)
  deriving DecidableEq, Repr

namespace Complaint

def message : Complaint → String
  | badEscape e => s!"bad escape {e}"
  | escapeAtEnd => "bad escape (end of pattern)"
  | incompleteEscape e => s!"incomplete escape {e}"
  | octalTooLarge e => s!"octal escape value {e} outside of range 0-0o377"
  | missingBrace => "missing \x7b"
  | undefinedCharacter n => s!"undefined character name {Text.quoted n}"
  | openGroup => "cannot refer to an open group"
  | groupInLookBehind => "cannot refer to group defined in the same lookbehind subpattern"
  | noSuchGroup n => s!"invalid group reference {n}"
  | noSuchName n => s!"unknown group name {Text.quoted n}"
  | badGroupName n => s!"bad character in group name {Text.quoted n}"
  | badGroupNumber => "bad group number"
  | nameTaken n g e => s!"redefinition of group name {Text.quoted n} as group {g}; was group {e}"
  | missingGroupName => "missing group name"
  | unterminatedName c => s!"missing {c}, unterminated name"
  | missingCharacterName => "missing character name"
  | unterminatedSet => "unterminated character set"
  | badRange l h => s!"bad character range {l}-{h}"
  | repeatBounds => "min repeat greater than max repeat"
  | repeatTooLarge => "the repetition number is too large"
  | repeatTooLong n => (IntegerError.tooLong n).message
  | nothingToRepeat => "nothing to repeat"
  | multipleRepeat => "multiple repeat"
  | unexpectedEnd => "unexpected end of pattern"
  | unknownExtension t => s!"unknown extension ?{t}"
  | unterminatedComment => "missing ), unterminated comment"
  | unterminatedGroup => "missing ), unterminated subpattern"
  | threeBranches => "conditional backref with more than two branches"
  | lateFlags => "global flags not at the start of the expression"
  | flagForBytes => "bad inline flags: cannot use 'L' flag with a str pattern"
  | flagsIncompatible => "bad inline flags: flags 'a', 'u' and 'L' are incompatible"
  | flagNotScoped => "bad inline flags: cannot turn on global flag"
  | flagNotUnset => "bad inline flags: cannot turn off global flag"
  | flagTypeUnset => "bad inline flags: cannot turn off flags 'a', 'u' and 'L'"
  | flagBothWays => "bad inline flags: flag turned on and off"
  | unknownFlag => "unknown flag"
  | missingFlag => "missing flag"
  | missingFlagEnd => "missing -, : or )"
  | missingColon => "missing :"
  | unbalanced => "unbalanced parenthesis"
  | variableLookBehind => "look-behind requires fixed-width pattern"
  | distantLookBehind => "looks too much behind"
  | repeatInTemplate n => s!"internal: unsupported template operator {n}"
  | asciiAndUnicode => "ASCII and UNICODE flags are incompatible"
  | tooDeep m => m

end Complaint

/-- A complaint about a pattern, with its place unless it concerns the pattern as a whole. -/
structure Error where
  complaint : Complaint
  position : Option Nat
  pattern : String
  deriving DecidableEq, Repr

namespace Error

/-- The place of a character as a position, with line and column in a pattern of several lines. -/
def placeText (pattern : List Char) (n : Nat) : String :=
  if pattern.contains '\n' then
    let before := pattern.take n
    let line := before.count '\n' + 1
    let column := (before.reverse.takeWhile (· != '\n')).length + 1
    s!" at position {n} (line {line}, column {column})"
  else s!" at position {n}"

def message (e : Error) : String :=
  match e.position with
  | some n => e.complaint.message ++ placeText e.pattern.toList n
  | none => e.complaint.message

end Error

end TapScript.Regex
