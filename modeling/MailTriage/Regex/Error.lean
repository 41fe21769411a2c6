import MailTriage.Text.Quoted

namespace MailTriage.Regex

inductive Problem where
  | danglingEscape
  | incompleteEscape (escape : String)
  | badEscape (escape : String)
  | octalTooLarge (escape : String)
  | missing (what : String)
  | unterminatedName (terminator : String)
  | unknownCharacterName (name : String)
  | unterminatedSet
  | badRange (first last : String)
  | emptyRange
  | nothingToRepeat
  | multipleRepeat
  | unexpectedEnd
  | badGroupName (name : String)
  | unknownGroupName (name : String)
  | badGroupNumber
  | invalidGroup (n : Nat)
  | openGroup
  | groupInSameLookbehind
  | groupRedefined (name : String) (n previous : Nat)
  | unknownExtension (text : String)
  | unterminatedComment
  | unterminatedGroup
  | tooManyBranches
  | lateGlobalFlags
  | unknownFlag
  | localeFlag
  | incompatibleFlags
  | typeFlagOff
  | globalFlagOn
  | globalFlagOff
  | flagOnAndOff
  | unbalancedParenthesis
  | lookbehindWidth
  | lookbehindTooWide
  | templateOperator (name : String)
  deriving DecidableEq, Repr

def Problem.message : Problem → String
  | danglingEscape => "bad escape (end of pattern)"
  | incompleteEscape e => "incomplete escape " ++ e
  | badEscape e => "bad escape " ++ e
  | octalTooLarge e => "octal escape value " ++ e ++ " outside of range 0-0o377"
  | missing what => "missing " ++ what
  | unterminatedName t => "missing " ++ t ++ ", unterminated name"
  | unknownCharacterName n => "undefined character name " ++ quoted n
  | unterminatedSet => "unterminated character set"
  | badRange a b => "bad character range " ++ a ++ "-" ++ b
  | emptyRange => "min repeat greater than max repeat"
  | nothingToRepeat => "nothing to repeat"
  | multipleRepeat => "multiple repeat"
  | unexpectedEnd => "unexpected end of pattern"
  | badGroupName n => "bad character in group name " ++ quoted n
  | unknownGroupName n => "unknown group name " ++ quoted n
  | badGroupNumber => "bad group number"
  | invalidGroup n => "invalid group reference " ++ toString n
  | openGroup => "cannot refer to an open group"
  | groupInSameLookbehind => "cannot refer to group defined in the same lookbehind subpattern"
  | groupRedefined name n previous =>
    "redefinition of group name " ++ quoted name ++ " as group " ++ toString n ++
      "; was group " ++ toString previous
  | unknownExtension t => "unknown extension ?" ++ t
  | unterminatedComment => "missing ), unterminated comment"
  | unterminatedGroup => "missing ), unterminated subpattern"
  | tooManyBranches => "conditional backref with more than two branches"
  | lateGlobalFlags => "global flags not at the start of the expression"
  | unknownFlag => "unknown flag"
  | localeFlag => "bad inline flags: cannot use 'L' flag with a str pattern"
  | incompatibleFlags => "bad inline flags: flags 'a', 'u' and 'L' are incompatible"
  | typeFlagOff => "bad inline flags: cannot turn off flags 'a', 'u' and 'L'"
  | globalFlagOn => "bad inline flags: cannot turn on global flag"
  | globalFlagOff => "bad inline flags: cannot turn off global flag"
  | flagOnAndOff => "bad inline flags: flag turned on and off"
  | unbalancedParenthesis => "unbalanced parenthesis"
  | lookbehindWidth => "look-behind requires fixed-width pattern"
  | lookbehindTooWide => "looks too much behind"
  | templateOperator n => "internal: unsupported template operator " ++ n

/-- Why a regular expression is refused: its text is wrong, at a place if there is one, or it asks for
something that no reading of the text could give. -/
inductive Error where
  | malformed (problem : Problem) (position : Option Nat)
  | codeTooLarge
  | repetitionTooLarge
  | numberTooLong
  | flagConflict
  deriving DecidableEq, Repr

/-- The place of a problem, with line and column where the text has several lines. -/
def placeText (pattern : List Char) (position : Nat) : String :=
  let place := " at position " ++ toString position
  if pattern.contains '\n' then
    let before := pattern.take position
    let line := before.count '\n' + 1
    let column := (before.reverse.takeWhile (· != '\n')).length + 1
    place ++ " (line " ++ toString line ++ ", column " ++ toString column ++ ")"
  else place

def Problem.describe (p : Problem) (position : Option Nat) (pattern : List Char) : String :=
  match position with
  | some n => p.message ++ placeText pattern n
  | none => p.message

end MailTriage.Regex
