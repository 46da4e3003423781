import ApiRouter.Pattern
import ApiRouter.Text.Quoted

set_option autoImplicit false

/-! # Offences against the grammar of regular expressions

What can be wrong with a text that should be a regular expression, and how a message puts it. -/

namespace ApiRouter.Pattern

/-! ## What can be wrong with an expression -/

/-- An offence against the grammar; a token that is to blame is given as its text. -/
inductive Cause where
  | trailingBackslash
  | unterminatedSet
  | badRange (low high : String)
  | badEscape (token : String)
  | incompleteEscape (token : String)
  | octalTooLarge (token : String)
  | missingBrace
  | undefinedCharacterName (name : String)
  | missingCharacterName
  | unterminatedCharacterName
  | nothingToRepeat
  | multipleRepeat
  | reversedRepeat
  | endInGroupHead
  | unknownExtension (text : String)
  | missingGroupName
  | unterminatedGroupName (mark : Char)
  | badGroupName (name : String)
  | unknownGroupName (name : String)
  | redefinedGroup (name : String) (group earlier : Nat)
  | badGroupNumber
  | openGroupReference
  | siblingLookBehindReference
  | invalidGroupReference (group : Nat)
  | unterminatedGroup
  | unterminatedComment
  | tooManyBranches
  | misplacedFlags
  | unknownFlag
  | missingFlag
  | missingFlagsEnd
  | missingFlagsColon
  | localeFlag
  | unicodeFlag
  | incompatibleFlags
  | typeFlagOff
  | globalFlagOn
  | globalFlagOff
  | flagOnAndOff
  | unbalancedParenthesis
  | looseLookBehind
  | repeatedTemplate (greed : Greed)
  deriving DecidableEq, Repr

/-- The wording of an offence. -/
def Cause.message : Cause → String
  | .trailingBackslash => "bad escape (end of pattern)"
  | .unterminatedSet => "unterminated character set"
  | .badRange low high => "bad character range " ++ low ++ "-" ++ high
  | .badEscape token => "bad escape " ++ token
  | .incompleteEscape token => "incomplete escape " ++ token
  | .octalTooLarge token => "octal escape value " ++ token ++ " outside of range 0-0o377"
  | .missingBrace => "missing \x7b"
  | .undefinedCharacterName name => "undefined character name " ++ Text.quoted name
  | .missingCharacterName => "missing character name"
  | .unterminatedCharacterName => "missing \x7d, unterminated name"
  | .nothingToRepeat => "nothing to repeat"
  | .multipleRepeat => "multiple repeat"
  | .reversedRepeat => "min repeat greater than max repeat"
  | .endInGroupHead => "unexpected end of pattern"
  | .unknownExtension text => "unknown extension ?" ++ text
  | .missingGroupName => "missing group name"
  | .unterminatedGroupName mark => "missing " ++ String.ofList [mark] ++ ", unterminated name"
  | .badGroupName name => "bad character in group name " ++ Text.quoted name
  | .unknownGroupName name => "unknown group name " ++ Text.quoted name
  | .redefinedGroup name group earlier =>
    "redefinition of group name " ++ Text.quoted name ++ " as group " ++ toString group ++
      "; was group " ++ toString earlier
  | .badGroupNumber => "bad group number"
  | .openGroupReference => "cannot refer to an open group"
  | .siblingLookBehindReference => "cannot refer to group defined in the same lookbehind subpattern"
  | .invalidGroupReference group => "invalid group reference " ++ toString group
  | .unterminatedGroup => "missing ), unterminated subpattern"
  | .unterminatedComment => "missing ), unterminated comment"
  | .tooManyBranches => "conditional backref with more than two branches"
  | .misplacedFlags => "global flags not at the start of the expression"
  | .unknownFlag => "unknown flag"
  | .missingFlag => "missing flag"
  | .missingFlagsEnd => "missing -, : or )"
  | .missingFlagsColon => "missing :"
  | .localeFlag => "bad inline flags: cannot use 'L' flag with a str pattern"
  | .unicodeFlag => "bad inline flags: cannot use 'u' flag with a bytes pattern"
  | .incompatibleFlags => "bad inline flags: flags 'a', 'u' and 'L' are incompatible"
  | .typeFlagOff => "bad inline flags: cannot turn off flags 'a', 'u' and 'L'"
  | .globalFlagOn => "bad inline flags: cannot turn on global flag"
  | .globalFlagOff => "bad inline flags: cannot turn off global flag"
  | .flagOnAndOff => "bad inline flags: flag turned on and off"
  | .unbalancedParenthesis => "unbalanced parenthesis"
  | .looseLookBehind => "look-behind requires fixed-width pattern"
  | .repeatedTemplate greed => "internal: unsupported template operator " ++ match greed with
    | .greedy => "MAX_REPEAT"
    | .reluctant => "MIN_REPEAT"
    | .possessive => "POSSESSIVE_REPEAT"

/-- Why a text is no regular expression. -/
inductive Error where
  /-- A rule is broken; the place counts the characters before it. -/
  | malformed (cause : Cause) (place : Option Nat)
  /-- A repetition count is beyond all bounds. -/
  | hugeRepeat
  /-- The expression asks for ASCII alone, and for all scripts or those of the surroundings. -/
  | contradictoryFlags
  /-- The parts are nested too deeply. -/
  | tooDeep
  deriving DecidableEq, Repr

/-- The offence with its place; an expression of several lines is given line and column as well. -/
def describe (source : String) (cause : Cause) (place : Option Nat) : String :=
  match place with
  | none => cause.message
  | some n =>
    let cs := source.toList
    let before := cs.take n
    let line := before.count '\n' + 1
    let column := (before.reverse.takeWhile (· != '\n')).length + 1
    cause.message ++ " at position " ++ toString n ++
      (if cs.contains '\n' then
        " (line " ++ toString line ++ ", column " ++ toString column ++ ")"
      else "")

/-- The offence in an expression for bytes, in ASCII. -/
def describeBytes (source : List UInt8) (cause : Cause) (place : Option Nat) : String :=
  Text.inAscii (describe (String.ofList (Text.charsOfBytes source)) cause place)

end ApiRouter.Pattern
