import Storyboard.Decimal.Limit
import Storyboard.Text.Quoted

/-!
# Why a text is no expression

The causes are kept apart by what notices them: the tokens of a text, the pieces of a text literal,
the expressions inside of a formatted text, and the grammar.  Each has its wording here.
-/

namespace Storyboard
namespace Expression

/-! ## Tokens -/

inductive NumeralKind where
  | decimal
  | hexadecimal
  | octal
  | binary
  | imaginary
deriving DecidableEq, Repr

def NumeralKind.name : NumeralKind → String
  | .decimal => "decimal"
  | .hexadecimal => "hexadecimal"
  | .octal => "octal"
  | .binary => "binary"
  | .imaginary => "imaginary"

inductive TokenFault where
  | numeral (kind : NumeralKind)
  | digit (c : Char) (kind : NumeralKind)
  | leadingZeros
  | openText (isLong : Bool) (line : Nat)
  | unmatched (bracket : Char)
  /-- The opening bracket may stand on an earlier line. -/
  | mismatched (closing opening : Char) (line : Option Nat)
  | tooManyBrackets
  | character (c : Char)
  | nullCharacter
  | continuation
  | endOfText
  | neverClosed (bracket : Char)
  | unevenIndent
deriving DecidableEq, Repr

def TokenFault.message : TokenFault → String
  | .numeral kind => s!"invalid {kind.name} literal"
  | .digit c kind => s!"invalid digit '{c}' in {kind.name} literal"
  | .leadingZeros =>
      "leading zeros in decimal integer literals are not permitted; " ++
        "use an 0o prefix for octal integers"
  | .openText false line => s!"unterminated string literal (detected at line {line})"
  | .openText true line => s!"unterminated triple-quoted string literal (detected at line {line})"
  | .unmatched bracket => s!"unmatched '{bracket}'"
  | .mismatched closing opening none =>
      s!"closing parenthesis '{closing}' does not match opening parenthesis '{opening}'"
  | .mismatched closing opening (some line) =>
      s!"closing parenthesis '{closing}' does not match opening parenthesis '{opening}' " ++
        s!"on line {line}"
  | .tooManyBrackets => "too many nested parentheses"
  | .character c =>
      let code := String.ofList ((Text.hexCode 4 c.toNat).map Char.toUpper)
      if Text.inRanges Text.unprintableRanges c then s!"invalid non-printable character U+{code}"
      else s!"invalid character '{c}' (U+{code})"
  | .nullCharacter => "source code string cannot contain null bytes"
  | .continuation => "unexpected character after line continuation character"
  | .endOfText => "unexpected EOF while parsing"
  | .neverClosed bracket => s!"'{bracket}' was never closed"
  | .unevenIndent => "unindent does not match any outer indentation level"

/-! ## Literals -/

inductive EscapeFault where
  /-- The code behind this letter has too few digits. -/
  | truncated (letter : Char)
  | noCharacter
  | malformedName
  | unknownName
deriving DecidableEq, Repr

def EscapeFault.message : EscapeFault → String
  | .truncated letter =>
      let digits := match letter with
        | 'x' => "XX"
        | 'u' => "XXXX"
        | _ => "XXXXXXXX"
      s!"truncated \\{letter}{digits} escape"
  | .noCharacter => "illegal Unicode character"
  | .malformedName => "malformed \\N character escape"
  | .unknownName => "unknown Unicode character name"

inductive LiteralFault where
  | tooManyDigits (digits : Nat)
  | mixedKinds
  | notAscii
  /-- The escape takes the positions up to the last one. -/
  | escape (first last : Nat) (fault : EscapeFault)
  | byteEscape (position : Nat)
deriving DecidableEq, Repr

def LiteralFault.message : LiteralFault → String
  | .tooManyDigits digits =>
      Decimal.tooManyDigitsMessage digits ++
        " - Consider hexadecimal for huge integer literals to avoid decimal conversion limits."
  | .mixedKinds => "cannot mix bytes and nonbytes literals"
  | .notAscii => "bytes can only contain ASCII literal characters"
  | .escape first last fault =>
      s!"(unicode error) 'unicodeescape' codec can't decode bytes in position {first}-{last}: " ++
        fault.message
  | .byteEscape position => s!"(value error) invalid \\x escape at position {position}"

/-! ## Formatted texts -/

/-- What is wrong with a formatted text around its expressions. -/
inductive FormatFault where
  | singleBrace
  | braceMissing
  | nothingIn
  | nothingBefore (mark : Char)
  | backslash
  | comment
  | openText
  | unmatched (bracket : Char)
  | mismatched (closing opening : Char)
  | conversion
  | tooDeep
  | tooManyBrackets
deriving DecidableEq, Repr

def FormatFault.message : FormatFault → String
  | .singleBrace => "f-string: single '\x7d' is not allowed"
  | .braceMissing => "f-string: expecting '\x7d'"
  | .nothingIn => "f-string: empty expression not allowed"
  | .nothingBefore mark => s!"f-string: expression required before '{mark}'"
  | .backslash => "f-string expression part cannot include a backslash"
  | .comment => "f-string expression part cannot include '#'"
  | .openText => "f-string: unterminated string"
  | .unmatched bracket => s!"f-string: unmatched '{bracket}'"
  | .mismatched closing opening =>
      s!"f-string: closing parenthesis '{closing}' does not match opening parenthesis '{opening}'"
  | .conversion => "f-string: invalid conversion character: expected 's', 'r', or 'a'"
  | .tooDeep => "f-string: expressions nested too deeply"
  | .tooManyBrackets => "f-string: too many nested parenthesis"

/-! ## Grammar -/

inductive GrammarFault where
  | noExpression
  | indent
  | commaMissing
  | elseMissing
  | callWithoutParentheses (name : String)
  /-- An assignment inside of an expression to something else than a name. -/
  | assignmentTo (kind : String)
  | equalsMeant
  | notAssignableHere (kind : String)
  | notAssignable (kind : String)
  | starred
  | starAlone
  | doubleStarred
  | bareGenerator
  | positionalBehindKeyword
  | positionalBehindMapping
  | iterableBehindMapping
  | assignmentAsArgument
  | starredInComprehension
  | bareComprehensionTarget
  | mappingInComprehension
  | starredValue
  | valueMissing
  | colonMissing
  | defaultMissing
  | defaultBefore
  | parameterParentheses
  | nothingBeforeSlash
  | slashTwice
  | slashBehindStar
  | commaBeforeStar
  | nothingBehindStar
  | starDefault
  | starTwice
  | keywordsDefault
  | behindKeywords
deriving DecidableEq, Repr

def GrammarFault.message : GrammarFault → String
  | .noExpression => "invalid syntax"
  | .indent => "unexpected indent"
  | .commaMissing => "invalid syntax. Perhaps you forgot a comma?"
  | .elseMissing => "expected 'else' after 'if' expression"
  | .callWithoutParentheses name =>
      s!"Missing parentheses in call to '{name}'. Did you mean {name}(...)?"
  | .assignmentTo kind => s!"cannot use assignment expressions with {kind}"
  | .equalsMeant => "invalid syntax. Maybe you meant '==' or ':=' instead of '='?"
  | .notAssignableHere kind =>
      s!"cannot assign to {kind} here. Maybe you meant '==' instead of '='?"
  | .notAssignable kind => s!"cannot assign to {kind}"
  | .starred => "cannot use starred expression here"
  | .starAlone => "Invalid star expression"
  | .doubleStarred => "cannot use double starred expression here"
  | .bareGenerator => "Generator expression must be parenthesized"
  | .positionalBehindKeyword => "positional argument follows keyword argument"
  | .positionalBehindMapping => "positional argument follows keyword argument unpacking"
  | .iterableBehindMapping => "iterable argument unpacking follows keyword argument unpacking"
  | .assignmentAsArgument =>
      "expression cannot contain assignment, perhaps you meant \"==\"?"
  | .starredInComprehension => "iterable unpacking cannot be used in comprehension"
  | .bareComprehensionTarget => "did you forget parentheses around the comprehension target?"
  | .mappingInComprehension => "dict unpacking cannot be used in dict comprehension"
  | .starredValue => "cannot use a starred expression in a dictionary value"
  | .valueMissing => "expression expected after dictionary key and ':'"
  | .colonMissing => "':' expected after dictionary key"
  | .defaultMissing => "expected default value expression"
  | .defaultBefore => "non-default argument follows default argument"
  | .parameterParentheses => "Lambda expression parameters cannot be parenthesized"
  | .nothingBeforeSlash => "at least one argument must precede /"
  | .slashTwice => "/ may appear only once"
  | .slashBehindStar => "/ must be ahead of *"
  | .commaBeforeStar => "expected comma between / and *"
  | .nothingBehindStar => "named arguments must follow bare *"
  | .starDefault => "var-positional argument cannot have default value"
  | .starTwice => "* argument may appear only once"
  | .keywordsDefault => "var-keyword argument cannot have default value"
  | .behindKeywords => "arguments cannot follow var-keyword argument"

/-! ## All causes -/

inductive Fault where
  | token (fault : TokenFault)
  | literal (fault : LiteralFault)
  | format (fault : FormatFault)
  | grammar (fault : GrammarFault)
  /-- Something that was noticed inside of a formatted text. -/
  | inside (fault : Fault)
deriving DecidableEq, Repr

def Fault.message : Fault → String
  | .token fault => fault.message
  | .literal fault => fault.message
  | .format fault => fault.message
  | .grammar fault => fault.message
  | .inside fault => "f-string: " ++ fault.message

end Expression
end Storyboard
