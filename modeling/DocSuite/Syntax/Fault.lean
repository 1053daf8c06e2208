import DocSuite.Text.Quoted

/-!
What can be wrong with the text of a sample. A fault is a cause; its wording is
`Fault.message`.
-/
namespace DocSuite.Syntax

open DocSuite.Text

/-- What a number literal is written in. -/
inductive NumberKind
  | decimal | hexadecimal | octal | binary | imaginary
  deriving DecidableEq, Repr

def NumberKind.text : NumberKind → String
  | .decimal => "decimal"
  | .hexadecimal => "hexadecimal"
  | .octal => "octal"
  | .binary => "binary"
  | .imaginary => "imaginary"

/-- Why an escape in a text stands for no character. -/
inductive EscapeFault
  | shortByte | shortFour | shortEight | beyondUnicode | malformedName | unknownName
  deriving DecidableEq, Repr

def EscapeFault.text : EscapeFault → String
  | .shortByte => "truncated \\xXX escape"
  | .shortFour => "truncated \\uXXXX escape"
  | .shortEight => "truncated \\UXXXXXXXX escape"
  | .beyondUnicode => "illegal Unicode character"
  | .malformedName => "malformed \\N character escape"
  | .unknownName => "unknown Unicode character name"

inductive Fault
  -- Layout and tokens.
  | invalidSyntax
  | unexpectedEnd
  | unexpectedIndent
  | unexpectedUnindent
  | unmatchedIndent
  | mixedTabs
  | tooDeepIndent
  | afterContinuation
  | neverClosed (bracket : Char)
  | unmatched (bracket : Char)
  | mismatched (closing opening : Char) (line : Option Nat)
  | tooManyBrackets
  | unterminated (triple : Bool) (line : Nat)
  | invalidCharacter (c : Char)
  | nonPrintable (c : Char)
  | invalidNumber (kind : NumberKind)
  | invalidDigit (digit : Char) (kind : NumberKind)
  | leadingZeros
  | hugeInteger (digits : Nat)
  -- Literals.
  | escape (first last : Nat) (reason : EscapeFault)
  | byteEscape (position : Nat)
  | nonAsciiBytes
  | mixedBytes
  | realExpected
  | imaginaryExpected
  -- Interpolated strings.
  | fieldInside (fault : Fault)
  | emptyField
  | emptyFieldBefore (mark : Char)
  | fieldBackslash
  | fieldComment
  | fieldBrackets
  | fieldUnmatched (bracket : Char)
  | fieldMismatched (closing opening : Char)
  | fieldUnterminated
  | fieldNotClosed
  | fieldTooDeep
  | fieldConversion
  | loneBrace
  | interpolationEnd
  -- Statements.
  | expected (text : String)
  | expectedBlock
  | expectedBlockAfter (owner : String) (line : Nat)
  | expectedHandler
  | mixedHandlers
  | expectedHandlerType
  | unparenthesizedTypes
  | trailingImportComma
  -- Targets.
  | cannotAssign (what : String)
  | cannotAssignHere (what : String)
  | cannotDelete (what : String)
  | cannotAssignYield
  | cannotNameWith (what : String)
  | cannotAugment (what : String)
  | equalsForComparison
  | onlySingleTarget (what : String)
  | illegalAnnotationTarget
  -- Expressions.
  | forgottenComma
  | missingElse
  | missingCall (name : String)
  | starredHere
  | starWithoutValue
  | doubleStarredHere
  | unpackingInComprehension
  | dictUnpackingInComprehension
  | unparenthesizedTarget
  | expectedColonAfterKey
  | expectedValueAfterKey
  | starredValue
  -- Arguments and parameters.
  | starAfterDoubleStar
  | unparenthesizedGenerator
  | positionalAfterKeyword
  | positionalAfterUnpacking
  | assignmentInArgument
  | defaultOrder
  | parenthesizedParameters (isLambda : Bool)
  | nothingBeforeSlash
  | repeatedSlash
  | slashAfterStar
  | slashStar
  | expectedDefault
  | bareStar
  | starDefault
  | repeatedStar
  | doubleStarDefault
  | afterDoubleStar
  -- Patterns.
  | wildcardTarget
  | patternTarget
  | positionalAfterKeywordPattern
  deriving Repr

namespace Fault

def message : Fault → String
  | invalidSyntax => "invalid syntax"
  | unexpectedEnd => "unexpected EOF while parsing"
  | unexpectedIndent => "unexpected indent"
  | unexpectedUnindent => "unexpected unindent"
  | unmatchedIndent => "unindent does not match any outer indentation level"
  | mixedTabs => "inconsistent use of tabs and spaces in indentation"
  | tooDeepIndent => "too many levels of indentation"
  | afterContinuation => "unexpected character after line continuation character"
  | neverClosed bracket => s!"'{bracket}' was never closed"
  | unmatched bracket => s!"unmatched '{bracket}'"
  | mismatched closing opening line =>
      s!"closing parenthesis '{closing}' does not match opening parenthesis '{opening}'" ++
        match line with
        | some line => s!" on line {line}"
        | none => ""
  | tooManyBrackets => "too many nested parentheses"
  | unterminated triple line =>
      let kind := if triple then "triple-quoted string" else "string"
      s!"unterminated {kind} literal (detected at line {line})"
  | invalidCharacter c =>
      "invalid character '" ++ c.toString ++ "' (U+" ++ hexName c ++ ")"
  | nonPrintable c => "invalid non-printable character U+" ++ hexName c
  | invalidNumber kind => s!"invalid {kind.text} literal"
  | invalidDigit digit kind => s!"invalid digit '{digit}' in {kind.text} literal"
  | leadingZeros =>
      "leading zeros in decimal integer literals are not permitted; " ++
        "use an 0o prefix for octal integers"
  | hugeInteger digits =>
      s!"Exceeds the limit (4300 digits) for integer string conversion: value has {digits} digits; "
        ++ "use sys.set_int_max_str_digits() to increase the limit" ++
        " - Consider hexadecimal for huge integer literals to avoid decimal conversion limits."
  | escape first last reason =>
      "(unicode error) 'unicodeescape' codec can't decode " ++
        (if first = last then s!"byte 0x5c in position {first}: "
          else s!"bytes in position {first}-{last}: ") ++ reason.text
  | byteEscape position => s!"(value error) invalid \\x escape at position {position}"
  | nonAsciiBytes => "bytes can only contain ASCII literal characters"
  | mixedBytes => "cannot mix bytes and nonbytes literals"
  | realExpected => "real number required in complex literal"
  | imaginaryExpected => "imaginary number required in complex literal"
  | fieldInside fault => "f-string: " ++ fault.message
  | emptyField => "f-string: empty expression not allowed"
  | emptyFieldBefore mark => s!"f-string: expression required before '{mark}'"
  | fieldBackslash => "f-string expression part cannot include a backslash"
  | fieldComment => "f-string expression part cannot include '#'"
  | fieldBrackets => "f-string: too many nested parenthesis"
  | fieldUnmatched bracket => s!"f-string: unmatched '{bracket}'"
  | fieldMismatched closing opening =>
      s!"f-string: closing parenthesis '{closing}' does not match opening parenthesis '{opening}'"
  | fieldUnterminated => "f-string: unterminated string"
  | fieldNotClosed => "f-string: expecting '\x7d'"
  | fieldTooDeep => "f-string: expressions nested too deeply"
  | fieldConversion => "f-string: invalid conversion character: expected 's', 'r', or 'a'"
  | loneBrace => "f-string: single '\x7d' is not allowed"
  | interpolationEnd => "f-string: unexpected end of string"
  | expected text => s!"expected '{text}'"
  | expectedBlock => "expected an indented block"
  | expectedBlockAfter owner line => s!"expected an indented block after {owner} on line {line}"
  | expectedHandler => "expected 'except' or 'finally' block"
  | mixedHandlers => "cannot have both 'except' and 'except*' on the same 'try'"
  | expectedHandlerType => "expected one or more exception types"
  | unparenthesizedTypes => "multiple exception types must be parenthesized"
  | trailingImportComma => "trailing comma not allowed without surrounding parentheses"
  | cannotAssign what => s!"cannot assign to {what}"
  | cannotAssignHere what =>
      s!"cannot assign to {what} here. Maybe you meant '==' instead of '='?"
  | cannotDelete what => s!"cannot delete {what}"
  | cannotAssignYield => "assignment to yield expression not possible"
  | cannotNameWith what => s!"cannot use assignment expressions with {what}"
  | cannotAugment what => s!"'{what}' is an illegal expression for augmented assignment"
  | equalsForComparison => "invalid syntax. Maybe you meant '==' or ':=' instead of '='?"
  | onlySingleTarget what => s!"only single target (not {what}) can be annotated"
  | illegalAnnotationTarget => "illegal target for annotation"
  | forgottenComma => "invalid syntax. Perhaps you forgot a comma?"
  | missingElse => "expected 'else' after 'if' expression"
  | missingCall name =>
      s!"Missing parentheses in call to '{name}'. Did you mean {name}(...)?"
  | starredHere => "cannot use starred expression here"
  | starWithoutValue => "Invalid star expression"
  | doubleStarredHere => "cannot use double starred expression here"
  | unpackingInComprehension => "iterable unpacking cannot be used in comprehension"
  | dictUnpackingInComprehension => "dict unpacking cannot be used in dict comprehension"
  | unparenthesizedTarget => "did you forget parentheses around the comprehension target?"
  | expectedColonAfterKey => "':' expected after dictionary key"
  | expectedValueAfterKey => "expression expected after dictionary key and ':'"
  | starredValue => "cannot use a starred expression in a dictionary value"
  | starAfterDoubleStar => "iterable argument unpacking follows keyword argument unpacking"
  | unparenthesizedGenerator => "Generator expression must be parenthesized"
  | positionalAfterKeyword => "positional argument follows keyword argument"
  | positionalAfterUnpacking => "positional argument follows keyword argument unpacking"
  | assignmentInArgument =>
      "expression cannot contain assignment, perhaps you meant \"==\"?"
  | defaultOrder => "non-default argument follows default argument"
  | parenthesizedParameters isLambda =>
      if isLambda then "Lambda expression parameters cannot be parenthesized"
      else "Function parameters cannot be parenthesized"
  | nothingBeforeSlash => "at least one argument must precede /"
  | repeatedSlash => "/ may appear only once"
  | slashAfterStar => "/ must be ahead of *"
  | slashStar => "expected comma between / and *"
  | expectedDefault => "expected default value expression"
  | bareStar => "named arguments must follow bare *"
  | starDefault => "var-positional argument cannot have default value"
  | repeatedStar => "* argument may appear only once"
  | doubleStarDefault => "var-keyword argument cannot have default value"
  | afterDoubleStar => "arguments cannot follow var-keyword argument"
  | wildcardTarget => "cannot use '_' as a target"
  | patternTarget => "invalid pattern target"
  | positionalAfterKeywordPattern => "positional patterns follow keyword patterns"
where
  hexName (c : Char) : String :=
    String.ofList ((hexPadded 4 c.toNat).map Char.toUpper)

end Fault

/-- A fault with the line that has it, counted in the text from one, and the text of that line. -/
structure SyntaxFault where
  fault : Fault
  line : Nat
  text : String
  deriving Repr

end DocSuite.Syntax
