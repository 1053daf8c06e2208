/-!
Keywords and operators: the words of the grammar that have one spelling. Keywords are found by it,
operators at the start of a text, the longest first.
-/
namespace DocSuite.Syntax

inductive Terminal
  | kwFalse | kwNone | kwTrue | kwAnd | kwAs | kwAssert | kwAsync | kwAwait | kwBreak | kwClass
  | kwContinue | kwDef | kwDel | kwElif | kwElse | kwExcept | kwFinally | kwFor | kwFrom
  | kwGlobal | kwIf | kwImport | kwIn | kwIs | kwLambda | kwNonlocal | kwNot | kwOr | kwPass
  | kwRaise | kwReturn | kwTry | kwWhile | kwWith | kwYield
  | ellipsis | powEqual | floorDivEqual | leftShiftEqual | rightShiftEqual
  | notEqual | modEqual | bitAndEqual | pow | mulEqual | addEqual | subEqual | arrow
  | floorDiv | divEqual | walrus | leftShift | lessEqual | equalEqual | greaterEqual
  | rightShift | matMulEqual | bitXorEqual | bitOrEqual
  | parenOpen | parenClose | listOpen | listClose | braceOpen | braceClose
  | colon | comma | semicolon | plus | minus | star | slash | bar | ampersand | less | greater
  | equal | dot | percent | atSign | tilde | caret
  deriving DecidableEq, Repr

namespace Terminal

/-- The spelling, as a list because tokens are matched character by character. -/
def spelling : Terminal → List Char
  | kwFalse => ['F', 'a', 'l', 's', 'e']
  | kwNone => ['N', 'o', 'n', 'e']
  | kwTrue => ['T', 'r', 'u', 'e']
  | kwAnd => ['a', 'n', 'd']
  | kwAs => ['a', 's']
  | kwAssert => ['a', 's', 's', 'e', 'r', 't']
  | kwAsync => ['a', 's', 'y', 'n', 'c']
  | kwAwait => ['a', 'w', 'a', 'i', 't']
  | kwBreak => ['b', 'r', 'e', 'a', 'k']
  | kwClass => ['c', 'l', 'a', 's', 's']
  | kwContinue => ['c', 'o', 'n', 't', 'i', 'n', 'u', 'e']
  | kwDef => ['d', 'e', 'f']
  | kwDel => ['d', 'e', 'l']
  | kwElif => ['e', 'l', 'i', 'f']
  | kwElse => ['e', 'l', 's', 'e']
  | kwExcept => ['e', 'x', 'c', 'e', 'p', 't']
  | kwFinally => ['f', 'i', 'n', 'a', 'l', 'l', 'y']
  | kwFor => ['f', 'o', 'r']
  | kwFrom => ['f', 'r', 'o', 'm']
  | kwGlobal => ['g', 'l', 'o', 'b', 'a', 'l']
  | kwIf => ['i', 'f']
  | kwImport => ['i', 'm', 'p', 'o', 'r', 't']
  | kwIn => ['i', 'n']
  | kwIs => ['i', 's']
  | kwLambda => ['l', 'a', 'm', 'b', 'd', 'a']
  | kwNonlocal => ['n', 'o', 'n', 'l', 'o', 'c', 'a', 'l']
  | kwNot => ['n', 'o', 't']
  | kwOr => ['o', 'r']
  | kwPass => ['p', 'a', 's', 's']
  | kwRaise => ['r', 'a', 'i', 's', 'e']
  | kwReturn => ['r', 'e', 't', 'u', 'r', 'n']
  | kwTry => ['t', 'r', 'y']
  | kwWhile => ['w', 'h', 'i', 'l', 'e']
  | kwWith => ['w', 'i', 't', 'h']
  | kwYield => ['y', 'i', 'e', 'l', 'd']
  | ellipsis => ['.', '.', '.']
  | powEqual => ['*', '*', '=']
  | floorDivEqual => ['/', '/', '=']
  | leftShiftEqual => ['<', '<', '=']
  | rightShiftEqual => ['>', '>', '=']
  | notEqual => ['!', '=']
  | modEqual => ['%', '=']
  | bitAndEqual => ['&', '=']
  | pow => ['*', '*']
  | mulEqual => ['*', '=']
  | addEqual => ['+', '=']
  | subEqual => ['-', '=']
  | arrow => ['-', '>']
  | floorDiv => ['/', '/']
  | divEqual => ['/', '=']
  | walrus => [':', '=']
  | leftShift => ['<', '<']
  | lessEqual => ['<', '=']
  | equalEqual => ['=', '=']
  | greaterEqual => ['>', '=']
  | rightShift => ['>', '>']
  | matMulEqual => ['@', '=']
  | bitXorEqual => ['^', '=']
  | bitOrEqual => ['|', '=']
  | parenOpen => ['(']
  | parenClose => [')']
  | listOpen => ['[']
  | listClose => [']']
  | braceOpen => ['{']
  | braceClose => ['}']
  | colon => [':']
  | comma => [',']
  | semicolon => [';']
  | plus => ['+']
  | minus => ['-']
  | star => ['*']
  | slash => ['/']
  | bar => ['|']
  | ampersand => ['&']
  | less => ['<']
  | greater => ['>']
  | equal => ['=']
  | dot => ['.']
  | percent => ['%']
  | atSign => ['@']
  | tilde => ['~']
  | caret => ['^']

def keywords : List Terminal :=
  [kwFalse, kwNone, kwTrue, kwAnd, kwAs, kwAssert, kwAsync, kwAwait, kwBreak, kwClass, kwContinue,
    kwDef, kwDel, kwElif, kwElse, kwExcept, kwFinally, kwFor, kwFrom, kwGlobal, kwIf, kwImport,
    kwIn, kwIs, kwLambda, kwNonlocal, kwNot, kwOr, kwPass, kwRaise, kwReturn, kwTry, kwWhile,
    kwWith, kwYield]

/-- Operators, longer ones in front of those that they start with. -/
def operators : List Terminal :=
  [ellipsis, powEqual, floorDivEqual, leftShiftEqual, rightShiftEqual, notEqual, modEqual,
    bitAndEqual, pow, mulEqual, addEqual, subEqual, arrow, floorDiv, divEqual, walrus, leftShift,
    lessEqual, equalEqual, greaterEqual, rightShift, matMulEqual, bitXorEqual, bitOrEqual,
    parenOpen, parenClose, listOpen, listClose, braceOpen, braceClose, colon, comma, semicolon,
    plus, minus, star, slash, bar, ampersand, less, greater, equal, dot, percent, atSign, tilde,
    caret]

/-- The keyword with a spelling. -/
def keyword? (word : List Char) : Option Terminal := keywords.find? (·.spelling == word)

/-- The longest operator at the start of a text. -/
def operator? (text : List Char) : Option Terminal := operators.find? (·.spelling.isPrefixOf text)

def text (t : Terminal) : String := String.ofList t.spelling

end Terminal

end DocSuite.Syntax
