import DocSuite.Text.Printable

/-!
Quoted texts: the spelling of a string or byte string as a literal. A text is a list of code
points here, because a literal can name a surrogate on its own.
-/
namespace DocSuite.Text

/-- The code points of a text. -/
def codes (cs : List Char) : List Nat := cs.map Char.toNat

/-- A number in at least `n` hexadecimal digits. -/
def hexPadded (n value : Nat) : List Char :=
  let digits := Nat.toDigits 16 value
  List.replicate (n - digits.length) '0' ++ digits

/-- The escape of a code point that does not show as itself. -/
def escapeCode (code : Nat) : List Char :=
  if code = 9 then ['\\', 't']
  else if code = 10 then ['\\', 'n']
  else if code = 13 then ['\\', 'r']
  else if code = 92 then ['\\', '\\']
  else if code < 0x100 then '\\' :: 'x' :: hexPadded 2 code
  else if code < 0x10000 then '\\' :: 'u' :: hexPadded 4 code
  else '\\' :: 'U' :: hexPadded 8 code

namespace Quoted

/-- The single quote, unless the text holds that one and not the double one. -/
def quoteFor (text : List Nat) : Char :=
  if text.contains '\''.toNat && !text.contains '"'.toNat then '"' else '\''

def encodeCode (quote : Char) (code : Nat) : List Char :=
  if code = quote.toNat then ['\\', quote]
  else if code = 92 || !isPrintable code then escapeCode code
  else [Char.ofNat code]

/-- A text between quotes, which are escaped inside. -/
def ofCodes (text : List Nat) : List Char :=
  let quote := quoteFor text
  quote :: text.flatMap (encodeCode quote) ++ [quote]

def encodeByte (quote : Char) (byte : Nat) : List Char :=
  if byte = quote.toNat then ['\\', quote]
  else if byte = 92 || byte < 0x20 || 0x7F ≤ byte then escapeCode byte
  else [Char.ofNat byte]

/-- A byte string with its mark. -/
def ofBytes (bytes : List Nat) : List Char :=
  let quote := quoteFor bytes
  'b' :: quote :: bytes.flatMap (encodeByte quote) ++ [quote]

end Quoted

/-- The literal that spells a text. -/
def quoted (s : String) : String := String.ofList (Quoted.ofCodes (codes s.toList))

end DocSuite.Text
