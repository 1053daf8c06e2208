/-!
The UTF-8 encoding. Bytes are numbers below 256. Main statement: a decoding fault names the
bytes that it could not use, and why.
-/
namespace DocSuite.Text.Utf8

/-- The bytes of one character. -/
def encodeChar (c : Char) : List Nat :=
  let n := c.toNat
  if n < 0x80 then [n]
  else if n < 0x800 then [0xC0 + n / 64, 0x80 + n % 64]
  else if n < 0x10000 then [0xE0 + n / 4096, 0x80 + n / 64 % 64, 0x80 + n % 64]
  else [0xF0 + n / 262144, 0x80 + n / 4096 % 64, 0x80 + n / 64 % 64, 0x80 + n % 64]

def encode (cs : List Char) : List Nat := cs.flatMap encodeChar

/-- The number of bytes of one character. -/
def width (c : Char) : Nat := (encodeChar c).length

/-- The number of bytes of a text. -/
def size (cs : List Char) : Nat := (encode cs).length

inductive Reason
  | invalidStart
  | invalidContinuation
  | unexpectedEnd
  deriving DecidableEq, Repr

def Reason.text : Reason → String
  | .invalidStart => "invalid start byte"
  | .invalidContinuation => "invalid continuation byte"
  | .unexpectedEnd => "unexpected end of data"

/-- `count` bytes from position `start` on, of which `byte` is the first, form no character. -/
structure Fault where
  start : Nat
  count : Nat
  byte : Nat
  reason : Reason
  deriving DecidableEq, Repr

/-- A byte in two hexadecimal digits. -/
def hexByte (n : Nat) : String :=
  String.ofList [Nat.digitChar (n / 16), Nat.digitChar (n % 16)]

def Fault.message (f : Fault) : String :=
  if f.count = 1 then
    s!"'utf-8' codec can't decode byte 0x{hexByte f.byte} in position {f.start}: {f.reason.text}"
  else
    s!"'utf-8' codec can't decode bytes in position {f.start}-{f.start + f.count - 1}: " ++
      f.reason.text

def isContinuation (b : Nat) : Bool := 0x80 ≤ b && b ≤ 0xBF

/-- The second byte has a narrower range after the lead bytes that would allow an overlong
form, a surrogate or a code point beyond the last. -/
def isSecond (lead b : Nat) : Bool :=
  if lead = 0xE0 then 0xA0 ≤ b && b ≤ 0xBF
  else if lead = 0xED then 0x80 ≤ b && b ≤ 0x9F
  else if lead = 0xF0 then 0x90 ≤ b && b ≤ 0xBF
  else if lead = 0xF4 then 0x80 ≤ b && b ≤ 0x8F
  else isContinuation b

/-- The number of bytes that a lead byte announces; zero for a byte that cannot lead. -/
def announced (b : Nat) : Nat :=
  if b < 0x80 then 1
  else if b < 0xC2 then 0
  else if b < 0xE0 then 2
  else if b < 0xF0 then 3
  else if b < 0xF5 then 4
  else 0

/-- The characters of bytes that start at a position. -/
def decodeFrom (start : Nat) : List Nat → Except Fault (List Char)
  | [] => .ok []
  | [a] =>
      if announced a = 1 then .ok [Char.ofNat a]
      else if announced a = 0 then .error ⟨start, 1, a, .invalidStart⟩
      else .error ⟨start, 1, a, .unexpectedEnd⟩
  | a :: b :: rest =>
      if announced a = 1 then do
        return Char.ofNat a :: (← decodeFrom (start + 1) (b :: rest))
      else if announced a = 0 then .error ⟨start, 1, a, .invalidStart⟩
      else if !isSecond a b then .error ⟨start, 1, a, .invalidContinuation⟩
      else if announced a = 2 then do
        return Char.ofNat (a % 32 * 64 + b % 64) :: (← decodeFrom (start + 2) rest)
      else
        match rest with
        | [] => .error ⟨start, 2, a, .unexpectedEnd⟩
        | c :: rest =>
            if !isContinuation c then .error ⟨start, 2, a, .invalidContinuation⟩
            else if announced a = 3 then do
              return Char.ofNat (a % 16 * 4096 + b % 64 * 64 + c % 64) ::
                (← decodeFrom (start + 3) rest)
            else
              match rest with
              | [] => .error ⟨start, 3, a, .unexpectedEnd⟩
              | d :: rest =>
                  if !isContinuation d then .error ⟨start, 3, a, .invalidContinuation⟩
                  else do
                    return Char.ofNat (a % 8 * 262144 + b % 64 * 4096 + c % 64 * 64 + d % 64) ::
                      (← decodeFrom (start + 4) rest)

def decode (bytes : List Nat) : Except Fault (List Char) := decodeFrom 0 bytes

end DocSuite.Text.Utf8
