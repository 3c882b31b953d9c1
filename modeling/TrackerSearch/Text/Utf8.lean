/-!
# UTF-8

Encoding writes a character as one to four bytes. Decoding reports every malformed stretch once:
the longest start of a well-formed sequence, or else a single byte. The strict reading refuses a
text with such a stretch, the lenient one puts U+FFFD in its place.
-/
namespace TrackerSearch.Text

/-- The bytes of one character. -/
def utf8OfChar (c : Char) : List UInt8 :=
  let n := c.toNat
  if n < 0x80 then [UInt8.ofNat n]
  else if n < 0x800 then [UInt8.ofNat (0xC0 + n / 64), UInt8.ofNat (0x80 + n % 64)]
  else if n < 0x10000 then
    [UInt8.ofNat (0xE0 + n / 4096), UInt8.ofNat (0x80 + n / 64 % 64), UInt8.ofNat (0x80 + n % 64)]
  else
    [UInt8.ofNat (0xF0 + n / 262144), UInt8.ofNat (0x80 + n / 4096 % 64),
      UInt8.ofNat (0x80 + n / 64 % 64), UInt8.ofNat (0x80 + n % 64)]

def utf8 (s : List Char) : List UInt8 := s.flatMap utf8OfChar

/-- Between two bytes: either at a character's start, or `more` continuation bytes are missing, of
which the next has to lie in the given bounds. -/
inductive Utf8State where
  | start
  | inside (more : Nat) (value : Nat) (lo hi : Nat)
  deriving Repr, DecidableEq

/-- What the first byte of a character says: the character itself, the state to go on with, or
that no character starts so. -/
inductive Utf8Lead where
  | char (c : Char)
  | go (s : Utf8State)
  | bad
  deriving Repr, DecidableEq

def utf8Lead (b : Nat) : Utf8Lead :=
  if b < 0x80 then .char (Char.ofNat b)
  else if b < 0xC2 then .bad
  else if b < 0xE0 then .go (.inside 1 (b - 0xC0) 0x80 0xBF)
  else if b < 0xF0 then
    .go (.inside 2 (b - 0xE0) (if b = 0xE0 then 0xA0 else 0x80) (if b = 0xED then 0x9F else 0xBF))
  else if b < 0xF5 then
    .go (.inside 3 (b - 0xF0) (if b = 0xF0 then 0x90 else 0x80) (if b = 0xF4 then 0x8F else 0xBF))
  else .bad

/-- The characters of a byte sequence, `none` for every malformed stretch. -/
def utf8Chars : Utf8State → List UInt8 → List (Option Char)
  | .start, [] => []
  | .inside .., [] => [none]
  | .start, b :: rest =>
    match utf8Lead b.toNat with
    | .char c => some c :: utf8Chars .start rest
    | .go s => utf8Chars s rest
    | .bad => none :: utf8Chars .start rest
  | .inside more value lo hi, b :: rest =>
    if lo ≤ b.toNat ∧ b.toNat ≤ hi then
      let value := value * 64 + (b.toNat - 0x80)
      match more with
      | 0 | 1 => some (Char.ofNat value) :: utf8Chars .start rest
      | more + 2 => utf8Chars (.inside (more + 1) value 0x80 0xBF) rest
    else
      none :: match utf8Lead b.toNat with
        | .char c => some c :: utf8Chars .start rest
        | .go s => utf8Chars s rest
        | .bad => none :: utf8Chars .start rest

/-- A malformed stretch: where it starts, how long it is, and what is wrong with it. -/
structure Utf8Defect where
  start : Nat
  bytes : List UInt8
  reason : String
  deriving Repr, DecidableEq

/-- A malformed stretch in words. -/
def Utf8Defect.message (d : Utf8Defect) : String :=
  "'utf-8' codec can't decode " ++ (match d.bytes with
    | [b] => "byte 0x" ++ String.ofList [Nat.digitChar (b.toNat / 16), Nat.digitChar (b.toNat % 16)] ++
        s!" in position {d.start}"
    | bytes => s!"bytes in position {d.start}-{d.start + bytes.length - 1}") ++ ": " ++ d.reason

/-- The first malformed stretch of a byte sequence; `start` counts the bytes before the character at
hand and `seen` holds its own bytes so far, the last one first. -/
def utf8DefectFrom (start : Nat) (seen : List UInt8) : Utf8State → List UInt8 → Option Utf8Defect
  | .start, [] => none
  | .inside .., [] => some ⟨start, seen.reverse, "unexpected end of data"⟩
  | .start, b :: rest =>
    match utf8Lead b.toNat with
    | .char _ => utf8DefectFrom (start + 1) [] .start rest
    | .go s => utf8DefectFrom start [b] s rest
    | .bad => some ⟨start, [b], "invalid start byte"⟩
  | .inside more value lo hi, b :: rest =>
    if lo ≤ b.toNat ∧ b.toNat ≤ hi then
      match more with
      | 0 | 1 => utf8DefectFrom (start + seen.length + 1) [] .start rest
      | more + 2 => utf8DefectFrom start (b :: seen)
          (.inside (more + 1) (value * 64 + (b.toNat - 0x80)) 0x80 0xBF) rest
    else some ⟨start, seen.reverse, "invalid continuation byte"⟩

/-- The first malformed stretch of a byte sequence. -/
def utf8Defect? (bytes : List UInt8) : Option Utf8Defect := utf8DefectFrom 0 [] .start bytes

/-- The text of a well-formed byte sequence. -/
def utf8Decode? (bytes : List UInt8) : Option (List Char) := (utf8Chars .start bytes).mapM id

/-- The text of a byte sequence, with U+FFFD for what is malformed. -/
def utf8Lossy (bytes : List UInt8) : List Char :=
  (utf8Chars .start bytes).map (·.getD '\uFFFD')

end TrackerSearch.Text
