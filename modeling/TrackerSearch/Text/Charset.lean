import TrackerSearch.Text.Charset.Chinese
import TrackerSearch.Text.Charset.EightBit
import TrackerSearch.Text.Charset.Japanese
import TrackerSearch.Text.Charset.Korean
import TrackerSearch.Text.CodeSet
import TrackerSearch.Text.Pieces

/-!
# Character sets

A text that arrives as bytes is read in a character set with a name. Bytes that stand for no
character become U+FFFD, every one for itself. The sets that pages are written in are known here;
other encodings, such as UTF-7 or UTF-32, are like unknown names.
-/
namespace TrackerSearch.Text

/-- The character of a number, U+FFFD if there is none. -/
def charOrReplacement (n : Nat) : Char := if n.isValidChar then Char.ofNat n else '\uFFFD'

/-- Sets of two-byte characters, with one-byte characters below 128. -/
inductive DoubleByteSet where
  | shiftJis
  | eucJp
  | gbk
  | big5
  | eucKr
  deriving Repr, DecidableEq

/-- A way to read bytes as characters. -/
inductive Charset where
  | utf8
  | utf16 (bigEndian : Bool)
  | ascii
  | latin1
  | eightBit (upperHalf : Array Nat)
  | doubleByte (set : DoubleByteSet)

namespace Charset

private def tableChars (s : String) : Array Char :=
  (s.toList.filter fun c => c ≠ ' ' && c ≠ '\n').toArray

def japanese : Array Char := tableChars japaneseTable
def simplified : Array Char := tableChars simplifiedTable
def traditional : Array Char := tableChars traditionalTable
def korean : Array Char := tableChars koreanTable

/-- The well-formed character at the start of a UTF-8 text, and its length. -/
def utf8Char? : List UInt8 → Option (Char × Nat)
  | [] => none
  | b :: rest =>
    let more (n : Nat) : Option (List Nat) :=
      let bytes := (rest.take n).map (·.toNat)
      if bytes.length = n ∧ bytes.all (fun x => 0x80 ≤ x && x ≤ 0xBF) then
        some (bytes.map (· - 0x80))
      else none
    let value (lead : Nat) (bytes : List Nat) : Nat := bytes.foldl (fun n x => n * 64 + x) lead
    let b := b.toNat
    let found (n least lead : Nat) : Option (Char × Nat) := do
      let v := value lead (← more n)
      if least ≤ v ∧ v.isValidChar then some (Char.ofNat v, n + 1) else none
    if b < 0x80 then some (Char.ofNat b, 1)
    else if b < 0xC2 then none
    else if b < 0xE0 then found 1 0x80 (b - 0xC0)
    else if b < 0xF0 then found 2 0x800 (b - 0xE0)
    else if b < 0xF5 then found 3 0x10000 (b - 0xF0)
    else none

/-- Read UTF-8; `skip` bytes belong to a character that has been read. -/
def decodeUtf8 : Nat → List UInt8 → List Char
  | _, [] => []
  | skip + 1, _ :: rest => decodeUtf8 skip rest
  | 0, b :: rest =>
    match utf8Char? (b :: rest) with
    | some (c, n) => c :: decodeUtf8 (n - 1) rest
    | none => '\uFFFD' :: decodeUtf8 0 rest

/-- The code units of a UTF-16 text; a last single byte is one of its own. -/
def units (bigEndian : Bool) : List UInt8 → List Nat
  | a :: b :: rest =>
    (if bigEndian then a.toNat * 256 + b.toNat else b.toNat * 256 + a.toNat) ::
      units bigEndian rest
  | [_] => [0xFFFD]
  | [] => []

def decodeUnits : List Nat → List Char
  | hi :: lo :: rest =>
    if 0xD800 ≤ hi ∧ hi < 0xDC00 ∧ 0xDC00 ≤ lo ∧ lo < 0xE000 then
      charOrReplacement (0x10000 + (hi - 0xD800) * 1024 + (lo - 0xDC00)) :: decodeUnits rest
    else charOrReplacement hi :: decodeUnits (lo :: rest)
  | [u] => [charOrReplacement u]
  | [] => []

/-- The place of a two-byte character in the table of its set, if the bytes can be such. -/
def place? (set : DoubleByteSet) (lead trail : Nat) : Option Nat :=
  match set with
  | .eucJp | .eucKr =>
    if 0xA1 ≤ lead ∧ lead ≤ 0xFE ∧ 0xA1 ≤ trail ∧ trail ≤ 0xFE then
      some ((lead - 0xA1) * 94 + (trail - 0xA1))
    else none
  | .gbk =>
    if 0x81 ≤ lead ∧ lead ≤ 0xFE ∧ 0x40 ≤ trail ∧ trail ≤ 0xFE ∧ trail ≠ 0x7F then
      some ((lead - 0x81) * 190 + (trail - if trail < 0x7F then 0x40 else 0x41))
    else none
  | .big5 =>
    if 0xA1 ≤ lead ∧ lead ≤ 0xF9 ∧ 0x40 ≤ trail ∧ trail ≤ 0x7E then
      some ((lead - 0xA1) * 157 + (trail - 0x40))
    else if 0xA1 ≤ lead ∧ lead ≤ 0xF9 ∧ 0xA1 ≤ trail ∧ trail ≤ 0xFE then
      some ((lead - 0xA1) * 157 + (trail - 0x62))
    else none
  | .shiftJis =>
    if (0x81 ≤ lead ∧ lead ≤ 0x9F ∨ 0xE0 ≤ lead ∧ lead ≤ 0xEF) ∧
        (0x40 ≤ trail ∧ trail ≤ 0x7E ∨ 0x80 ≤ trail ∧ trail ≤ 0xFC) then
      let row := lead - if lead < 0xA0 then 0x81 else 0xC1
      some (row * 188 + (trail - if trail < 0x7F then 0x40 else 0x41))
    else none

def table : DoubleByteSet → Array Char
  | .shiftJis | .eucJp => japanese
  | .gbk => simplified
  | .big5 => traditional
  | .eucKr => korean

/-- The two-byte character of two bytes. -/
def pair? (set : DoubleByteSet) (lead trail : UInt8) : Option Char := do
  let c ← (table set)[← place? set lead.toNat trail.toNat]?
  if c = '\uFFFD' then none else some c

/-- The one-byte character of a byte beyond 127: half-width letters of the Japanese set. -/
def halfWidth? (set : DoubleByteSet) (b : UInt8) : Option Char :=
  if set = .shiftJis ∧ 0xA1 ≤ b.toNat ∧ b.toNat ≤ 0xDF then some (Char.ofNat (b.toNat - 0xA1 + 0xFF61))
  else none

def decodePairs (set : DoubleByteSet) : List UInt8 → List Char
  | a :: b :: rest =>
    if a < 0x80 then Char.ofNat a.toNat :: decodePairs set (b :: rest)
    else
      match halfWidth? set a, pair? set a b with
      | some c, _ => c :: decodePairs set (b :: rest)
      | none, some c => c :: decodePairs set rest
      | none, none =>
        if set = .eucJp ∧ a = 0x8E ∧ 0xA1 ≤ b ∧ b ≤ 0xDF then
          Char.ofNat (b.toNat - 0xA1 + 0xFF61) :: decodePairs set rest
        else '\uFFFD' :: decodePairs set (b :: rest)
  | [a] => [if a < 0x80 then Char.ofNat a.toNat else (halfWidth? set a).getD '\uFFFD']
  | [] => []

/-- The text of bytes. -/
def decode : Charset → List UInt8 → List Char
  | utf8, bytes => decodeUtf8 0 bytes
  | utf16 bigEndian, bytes => decodeUnits (units bigEndian bytes)
  | ascii, bytes => bytes.map fun b => if b < 0x80 then Char.ofNat b.toNat else '\uFFFD'
  | latin1, bytes => bytes.map fun b => Char.ofNat b.toNat
  | eightBit upper, bytes =>
    bytes.map fun b =>
      if b < 0x80 then Char.ofNat b.toNat
      else charOrReplacement (upper.getD (b.toNat - 0x80) 0xFFFD)
  | doubleByte set, bytes => decodePairs set bytes

/-- Other names of the eight-bit sets. -/
def eightBitAlias (name : String) : String :=
  match name with
  | "latin2" | "l2" | "iso8859-2" | "iso_8859-2" => "iso-8859-2"
  | "latin3" | "l3" | "iso8859-3" | "iso_8859-3" => "iso-8859-3"
  | "latin4" | "l4" | "iso8859-4" | "iso_8859-4" => "iso-8859-4"
  | "cyrillic" | "iso8859-5" | "iso_8859-5" => "iso-8859-5"
  | "arabic" | "iso8859-6" | "iso_8859-6" => "iso-8859-6"
  | "greek" | "greek8" | "iso8859-7" | "iso_8859-7" => "iso-8859-7"
  | "hebrew" | "iso8859-8" | "iso_8859-8" => "iso-8859-8"
  | "latin5" | "l5" | "iso8859-9" | "iso_8859-9" => "iso-8859-9"
  | "latin6" | "l6" | "iso8859-10" | "iso_8859-10" => "iso-8859-10"
  | "tis-620" | "tis620" | "iso8859-11" | "iso_8859-11" => "iso-8859-11"
  | "latin7" | "l7" | "iso8859-13" | "iso_8859-13" => "iso-8859-13"
  | "latin8" | "l8" | "iso8859-14" | "iso_8859-14" => "iso-8859-14"
  | "latin-9" | "iso8859-15" | "iso_8859-15" => "iso-8859-15"
  | "latin10" | "l10" | "iso8859-16" | "iso_8859-16" => "iso-8859-16"
  | "cp1250" => "windows-1250"
  | "cp1251" => "windows-1251"
  | "cp1252" => "windows-1252"
  | "cp1253" => "windows-1253"
  | "cp1254" => "windows-1254"
  | "cp1255" => "windows-1255"
  | "cp1256" => "windows-1256"
  | "cp1257" => "windows-1257"
  | "cp1258" => "windows-1258"
  | "866" | "ibm866" => "cp866"
  | "437" | "ibm437" => "cp437"
  | "850" | "ibm850" => "cp850"
  | "852" | "ibm852" => "cp852"
  | "windows-874" => "cp874"
  | "mac" | "macroman" => "macintosh"
  | name => name

/-- The set of a name, in lower case. -/
def named? (name : String) : Option Charset :=
  match name with
  | "utf-8" | "utf8" => some .utf8
  | "utf-16be" => some (.utf16 true)
  | "utf-16" | "utf16" | "utf-16le" => some (.utf16 false)
  | "ascii" | "us-ascii" | "us" | "iso646-us" | "ansi_x3.4-1968" => some .ascii
  | "iso-8859-1" | "iso8859-1" | "iso_8859-1" | "latin1" | "l1" | "iso-latin-1" | "iso latin 1"
  | "cp819" | "ibm819" => some .latin1
  | "shift_jis" | "shift-jis" | "sjis" | "ms_kanji" | "cp932" | "windows-31j" =>
    some (.doubleByte .shiftJis)
  | "euc-jp" | "eucjp" => some (.doubleByte .eucJp)
  | "gb2312" | "gbk" | "cp936" | "ms936" | "windows-936" | "euc-cn" | "euccn" | "gb18030" =>
    some (.doubleByte .gbk)
  | "big5" | "big-5" | "big-five" | "bigfive" | "cn-big5" | "cp950" | "big5-hkscs" =>
    some (.doubleByte .big5)
  | "euc-kr" | "euckr" | "cp949" | "uhc" | "ks_c_5601-1987" => some (.doubleByte .eucKr)
  | name =>
    (upperHalves.find? (·.1 == eightBitAlias name)).map fun (_, codes) =>
      .eightBit (hexNumbers codes.toList).toArray

end Charset

/-! ## The set of a page -/

/-- Drop the mark at the start of bytes that tells their encoding. -/
def withoutMark (bytes : List UInt8) : Option String × List UInt8 :=
  match bytes with
  | 0xFE :: 0xFF :: a :: b :: rest =>
    if a = 0 ∧ b = 0 then (none, bytes) else (some "utf-16be", a :: b :: rest)
  | 0xFF :: 0xFE :: a :: b :: rest =>
    if a = 0 ∧ b = 0 then (some "utf-32le", rest) else (some "utf-16le", a :: b :: rest)
  | 0xEF :: 0xBB :: 0xBF :: rest => (some "utf-8", rest)
  | 0 :: 0 :: 0xFE :: 0xFF :: rest => (some "utf-32be", rest)
  | bytes => (none, bytes)

private def isPageSpace (c : Char) : Bool := c = ' ' || (9 ≤ c.toNat && c.toNat ≤ 13)

/-- The encoding that a declaration at the start of a page names. -/
def declaredAtStart? (page : List Char) : Option String := do
  let page ← dropLead? "<?".toList (page.dropWhile isPageSpace)
  let line := page.takeWhile (· ≠ '\n')
  let (line, _) ← (cutLast? "?>".toList line)
  let (_, value) ← cutLast? "encoding=".toList (line.map asciiLower)
  match value with
  | q :: value =>
    if q = '"' ∨ q = '\'' then
      let name := value.takeWhile fun c => c ≠ '"' && c ≠ '\''
      if name.length < value.length then some (String.ofList name) else none
    else none
  | [] => none
where
  /-- The text before and behind the last occurrence. -/
  cutLast? (part s : List Char) : Option (List Char × List Char) :=
    (cutAt? part.reverse s.reverse).map fun (post, pre) => (pre.reverse, post.reverse)

/-- The character set that the value of an attribute names: what follows the last `charset=` in a
tag. -/
def charsetIn? (tag : List Char) : Option String :=
  (starts tag).reverse.findSome? fun s => do
    let s := (← dropLead? "charset".toList s).dropWhile isPageSpace
    let s := (← dropLead? ['='] s).dropWhile isPageSpace
    let s := match s with
      | '"' :: s | '\'' :: s => s
      | s => s
    let ends (c : Char) : Bool := [' ', '/', ';', '\'', '"', '>'].contains c
    if s.any ends then some (String.ofList (s.takeWhile (!ends ·))) else none
where
  starts : List Char → List (List Char)
    | [] => []
    | c :: s => (c :: s) :: starts s

/-- The character set that a `meta` tag names. -/
def declaredInMeta? : List Char → Option String
  | [] => none
  | c :: s =>
    let here : Option String :=
      if c = '<' then do
        let tag ← dropLead? "meta".toList (s.dropWhile isPageSpace)
        let (inside, rest) := (tag.takeWhile (· ≠ '>'), tag.dropWhile (· ≠ '>'))
        if inside.isEmpty then none else charsetIn? (inside ++ rest.take 1)
      else none
    here.orElse fun _ => declaredInMeta? s

/-- The encoding that a page declares itself. -/
def declared? (bytes : List UInt8) : Option String :=
  let text := bytes.map fun b => asciiLower (Char.ofNat b.toNat)
  let found := (declaredAtStart? (text.take 1024)).orElse fun _ =>
    declaredInMeta? (text.take (max 2048 (bytes.length / 20)))
  found.filter (!·.isEmpty)

/-- The text of a page. Of the encoding that is given, the one that a mark tells, the one that the
page declares and UTF-8, the first known one counts. -/
def decodePage (given : Option String) (bytes : List UInt8) : List Char :=
  let (mark, bytes) := withoutMark bytes
  let names := [given.filter (!·.isEmpty), mark, declared? bytes].filterMap id
  let charset := (names.findSome? fun name => Charset.named? (asciiLowered name)).getD .utf8
  charset.decode bytes

end TrackerSearch.Text
