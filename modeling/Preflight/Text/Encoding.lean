import Preflight.Text.Hex
import Preflight.Text.Utf8

/-!
# Text encodings

Reading bytes as UTF-8, UTF-16 or UTF-32, and guessing which of them a document uses from its byte
order mark or from the zero bytes among its first four. The first fault is kept with the bytes it
spans.
-/

namespace Preflight.Text

/-- The byte orders and encodings a document may use. -/
inductive Encoding
  | utf8
  | utf16le
  | utf16be
  | utf32le
  | utf32be
  deriving DecidableEq, Repr

def Encoding.label : Encoding → String
  | .utf8 => "utf-8"
  | .utf16le => "utf-16-le"
  | .utf16be => "utf-16-be"
  | .utf32le => "utf-32-le"
  | .utf32be => "utf-32-be"

/-- The bytes that could not be read: `span` of them from position `start`, the first being
`byte`. -/
structure BadBytes where
  encoding : Encoding
  reason : DecodeReason
  start : Nat
  span : Nat
  byte : UInt8
  deriving DecidableEq, Repr

def DecodeReason.message : DecodeReason → String
  | .invalidStart => "invalid start byte"
  | .invalidContinuation => "invalid continuation byte"
  | .unexpectedEnd => "unexpected end of data"
  | .truncated => "truncated data"
  | .outOfRange => "code point not in range(0x110000)"

def BadBytes.message (b : BadBytes) : String :=
  let place :=
    if b.span = 1 then
      s!"byte 0x{String.ofList (hexDigits 2 b.byte.toNat)} in position {b.start}"
    else s!"bytes in position {b.start}-{b.start + b.span - 1}"
  s!"'{b.encoding.label}' codec can't decode {place}: {b.reason.message}"

/-- Whether three bytes are a surrogate written as if it were a character. -/
def isSurrogateTriple : List UInt8 → Bool
  | a :: b :: c :: _ => a == 0xED && 0xA0 ≤ b.toNat && isContinuation b && isContinuation c
  | _ => false

/-- Reads UTF-8 from position `pos` on; with `surrogates`, a surrogate counts as U+FFFD. -/
def decodeUtf8From (surrogates : Bool) : Nat → Nat → List UInt8 → Except BadBytes (List Char)
  | 0, _, _ => .ok []
  | _, _, [] => .ok []
  | fuel + 1, pos, a :: bs =>
    match takeChar a bs with
    | .char c size => (c :: ·) <$> decodeUtf8From surrogates fuel (pos + size) (bs.drop (size - 1))
    | .fault reason span =>
      if surrogates && isSurrogateTriple (a :: bs) then
        ('\ufffd' :: ·) <$> decodeUtf8From surrogates fuel (pos + 3) (bs.drop 2)
      else .error ⟨.utf8, reason, pos, span, a⟩

def decodeUtf8 (bs : List UInt8) : Except BadBytes (List Char) :=
  decodeUtf8From false bs.length 0 bs

/-- A code point as a character; a surrogate counts as U+FFFD. -/
def charOrReplacement (n : Nat) : Char :=
  if n.isValidChar then Char.ofNat n else '\ufffd'

def decodeUtf16From (bigEndian : Bool) : Nat → Nat → List UInt8 → Except BadBytes (List Char)
  | 0, _, _ => .ok []
  | _, _, [] => .ok []
  | _, pos, [a] => .error ⟨if bigEndian then .utf16be else .utf16le, .truncated, pos, 1, a⟩
  | fuel + 1, pos, a :: b :: bs =>
    let unit (x y : UInt8) : Nat :=
      if bigEndian then x.toNat * 256 + y.toNat else y.toNat * 256 + x.toNat
    let u := unit a b
    match bs with
    | c :: d :: rest =>
      if u / 1024 = 54 ∧ unit c d / 1024 = 55 then
        (Char.ofNat (0x10000 + u % 1024 * 1024 + unit c d % 1024) :: ·) <$>
          decodeUtf16From bigEndian fuel (pos + 4) rest
      else (charOrReplacement u :: ·) <$> decodeUtf16From bigEndian fuel (pos + 2) bs
    | _ => (charOrReplacement u :: ·) <$> decodeUtf16From bigEndian fuel (pos + 2) bs

def decodeUtf32From (bigEndian : Bool) : Nat → Nat → List UInt8 → Except BadBytes (List Char)
  | 0, _, _ => .ok []
  | _, _, [] => .ok []
  | fuel + 1, pos, a :: b :: c :: d :: rest =>
    let n :=
      if bigEndian then ((a.toNat * 256 + b.toNat) * 256 + c.toNat) * 256 + d.toNat
      else ((d.toNat * 256 + c.toNat) * 256 + b.toNat) * 256 + a.toNat
    if n < 0x110000 then
      (charOrReplacement n :: ·) <$> decodeUtf32From bigEndian fuel (pos + 4) rest
    else .error ⟨if bigEndian then .utf32be else .utf32le, .outOfRange, pos, 4, a⟩
  | _, pos, a :: rest =>
    .error ⟨if bigEndian then .utf32be else .utf32le, .truncated, pos, rest.length + 1, a⟩

def byteOrderMarks : List (List UInt8 × Encoding) := [
  ([0x00, 0x00, 0xFE, 0xFF], .utf32be),
  ([0xFF, 0xFE, 0x00, 0x00], .utf32le),
  ([0xFE, 0xFF], .utf16be),
  ([0xFF, 0xFE], .utf16le),
  ([0xEF, 0xBB, 0xBF], .utf8)]

/-- The encoding of a document without a mark, by the zeros among its first bytes. -/
def guessUnmarked : List UInt8 → Encoding
  | a :: b :: c :: d :: _ =>
    if a = 0 then (if b = 0 then .utf32be else .utf16be)
    else if b = 0 then (if c = 0 ∧ d = 0 then .utf32le else .utf16le)
    else .utf8
  | [a, b] => if a = 0 then .utf16be else if b = 0 then .utf16le else .utf8
  | _ => .utf8

/-- The encoding of a document and the number of bytes of its byte order mark. -/
def guessEncoding (bs : List UInt8) : Encoding × Nat :=
  match byteOrderMarks.find? (·.1.isPrefixOf bs) with
  | some (mark, encoding) => (encoding, mark.length)
  | none => (guessUnmarked bs, 0)

/-- Reads a document in the encoding its first bytes suggest. Positions count the byte order mark
except in UTF-8. -/
def decodeGuessed (bs : List UInt8) : Except BadBytes (List Char) :=
  let (encoding, mark) := guessEncoding bs
  let body := bs.drop mark
  match encoding with
  | .utf8 => decodeUtf8From true body.length 0 body
  | .utf16le => decodeUtf16From false body.length mark body
  | .utf16be => decodeUtf16From true body.length mark body
  | .utf32le => decodeUtf32From false body.length mark body
  | .utf32be => decodeUtf32From true body.length mark body

/-- A text with `\r\n` and a lone `\r` turned into `\n`. -/
def unifyNewlines : List Char → List Char
  | [] => []
  | '\r' :: '\n' :: s => '\n' :: unifyNewlines s
  | c :: s => (if c = '\r' then '\n' else c) :: unifyNewlines s

end Preflight.Text
