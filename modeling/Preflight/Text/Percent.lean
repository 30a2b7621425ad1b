import Preflight.Text.Hex
import Preflight.Text.Utf8

/-!
# Percent escapes

Any byte of a URL may be written as `%` and two hexadecimal digits. Writing escapes all bytes but
letters, digits, `_ . - ~` and the slash; reading takes the escaped bytes of one stretch of ASCII
text together as UTF-8.
-/

namespace Preflight.Text

def isPathByte (b : UInt8) : Bool :=
  let c := Char.ofNat b.toNat
  b.toNat < 128 && (c.isAlphanum || c == '_' || c == '.' || c == '-' || c == '~' || c == '/')

def escapeByte (b : UInt8) : List Char :=
  if isPathByte b then [Char.ofNat b.toNat]
  else ['%', hexUpper (b.toNat / 16), hexUpper (b.toNat % 16)]

def percentEncode (bytes : List UInt8) : List Char := bytes.flatMap escapeByte

/-- The bytes that ASCII text with escapes stands for; a `%` that begins no escape is kept. -/
def unescapeBytes : List Char → List UInt8
  | '%' :: a :: b :: s =>
    match hexValue? a, hexValue? b with
    | some x, some y => UInt8.ofNat (16 * x + y) :: unescapeBytes s
    | _, _ => 37 :: unescapeBytes (a :: b :: s)
  | c :: s => UInt8.ofNat c.toNat :: unescapeBytes s
  | [] => []

/-- Cuts a text before the first character that leaves or enters ASCII. -/
def asciiRun (ascii : Bool) : List Char → List Char × List Char
  | [] => ([], [])
  | c :: s =>
    if (c.toNat < 128) = ascii then
      let (run, rest) := asciiRun ascii s
      (c :: run, rest)
    else ([], c :: s)

theorem length_asciiRun (ascii : Bool) (s : List Char) : (asciiRun ascii s).2.length ≤ s.length := by
  induction s with
  | nil => simp [asciiRun]
  | cons c s ih =>
    by_cases h : (c.toNat < 128) = ascii
    · simp only [asciiRun, h, if_true, List.length_cons]; omega
    · simp [asciiRun, h]

/-- The text that a text with percent escapes stands for; bytes that are no UTF-8 become U+FFFD. -/
def percentDecode : List Char → List Char
  | [] => []
  | c :: s =>
    if c.toNat < 128 then
      let run := asciiRun true s
      utf8Lossy (unescapeBytes (c :: run.1)) ++ percentDecode run.2
    else c :: percentDecode s
termination_by s => s.length
decreasing_by
  · have := length_asciiRun true s; simp only [List.length_cons]; omega
  · simp

end Preflight.Text
