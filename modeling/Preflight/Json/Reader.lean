import Preflight.Json.Value
import Preflight.Text.Encoding
import Preflight.Text.Hex

/-!
# Reading JSON

Text and bytes to values. Besides standard JSON the reader takes `NaN`, `Infinity` and `-Infinity`,
and a repeated name keeps its first place and its last value. A fault says what was expected and
where; a whole number of more than 4300 digits is a fault of its own kind, met where it stands.
-/

namespace Preflight.Json

open Decimal Text

/-- What is wrong with a text at some place. -/
inductive SyntaxFault
  | expectedValue
  | expectedComma
  | expectedColon
  | expectedName
  | unterminatedString
  | invalidEscape
  | invalidUnicodeEscape
  | controlCharacter
  | extraData
  | byteOrderMark
  deriving DecidableEq, Repr

def SyntaxFault.message : SyntaxFault → String
  | .expectedValue => "Expecting value"
  | .expectedComma => "Expecting ',' delimiter"
  | .expectedColon => "Expecting ':' delimiter"
  | .expectedName => "Expecting property name enclosed in double quotes"
  | .unterminatedString => "Unterminated string starting at"
  | .invalidEscape => "Invalid \\escape"
  | .invalidUnicodeEscape => "Invalid \\uXXXX escape"
  | .controlCharacter => "Invalid control character at"
  | .extraData => "Extra data"
  | .byteOrderMark => "Unexpected UTF-8 BOM (decode using utf-8-sig)"

/-- Why reading stopped, the place being told by what is left of the text. -/
inductive Stop
  | fault (kind : SyntaxFault) (rest : List Char)
  | longInteger (digits : Nat)
  deriving DecidableEq, Repr

def maxIntegerDigits : Nat := 4300

def isSpace (c : Char) : Bool := c = ' ' || c = '\t' || c = '\n' || c = '\r'

def skipSpace (s : List Char) : List Char := s.dropWhile isSpace

def isDigit (c : Char) : Bool := 48 ≤ c.toNat && c.toNat ≤ 57

def digitsValue (ds : List Char) : Nat := ds.foldl (fun n d => 10 * n + (d.toNat - 48)) 0

def hexFour? (a b c d : Char) : Option Nat := do
  let a ← hexValue? a
  let b ← hexValue? b
  let c ← hexValue? c
  let d ← hexValue? d
  pure (((a * 16 + b) * 16 + c) * 16 + d)

def simpleEscape? : Char → Option Char
  | '\x22' => some '\x22'
  | '\\' => some '\\'
  | '/' => some '/'
  | 'b' => some '\x08'
  | 'f' => some '\x0c'
  | 'n' => some '\n'
  | 'r' => some '\r'
  | 't' => some '\t'
  | _ => none

def pushChar (c : Char) : Except Stop (List Char × List Char) → Except Stop (List Char × List Char)
  | .ok (s, rest) => .ok (c :: s, rest)
  | .error e => .error e

def joinSurrogates? : Option Nat → Nat → Option Char
  | some high, low =>
    if low / 1024 = 55 then some (Char.ofNat (0x10000 + high % 1024 * 1024 + low % 1024)) else none
  | none, _ => none

/-- Puts U+FFFD in place of a high surrogate that nothing completed. -/
def flushSurrogate (high : Option Nat) (r : Except Stop (List Char × List Char)) :
    Except Stop (List Char × List Char) :=
  if high.isSome then pushChar '\ufffd' r else r

/-- Reads a string after its opening quote; `start` is the text from that quote on and `high` a
surrogate just read that may begin a pair. An escape is never the last thing in a text. -/
def readString (start : List Char) : Option Nat → List Char → Except Stop (List Char × List Char)
  | _, [] => .error (.fault .unterminatedString start)
  | high, '\x22' :: rest => flushSurrogate high (.ok ([], rest))
  | _, ['\\'] => .error (.fault .unterminatedString start)
  | high, '\\' :: 'u' :: a :: b :: c :: d :: rest =>
    if rest.isEmpty then .error (.fault .invalidUnicodeEscape ('u' :: a :: b :: c :: d :: rest))
    else match hexFour? a b c d with
      | none => .error (.fault .invalidUnicodeEscape ('u' :: a :: b :: c :: d :: rest))
      | some u =>
        match joinSurrogates? high u with
        | some c => pushChar c (readString start none rest)
        | none =>
          flushSurrogate high <|
            if u / 1024 = 54 then readString start (some u) rest
            else pushChar (charOrReplacement u) (readString start none rest)
  | _, '\\' :: 'u' :: rest => .error (.fault .invalidUnicodeEscape ('u' :: rest))
  | high, '\\' :: k :: rest =>
    match simpleEscape? k with
    | some c => flushSurrogate high (pushChar c (readString start none rest))
    | none => .error (.fault .invalidEscape ('\\' :: k :: rest))
  | high, c :: rest =>
    if c.toNat < 32 then .error (.fault .controlCharacter (c :: rest))
    else flushSurrogate high (pushChar c (readString start none rest))

/-- The digits of a fraction and the text after it, if one stands at the head. -/
def takeFraction? : List Char → Option (List Char × List Char)
  | '.' :: d :: rest =>
    if isDigit d then some ((d :: rest).takeWhile isDigit, (d :: rest).dropWhile isDigit) else none
  | _ => none

/-- The value of an exponent and the text after it, if one stands at the head. -/
def takeExponent? : List Char → Option (Int × List Char)
  | e :: rest =>
    if e = 'e' ∨ e = 'E' then
      let (negative, rest) := match rest with
        | '-' :: rest => (true, rest)
        | '+' :: rest => (false, rest)
        | rest => (false, rest)
      let digits := rest.takeWhile isDigit
      if digits.isEmpty then none
      else
        let n : Int := digitsValue digits
        some (if negative then -n else n, rest.dropWhile isDigit)
    else none
  | [] => none

/-- The digits before the fraction, which start with a zero only if they are `0`, and the text after
them. -/
def takeWhole? : List Char → Option (List Char × List Char)
  | '0' :: rest => some (['0'], rest)
  | d :: rest =>
    if isDigit d then some ((d :: rest).takeWhile isDigit, (d :: rest).dropWhile isDigit) else none
  | [] => none

/-- Reads a number: a floating-point one if it has a fraction or an exponent. -/
def readNumber (s : List Char) : Except Stop (Value × List Char) :=
  let (negative, body) := match s with
    | '-' :: rest => (true, rest)
    | _ => (false, s)
  match takeWhole? body with
  | none => .error (.fault .expectedValue s)
  | some (whole, rest) =>
    let fraction := takeFraction? rest
    let rest := (fraction.map (·.2)).getD rest
    let exponent := takeExponent? rest
    let rest := (exponent.map (·.2)).getD rest
    if fraction.isNone && exponent.isNone then
      if maxIntegerDigits < whole.length then .error (.longInteger whole.length)
      else
        let n : Int := digitsValue whole
        .ok (.int (if negative then -n else n), rest)
    else
      let decimals := (fraction.map (·.1)).getD []
      let power := (exponent.map (·.1)).getD 0 - decimals.length
      .ok (.float (Binary64.ofDecimal negative (digitsValue (whole ++ decimals)) power), rest)

mutual

def readValue : Nat → List Char → Except Stop (Value × List Char)
  | 0, s => .error (.fault .expectedValue s)
  | _ + 1, '\x22' :: rest => do
    let (s, rest) ← readString ('\x22' :: rest) none rest
    pure (.string (String.ofList s), rest)
  | fuel + 1, '[' :: rest =>
    match skipSpace rest with
    | ']' :: rest => .ok (.array [], rest)
    | rest => do
      let (items, rest) ← readItems fuel rest
      pure (.array items, rest)
  | fuel + 1, '\x7b' :: rest =>
    match skipSpace rest with
    | '\x7d' :: rest => .ok (.object [], rest)
    | rest => do
      let (members, rest) ← readMembers fuel rest
      pure (.object (Members.ofList members), rest)
  | _ + 1, 'n' :: 'u' :: 'l' :: 'l' :: rest => .ok (.null, rest)
  | _ + 1, 't' :: 'r' :: 'u' :: 'e' :: rest => .ok (.bool true, rest)
  | _ + 1, 'f' :: 'a' :: 'l' :: 's' :: 'e' :: rest => .ok (.bool false, rest)
  | _ + 1, 'N' :: 'a' :: 'N' :: rest => .ok (.float .nan, rest)
  | _ + 1, 'I' :: 'n' :: 'f' :: 'i' :: 'n' :: 'i' :: 't' :: 'y' :: rest =>
    .ok (.float (.infinite false), rest)
  | _ + 1, '-' :: 'I' :: 'n' :: 'f' :: 'i' :: 'n' :: 'i' :: 't' :: 'y' :: rest =>
    .ok (.float (.infinite true), rest)
  | _ + 1, s => readNumber s

def readItems : Nat → List Char → Except Stop (List Value × List Char)
  | 0, s => .error (.fault .expectedValue s)
  | fuel + 1, s => do
    let (v, rest) ← readValue fuel s
    match skipSpace rest with
    | ']' :: rest => pure ([v], rest)
    | ',' :: rest =>
      let (vs, rest) ← readItems fuel (skipSpace rest)
      pure (v :: vs, rest)
    | rest => .error (.fault .expectedComma rest)

def readMembers : Nat → List Char → Except Stop (List (String × Value) × List Char)
  | 0, s => .error (.fault .expectedName s)
  | fuel + 1, s =>
    match s with
    | '\x22' :: rest => do
      let (name, rest) ← readString s none rest
      match skipSpace rest with
      | ':' :: rest =>
        let (v, rest) ← readValue fuel (skipSpace rest)
        match skipSpace rest with
        | '\x7d' :: rest => pure ([(String.ofList name, v)], rest)
        | ',' :: rest =>
          let (ms, rest) ← readMembers fuel (skipSpace rest)
          pure ((String.ofList name, v) :: ms, rest)
        | rest => .error (.fault .expectedComma rest)
      | rest => .error (.fault .expectedColon rest)
    | _ => .error (.fault .expectedName s)

end

def readDocument (s : List Char) : Except Stop Value := do
  let (v, rest) ← readValue (2 * s.length + 2) (skipSpace s)
  match skipSpace rest with
  | [] => pure v
  | rest => .error (.fault .extraData rest)

/-- A place in a text: characters before it, line and column counted from one. -/
structure Place where
  offset : Nat
  line : Nat
  column : Nat
  deriving DecidableEq, Repr

def Place.after (before : List Char) : Place :=
  { offset := before.length
    line := before.count '\n' + 1
    column := (before.reverse.takeWhile (· != '\n')).length + 1 }

/-- Why a text or some bytes are no JSON document. -/
inductive Malformed
  | syntaxFault (kind : SyntaxFault) (place : Place)
  | longInteger (digits : Nat)
  | undecodable (bytes : BadBytes)
  deriving DecidableEq, Repr

def longIntegerMessage (digits : Nat) : String :=
  s!"Exceeds the limit ({maxIntegerDigits} digits) for integer string conversion: value has " ++
    s!"{digits} digits; use sys.set_int_max_str_digits() to increase the limit"

def Malformed.message : Malformed → String
  | .syntaxFault kind place =>
    s!"{kind.message}: line {place.line} column {place.column} (char {place.offset})"
  | .longInteger digits => longIntegerMessage digits
  | .undecodable bytes => bytes.message

def Stop.locate (text : List Char) : Stop → Malformed
  | .fault kind rest => .syntaxFault kind (Place.after (text.take (text.length - rest.length)))
  | .longInteger digits => .longInteger digits

def decodeChars (text : List Char) : Except Malformed Value :=
  (readDocument text).mapError (Stop.locate text)

def decodeText (text : List Char) : Except Malformed Value :=
  match text with
  | '\ufeff' :: _ => .error (.syntaxFault .byteOrderMark (Place.after []))
  | _ => decodeChars text

/-- Decodes bytes in the encoding their beginning suggests. -/
def decodeBytes (bytes : List UInt8) : Except Malformed Value :=
  match decodeGuessed bytes with
  | .ok text => decodeChars text
  | .error bad => .error (.undecodable bad)

end Preflight.Json
