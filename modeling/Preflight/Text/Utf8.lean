/-!
# UTF-8

Bytes of a text and text of bytes. Reading is strict: no overlong form, no surrogate, nothing above
U+10FFFF; a fault spans the bytes that began a character and could not go on.
-/

namespace Preflight.Text

def encodeChar (c : Char) : List UInt8 :=
  let n := c.toNat
  if n < 0x80 then [UInt8.ofNat n]
  else if n < 0x800 then [UInt8.ofNat (0xC0 + n / 64), UInt8.ofNat (0x80 + n % 64)]
  else if n < 0x10000 then
    [UInt8.ofNat (0xE0 + n / 4096), UInt8.ofNat (0x80 + n / 64 % 64), UInt8.ofNat (0x80 + n % 64)]
  else
    [UInt8.ofNat (0xF0 + n / 262144), UInt8.ofNat (0x80 + n / 4096 % 64),
      UInt8.ofNat (0x80 + n / 64 % 64), UInt8.ofNat (0x80 + n % 64)]

def utf8 (s : List Char) : List UInt8 := s.flatMap encodeChar

/-- Why bytes are not text in some encoding. -/
inductive DecodeReason
  | invalidStart
  | invalidContinuation
  | unexpectedEnd
  | truncated
  | outOfRange
  deriving DecidableEq, Repr

/-- What stands at the head of some bytes: a character and the number of bytes it takes, or a
reason and the number of bytes at fault. -/
inductive Taken
  | char (c : Char) (size : Nat)
  | fault (reason : DecodeReason) (span : Nat)

def isContinuation (b : UInt8) : Bool := b.toNat / 64 == 2

/-- Whether `b` may follow the first byte `a` of a character of three or four bytes. -/
def mayFollow (a b : UInt8) : Bool :=
  isContinuation b &&
    match a.toNat with
    | 0xE0 => 0xA0 ≤ b.toNat
    | 0xED => b.toNat < 0xA0
    | 0xF0 => 0x90 ≤ b.toNat
    | 0xF4 => b.toNat < 0x90
    | _ => true

/-- The number read from continuation bytes after a first byte that contributes `n`. -/
def continued (n : Nat) (bs : List UInt8) : Nat :=
  bs.foldl (fun n b => n * 64 + b.toNat % 64) n

/-- Reads the character at the head of nonempty bytes `a :: bs`. -/
def takeChar (a : UInt8) (bs : List UInt8) : Taken :=
  let n := a.toNat
  if n < 0x80 then .char (Char.ofNat n) 1
  else if n < 0xC2 then .fault .invalidStart 1
  else if n < 0xE0 then
    match bs with
    | [] => .fault .unexpectedEnd 1
    | b :: _ =>
      if isContinuation b then .char (Char.ofNat (continued (n % 32) [b])) 2
      else .fault .invalidContinuation 1
  else if n < 0xF0 then
    match bs with
    | [] => .fault .unexpectedEnd 1
    | b :: bs =>
      if !mayFollow a b then .fault .invalidContinuation 1
      else match bs with
        | [] => .fault .unexpectedEnd 2
        | c :: _ =>
          if isContinuation c then .char (Char.ofNat (continued (n % 16) [b, c])) 3
          else .fault .invalidContinuation 2
  else if n < 0xF5 then
    match bs with
    | [] => .fault .unexpectedEnd 1
    | b :: bs =>
      if !mayFollow a b then .fault .invalidContinuation 1
      else match bs with
        | [] => .fault .unexpectedEnd 2
        | c :: bs =>
          if !isContinuation c then .fault .invalidContinuation 2
          else match bs with
            | [] => .fault .unexpectedEnd 3
            | d :: _ =>
              if isContinuation d then .char (Char.ofNat (continued (n % 8) [b, c, d])) 4
              else .fault .invalidContinuation 3
  else .fault .invalidStart 1

def decodeLossy : Nat → List UInt8 → List Char
  | 0, _ => []
  | _, [] => []
  | fuel + 1, a :: bs =>
    match takeChar a bs with
    | .char c size => c :: decodeLossy fuel (bs.drop (size - 1))
    | .fault _ span => '\ufffd' :: decodeLossy fuel (bs.drop (span - 1))

def utf8Lossy (bs : List UInt8) : List Char := decodeLossy bs.length bs

end Preflight.Text
