import Preflight.Text.Hex
import Preflight.Text.Printable

/-!
# Quoted text

A text between quotes, on one line, with every character that would not show escaped. Double quotes
are used only for a text that holds single quotes and no double ones.
-/

namespace Preflight.Text

def quoteOf (s : List Char) : Char :=
  if '\x27' ∈ s ∧ '\x22' ∉ s then '\x22' else '\x27'

def escapeChar (quote c : Char) : List Char :=
  if c = '\\' ∨ c = quote then ['\\', c]
  else if c = '\n' then ['\\', 'n']
  else if c = '\r' then ['\\', 'r']
  else if c = '\t' then ['\\', 't']
  else if isPrintable c then [c]
  else if c.toNat < 0x100 then '\\' :: 'x' :: hexDigits 2 c.toNat
  else if c.toNat < 0x10000 then '\\' :: 'u' :: hexDigits 4 c.toNat
  else '\\' :: 'U' :: hexDigits 8 c.toNat

def quotedChars (s : List Char) : List Char :=
  quoteOf s :: (s.flatMap (escapeChar (quoteOf s)) ++ [quoteOf s])

def quoted (s : String) : String := String.ofList (quotedChars s.toList)

@[simp] theorem toList_quoted (s : String) : (quoted s).toList = quotedChars s.toList := by
  simp [quoted]

end Preflight.Text
