import Preflight.Gateway.BundledSchema
import Preflight.Proofs.Schema.Transport

/-!
# The bundled text

The text of the bundled schema is decoded to a tidy document (`exists_tidy_bundledText`), so nothing is
fetched when it is used. To be decoded by evaluation the text is given as characters, which do not have
to be put into strings and taken out of them again (`toList_written`).
-/

namespace Preflight.Json

mutual

/-- The characters of a value written on one line. -/
def Value.characters : Value → List Char
  | .string s => '\x22' :: (s.toList.flatMap writeChar ++ ['\x22'])
  | .array items => '[' :: ([',', ' '].intercalate (itemsCharacters items) ++ [']'])
  | .object members => '\x7b' :: ([',', ' '].intercalate (membersCharacters members) ++ ['\x7d'])
  | v => v.written.toList

def itemsCharacters : List Value → List (List Char)
  | [] => []
  | v :: vs => v.characters :: itemsCharacters vs

def membersCharacters : Members → List (List Char)
  | [] => []
  | (name, v) :: rest =>
    ('\x22' :: (name.toList.flatMap writeChar ++ '\x22' :: ':' :: ' ' :: v.characters)) ::
      membersCharacters rest

end

theorem toList_writeString (s : String) :
    (writeString s).toList = '\x22' :: (s.toList.flatMap writeChar ++ ['\x22']) :=
  String.toList_ofList

mutual

theorem toList_written (v : Value) : v.written.toList = v.characters := by
  cases v with
  | string s => exact toList_writeString s
  | array items =>
    rw [Value.written, Value.characters, ← map_itemsWritten items]
    simp
  | object members =>
    rw [Value.written, Value.characters, ← map_membersWritten members]
    simp
  | _ => rfl

theorem map_itemsWritten (items : List Value) :
    (itemsWritten items).map String.toList = itemsCharacters items := by
  cases items with
  | nil => rfl
  | cons v vs => rw [itemsWritten, List.map_cons, toList_written v, map_itemsWritten vs, itemsCharacters]

theorem map_membersWritten (members : Members) :
    (membersWritten members).map String.toList = membersCharacters members := by
  cases members with
  | nil => rfl
  | cons m rest =>
    obtain ⟨name, v⟩ := m
    rw [membersWritten, List.map_cons, map_membersWritten rest, membersCharacters, ← toList_written v]
    simp [toList_writeString]

end

end Preflight.Json

namespace Preflight.Gateway

open Json Schema

/-- The bundled text is decoded to a tidy document. -/
theorem exists_tidy_bundledText :
    ∃ document, decodeText bundledText.toList = .ok document ∧ isTidy document = true := by
  have h : (decodeText bundledSchema.characters).toOption.any isTidy = true := by decide +kernel
  rw [show bundledText.toList = bundledSchema.characters from toList_written bundledSchema]
  cases hd : decodeText bundledSchema.characters with
  | ok document =>
    rw [hd] at h
    exact ⟨document, rfl, h⟩
  | error cause =>
    rw [hd] at h
    cases h

end Preflight.Gateway
