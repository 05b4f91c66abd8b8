/-!
# UTF-8

Texts from bytes. A byte that belongs to no character is replaced, together with the bytes after it that
could still have continued a character: one replacement stands for the longest beginning of a character.
-/

namespace Linework.Document

/-- How a character begins with a byte: how many bytes follow, what the byte adds to the code, and the range
of the next byte. -/
structure Lead where
  following : Nat
  bits : Nat
  low : Nat := 0x80
  high : Nat := 0xbf

/-- What a byte begins. -/
def lead? (byte : Nat) : Option Lead :=
  if byte < 0x80 then some ⟨0, byte, 0x80, 0xbf⟩
  else if 0xc2 ≤ byte && byte ≤ 0xdf then some ⟨1, byte - 0xc0, 0x80, 0xbf⟩
  else if byte == 0xe0 then some ⟨2, 0, 0xa0, 0xbf⟩
  else if byte == 0xed then some ⟨2, 0xd, 0x80, 0x9f⟩
  else if 0xe1 ≤ byte && byte ≤ 0xef then some ⟨2, byte - 0xe0, 0x80, 0xbf⟩
  else if byte == 0xf0 then some ⟨3, 0, 0x90, 0xbf⟩
  else if byte == 0xf4 then some ⟨3, 4, 0x80, 0x8f⟩
  else if 0xf1 ≤ byte && byte ≤ 0xf3 then some ⟨3, byte - 0xf0, 0x80, 0xbf⟩
  else none

/-- Read the bytes that follow in a character, of which `known` is what is known so far: the character, or
nothing if the bytes break off, and the bytes that are left. -/
def decodeFrom (known : Lead) : List UInt8 → Option Char × List UInt8
  | [] => (if known.following == 0 then some (Char.ofNat known.bits) else none, [])
  | byte :: rest =>
    if known.following == 0 then (some (Char.ofNat known.bits), byte :: rest)
    else
      let n := byte.toNat
      if known.low ≤ n && n ≤ known.high then
        decodeFrom { following := known.following - 1, bits := known.bits * 64 + (n - 0x80) } rest
      else (none, byte :: rest)

/-- Read the first character of some bytes. -/
def decodeOne (byte : UInt8) (rest : List UInt8) : Option Char × List UInt8 :=
  match lead? byte.toNat with
  | some known => decodeFrom known rest
  | none => (none, rest)

/-- Read at most `count` characters, each of which may be missing. -/
def decodeAll : Nat → List UInt8 → List (Option Char)
  | 0, _ => []
  | _, [] => []
  | count + 1, byte :: rest =>
    let (c?, rest) := decodeOne byte rest
    c? :: decodeAll count rest

/-- The characters of bytes, if all of them are whole. -/
def decodeUtf8? (bytes : List UInt8) : Option (List Char) :=
  (decodeAll bytes.length bytes).mapM id

/-- The text of bytes, with replacements for what is no character. -/
def decodeUtf8 (bytes : List UInt8) : String :=
  String.ofList ((decodeAll bytes.length bytes).map (·.getD '\ufffd'))

end Linework.Document
