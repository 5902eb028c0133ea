/-! # Reading UTF-8 that may be malformed

`decode` gives one character for each well-formed sequence and one `none` for each longest part of
a sequence that cannot be continued. `readable` shows such parts as U+FFFD, `strict?` refuses them.
-/

namespace ReadoutCard.Text.Utf8

/-- A sequence that has been opened: the bits read so far, how many bytes are missing, and the
range the next byte has to lie in. -/
structure Partial where
  value : Nat
  missing : Nat
  low : UInt8
  high : UInt8

/-- What a first byte does: it is a character, opens a longer sequence, or belongs nowhere. The
range of the second byte keeps out overlong forms, surrogates and values above U+10FFFF. -/
def first (byte : UInt8) : List (Option Char) × Option Partial :=
  let rest (bits : UInt8) (missing : Nat) (low high : UInt8) :
      List (Option Char) × Option Partial := ([], some ⟨bits.toNat, missing, low, high⟩)
  if byte < 0x80 then ([some (Char.ofNat byte.toNat)], none)
  else if byte < 0xc2 then ([none], none)
  else if byte < 0xe0 then rest (byte &&& 0x1f) 1 0x80 0xbf
  else if byte = 0xe0 then rest 0 2 0xa0 0xbf
  else if byte = 0xed then rest 0x0d 2 0x80 0x9f
  else if byte < 0xf0 then rest (byte &&& 0x0f) 2 0x80 0xbf
  else if byte = 0xf0 then rest 0 3 0x90 0xbf
  else if byte < 0xf4 then rest (byte &&& 0x07) 3 0x80 0xbf
  else if byte = 0xf4 then rest 4 3 0x80 0x8f
  else ([none], none)

/-- Decodes with a sequence open or not. A byte that cannot continue the open sequence ends it and
is then read as a first byte. -/
def decodeFrom : Option Partial → List UInt8 → List (Option Char)
  | none, [] => []
  | some _, [] => [none]
  | none, byte :: rest =>
    let (out, opened) := first byte
    out ++ decodeFrom opened rest
  | some seq, byte :: rest =>
    if seq.low ≤ byte ∧ byte ≤ seq.high then
      let value := seq.value * 64 + (byte &&& 0x3f).toNat
      if seq.missing ≤ 1 then some (Char.ofNat value) :: decodeFrom none rest
      else decodeFrom (some ⟨value, seq.missing - 1, 0x80, 0xbf⟩) rest
    else
      let (out, opened) := first byte
      none :: (out ++ decodeFrom opened rest)

/-- The characters of a byte sequence, `none` for each malformed part. -/
def decode (bytes : List UInt8) : List (Option Char) := decodeFrom none bytes

/-- The text with U+FFFD for each malformed part. -/
def readable (bytes : List UInt8) : String :=
  String.ofList ((decode bytes).map (·.getD '\uFFFD'))

/-- The text, if no part is malformed. -/
def strict? (bytes : List UInt8) : Option String :=
  ((decode bytes).mapM id).map String.ofList

example : decode [0x41, 0xc3, 0xa9, 0xff, 0xe4, 0xb8, 0x41] =
    [some 'A', some 'é', none, none, some 'A'] := by decide

/-- Surrogates and overlong forms are malformed byte by byte. -/
example : decode [0xed, 0xa0, 0x80] = [none, none, none] ∧ decode [0xc0, 0x80] = [none, none] := by
  decide

end ReadoutCard.Text.Utf8
