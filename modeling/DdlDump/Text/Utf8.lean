import DdlDump.Text.Basic

/-!
# Reading UTF-8 that may be broken

A tool's output is bytes. Well-formed sequences give their characters; each longest piece that
could have begun a character but does not complete one gives a single replacement character, and a
byte that begins none gives one of its own. Decoding therefore never fails.

The decoder is a small machine: it knows how many bytes of the present character are missing and in
which interval the next of them has to lie. The interval is narrower than usual only behind the
four leading bytes that could otherwise write a character in too many bytes, a surrogate, or a code
point beyond the last.
-/

namespace DdlDump

/-- The character that stands for bytes without meaning. -/
def replacementChar : Char := '\ufffd'

/-- A character that has begun: `missing` more bytes, the next between `low` and `high`, on top of
the bits read so far. -/
structure Utf8Pending where
  missing : Nat
  low : Nat
  high : Nat
  bits : Nat

/-- What a byte says where no character is in progress: a character, the beginning of one, or
nothing sensible. -/
inductive Utf8Lead
  | single (c : Char)
  | opens (p : Utf8Pending)
  | invalid

/-- Reads a leading byte. -/
def Utf8Lead.ofByte (b : Nat) : Utf8Lead :=
  if b < 0x80 then .single (Char.ofNat b)
  else if b < 0xc2 then .invalid
  else if b < 0xe0 then .opens ⟨1, 0x80, 0xbf, b - 0xc0⟩
  else if b < 0xf0 then
    .opens ⟨2, if b = 0xe0 then 0xa0 else 0x80, if b = 0xed then 0x9f else 0xbf, b - 0xe0⟩
  else if b < 0xf5 then
    .opens ⟨3, if b = 0xf0 then 0x90 else 0x80, if b = 0xf4 then 0x8f else 0xbf, b - 0xf0⟩
  else .invalid

namespace Text

/-- Characters completed at a leading byte, and the character it leaves in progress. -/
def decodeLead (b : Nat) : Text × Option Utf8Pending :=
  match Utf8Lead.ofByte b with
  | .single c => ([c], none)
  | .opens p => ([], some p)
  | .invalid => ([replacementChar], none)

/-- Decodes bytes with a character possibly in progress. -/
def decodeFrom : Option Utf8Pending → List UInt8 → Text
  | none, [] => []
  | some _, [] => [replacementChar]
  | none, b :: bs =>
    let (done, pending) := decodeLead b.toNat
    done ++ decodeFrom pending bs
  | some p, b :: bs =>
    if p.low ≤ b.toNat && b.toNat ≤ p.high then
      let bits := p.bits * 64 + (b.toNat - 0x80)
      if p.missing ≤ 1 then
        Char.ofNat bits :: decodeFrom none bs
      else
        decodeFrom (some ⟨p.missing - 1, 0x80, 0xbf, bits⟩) bs
    else
      let (done, pending) := decodeLead b.toNat
      replacementChar :: (done ++ decodeFrom pending bs)

/-- The text of a tool's output. -/
def decodeUtf8 (bytes : List UInt8) : Text :=
  decodeFrom none bytes

end Text

end DdlDump
