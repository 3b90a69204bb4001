/-!
# Lenient reading of UTF-8

Bytes are read as text that may be damaged: each longest run of bytes that starts a character and
does not finish it, and each byte that starts none, is read as the replacement character.
-/

namespace GpuCounters.Text

def replacement : Char := '\ufffd'

/-- A character of which some bytes are still to come. -/
structure Unfinished where
  /-- How many bytes are missing -/
  missing : Nat
  /-- The least value of the next byte -/
  low : Nat
  /-- The greatest value of the next byte -/
  high : Nat
  /-- The bits read so far -/
  bits : Nat
  deriving DecidableEq, Repr

/-- What a byte means where a character may start. -/
def start (byte : Nat) : Except Char Unfinished :=
  if byte < 0x80 then .error (Char.ofNat byte)
  else if 0xC2 ≤ byte ∧ byte ≤ 0xDF then .ok ⟨1, 0x80, 0xBF, byte - 0xC0⟩
  else if 0xE0 ≤ byte ∧ byte ≤ 0xEF then
    .ok ⟨2, if byte = 0xE0 then 0xA0 else 0x80, if byte = 0xED then 0x9F else 0xBF, byte - 0xE0⟩
  else if 0xF0 ≤ byte ∧ byte ≤ 0xF4 then
    .ok ⟨3, if byte = 0xF0 then 0x90 else 0x80, if byte = 0xF4 then 0x8F else 0xBF, byte - 0xF0⟩
  else .error replacement

/-- Text read so far, newest character first, and the character under way. -/
structure Lenient where
  /-- The finished characters, newest first -/
  done : List Char
  /-- The character under way -/
  unfinished? : Option Unfinished

namespace Lenient

/-- Take a byte where a character may start. -/
def begin (done : List Char) (byte : Nat) : Lenient :=
  match start byte with
  | .error c => ⟨c :: done, none⟩
  | .ok opened => ⟨done, some opened⟩

def step (reading : Lenient) (byte : UInt8) : Lenient :=
  match reading.unfinished? with
  | none => begin reading.done byte.toNat
  | some p =>
    if p.low ≤ byte.toNat ∧ byte.toNat ≤ p.high then
      let bits := p.bits * 64 + (byte.toNat - 0x80)
      if p.missing ≤ 1 then ⟨Char.ofNat bits :: reading.done, none⟩
      else ⟨reading.done, some ⟨p.missing - 1, 0x80, 0xBF, bits⟩⟩
    else begin (replacement :: reading.done) byte.toNat

/-- The text once no byte follows. -/
def finish (reading : Lenient) : List Char :=
  match reading.unfinished? with
  | none => reading.done.reverse
  | some _ => (replacement :: reading.done).reverse

end Lenient

/-- The text that bytes hold, damaged places replaced. -/
def ofUtf8Lenient (bytes : ByteArray) : String :=
  String.ofList (bytes.foldl Lenient.step ⟨[], none⟩).finish

end GpuCounters.Text
