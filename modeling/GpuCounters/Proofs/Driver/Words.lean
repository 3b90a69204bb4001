import GpuCounters.Compute.Simulated
import GpuCounters.Driver.Scripted
import Mathlib.Algebra.GroupWithZero.Nat

/-!
# Words of scripted reports

A scripted driver reads the report of an event in words of four bytes. A query hands over as many
bytes as there is room for, and where the report is too short there are zeros. So whatever bytes
come with an event, a metric has the word at its own position among them, as if zeros went on behind
their end.
-/

namespace GpuCounters

/-- The byte at a position. Behind the end there are zeros. -/
def byteAt (bytes : ByteArray) (position : Nat) : UInt8 := bytes.data.toList.getD position 0

/-- The number of four bytes, least one first. -/
def wordOf (a b c d : UInt8) : UInt32 :=
  .ofNat (a.toNat + b.toNat * 2 ^ 8 + c.toNat * 2 ^ 16 + d.toNat * 2 ^ 24)

/-- The word at a position that is counted in words. -/
def wordAt (bytes : ByteArray) (i : Nat) : UInt32 :=
  wordOf (byteAt bytes (4 * i)) (byteAt bytes (4 * i + 1)) (byteAt bytes (4 * i + 2))
    (byteAt bytes (4 * i + 3))

/-! ## Bytes -/

/-- The induction is on the bytes that are still to be listed. -/
theorem toList_loop_eq (bytes : ByteArray) (position : Nat) (listed : List UInt8) :
    ByteArray.toList.loop bytes position listed =
      listed.reverse ++ bytes.data.toList.drop position := by
  induction position, listed using ByteArray.toList.loop.induct bytes with
  | case1 position listed hlt ih =>
    have hlength : position < bytes.data.toList.length := hlt
    have hbyte : bytes.get! position = bytes.data.toList[position] := getElem!_pos bytes.data _ hlt
    rw [ByteArray.toList.loop, if_pos hlt, ih, hbyte, List.drop_eq_getElem_cons hlength,
      List.reverse_cons, List.append_assoc, List.singleton_append]
  | case2 position listed hge =>
    have hlength : bytes.data.toList.length ≤ position := Nat.le_of_not_lt hge
    rw [ByteArray.toList.loop, if_neg hge, List.drop_eq_nil_of_le hlength, List.append_nil]

theorem toList_eq_data (bytes : ByteArray) : bytes.toList = bytes.data.toList :=
  toList_loop_eq bytes 0 []

/-- What fits, with zeros behind it, is the byte at each position. -/
theorem take_append_zeros (bytes : List UInt8) (size : Nat) :
    bytes.take size ++ List.replicate (size - (bytes.take size).length) 0 =
      (List.range size).map fun position ↦ bytes.getD position 0 := by
  apply List.ext_getElem?
  intro position
  rw [List.getElem?_append, List.length_take, List.getElem?_map]
  grind

/-- The buffer of a query has the byte at each position. -/
theorem data_buffer_query (bytes : ByteArray) (stated size : Nat) :
    (ProfilingInfo.buffer size ⟨bytes.extract 0 size, stated⟩).data.toList =
      (List.range size).map (byteAt bytes) := by
  have hhanded : ((bytes.extract 0 size).extract 0 size).data.toList =
      bytes.data.toList.take size := by
    simp [List.extract_eq_take_drop]
  have hsize : ((bytes.extract 0 size).extract 0 size).size =
      (bytes.data.toList.take size).length := by
    rw [← hhanded]
    rfl
  unfold ProfilingInfo.buffer
  dsimp only
  rw [ByteArray.data_append, Array.toList_append, hhanded, hsize, Array.toList_replicate]
  exact take_append_zeros _ _

/-! ## Words -/

theorem toNat_wordOf (a b c d : UInt8) :
    (wordOf a b c d).toNat = a.toNat + b.toNat * 2 ^ 8 + c.toNat * 2 ^ 16 + d.toNat * 2 ^ 24 := by
  have := a.toNat_lt
  have := b.toNat_lt
  have := c.toNat_lt
  have := d.toNat_lt
  rw [wordOf, UInt32.toNat_ofNat', Nat.mod_eq_of_lt]
  omega

/-- A byte that is shifted by up to three bytes is still there. -/
theorem toNat_toUInt32_shiftLeft (byte : UInt8) {k : UInt32} (hk : k.toNat ≤ 24) :
    (byte.toUInt32 <<< k).toNat = byte.toNat <<< k.toNat := by
  have hlt : byte.toNat <<< k.toNat < 2 ^ 32 := by
    calc byte.toNat <<< k.toNat
      _ = byte.toNat * 2 ^ k.toNat := Nat.shiftLeft_eq _ _
      _ < 2 ^ 8 * 2 ^ k.toNat := Nat.mul_lt_mul_of_pos_right byte.toNat_lt (Nat.two_pow_pos _)
      _ = 2 ^ (8 + k.toNat) := (Nat.pow_add 2 8 _).symm
      _ ≤ 2 ^ 32 := Nat.pow_le_pow_right (by decide) (by omega)
  rw [UInt32.toNat_shiftLeft, UInt8.toNat_toUInt32, Nat.mod_eq_of_lt (by omega : k.toNat < 32),
    Nat.mod_eq_of_lt hlt]

/-- Bits above all those of a number are added to it. -/
theorem or_shiftLeft_eq_add {low k : Nat} (h : low < 2 ^ k) (high : Nat) :
    low ||| high <<< k = low + high * 2 ^ k := by
  rw [Nat.or_comm, ← Nat.shiftLeft_add_eq_or_of_lt h, Nat.shiftLeft_eq, Nat.add_comm]

/-- The numbers of a word's bytes have no bit in common once they are shifted. -/
theorem or_eq_wordOf (a b c d : UInt8) :
    a.toUInt32 ||| b.toUInt32 <<< 8 ||| c.toUInt32 <<< 16 ||| d.toUInt32 <<< 24 =
      wordOf a b c d := by
  have ha := a.toNat_lt
  have hb := b.toNat_lt
  have hc := c.toNat_lt
  rw [← UInt32.toNat_inj, toNat_wordOf]
  calc (a.toUInt32 ||| b.toUInt32 <<< 8 ||| c.toUInt32 <<< 16 ||| d.toUInt32 <<< 24).toNat
    _ = a.toNat ||| b.toNat <<< 8 ||| c.toNat <<< 16 ||| d.toNat <<< 24 := by
      rw [UInt32.toNat_or, UInt32.toNat_or, UInt32.toNat_or, UInt8.toNat_toUInt32,
        toNat_toUInt32_shiftLeft b (by decide), toNat_toUInt32_shiftLeft c (by decide),
        toNat_toUInt32_shiftLeft d (by decide)]
      rfl
    _ = a.toNat + b.toNat * 2 ^ 8 ||| c.toNat <<< 16 ||| d.toNat <<< 24 := by
      rw [or_shiftLeft_eq_add ha]
    _ = a.toNat + b.toNat * 2 ^ 8 + c.toNat * 2 ^ 16 ||| d.toNat <<< 24 := by
      rw [or_shiftLeft_eq_add (k := 16) (by omega)]
    _ = a.toNat + b.toNat * 2 ^ 8 + c.toNat * 2 ^ 16 + d.toNat * 2 ^ 24 :=
      or_shiftLeft_eq_add (by omega) _

namespace Driver.Script

/-- A word has the bytes that it is of. -/
theorem encodeNumber_wordOf (a b c d : UInt8) : encodeNumber (wordOf a b c d) = [a, b, c, d] := by
  have ha := a.toNat_lt
  have hb := b.toNat_lt
  have hc := c.toNat_lt
  have hd := d.toNat_lt
  have hword := toNat_wordOf a b c d
  simp only [encodeNumber, List.cons.injEq, ← UInt8.toNat_inj, UInt32.toNat_toUInt8,
    UInt32.toNat_shiftRight, UInt32.reduceToNat, Nat.reduceMod, Nat.shiftRight_eq_div_pow, hword,
    and_true]
  omega

/-- A number is the word of its bytes. -/
theorem wordOf_encodeNumber (n : UInt32) :
    wordOf n.toUInt8 (n >>> 8).toUInt8 (n >>> 16).toUInt8 (n >>> 24).toUInt8 = n := by
  have hn := n.toNat_lt
  simp only [← UInt32.toNat_inj, toNat_wordOf, UInt32.toNat_toUInt8,
    UInt32.toNat_shiftRight, UInt32.reduceToNat, Nat.reduceMod, Nat.shiftRight_eq_div_pow]
  omega

/-- The induction is on the number of words, with the bytes generalised. -/
theorem decodeNumbers_map_range (byte : Nat → UInt8) (n : Nat) :
    decodeNumbers ((List.range (n * 4)).map byte) =
      (List.range n).map fun i ↦
        wordOf (byte (4 * i)) (byte (4 * i + 1)) (byte (4 * i + 2)) (byte (4 * i + 3)) := by
  induction n generalizing byte with
  | zero => rfl
  | succ n ih =>
    have hfour : List.range ((n + 1) * 4) =
        0 :: 1 :: 2 :: 3 :: (List.range (n * 4)).map (· + 4) := by
      rw [Nat.succ_mul, List.range_succ_eq_map, List.range_succ_eq_map, List.range_succ_eq_map,
        List.range_succ_eq_map]
      simp [Function.comp_def]
    rw [hfour, List.range_succ_eq_map]
    simp only [List.map_cons, List.map_map, decodeNumbers, or_eq_wordOf]
    rw [ih]
    rfl

/-! ## Reports -/

/-- The report of an event to which some bytes are attached. -/
def attached (script : Script) (includeMax : Bool) (bytes : ByteArray) : Report where
  metrics := script.metrics.mapIdx fun i metric ↦
    ⟨metric.name, .u32 (wordAt bytes i), if includeMax then some (.u32 100) else none⟩

theorem length_attached (script : Script) (includeMax : Bool) (bytes : ByteArray) :
    (script.attached includeMax bytes).length = script.metrics.length := List.length_mapIdx

/-- What a query hands over is decoded as if zeros went on behind the bytes of the event. -/
theorem decode_buffer {script : Script} (h : script.decodesNothing = false) (includeMax : Bool)
    (bytes : ByteArray) (stated : Nat) :
    script.decode includeMax (ProfilingInfo.buffer (script.metrics.length * 4)
        ⟨bytes.extract 0 (script.metrics.length * 4), stated⟩) =
      script.attached includeMax bytes := by
  rw [decode, h, if_neg Bool.false_ne_true, toList_eq_data, data_buffer_query,
    decodeNumbers_map_range, attached, List.mapIdx_eq_zipIdx_map, List.zip_map_right,
    List.range_eq_range', ← List.zipIdx_eq_zip_range', List.map_map]
  rfl

theorem byteAt_encode (numbers : List UInt32) (i : Nat) :
    [byteAt (encode numbers) (4 * i), byteAt (encode numbers) (4 * i + 1),
      byteAt (encode numbers) (4 * i + 2), byteAt (encode numbers) (4 * i + 3)] =
      encodeNumber (numbers.getD i 0) := by
  unfold byteAt encode
  dsimp only
  induction numbers generalizing i with
  | nil => simp [encodeNumber]
  | cons n numbers ih =>
    cases i with
    | zero => rfl
    | succ i => exact ih i

theorem wordAt_encode (numbers : List UInt32) (i : Nat) :
    wordAt (encode numbers) i = numbers.getD i 0 := by
  have hbytes := byteAt_encode numbers i
  simp only [encodeNumber, List.cons.injEq] at hbytes
  obtain ⟨ha, hb, hc, hd, -⟩ := hbytes
  rw [wordAt, ha, hb, hc, hd, wordOf_encodeNumber]

end Driver.Script

end GpuCounters
