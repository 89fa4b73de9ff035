import Mathlib.Data.List.DropRight
import Mathlib.Data.Nat.Bitwise

/-!
# Flags packed into bytes

Bit `i` of a byte string is bit `i % 8` of byte `i / 8`, least significant bit
first. `pack` writes a list of flags in full, `trim` drops the trailing zero
bytes, which carry no set flag.
-/

namespace BitPacking

/-- Bit `index` of a byte string, if the string has the byte. -/
def bit? (bytes : List UInt8) (index : Nat) : Option Bool :=
  bytes[index / 8]?.map fun byte => byte.toNat.testBit (index % 8)

def packByte (flag : Nat → Bool) : UInt8 :=
  UInt8.ofNat (Nat.ofBits fun position : Fin 8 => flag position)

/-- All flags, in the least number of bytes that has a bit for each. -/
def pack (flags : List Bool) : List UInt8 :=
  (List.range ((flags.length + 7) / 8)).map fun index =>
    packByte fun position => flags.getD (8 * index + position) false

def trim (bytes : List UInt8) : List UInt8 := bytes.rdropWhile (· == 0)

theorem toNat_packByte (flag : Nat → Bool) :
    (packByte flag).toNat = Nat.ofBits fun position : Fin 8 => flag position := by
  have bounded := Nat.ofBits_lt_two_pow fun position : Fin 8 => flag position
  simpa [packByte] using bounded

theorem testBit_packByte (flag : Nat → Bool) {position : Nat} (bounded : position < 8) :
    (packByte flag).toNat.testBit position = flag position := by
  rw [toNat_packByte, Nat.testBit_ofBits_lt _ _ bounded]

@[simp] theorem length_pack (flags : List Bool) :
    (pack flags).length = (flags.length + 7) / 8 := by
  simp [pack]

theorem getElem_pack (flags : List Bool) {index : Nat} (bounded : index < (pack flags).length) :
    (pack flags)[index] = packByte fun position => flags.getD (8 * index + position) false := by
  simp [pack]

/-- Unpacking undoes packing. -/
theorem bit?_pack (flags : List Bool) {index : Nat} (bounded : index < flags.length) :
    bit? (pack flags) index = some flags[index] := by
  have inBytes : index / 8 < (pack flags).length := by
    rw [length_pack]
    omega
  rw [bit?, List.getElem?_eq_getElem inBytes, Option.map_some, getElem_pack,
    testBit_packByte _ (Nat.mod_lt _ (by omega)), Nat.div_add_mod]
  simp [bounded]

/-- The dropped bytes are all zero. -/
theorem trim_append_zeros (bytes : List UInt8) :
    ∃ zeros, trim bytes ++ zeros = bytes ∧ ∀ byte ∈ zeros, byte = 0 := by
  refine ⟨bytes.rtakeWhile (· == 0), List.rdropWhile_append_rtakeWhile, ?_⟩
  intro byte membership
  simpa using List.mem_rtakeWhile_imp membership

/-- Trimming leaves the bits of the kept bytes as they are. -/
theorem bit?_trim {bytes : List UInt8} {index : Nat} (kept : index / 8 < (trim bytes).length) :
    bit? (trim bytes) index = bit? bytes index := by
  obtain ⟨zeros, split, _⟩ := trim_append_zeros bytes
  rw [bit?, bit?]
  conv_rhs => rw [← split, List.getElem?_append_left kept]

/-- A flag whose byte was dropped is not set. -/
theorem flag_of_length_trim_le {flags : List Bool} {index : Nat} (bounded : index < flags.length)
    (dropped : (trim (pack flags)).length ≤ index / 8) : flags[index] = false := by
  obtain ⟨zeros, split, allZero⟩ := trim_append_zeros (pack flags)
  have unpacked := bit?_pack flags bounded
  rw [bit?, ← split, List.getElem?_append_right dropped] at unpacked
  obtain ⟨byte, found, value⟩ := Option.map_eq_some_iff.mp unpacked
  rw [allZero byte (List.mem_of_getElem? found)] at value
  simpa using value.symm

theorem exists_flag_of_packByte_ne_zero {flag : Nat → Bool} (nonzero : packByte flag ≠ 0) :
    ∃ position < 8, flag position = true := by
  have value : (packByte flag).toNat ≠ 0 := fun zero => nonzero (UInt8.toNat_inj.mp zero)
  obtain ⟨position, set⟩ := Nat.exists_testBit_of_ne_zero value
  have bounded : position < 8 := by
    by_contra beyond
    rw [toNat_packByte, Nat.testBit_ofBits_ge _ _ (by omega)] at set
    cases set
  exact ⟨position, bounded, by rw [← testBit_packByte flag bounded]; exact set⟩

/-- The last kept byte holds a set flag. -/
theorem exists_flag_of_trim_ne_nil {flags : List Bool} (kept : trim (pack flags) ≠ []) :
    ∃ index, ∃ bounded : index < flags.length, flags[index] = true ∧
      index / 8 + 1 = (trim (pack flags)).length := by
  have positive : 0 < (trim (pack flags)).length := List.length_pos_iff.mpr kept
  have nonzero : (trim (pack flags)).getLast kept ≠ 0 := by
    simpa [trim] using List.rdropWhile_last_not (· == 0) (pack flags) kept
  have keptPrefix : trim (pack flags) <+: pack flags := List.rdropWhile_prefix (· == 0) _
  rw [List.getLast_eq_getElem, keptPrefix.getElem (by omega), getElem_pack] at nonzero
  obtain ⟨position, bounded, set⟩ := exists_flag_of_packByte_ne_zero nonzero
  have inFlags : 8 * ((trim (pack flags)).length - 1) + position < flags.length := by
    by_contra beyond
    rw [List.getD_eq_default _ _ (by omega)] at set
    cases set
  rw [List.getD_eq_getElem _ _ inFlags] at set
  exact ⟨_, inFlags, set, by omega⟩

end BitPacking
