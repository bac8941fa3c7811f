import HomeAutomation.Lib.Crc

/-!
# The check of the 1-Wire bus

Ids and scratchpads carry a check of eight bits.  The source computes it with a table of
256 numbers; the definition of the bus shifts the bytes through a register, the least
significant bit first, with the polynomial `0x8c` fed back.

## Main definitions

* `crc88540Table`, `crc` — the table and the function of the source.
* `dallasCrc` — the check as the bus defines it.

## Main results

* `crc88540Table_eq` — the table holds eight shifts of each byte.
* `crc_spec` — the function computes the check, and what the check is good for.

## References

`firmware/ti/onewire/crc.cpp`.
-/

namespace HomeAutomation
namespace OneWire

/-! ### The function of the source -/

/-- `crc88540_table`. -/
def crc88540Table : List UInt8 := [
  0, 94, 188, 226, 97, 63, 221, 131, 194, 156, 126, 32, 163, 253, 31, 65,
  157, 195, 33, 127, 252, 162, 64, 30, 95, 1, 227, 189, 62, 96, 130, 220,
  35, 125, 159, 193, 66, 28, 254, 160, 225, 191, 93, 3, 128, 222, 60, 98,
  190, 224, 2, 92, 223, 129, 99, 61, 124, 34, 192, 158, 29, 67, 161, 255,
  70, 24, 250, 164, 39, 121, 155, 197, 132, 218, 56, 102, 229, 187, 89, 7,
  219, 133, 103, 57, 186, 228, 6, 88, 25, 71, 165, 251, 120, 38, 196, 154,
  101, 59, 217, 135, 4, 90, 184, 230, 167, 249, 27, 69, 198, 152, 122, 36,
  248, 166, 68, 26, 153, 199, 37, 123, 58, 100, 134, 216, 91, 5, 231, 185,
  140, 210, 48, 110, 237, 179, 81, 15, 78, 16, 242, 172, 47, 113, 147, 205,
  17, 79, 173, 243, 112, 46, 204, 146, 211, 141, 111, 49, 178, 236, 14, 80,
  175, 241, 19, 77, 206, 144, 114, 44, 109, 51, 209, 143, 12, 82, 176, 238,
  50, 108, 142, 208, 83, 13, 239, 177, 240, 174, 76, 18, 145, 207, 45, 115,
  202, 148, 118, 40, 171, 245, 23, 73, 8, 86, 180, 234, 105, 55, 213, 139,
  87, 9, 235, 181, 54, 104, 138, 212, 149, 203, 41, 119, 244, 170, 72, 22,
  233, 183, 85, 11, 136, 214, 52, 106, 43, 117, 151, 201, 74, 20, 246, 168,
  116, 42, 200, 150, 21, 75, 169, 247, 182, 232, 10, 84, 215, 137, 107, 53]

/-- `crc`. -/
def crc (data : List UInt8) : UInt8 :=
  data.foldl (fun result byte => crc88540Table.getD (result ^^^ byte).toNat 0) 0

/-! ### The check of the bus -/

/-- The polynomial, reflected. -/
def dallasPolynomial : BitVec 8 := 0x8c

/-- **The check of the bus, bit by bit.** -/
def dallasCrc (data : List UInt8) : UInt8 :=
  ⟨Crc.serial dallasPolynomial (data.map UInt8.toBitVec)⟩

/-- The 256 numbers. -/
theorem crc88540Table_eq : crc88540Table = (List.range 256).map fun i =>
    ⟨(Crc.shift dallasPolynomial)^[8] (BitVec.ofNat 8 i)⟩ := by decide +kernel

/-- **The table holds eight shifts of each byte.** -/
theorem crc88540Table_getD (x : UInt8) :
    (crc88540Table.getD x.toNat 0).toBitVec = (Crc.shift dallasPolynomial)^[8] x.toBitVec := by
  have hx : x.toNat < 256 := x.toNat_lt
  rw [crc88540Table_eq, List.getD_eq_getElem?_getD, List.getElem?_map, List.getElem?_range hx]
  simp

/-- **The function computes the check of the bus.** -/
theorem crc_eq_dallasCrc (data : List UInt8) : crc data = dallasCrc data := by
  have hfold : (crc data).toBitVec = Crc.byTable
      (fun x => (crc88540Table.getD x.toNat 0).toBitVec) (data.map UInt8.toBitVec) := by
    rw [Crc.byTable, List.foldl_map]
    exact (List.foldl_hom UInt8.toBitVec fun _ _ => rfl).symm
  have htable := Crc.byTable_eq_serial dallasPolynomial (fun x => crc88540Table_getD ⟨x⟩)
    (data.map UInt8.toBitVec)
  exact UInt8.toBitVec_inj.mp (hfold.trans htable)

/-- A sequence with its check behind it has the check zero. -/
theorem crc_append_self (data : List UInt8) : crc (data ++ [crc data]) = 0 := by
  rw [crc_eq_dallasCrc, crc_eq_dallasCrc, dallasCrc, List.map_append]
  exact congrArg UInt8.ofBitVec
    (Crc.serial_append_self dallasPolynomial (data.map UInt8.toBitVec))

/-- Two sequences of one length that differ in exactly one byte. -/
def DifferInOneByte (d e : List UInt8) : Prop := d.length = e.length ∧ ∃! i : ℕ, d[i]? ≠ e[i]?

/-- A single wrong byte changes the check. -/
theorem crc_ne {d e : List UInt8} (h : DifferInOneByte d e) : crc d ≠ crc e := by
  have hindices : ∃! i : ℕ, (d.map UInt8.toBitVec)[i]? ≠ (e.map UInt8.toBitVec)[i]? := by
    have hinj : Function.Injective (Option.map UInt8.toBitVec) :=
      Option.map_injective fun _ _ => UInt8.toBitVec_inj.mp
    simpa only [List.getElem?_map, ne_eq, hinj.eq_iff] using h.2
  rw [crc_eq_dallasCrc, crc_eq_dallasCrc]
  intro heq
  refine Crc.serial_ne dallasPolynomial rfl ?_ hindices (congrArg UInt8.toBitVec heq)
  rw [List.length_map, List.length_map, h.1]

/-- **The table-driven function is the check of the bus**; so a sequence with its check
behind it has the check zero, and sequences of one length that differ in exactly one byte
have different checks. -/
theorem crc_spec :
    (∀ data, crc data = dallasCrc data) ∧ (∀ data, crc (data ++ [crc data]) = 0) ∧
      ∀ d e, DifferInOneByte d e → crc d ≠ crc e :=
  ⟨crc_eq_dallasCrc, crc_append_self, fun _ _ => crc_ne⟩

/-- An id with its check behind it, and the id with a wrong byte. -/
theorem crc_spec_id :
    crc [0x28, 0x61, 0x64, 0x12] = dallasCrc [0x28, 0x61, 0x64, 0x12] ∧
      crc ([0x28, 0x61, 0x64, 0x12] ++ [crc [0x28, 0x61, 0x64, 0x12]]) = 0 ∧
      crc [0x28, 0x61, 0x64, 0x12] ≠ crc [0x28, 0x60, 0x64, 0x12] := by
  obtain ⟨heq, hself, hne⟩ := crc_spec
  refine ⟨heq _, hself _, hne _ _ ⟨rfl, 1, by decide, fun i hi => ?_⟩⟩
  match i with
  | 0 | 2 | 3 => exact absurd rfl hi
  | 1 => rfl
  | _ + 4 => exact absurd rfl hi

end OneWire
end HomeAutomation
