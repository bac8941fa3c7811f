import HomeAutomation.Client.CanNode
import HomeAutomation.Node.Requests
import HomeAutomation.OneWire.Thermometer

/-!
# Temperatures at both ends

A node forwards the first two bytes of the scratchpad of a thermometer, and the client
makes a temperature of them.  The firmware of the CAN master knows the same bytes as a
number of sixteen bits with a sign.

The client negates a number below zero in `int`, where the complement has more than
sixteen bits: what it divides by sixteen is off by 65536.

## Main definitions

* `deserializeTemperature` — the client's reading of a reply.
* `Forwards` — the node's reply.
* `TemperatureAgreed` — client and firmware read a reply alike.

## Main results

* `forwards_iff` — what a node replies.
* `temperatureAgreed_iff` — when they agree.

## References

`common/include/client/Serializer.h`, `firmware/ti/include/onewire/onewire.h`,
`stm8/can_node/mod_ds18b20.c`.
-/

namespace HomeAutomation
namespace Thermometer

open OneWire

/-! ### The client -/

/-- A number of sixteen bits, promoted to `int`. -/
def promote (value : UInt16) : Int32 := value.toUInt32.toInt32

/-- `Serializer<Temperature>::deserialize`: the number that is divided by sixteen, none for
no temperature.  It fails on anything but two bytes. -/
def deserializeTemperature : List UInt8 → Option (Option Int32)
  | [lo, hi] =>
    let value := lo.toUInt16 ||| hi.toUInt16 <<< 8
    if value = 0xffff then some none
    else if value &&& 0x8000 ≠ 0 then some (some (~~~promote value + 1))
    else some (some (promote value))
  | _ => none

theorem toInt_promote (value : UInt16) : (promote value).toInt = value.toNat := by
  have hlt := value.toNat_lt
  have hcond : (promote value).toInt
      = if 2 * value.toNat < 2 ^ 32 then (value.toNat : ℤ) else value.toNat - (2 ^ 32 : ℕ) :=
    BitVec.toInt_eq_toNat_cond _
  rw [hcond, if_pos (by omega)]

/-- The complement and one are the negation in `int`, not in sixteen bits. -/
theorem toInt_complement (value : UInt16) : (~~~promote value + 1).toInt = -(value.toNat : ℤ) := by
  have hlt := value.toNat_lt
  have hneg : ~~~promote value + 1 = -promote value :=
    Int32.toBitVec_inj.mp (BitVec.neg_eq_not_add _).symm
  rw [hneg, Int32.toInt_neg, toInt_promote]
  exact Int.bmod_eq_of_le (by omega) (by omega)

/-! ### The node -/

/-- The node answers the query of the client for the temperature of a channel with two
bytes. -/
def Forwards (n : Node) (inputs : Inputs) (c : Channel) (lo hi : UInt8) : Prop :=
  ∃ address, (NodeOperation.ds18b20 c .queryValue).access = .query address ∧
    n.answer inputs address = some [lo, hi]

/-- **What a node replies**: the bytes of the scratchpad, or two bytes `0xff` when it could
not read them. -/
theorem forwards_iff {n : Node} {c : Channel} (hm : n.channelModules c = some .ds18b20)
    {inputs : Inputs} {lo hi : UInt8} :
    Forwards n inputs c lo hi ↔ Node.readTemp inputs.oneWire = some (lo, hi) ∨
      Node.readTemp inputs.oneWire = none ∧ lo = 0xff ∧ hi = 0xff := by
  have hanswer : n.answer inputs (fieldAddress (channelId c) ds18b20Temperature)
      = Node.ds18b20Request inputs ds18b20Temperature := Node.answer_field hm inputs _
  have hforwards : Forwards n inputs c lo hi
      ↔ Node.ds18b20Request inputs ds18b20Temperature = some [lo, hi] := by
    rw [← hanswer]
    constructor
    · rintro ⟨address, haccess, h⟩
      cases haccess
      exact h
    · exact fun h => ⟨_, rfl, h⟩
  rw [hforwards, Node.ds18b20Request, if_neg (not_not.mpr rfl)]
  cases Node.readTemp inputs.oneWire with
  | none => simp [eq_comm]
  | some bytes =>
    obtain ⟨lo', hi'⟩ := bytes
    simp

/-! ### Agreement -/

/-- **Client and firmware read two bytes alike**: what the client divides by sixteen is
what the firmware stores, their two's complement value. -/
def ReadAlike (lo hi : UInt8) : Prop :=
  ∃ dividend, deserializeTemperature [lo, hi] = some (some dividend) ∧
    dividend.toInt = (Temperature.fromRaw16 lo hi).value.toInt ∧
    dividend.toInt
      = ((hi.toNat * 256 + lo.toNat : ℕ) : ℤ) - if hi < 0x80 then 0 else 0x10000

/-- They read alike what a node forwards, other than two bytes `0xff`. -/
def TemperatureAgreed (n : Node) (inputs : Inputs) (c : Channel) : Prop :=
  ∀ lo hi, Forwards n inputs c lo hi → ¬ (lo = 0xff ∧ hi = 0xff) → ReadAlike lo hi

/-- What the firmware stores. -/
theorem fromRaw16_toInt (lo hi : UInt8) :
    (Temperature.fromRaw16 lo hi).value.toInt
      = ((hi.toNat * 256 + lo.toNat : ℕ) : ℤ) - if hi < 0x80 then 0 else 0x10000 := by
  have hlo := lo.toNat_lt
  have hvalue : (Temperature.fromRaw16 lo hi).value = (Word16.join hi lo).toInt16 := rfl
  have hsign : hi < 0x80 ↔ hi.toNat * 256 + lo.toNat < 0x8000 := by
    have hbound : (0x80 : UInt8).toNat = 128 := rfl
    rw [UInt8.lt_iff_toNat_lt, hbound]
    omega
  rw [hvalue, Word16.toInt_toInt16, Word16.toNat_join]
  by_cases h : hi < 0x80
  · rw [if_pos h, if_pos (hsign.mp h), sub_zero]
  · rw [if_neg h, if_neg (fun hlt => h (hsign.mpr hlt))]

/-- What the client makes of two bytes. -/
theorem deserializeTemperature_pair {lo hi : UInt8} (h : ¬ (lo = 0xff ∧ hi = 0xff)) :
    ∃ dividend, deserializeTemperature [lo, hi] = some (some dividend) ∧
      dividend.toInt = if hi < 0x80 then ((hi.toNat * 256 + lo.toNat : ℕ) : ℤ)
        else -((hi.toNat * 256 + lo.toNat : ℕ) : ℤ) := by
  have hlo := lo.toNat_lt
  have hjoin : lo.toUInt16 ||| hi.toUInt16 <<< 8 = Word16.join hi lo := UInt16.or_comm _ _
  -- both bytes 0xff mean that there is no device
  have hnone : Word16.join hi lo ≠ 0xffff := by
    intro hff
    refine h ⟨?_, ?_⟩
    · rw [← Word16.low_join hi lo, hff]
      rfl
    · rw [← Word16.high_join hi lo, hff]
      rfl
  -- the sign is the highest bit of the second byte
  have hsign : Word16.join hi lo &&& 0x8000 ≠ 0 ↔ ¬ hi < 0x80 := by
    rw [Word16.and_sign_ne_zero_iff, Word16.toNat_join, UInt8.lt_iff_toNat_lt]
    have hbound : (0x80 : UInt8).toNat = 128 := rfl
    omega
  rw [deserializeTemperature, hjoin, if_neg hnone, ← Word16.toNat_join]
  by_cases hhi : hi < 0x80
  · rw [if_neg (fun hne => hsign.mp hne hhi), if_pos hhi]
    exact ⟨_, rfl, toInt_promote _⟩
  · rw [if_pos (hsign.mpr hhi), if_neg hhi]
    exact ⟨_, rfl, toInt_complement _⟩

/-- Which bytes are read alike. -/
theorem readAlike_iff {lo hi : UInt8} (h : ¬ (lo = 0xff ∧ hi = 0xff)) :
    ReadAlike lo hi ↔ hi < 0x80 ∨ hi = 0x80 ∧ lo = 0 := by
  obtain ⟨dividend, hread, hdividend⟩ := deserializeTemperature_pair h
  have halike : ReadAlike lo hi ↔ dividend.toInt
      = ((hi.toNat * 256 + lo.toNat : ℕ) : ℤ) - if hi < 0x80 then 0 else 0x10000 := by
    constructor
    · rintro ⟨other, hother, -, hvalue⟩
      obtain rfl : dividend = other :=
        Option.some.inj (Option.some.inj (hread.symm.trans hother))
      exact hvalue
    · exact fun hvalue => ⟨dividend, hread, hvalue.trans (fromRaw16_toInt lo hi).symm, hvalue⟩
  rw [halike, hdividend]
  have hlo := lo.toNat_lt
  by_cases hhi : hi < 0x80
  · rw [if_pos hhi, if_pos hhi, sub_zero]
    exact iff_of_true rfl (Or.inl hhi)
  -- the smallest number is the only negative one whose complement is right
  · have hsmallest : (hi = 0x80 ∧ lo = 0) ↔ hi.toNat * 256 + lo.toNat = 0x8000 := by
      rw [← UInt8.toNat_inj, ← UInt8.toNat_inj]
      have hbound : (0x80 : UInt8).toNat = 128 := rfl
      have hzero : (0 : UInt8).toNat = 0 := rfl
      omega
    rw [if_neg hhi, if_neg hhi, or_iff_right hhi, hsmallest]
    omega

/-- **When client and firmware agree**: unless the scratchpad that is read has a number
below zero other than the smallest. -/
theorem temperatureAgreed_iff {n : Node} {c : Channel} (hm : n.channelModules c = some .ds18b20)
    (inputs : Inputs) :
    TemperatureAgreed n inputs c ↔
      ∀ lo hi, Node.readTemp inputs.oneWire = some (lo, hi) → ¬ (lo = 0xff ∧ hi = 0xff) →
        hi < 0x80 ∨ hi = 0x80 ∧ lo = 0 := by
  constructor
  · intro hagreed lo hi hread hvalue
    exact (readAlike_iff hvalue).mp
      (hagreed lo hi ((forwards_iff hm).mpr (Or.inl hread)) hvalue)
  · intro hcond lo hi hforwards hvalue
    obtain hread | ⟨-, hfailed⟩ := (forwards_iff hm).mp hforwards
    · exact (readAlike_iff hvalue).mpr (hcond lo hi hread hvalue)
    · exact absurd hfailed hvalue

/-- A thermometer on the channel 0, and nothing else. -/
def thermometerNode : Node :=
  { Node.blank (fun _ => 0) with channelModules := fun c => if c = 0 then some .ds18b20 else none }

/-- A thermometer that answers at once. -/
def thermometerInputs (lo hi : UInt8) : Inputs :=
  { Inputs.idle with oneWire := ⟨true, fun _ => 0xff, true, (lo, hi)⟩ }

/-- Twenty-five degrees and a sixteenth. -/
theorem temperatureAgreed_warm :
    TemperatureAgreed thermometerNode (thermometerInputs 0x91 0x01) 0 := by
  have hread : Node.readTemp (thermometerInputs 0x91 0x01).oneWire = some (0x91, 0x01) := rfl
  refine (temperatureAgreed_iff rfl _).mpr fun lo hi h _ => ?_
  rw [hread] at h
  cases h
  exact Or.inl (by decide)

/-- **Ten degrees and an eighth below zero** are forwarded, and the client makes 65374
sixteenths below zero of them. -/
theorem cold_misread :
    Forwards thermometerNode (thermometerInputs 0x5e 0xff) 0 0x5e 0xff ∧
      deserializeTemperature [0x5e, 0xff] = some (some (-65374)) ∧
      (Temperature.fromRaw16 0x5e 0xff).value = -162 ∧
      ¬ TemperatureAgreed thermometerNode (thermometerInputs 0x5e 0xff) 0 := by
  have hforwards : Forwards thermometerNode (thermometerInputs 0x5e 0xff) 0 0x5e 0xff :=
    (forwards_iff rfl).mpr (Or.inl rfl)
  refine ⟨hforwards, by decide, by decide, fun h => ?_⟩
  exact absurd ((readAlike_iff (by decide)).mp (h _ _ hforwards (by decide))) (by decide)

end Thermometer
end HomeAutomation
