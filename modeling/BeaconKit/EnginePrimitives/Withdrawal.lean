import BeaconKit.Primitives
import BeaconKit.Ssz

/-!
# The SSZ codec of `Withdrawal`

`withdrawal.ssz.go` is generated by fastssz.  A withdrawal is four fixed-size fields, so its
encoding is their concatenation: `Index` at bytes 0:8, `Validator` at 8:16, the 20-byte
`Address` at 16:36 and `Amount` at 36:44, each integer little-endian.  `UnmarshalSSZ`
rejects any buffer whose length is not 44 before it writes anything to the receiver.

The main result, `withdrawal_ssz_roundtrip`, says that the codec is a bijection between
withdrawals and 44-byte strings: the offsets the decoder reads are the ones the encoder
writes, and every 44-byte string is the encoding of the withdrawal it decodes to.
-/

namespace BeaconKit

/-- `common.ExecutionAddress`: a 20-byte array. -/
@[ext] structure ExecutionAddress where
  bytes : List UInt8
  length_eq : bytes.length = 20
  deriving DecidableEq, Repr

/-- `engineprimitives.Withdrawal`.  `Validator` is a `math.ValidatorIndex` and `Amount` a
`math.Gwei`, both 64-bit. -/
structure Withdrawal where
  index : UInt64
  validator : UInt64
  address : ExecutionAddress
  amount : UInt64
  deriving DecidableEq, Repr

namespace Withdrawal

/-- `SizeSSZ`: the encoded size in bytes. -/
def sizeSSZ (_ : Withdrawal) : Nat := 44

/-- `MarshalSSZTo`: append the four fields to `buf`, in field order. -/
def marshalSSZTo (w : Withdrawal) (buf : List UInt8) : Except Error (List UInt8) :=
  let dst := marshalUint64 buf w.index
  let dst := marshalUint64 dst w.validator
  let dst := dst ++ w.address.bytes
  let dst := marshalUint64 dst w.amount
  .ok dst

/-- `MarshalSSZ`: `ssz.MarshalSSZ` marshals into an empty buffer. -/
def marshalSSZ (w : Withdrawal) : Except Error (List UInt8) :=
  w.marshalSSZTo []

/-- `UnmarshalSSZ`: the receiver after the call, and the error it returns. -/
def unmarshalSSZ (w : Withdrawal) (buf : List UInt8) : Withdrawal × Option Error :=
  if h : buf.length ≠ 44 then (w, some .errSize)
  else
    ({ index := unmarshallUint64 (slice buf 0 8)
       validator := unmarshallUint64 (slice buf 8 16)
       address := ⟨slice buf 16 36, by rw [slice_length (by omega)]⟩
       amount := unmarshallUint64 (slice buf 36 44) }, none)

/-- The marshalled bytes are the buffer followed by the four encoded fields. -/
theorem marshalSSZTo_eq (w : Withdrawal) (buf : List UInt8) :
    w.marshalSSZTo buf = .ok (buf ++ (leBytes 8 w.index.toNat ++ leBytes 8 w.validator.toNat
      ++ w.address.bytes ++ leBytes 8 w.amount.toNat)) := by
  simp [marshalSSZTo, marshalUint64]

/-- A buffer of any other length is refused and the receiver is left as it was. -/
theorem unmarshalSSZ_of_length_ne (w : Withdrawal) {buf : List UInt8} (h : buf.length ≠ 44) :
    w.unmarshalSSZ buf = (w, some .errSize) := by
  simp [unmarshalSSZ, h]

/-- `UnmarshalSSZ` succeeds exactly on buffers of 44 bytes. -/
theorem unmarshalSSZ_ok_iff (w : Withdrawal) (buf : List UInt8) :
    (w.unmarshalSSZ buf).2 = none ↔ buf.length = 44 := by
  by_cases h : buf.length = 44 <;> simp [unmarshalSSZ, h]

/-- The decoder's offsets 0:8, 8:16, 16:36 and 36:44 cut four fields of widths 8, 8, 20 and 8
back out of their concatenation. -/
theorem slice_fields {a b c d : List UInt8} (ha : a.length = 8) (hb : b.length = 8)
    (hc : c.length = 20) (hd : d.length = 8) :
    slice (a ++ b ++ c ++ d) 0 8 = a ∧ slice (a ++ b ++ c ++ d) 8 16 = b ∧
      slice (a ++ b ++ c ++ d) 16 36 = c ∧ slice (a ++ b ++ c ++ d) 36 44 = d := by
  simp [slice, List.take_append_eq_append_take, List.drop_append_eq_append_drop, ha, hb, hc, hd,
    List.drop_eq_nil_of_le, List.take_of_length_le]

/-- Decoding the four encoded fields rebuilds the withdrawal, whatever the receiver held. -/
theorem unmarshalSSZ_fields (w' w : Withdrawal) :
    w'.unmarshalSSZ (leBytes 8 w.index.toNat ++ leBytes 8 w.validator.toNat
      ++ w.address.bytes ++ leBytes 8 w.amount.toNat) = (w, none) := by
  obtain ⟨hi, hv, ha, hm⟩ := slice_fields (leBytes_length 8 w.index.toNat)
    (leBytes_length 8 w.validator.toNat) w.address.length_eq (leBytes_length 8 w.amount.toNat)
  have hlen : (leBytes 8 w.index.toNat ++ leBytes 8 w.validator.toNat ++ w.address.bytes
      ++ leBytes 8 w.amount.toNat).length = 44 := by simp [w.address.length_eq]
  rw [unmarshalSSZ, dif_neg (not_not.mpr hlen)]
  cases w
  simp only [hi, hv, ha, hm, unmarshallUint64_leBytes, Prod.mk.injEq, mk.injEq, true_and,
    and_true]

/-- Re-marshalling what a 44-byte buffer decodes to gives the buffer back. -/
theorem marshalSSZ_unmarshalSSZ (w : Withdrawal) {buf : List UInt8} (h : buf.length = 44) :
    (w.unmarshalSSZ buf).1.marshalSSZ = .ok buf := by
  have field : ∀ lo, lo + 8 ≤ 44 →
      leBytes 8 (unmarshallUint64 (slice buf lo (lo + 8))).toNat = slice buf lo (lo + 8) :=
    fun lo hlo => leBytes_unmarshallUint64 (by rw [slice_length (by omega)]; omega)
  rw [unmarshalSSZ, dif_neg (not_not.mpr h), marshalSSZ, marshalSSZTo_eq]
  simp only [List.nil_append]
  rw [field 0 (by omega), field 8 (by omega), field 36 (by omega), slice_append_slice buf
    (by omega) (by omega : 8 ≤ 16), slice_append_slice buf (by omega) (by omega : 16 ≤ 36),
    slice_append_slice buf (by omega) (by omega : 36 ≤ 44), ← h, slice_zero_length]

/-- **The SSZ codec of a withdrawal is a bijection onto 44-byte strings.**  Marshalling appends
exactly `SizeSSZ` = 44 bytes to any buffer, and those bytes decode to the same withdrawal
whatever the receiver held.  Decoding succeeds exactly on 44-byte strings, re-marshalling
what it decoded gives the string back, and a refused string leaves the receiver unchanged.
So every 44-byte string is the encoding of exactly one withdrawal. -/
theorem withdrawal_ssz_roundtrip :
    (∀ (w w' : Withdrawal) (buf : List UInt8), ∃ e : List UInt8,
        w.marshalSSZTo buf = .ok (buf ++ e) ∧ e.length = w.sizeSSZ ∧ w.sizeSSZ = 44 ∧
        w'.unmarshalSSZ e = (w, none)) ∧
    (∀ (w' : Withdrawal) (b : List UInt8),
        ((w'.unmarshalSSZ b).2 = none ↔ b.length = 44) ∧
        (b.length = 44 → (w'.unmarshalSSZ b).1.marshalSSZ = .ok b) ∧
        (b.length ≠ 44 → (w'.unmarshalSSZ b).1 = w')) ∧
    (∀ b : List UInt8, b.length = 44 → ∃! w : Withdrawal, w.marshalSSZ = .ok b) := by
  refine ⟨fun w w' buf => ⟨_, marshalSSZTo_eq w buf, by simp [w.address.length_eq, sizeSSZ],
    rfl, unmarshalSSZ_fields w' w⟩, fun w' b => ⟨unmarshalSSZ_ok_iff w' b,
    marshalSSZ_unmarshalSSZ w', fun h => by rw [unmarshalSSZ_of_length_ne w' h]⟩, ?_⟩
  intro b hb
  -- any receiver will do to decode `b`; take the all-zero withdrawal
  let w₀ : Withdrawal := ⟨0, 0, ⟨List.replicate 20 0, by simp⟩, 0⟩
  refine ⟨(w₀.unmarshalSSZ b).1, marshalSSZ_unmarshalSSZ w₀ hb, fun w hw => ?_⟩
  simp only [marshalSSZ, marshalSSZTo_eq, List.nil_append, Except.ok.injEq] at hw
  rw [← hw, unmarshalSSZ_fields]

end Withdrawal

end BeaconKit
