import Mathlib.Data.Nat.Defs
import Mathlib.Data.UInt

/-!
# The fastssz integer primitives

Generated SSZ codecs write a `uint64` field with `ssz.MarshalUint64` and read it back with
`ssz.UnmarshallUint64`.  Both are `binary.LittleEndian` on eight bytes: the byte at offset
`k` is `(v >> 8k) & 0xff`.  The encoder and decoder are defined for any width, by recursion
on the width, so that the two round trips are proved once by induction and the 64-bit
instances follow by arithmetic:

* `leValue_leBytes` — decoding an encoding gives the value modulo the width's range;
* `leBytes_leValue` — encoding a decoded string of the right length gives the string back;
* `unmarshallUint64_leBytes`, `leBytes_unmarshallUint64` — the two 64-bit round trips of
  `MarshalUint64`, which appends `leBytes 8`, and `UnmarshallUint64`.

A byte slice is a `List UInt8`, and Go's slice expression `buf[lo:hi]` is `slice buf lo hi`.
-/

namespace BeaconKit

/-- `width` little-endian bytes of `n`, low byte first; bits above the width are dropped. -/
def leBytes : Nat → Nat → List UInt8
  | 0, _ => []
  | width + 1, n => UInt8.ofNat n :: leBytes width (n / 256)

/-- The number that little-endian bytes stand for. -/
def leValue : List UInt8 → Nat
  | [] => 0
  | b :: bs => b.toNat + 256 * leValue bs

/-- `ssz.MarshalUint64`: append the eight little-endian bytes of `i` to `dst`. -/
def marshalUint64 (dst : List UInt8) (i : UInt64) : List UInt8 :=
  dst ++ leBytes 8 i.toNat

/-- `ssz.UnmarshallUint64`: the `uint64` of eight little-endian bytes. -/
def unmarshallUint64 (src : List UInt8) : UInt64 :=
  UInt64.ofNat (leValue src)

/-- Go's slice expression `buf[lo:hi]`. -/
def slice (buf : List UInt8) (lo hi : Nat) : List UInt8 :=
  (buf.drop lo).take (hi - lo)

@[simp] theorem uint8_toNat_ofNat (n : Nat) : (UInt8.ofNat n).toNat = n % 256 := by
  simp [UInt8.ofNat, UInt8.toNat]

@[simp] theorem uint8_ofNat_toNat (b : UInt8) : UInt8.ofNat b.toNat = b :=
  UInt8.toNat.inj (by simpa using Nat.mod_eq_of_lt b.toNat_lt_size)

@[simp] theorem uint64_toNat_ofNat (n : Nat) : (UInt64.ofNat n).toNat = n % 2 ^ 64 := by
  simp [UInt64.ofNat, UInt64.toNat]

@[simp] theorem leBytes_length (width n : Nat) : (leBytes width n).length = width := by
  induction width generalizing n with
  | zero => rfl
  | succ width ih => simp [leBytes, ih]

/-- Decoding an encoding gives the value back, modulo the range of the width. -/
theorem leValue_leBytes (width n : Nat) : leValue (leBytes width n) = n % 256 ^ width := by
  induction width generalizing n with
  | zero => simp [leBytes, leValue, Nat.mod_one]
  | succ width ih =>
    rw [leBytes, leValue, ih, uint8_toNat_ofNat, Nat.pow_succ, Nat.mul_comm _ 256, Nat.mod_mul]

/-- Little-endian bytes stand for a number below the range of their length. -/
theorem leValue_lt (bs : List UInt8) : leValue bs < 256 ^ bs.length := by
  induction bs with
  | nil => simp [leValue]
  | cons b bs ih =>
    have hb : b.toNat < 256 := b.toNat_lt_size
    simp only [leValue, List.length_cons, Nat.pow_succ]
    omega

/-- Encoding a decoded byte string at its own length gives the string back. -/
theorem leBytes_leValue (bs : List UInt8) : leBytes bs.length (leValue bs) = bs := by
  induction bs with
  | nil => rfl
  | cons b bs ih =>
    have hb : b.toNat < 256 := b.toNat_lt_size
    have hmod : (b.toNat + 256 * leValue bs) % 256 = b.toNat := by omega
    have hdiv : (b.toNat + 256 * leValue bs) / 256 = leValue bs := by omega
    simp only [List.length_cons, leBytes, leValue]
    rw [hdiv, ih, ← uint8_ofNat_toNat b]
    congr 1
    exact UInt8.toNat.inj (by simp [hmod])

/-- **Reading back a written `uint64`** gives the same integer. -/
@[simp] theorem unmarshallUint64_leBytes (i : UInt64) :
    unmarshallUint64 (leBytes 8 i.toNat) = i := by
  apply UInt64.toNat.inj
  simp [unmarshallUint64, leValue_leBytes, Nat.mod_eq_of_lt i.toNat_lt_size]

/-- **Writing a read `uint64`** gives the same eight bytes. -/
theorem leBytes_unmarshallUint64 {src : List UInt8} (h : src.length = 8) :
    leBytes 8 (unmarshallUint64 src).toNat = src := by
  have hlt : leValue src < 2 ^ 64 := by simpa [h] using leValue_lt src
  rw [unmarshallUint64, uint64_toNat_ofNat, Nat.mod_eq_of_lt hlt, ← h, leBytes_leValue]

/-- The slice `buf[lo:hi]` of a buffer that reaches `hi` has `hi - lo` bytes. -/
theorem slice_length {buf : List UInt8} {lo hi : Nat} (h : hi ≤ buf.length) :
    (slice buf lo hi).length = hi - lo := by
  simp [slice]
  omega

/-- Adjacent slices join into the slice that spans both. -/
theorem slice_append_slice (buf : List UInt8) {lo mid hi : Nat} (h₁ : lo ≤ mid)
    (h₂ : mid ≤ hi) :
    slice buf lo mid ++ slice buf mid hi = slice buf lo hi := by
  have hsplit : hi - lo = (mid - lo) + (hi - mid) := by omega
  rw [slice, slice, slice, hsplit, List.take_add, List.drop_drop, Nat.add_sub_cancel' h₁]

@[simp] theorem slice_zero_length (buf : List UInt8) : slice buf 0 buf.length = buf := by
  simp [slice]

end BeaconKit
