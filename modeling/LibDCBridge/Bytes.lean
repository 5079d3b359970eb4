import Mathlib.Algebra.Group.Nat.Basic
import Mathlib.Data.Nat.Defs

/-!
# The byte-array helpers of `BLEBridge.h`

`array_uint16_le`, `array_uint32_le`, `array_uint16_be` and `array_uint32_be` assemble an
integer from bytes with `<<` and `|`.  Each `unsigned char` is promoted to `int` before the
shift, and in C a left shift of a non-negative `int` whose result does not fit in `int` is
undefined.  `shlInt` is that shift: `none` where the behaviour is undefined.

The 16-bit helpers are defined on every array and return the little- or big-endian value
(`arrayUint16Le_eq`, `arrayUint16Be_eq`).  The 32-bit ones shift a byte by 24, which leaves
`int` as soon as that byte is `0x80` or more: `arrayUint32Le_eq` and `arrayUint32Be_eq` say they
are defined exactly below that and return the expected value there, `arrayUint_values` gathers
the four, and `arrayUint_be_eq_le` says that big-endian is little-endian of the reversed bytes,
undefined cases included.
-/

namespace LibDCBridge

/-- `INT_MAX` for the 32-bit `int` the bytes are promoted to. -/
def intMax : Nat := 2 ^ 31 - 1

/-- `x << k` on a non-negative `int`: undefined unless `x * 2 ^ k` fits in `int`. -/
def shlInt (x k : Nat) : Option Nat := if x * 2 ^ k ≤ intMax then some (x <<< k) else none

/-- `array_uint16_le`: `array[0] | (array[1] << 8)`. -/
def arrayUint16Le (array : List UInt8) : Option UInt16 := do
  let b0 ← array[0]?
  let b1 ← array[1]?
  let s1 ← shlInt b1.toNat 8
  return UInt16.ofNat (b0.toNat ||| s1)

/-- `array_uint32_le`: `array[0] | (array[1] << 8) | (array[2] << 16) | (array[3] << 24)`. -/
def arrayUint32Le (array : List UInt8) : Option UInt32 := do
  let b0 ← array[0]?
  let b1 ← array[1]?
  let b2 ← array[2]?
  let b3 ← array[3]?
  let s1 ← shlInt b1.toNat 8
  let s2 ← shlInt b2.toNat 16
  let s3 ← shlInt b3.toNat 24
  return UInt32.ofNat (b0.toNat ||| s1 ||| s2 ||| s3)

/-- `array_uint16_be`: `(array[0] << 8) | array[1]`. -/
def arrayUint16Be (array : List UInt8) : Option UInt16 := do
  let b0 ← array[0]?
  let b1 ← array[1]?
  let s0 ← shlInt b0.toNat 8
  return UInt16.ofNat (s0 ||| b1.toNat)

/-- `array_uint32_be`: `(array[0] << 24) | (array[1] << 16) | (array[2] << 8) | array[3]`. -/
def arrayUint32Be (array : List UInt8) : Option UInt32 := do
  let b0 ← array[0]?
  let b1 ← array[1]?
  let b2 ← array[2]?
  let b3 ← array[3]?
  let s0 ← shlInt b0.toNat 24
  let s1 ← shlInt b1.toNat 16
  let s2 ← shlInt b2.toNat 8
  return UInt32.ofNat (s0 ||| s1 ||| s2 ||| b3.toNat)

/-- The little-endian value of a byte string. -/
def leValue : List UInt8 → Nat
  | [] => 0
  | b :: bs => b.toNat + 256 * leValue bs

/-! ### Shifts and ors -/

theorem shlInt_of_le {x k : Nat} (h : x * 2 ^ k ≤ intMax) : shlInt x k = some (x * 2 ^ k) := by
  simp [shlInt, h, Nat.shiftLeft_eq]

theorem shlInt_eq_none {x k : Nat} (h : intMax < x * 2 ^ k) : shlInt x k = none := by
  simp [shlInt, Nat.not_le.mpr h]

/-- Or-ing a value below `2 ^ i` into a multiple of `2 ^ i` adds it. -/
theorem or_eq_add {x y i : Nat} (hx : 2 ^ i ∣ x) (hy : y < 2 ^ i) : x ||| y = x + y := by
  obtain ⟨q, rfl⟩ := hx
  exact (Nat.mul_add_lt_is_or hy q).symm

theorem or_eq_add' {x y i : Nat} (hx : x < 2 ^ i) (hy : 2 ^ i ∣ y) : x ||| y = x + y := by
  rw [Nat.or_comm, or_eq_add hy hx, Nat.add_comm]

theorem byte_lt (b : UInt8) : b.toNat < 256 := b.toNat_lt_size

/-! ### The values -/

/-- **The 16-bit helpers are always defined** and read two bytes little- or big-endian. -/
theorem arrayUint16Le_eq (b0 b1 : UInt8) (rest : List UInt8) :
    arrayUint16Le (b0 :: b1 :: rest) = some (UInt16.ofNat (leValue [b0, b1])) := by
  have h0 := byte_lt b0
  have h1 := byte_lt b1
  simp only [arrayUint16Le, List.getElem?_cons_zero, List.getElem?_cons_succ,
    shlInt_of_le (show b1.toNat * 2 ^ 8 ≤ intMax by unfold intMax; omega), Option.bind_eq_bind,
    Option.some_bind, leValue]
  rw [or_eq_add' (i := 8) (by omega) (Nat.dvd_of_mod_eq_zero (by omega))]
  congr 2
  omega

theorem arrayUint16Be_eq (b0 b1 : UInt8) (rest : List UInt8) :
    arrayUint16Be (b0 :: b1 :: rest) = some (UInt16.ofNat (leValue [b1, b0])) := by
  have h0 := byte_lt b0
  have h1 := byte_lt b1
  simp only [arrayUint16Be, List.getElem?_cons_zero, List.getElem?_cons_succ,
    shlInt_of_le (show b0.toNat * 2 ^ 8 ≤ intMax by unfold intMax; omega), Option.bind_eq_bind,
    Option.some_bind, leValue]
  rw [or_eq_add (i := 8) (Nat.dvd_of_mod_eq_zero (by omega)) (by omega)]
  congr 2
  omega

/-- `array_uint32_le` is defined exactly when the byte it shifts by 24 is below `0x80`, and then
reads four bytes little-endian. -/
theorem arrayUint32Le_eq (b0 b1 b2 b3 : UInt8) (rest : List UInt8) :
    arrayUint32Le (b0 :: b1 :: b2 :: b3 :: rest) =
      if b3.toNat < 0x80 then some (UInt32.ofNat (leValue [b0, b1, b2, b3])) else none := by
  have h0 := byte_lt b0
  have h1 := byte_lt b1
  have h2 := byte_lt b2
  simp only [arrayUint32Le, List.getElem?_cons_zero, List.getElem?_cons_succ, Option.bind_eq_bind,
    Option.some_bind, shlInt_of_le (show b1.toNat * 2 ^ 8 ≤ intMax by unfold intMax; omega),
    shlInt_of_le (show b2.toNat * 2 ^ 16 ≤ intMax by unfold intMax; omega)]
  split_ifs with h3
  · rw [shlInt_of_le (by unfold intMax; omega), Option.some_bind,
      or_eq_add' (y := b1.toNat * 2 ^ 8) (i := 8) (by omega) (Nat.dvd_of_mod_eq_zero (by omega)),
      or_eq_add' (y := b2.toNat * 2 ^ 16) (i := 16) (by omega) (Nat.dvd_of_mod_eq_zero (by omega)),
      or_eq_add' (y := b3.toNat * 2 ^ 24) (i := 24) (by omega) (Nat.dvd_of_mod_eq_zero (by omega))]
    simp only [leValue]
    congr 2
    omega
  · rw [shlInt_eq_none (by unfold intMax; omega), Option.none_bind]

/-- `array_uint32_be` is defined exactly when the byte it shifts by 24 is below `0x80`, and then
reads four bytes big-endian. -/
theorem arrayUint32Be_eq (b0 b1 b2 b3 : UInt8) (rest : List UInt8) :
    arrayUint32Be (b0 :: b1 :: b2 :: b3 :: rest) =
      if b0.toNat < 0x80 then some (UInt32.ofNat (leValue [b3, b2, b1, b0])) else none := by
  have h1 := byte_lt b1
  have h2 := byte_lt b2
  have h3 := byte_lt b3
  simp only [arrayUint32Be, List.getElem?_cons_zero, List.getElem?_cons_succ, Option.bind_eq_bind,
    Option.some_bind]
  split_ifs with h0
  · rw [shlInt_of_le (by unfold intMax; omega), Option.some_bind,
      shlInt_of_le (show b1.toNat * 2 ^ 16 ≤ intMax by unfold intMax; omega), Option.some_bind,
      shlInt_of_le (show b2.toNat * 2 ^ 8 ≤ intMax by unfold intMax; omega), Option.some_bind,
      or_eq_add (y := b1.toNat * 2 ^ 16) (i := 24) (Nat.dvd_of_mod_eq_zero (by omega)) (by omega),
      or_eq_add (y := b2.toNat * 2 ^ 8) (i := 16) (Nat.dvd_of_mod_eq_zero (by omega)) (by omega),
      or_eq_add (y := b3.toNat) (i := 8) (Nat.dvd_of_mod_eq_zero (by omega)) (by omega)]
    simp only [leValue]
    congr 2
    omega
  · rw [shlInt_eq_none (by unfold intMax; omega), Option.none_bind]

/-- **What the four helpers compute.**  The 16-bit helpers read two bytes little- or big-endian;
the 32-bit ones read four bytes the same way exactly when the byte they shift by 24 is below
`0x80`, and are undefined otherwise. -/
theorem arrayUint_values (b0 b1 b2 b3 : UInt8) (rest : List UInt8) :
    arrayUint16Le (b0 :: b1 :: rest) = some (UInt16.ofNat (leValue [b0, b1])) ∧
    arrayUint16Be (b0 :: b1 :: rest) = some (UInt16.ofNat (leValue [b1, b0])) ∧
    arrayUint32Le (b0 :: b1 :: b2 :: b3 :: rest) =
      (if b3.toNat < 0x80 then some (UInt32.ofNat (leValue [b0, b1, b2, b3])) else none) ∧
    arrayUint32Be (b0 :: b1 :: b2 :: b3 :: rest) =
      (if b0.toNat < 0x80 then some (UInt32.ofNat (leValue [b3, b2, b1, b0])) else none) :=
  ⟨arrayUint16Le_eq b0 b1 rest, arrayUint16Be_eq b0 b1 rest, arrayUint32Le_eq b0 b1 b2 b3 rest,
    arrayUint32Be_eq b0 b1 b2 b3 rest⟩

/-- **Big-endian is little-endian of the reversed bytes**, for both widths and every array,
undefined results included. -/
theorem arrayUint_be_eq_le (array : List UInt8) :
    arrayUint16Be array = arrayUint16Le (array.take 2).reverse ∧
    arrayUint32Be array = arrayUint32Le (array.take 4).reverse := by
  rcases array with _ | ⟨b0, _ | ⟨b1, _ | ⟨b2, _ | ⟨b3, rest⟩⟩⟩⟩
  all_goals simp only [arrayUint16Be_eq, arrayUint16Le_eq, arrayUint32Be_eq, arrayUint32Le_eq,
    List.take, List.reverse_cons, List.reverse_nil, List.nil_append, List.cons_append,
    and_true, true_and]
  all_goals simp [arrayUint16Be, arrayUint16Le, arrayUint32Be, arrayUint32Le]

/-- `array_uint32_le` on `00 00 00 80` and `array_uint32_be` on `80 00 00 00` shift `0x80` by 24,
past `INT_MAX`. -/
theorem arrayUint32_top_byte_undefined :
    arrayUint32Le [0, 0, 0, 0x80] = none ∧ arrayUint32Be [0x80, 0, 0, 0] = none := by
  decide

end LibDCBridge
