import Mathlib.Data.Nat.Digits
import LibDCBridge.Strings

/-!
# The serial string of a fingerprint lookup

`ble_device_event_cb` names a device to the fingerprint lookup by
`snprintf (serial, sizeof (serial), "%08x", devinfo->serial)` into `char serial[16]`.
`serialString` is that call: `printf`'s `%x` conversion (`hexConversion`), the `0` flag with
width `8` (`zeroPad`), and `snprintf`'s cut at the buffer.

`render w n` is the `w`-digit lowercase rendering of `n`, most significant digit first.  For a
32-bit serial the buffer holds exactly `render 8`, untruncated (`serialString_eq_render`), and
reading the hex digits back gives the serial (`hexValue_serialString`), so no two serials share
a lookup key.
-/

namespace LibDCBridge

/-- `printf`'s `%x` conversion: lowercase hex digits, most significant first, `0` for zero. -/
def hexConversion (n : Nat) : List Char :=
  if n = 0 then ['0'] else ((Nat.digits 16 n).map Nat.digitChar).reverse

/-- The `0` flag with field width `w`: pad on the left with `'0'` up to `w` characters. -/
def zeroPad (w : Nat) (s : List Char) : List Char := List.replicate (w - s.length) '0' ++ s

/-- `snprintf (serial, sizeof (serial), "%08x", devinfo->serial)` with `char serial[16]`. -/
def serialString (serial : UInt32) : List Char :=
  snprintf 16 (zeroPad 8 (hexConversion serial.toNat))

/-- The `w` lowest hex digits of `n`, most significant first. -/
def render : Nat → Nat → List Char
  | 0, _ => []
  | w + 1, n => render w (n / 16) ++ [Nat.digitChar (n % 16)]

/-- The value of a hex digit, as `strtoul (key, NULL, 16)` reads it. -/
def hexDigitValue (c : Char) : Nat :=
  if '0' ≤ c ∧ c ≤ '9' then c.toNat - '0'.toNat
  else if 'a' ≤ c ∧ c ≤ 'f' then c.toNat - 'a'.toNat + 10
  else if 'A' ≤ c ∧ c ≤ 'F' then c.toNat - 'A'.toNat + 10
  else 0

/-- The value of a string of hex digits. -/
def hexValue (s : List Char) : Nat := s.foldl (fun acc c => 16 * acc + hexDigitValue c) 0

/-! ### Digits -/

theorem hexDigitValue_digitChar {d : Nat} (h : d < 16) : hexDigitValue (Nat.digitChar d) = d := by
  interval_cases d <;> rfl

theorem digitChar_mem {d : Nat} (h : d < 16) : Nat.digitChar d ∈ "0123456789abcdef".toList := by
  interval_cases d <;> decide

theorem hexValue_append_singleton (s : List Char) (c : Char) :
    hexValue (s ++ [c]) = 16 * hexValue s + hexDigitValue c := by
  simp [hexValue, List.foldl_append]

/-! ### The rendering -/

@[simp] theorem length_render : ∀ w n, (render w n).length = w
  | 0, _ => rfl
  | w + 1, n => by simp [render, length_render w]

theorem render_mem : ∀ w n, ∀ c ∈ render w n, c ∈ "0123456789abcdef".toList
  | 0, _ => by simp [render]
  | w + 1, n => by
    simp only [render, List.mem_append, List.mem_singleton]
    rintro c (hc | rfl)
    · exact render_mem w (n / 16) c hc
    · exact digitChar_mem (Nat.mod_lt n (by norm_num))

theorem hexValue_render : ∀ w n, hexValue (render w n) = n % 16 ^ w
  | 0, n => by simp [render, hexValue, Nat.mod_one]
  | w + 1, n => by
    rw [render, hexValue_append_singleton, hexValue_render w,
      hexDigitValue_digitChar (Nat.mod_lt n (by norm_num)), pow_succ', Nat.mod_mul, Nat.add_comm]

/-- The significant digits `printf` writes for a positive value, as a string. -/
theorem zeroPad_digits : ∀ w n, n < 16 ^ w →
    zeroPad w ((Nat.digits 16 n).map Nat.digitChar).reverse = render w n
  | 0, n, h => by
    obtain rfl : n = 0 := by simpa using h
    simp [zeroPad, render]
  | w + 1, n, h => by
    rcases Nat.eq_zero_or_pos n with rfl | hn
    · have := zeroPad_digits w 0 (by positivity)
      simp only [Nat.digits_zero, List.map_nil, List.reverse_nil, zeroPad, List.length_nil,
        Nat.sub_zero, List.append_nil] at this ⊢
      rw [render, ← this, List.replicate_succ']
      rfl
    · have ih := zeroPad_digits w (n / 16) (by rw [pow_succ] at h; omega)
      rw [Nat.digits_def' (by norm_num) hn, List.map_cons, List.reverse_cons, render, ← ih]
      simp only [zeroPad, List.length_append, List.length_reverse, List.length_map,
        List.length_singleton, List.append_assoc]
      congr 2
      omega

theorem zeroPad_hexConversion {w n : Nat} (hw : 0 < w) (h : n < 16 ^ w) :
    zeroPad w (hexConversion n) = render w n := by
  unfold hexConversion
  split_ifs with hn
  · subst hn
    obtain ⟨w, rfl⟩ := Nat.exists_eq_add_of_lt hw
    have := zeroPad_digits (w + 1) 0 (by positivity)
    simp only [Nat.digits_zero, List.map_nil, List.reverse_nil, zeroPad, List.length_nil,
      Nat.sub_zero, List.append_nil, Nat.zero_add] at this ⊢
    rw [← this, List.replicate_succ']
    rfl
  · exact zeroPad_digits w n h

/-! ### The serial string -/

theorem toNat_lt_sixteen_pow (serial : UInt32) : serial.toNat < 16 ^ 8 :=
  lt_of_lt_of_eq serial.toNat_lt_size (by norm_num)

/-- **The serial buffer holds the eight-digit rendering, untruncated.** -/
theorem serialString_eq_render (serial : UInt32) : serialString serial = render 8 serial.toNat := by
  rw [serialString, zeroPad_hexConversion (by norm_num) (toNat_lt_sixteen_pow serial),
    snprintf_of_length_lt (by simp)]

theorem hexValue_serialString (serial : UInt32) :
    hexValue (serialString serial) = serial.toNat := by
  rw [serialString_eq_render, hexValue_render, Nat.mod_eq_of_lt (toNat_lt_sixteen_pow serial)]

/-- **The lookup key of a serial**: the buffer is written in full with the eight lowercase,
zero-padded hex digits of the serial, so the key reads back as the serial and distinct serials
get distinct keys. -/
theorem serialString_key :
    (∀ serial : UInt32,
      serialString serial = zeroPad 8 (hexConversion serial.toNat) ∧
      serialString serial = render 8 serial.toNat ∧
      (serialString serial).length = 8 ∧
      (∀ c ∈ serialString serial, c ∈ "0123456789abcdef".toList) ∧
      hexValue (serialString serial) = serial.toNat) ∧
    Function.Injective serialString := by
  refine ⟨fun serial => ⟨?_, serialString_eq_render serial, ?_, ?_, hexValue_serialString serial⟩,
    fun a b hab => ?_⟩
  · rw [serialString, snprintf_of_length_lt]
    rw [zeroPad_hexConversion (by norm_num) (toNat_lt_sixteen_pow serial)]
    simp
  · simp [serialString_eq_render]
  · rw [serialString_eq_render]
    exact render_mem 8 _
  · have := congrArg hexValue hab
    rw [hexValue_serialString, hexValue_serialString] at this
    exact UInt32.toNat.inj this

example : serialString 0xDEADBEEF = "deadbeef".toList := by
  rw [serialString_eq_render]
  rfl

end LibDCBridge
