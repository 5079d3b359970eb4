import Mathlib.Data.List.Infix

/-!
# The C string functions the bridge calls

A C string is modelled by its characters before the terminating `NUL`.  `strstr` and
`strncmp` are written as the C library computes them, with the end of a string read as
`'\0'`; `snprintf` keeps what fits in the buffer.  The lemmas say what the bridge uses them
for: `strstr_isSome_iff` reads `strstr (name, key) != NULL` as "the key occurs in the name",
and `strncmp_length_eq_zero_iff` reads `strncmp (name, key, strlen (key)) == 0` as "the key is
a prefix of the name" whenever the key holds no `NUL`.
-/

namespace LibDCBridge

/-- `strstr (haystack, needle)`: the suffix of `haystack` from the first occurrence of
`needle` on, or `NULL`. -/
def strstr : List Char → List Char → Option (List Char)
  | [], needle => if needle.isPrefixOf [] then some [] else none
  | c :: rest, needle =>
    if needle.isPrefixOf (c :: rest) then some (c :: rest) else strstr rest needle

/-- `strncmp (s1, s2, n)`: the difference of the first differing characters among the first
`n`, the end of a string reading as `'\0'`. -/
def strncmp : List Char → List Char → Nat → Int
  | _, _, 0 => 0
  | [], [], _ + 1 => 0
  | [], c :: _, _ + 1 => -(c.toNat : Int)
  | c :: _, [], _ + 1 => c.toNat
  | a :: s, b :: t, n + 1 => if a = b then strncmp s t n else (a.toNat : Int) - b.toNat

/-- `snprintf (buf, size, ...)` with `0 < size`: the first `size - 1` characters of the
output, then the `NUL`. -/
def snprintf (size : Nat) (out : List Char) : List Char := out.take (size - 1)

theorem strstr_isSome_iff : ∀ (haystack needle : List Char),
    (strstr haystack needle).isSome ↔ needle <:+: haystack
  | [], needle => by
    simp only [strstr, List.isPrefixOf_iff_prefix, List.prefix_nil, List.infix_nil]
    split_ifs <;> simp_all
  | c :: rest, needle => by
    rw [strstr, List.infix_cons_iff, ← List.isPrefixOf_iff_prefix, ← strstr_isSome_iff rest]
    split_ifs with h <;> simp [h]

theorem char_eq_of_toNat_eq {a b : Char} (h : a.toNat = b.toNat) : a = b := by
  rw [← Char.ofNat_toNat a, h, Char.ofNat_toNat]

theorem strncmp_length_eq_zero_iff : ∀ (s key : List Char), '\x00' ∉ key →
    (strncmp s key key.length = 0 ↔ key <+: s)
  | _, [], _ => by simp [strncmp]
  | [], c :: key, h => by
    have : c.toNat ≠ 0 := fun e =>
      h (List.mem_cons.mpr
        (Or.inl (char_eq_of_toNat_eq (e.trans rfl : c.toNat = '\x00'.toNat)).symm))
    simp only [strncmp, List.prefix_nil, reduceCtorEq, iff_false]
    omega
  | a :: s, b :: key, h => by
    rw [List.length_cons, strncmp, List.cons_prefix_cons]
    split_ifs with hab
    · rw [strncmp_length_eq_zero_iff s key (fun hm => h (List.mem_cons_of_mem b hm))]
      simp [hab]
    · have : a.toNat ≠ b.toNat := fun e => hab (char_eq_of_toNat_eq e)
      simp only [Ne.symm hab, false_and, iff_false]
      omega

theorem snprintf_of_length_lt {size : Nat} {out : List Char} (h : out.length < size) :
    snprintf size out = out :=
  List.take_of_length_le (by omega)

end LibDCBridge
