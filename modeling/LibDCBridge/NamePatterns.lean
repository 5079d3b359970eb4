import LibDCBridge.Strings

/-!
# The name pattern table

`name_patterns` lists the advertised names the bridge knows, each with the vendor and product
it stands for and a match mode.  The enum's comment calls `MATCH_EXACT` a full string match,
but `find_descriptor_by_name` tests it with `strstr`, as it tests `MATCH_CONTAINS`; `matches`
is what the code does and `keyMatches` is that reading stated on lists
(`matches_iff_keyMatches`).

The table's own comment says more specific patterns come first.  `longer_key_first` checks
that this holds for every pair of entries whose keys overlap: when one key occurs inside
another, the longer entry comes first and is not a prefix entry, so any name containing the
longer key reaches it before the shorter one.
-/

namespace LibDCBridge

/-- The `match_type` of a `name_pattern`. -/
inductive MatchType
  | matchExact | matchPrefix | matchContains
  deriving DecidableEq, Repr

/-- `struct name_pattern`; `key` is the C field `prefix`. -/
structure NamePattern where
  key : String
  vendor : String
  product : String
  matchType : MatchType
  deriving DecidableEq, Repr

/-- `name_patterns`, in table order. -/
def namePatterns : List NamePattern := [
  -- Shearwater dive computers
  ⟨"Predator", "Shearwater", "Predator", .matchExact⟩,
  ⟨"Perdix 2", "Shearwater", "Perdix 2", .matchExact⟩,
  ⟨"Petrel 3", "Shearwater", "Petrel 3", .matchExact⟩,
  ⟨"Petrel", "Shearwater", "Petrel 2", .matchExact⟩,
  ⟨"Perdix", "Shearwater", "Perdix", .matchExact⟩,
  ⟨"Teric", "Shearwater", "Teric", .matchExact⟩,
  ⟨"Peregrine TX", "Shearwater", "Peregrine TX", .matchExact⟩,
  ⟨"Peregrine", "Shearwater", "Peregrine TX", .matchExact⟩,
  ⟨"NERD 2", "Shearwater", "NERD 2", .matchExact⟩,
  ⟨"NERD", "Shearwater", "NERD", .matchExact⟩,
  ⟨"Tern", "Shearwater", "Tern", .matchExact⟩,
  -- Suunto dive computers
  ⟨"EON Steel", "Suunto", "EON Steel", .matchExact⟩,
  ⟨"Suunto D5", "Suunto", "D5", .matchExact⟩,
  ⟨"EON Core", "Suunto", "EON Core", .matchExact⟩,
  -- Scubapro dive computers
  ⟨"G2", "Scubapro", "G2", .matchExact⟩,
  ⟨"HUD", "Scubapro", "G2 HUD", .matchExact⟩,
  ⟨"G3", "Scubapro", "G3", .matchExact⟩,
  ⟨"Aladin", "Scubapro", "Aladin Sport Matrix", .matchExact⟩,
  ⟨"A1", "Scubapro", "Aladin A1", .matchExact⟩,
  ⟨"A2", "Scubapro", "Aladin A2", .matchExact⟩,
  ⟨"Luna 2.0 AI", "Scubapro", "Luna 2.0 AI", .matchExact⟩,
  ⟨"Luna 2.0", "Scubapro", "Luna 2.0", .matchExact⟩,
  -- Mares dive computers
  ⟨"Mares Genius", "Mares", "Genius", .matchExact⟩,
  ⟨"Sirius", "Mares", "Sirius", .matchExact⟩,
  ⟨"Quad Ci", "Mares", "Quad Ci", .matchExact⟩,
  ⟨"Puck4", "Mares", "Puck 4", .matchExact⟩,
  -- Cressi dive computers
  ⟨"CARESIO_", "Cressi", "Cartesio", .matchPrefix⟩,
  ⟨"GOA_", "Cressi", "Goa", .matchPrefix⟩,
  ⟨"Leonardo", "Cressi", "Leonardo 2.0", .matchContains⟩,
  ⟨"Donatello", "Cressi", "Donatello", .matchContains⟩,
  ⟨"Michelangelo", "Cressi", "Michelangelo", .matchContains⟩,
  ⟨"Neon", "Cressi", "Neon", .matchContains⟩,
  ⟨"Nepto", "Cressi", "Nepto", .matchContains⟩,
  -- Heinrichs Weikamp dive computers
  ⟨"OSTC 3", "Heinrichs Weikamp", "OSTC Plus", .matchExact⟩,
  ⟨"OSTC s#", "Heinrichs Weikamp", "OSTC Sport", .matchExact⟩,
  ⟨"OSTC s ", "Heinrichs Weikamp", "OSTC Sport", .matchExact⟩,
  ⟨"OSTC 4-", "Heinrichs Weikamp", "OSTC 4", .matchExact⟩,
  ⟨"OSTC 2-", "Heinrichs Weikamp", "OSTC 2N", .matchExact⟩,
  ⟨"OSTC + ", "Heinrichs Weikamp", "OSTC 2", .matchExact⟩,
  ⟨"OSTC", "Heinrichs Weikamp", "OSTC 2", .matchExact⟩,
  -- Deepblu dive computers
  ⟨"COSMIQ", "Deepblu", "Cosmiq+", .matchExact⟩,
  -- Oceans dive computers
  ⟨"S1", "Oceans", "S1", .matchExact⟩,
  -- McLean dive computers
  ⟨"McLean Extreme", "McLean", "Extreme", .matchExact⟩,
  -- Tecdiving dive computers
  ⟨"DiveComputer", "Tecdiving", "DiveComputer.eu", .matchExact⟩,
  -- Ratio dive computers
  ⟨"DS", "Ratio", "iX3M 2021 GPS Easy", .matchExact⟩,
  ⟨"IX5M", "Ratio", "iX3M 2021 GPS Easy", .matchExact⟩,
  ⟨"RATIO-", "Ratio", "iX3M 2021 GPS Easy", .matchExact⟩]

/-- The `switch (name_patterns[i].match_type)` of `find_descriptor_by_name`. -/
def NamePattern.matches (p : NamePattern) (name : List Char) : Bool :=
  match p.matchType with
  | .matchExact => (strstr name p.key.toList).isSome
  | .matchPrefix => strncmp name p.key.toList p.key.toList.length == 0
  | .matchContains => (strstr name p.key.toList).isSome

/-- Substring for `MATCH_EXACT` and `MATCH_CONTAINS`, prefix for `MATCH_PREFIX`. -/
def NamePattern.keyMatches (p : NamePattern) (name : List Char) : Prop :=
  match p.matchType with
  | .matchPrefix => p.key.toList <+: name
  | _ => p.key.toList <:+: name

instance (p : NamePattern) (name : List Char) : Decidable (p.keyMatches name) := by
  unfold NamePattern.keyMatches
  split <;> infer_instance

/-- No key of the table holds a `NUL`. -/
theorem nul_not_mem_key : ∀ p ∈ namePatterns, '\x00' ∉ p.key.toList := by
  decide

theorem NamePattern.matches_iff_keyMatches {p : NamePattern} (h : '\x00' ∉ p.key.toList)
    (name : List Char) : p.matches name = true ↔ p.keyMatches name := by
  have := strncmp_length_eq_zero_iff name _ h
  rcases p with ⟨key, vendor, product, _ | _ | _⟩ <;>
    simp_all [NamePattern.matches, NamePattern.keyMatches, strstr_isSome_iff]

/-! ### Checking the order of the table -/

/-- `isPrefixOf` on character codes, compared by `Nat.beq` so that the kernel decides it
quickly. -/
def codePrefix : List Nat → List Nat → Bool
  | [], _ => true
  | _ :: _, [] => false
  | a :: s, b :: t => Nat.beq a b && codePrefix s t

/-- `needle` occurs in the codes `haystack`. -/
def codeInfix (needle : List Nat) : List Nat → Bool
  | [] => needle.isEmpty
  | c :: rest => codePrefix needle (c :: rest) || codeInfix needle rest

/-- The character codes of a key. -/
def keyCodes (p : NamePattern) : List Nat := p.key.toList.map Char.toNat

/-- The key of `p` occurs inside the longer key of `q`. -/
def inside (p q : NamePattern) : Bool :=
  Nat.blt (keyCodes p).length (keyCodes q).length && codeInfix (keyCodes p) (keyCodes q)

/-- What the table order asks of an entry `p` and a later entry `q`. -/
def orderedPair (p q : NamePattern) : Bool :=
  !inside p q && (p.matchType != .matchPrefix || !inside q p)

/-- Every pair of entries in the order the table lists them passes `orderedPair`. -/
def orderedTable : List NamePattern → Bool
  | [] => true
  | p :: rest => rest.all (orderedPair p) && orderedTable rest

theorem codePrefix_iff : ∀ a b : List Nat, codePrefix a b = true ↔ a <+: b
  | [], _ => by simp [codePrefix]
  | _ :: _, [] => by simp [codePrefix]
  | x :: s, y :: t => by
    simp [codePrefix, codePrefix_iff s t, Nat.beq_eq_true_eq, List.cons_prefix_cons]

theorem codeInfix_iff (needle : List Nat) : ∀ haystack, codeInfix needle haystack = true ↔
    needle <:+: haystack
  | [] => by simp [codeInfix]
  | c :: rest => by
    rw [codeInfix, Bool.or_eq_true, codePrefix_iff, codeInfix_iff needle rest,
      List.infix_cons_iff]

theorem orderedTable_pairwise : ∀ l : List NamePattern, orderedTable l = true →
    l.Pairwise fun p q => orderedPair p q = true
  | [], _ => List.Pairwise.nil
  | p :: rest, h => by
    simp only [orderedTable, Bool.and_eq_true, List.all_eq_true] at h
    exact List.Pairwise.cons h.1 (orderedTable_pairwise rest h.2)

theorem namePatterns_ordered : orderedTable namePatterns = true := by
  decide

/-- A key properly inside another is `inside` it. -/
theorem inside_of_infix {p q : NamePattern} (h : p.key.toList <:+: q.key.toList)
    (hne : p.key ≠ q.key) : inside p q = true := by
  have hlt : p.key.toList.length < q.key.toList.length := by
    refine lt_of_le_of_ne h.length_le fun e => hne ?_
    exact String.ext (h.eq_of_length e)
  simp only [inside, keyCodes, Bool.and_eq_true, Nat.blt_eq, List.length_map, codeInfix_iff]
  exact ⟨hlt, h.map _⟩

/-- **The table puts longer keys first.**  Whenever the key of entry `j` occurs inside the
different key of entry `i`, entry `i` comes first and matches by substring. -/
theorem longer_key_first (i j : Fin namePatterns.length)
    (h : (namePatterns.get j).key.toList <:+: (namePatterns.get i).key.toList)
    (hne : (namePatterns.get j).key ≠ (namePatterns.get i).key) :
    i < j ∧ (namePatterns.get i).matchType ≠ .matchPrefix := by
  have hin := inside_of_infix h hne
  have hp := List.pairwise_iff_get.mp (orderedTable_pairwise _ namePatterns_ordered)
  rcases Nat.lt_trichotomy i j with hij | hij | hji
  · refine ⟨hij, fun hm => ?_⟩
    have := hp i j hij
    rw [orderedPair, hm, hin] at this
    simp at this
  · exact absurd (congrArg (fun k => (namePatterns.get k).key) (Fin.ext hij)).symm hne
  · have := hp j i hji
    rw [orderedPair, hin] at this
    simp at this

end LibDCBridge
