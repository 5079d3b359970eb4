import LibDCBridge.Catalog
import LibDCBridge.NamePatterns

/-!
# Identifying a device by its advertised name

`find_descriptor_by_name` walks `name_patterns` in order.  For each entry whose key matches the
name it searches the descriptor table for the entry's vendor and product and returns the first
hit; when no entry leads anywhere it falls back to the first BLE descriptor whose filter accepts
the name.  `patternLoop` is that walk.  `get_device_info_from_name` and
`get_formatted_device_name` call it and free what it returns.

`resolveByName` is the same resolution stated on lists: the first entry of the table that
matches and whose product is in the table, and otherwise the filter.  In an environment where no
call fails the code computes it (`findDescriptorByName_reliable`), and
`findDescriptorByName_first_match` adds that a longer key is never shadowed by a shorter one.
Over every environment the search leaves only the returned descriptor live
(`findDescriptorByName_pushes`), and the two callers leave the descriptors and iterators as they
found them; a descriptor it returns is reached through an entry whose key matches, or through
the fallback (`patternLoop_sound`).
-/

namespace LibDCBridge

/-- `DC_TRANSPORT_BLE`, libdivecomputer's `1 << 5`. -/
def dcTransportBle : Nat := 32

/-- The pattern loop's test, `vendor && product && strcmp (vendor, ...) == 0 &&
strcmp (product, ...) == 0`; on C strings `strcmp (a, b) == 0` says `a = b`. -/
def productIs (p : NamePattern) (d : Descriptor) : Bool :=
  d.vendor == some p.vendor.toList && d.product == some p.product.toList

/-- The fallback's test, `(transports & DC_TRANSPORT_BLE) &&
dc_descriptor_filter (descriptor, DC_TRANSPORT_BLE, name)`. -/
def bleFilter (name : List Char) (d : Descriptor) : Bool :=
  d.transports &&& dcTransportBle != 0 && d.filter dcTransportBle name

/-- A string in a heap block: the block and the characters before its `NUL`. -/
structure Label where
  block : Res
  text : List Char

/-- `snprintf (buf, len, "%s %s", vendor, product)` with
`len = strlen (vendor) + strlen (product) + 2`, when both are set. -/
def vendorProduct (d : Descriptor) : Option (List Char) :=
  match d.vendor, d.product with
  | some v, some p => some (snprintf (v.length + p.length + 2) (v ++ ' ' :: p))
  | _, _ => none

section Code

variable (env : Env)

/-- The `"Vendor Product"` block `open_ble_device` and `get_formatted_device_name` build:
`NULL` when a string is missing or `malloc` fails. -/
def allocLabel (d : Descriptor) : StateM World (Option Label) := do
  match vendorProduct d with
  | none => return none
  | some text => do
    match ← malloc env .block with
    | none => return none
    | some b => return some ⟨b, text⟩

/-- The `for` loop over the entries `ps` of `name_patterns`, then the fallback. -/
def patternLoop (name : List Char) :
    List NamePattern → StateM World (Except Status DescriptorPtr)
  | [] => findFirst env (bleFilter name)
  | p :: ps => do
    if p.matches name then
      match ← searchCatalog env (productIs p) with
      | .error rc => return .error rc
      | .ok (some d) => return .ok d
      | .ok none => patternLoop name ps
    else patternLoop name ps

/-- `find_descriptor_by_name`. -/
def findDescriptorByName (name : List Char) : StateM World (Except Status DescriptorPtr) :=
  patternLoop env name namePatterns

/-- `get_device_info_from_name`: the family and model of the descriptor found. -/
def getDeviceInfoFromName (name : List Char) : StateM World (Except Status (Nat × Nat)) := do
  match ← findDescriptorByName env name with
  | .error rc => return .error rc
  | .ok descriptor => do
    dcDescriptorFree descriptor
    return .ok (descriptor.desc.type, descriptor.desc.model)

/-- `get_formatted_device_name`. -/
def getFormattedDeviceName (name : List Char) : StateM World (Option Label) := do
  match ← findDescriptorByName env name with
  | .error _ => return none
  | .ok descriptor => do
    let result ← allocLabel env descriptor.desc
    dcDescriptorFree descriptor
    return result

end Code

/-! ### The label -/

section Label

variable {env : Env} (d : Descriptor) (w : World)

theorem allocLabel_apply :
    allocLabel env d w =
      match vendorProduct d with
      | none => (none, w)
      | some text =>
        if env.outcome w.calls = .success then (some ⟨⟨.block, w.next⟩, text⟩, w.tick.push .block)
        else (none, w.tick) := by
  rcases hv : vendorProduct d with _ | text
  · simp [allocLabel, hv]
  · by_cases h : env.outcome w.calls = .success <;>
      simp [allocLabel, hv, h, malloc_apply]

/-- The label block is the only thing allocated, and it holds the vendor and product. -/
theorem allocLabel_pushes :
    Pushes w (allocLabel env d w).2 ((allocLabel env d w).1.map (·.block)).toList ∧
    ∀ l, (allocLabel env d w).1 = some l →
      l.block.kind = .block ∧ vendorProduct d = some l.text := by
  rw [allocLabel_apply]
  rcases vendorProduct d with _ | text
  · exact ⟨Pushes.refl w, by simp⟩
  · dsimp only
    split_ifs
    · exact ⟨⟨rfl, rfl, rfl, Nat.le_succ _⟩, by rintro l ⟨⟩; exact ⟨rfl, rfl⟩⟩
    · exact ⟨⟨rfl, rfl, rfl, le_rfl⟩, by simp⟩

/-- The label is the vendor and product, or missing because its `malloc`, the last call, failed. -/
theorem allocLabel_text :
    (allocLabel env d w).1.map (·.text) = vendorProduct d ∨
      (allocLabel env d w).1 = none ∧
        env.outcome ((allocLabel env d w).2.calls - 1) ≠ .success := by
  rw [allocLabel_apply]
  rcases vendorProduct d with _ | text
  · exact .inl rfl
  · dsimp only
    split_ifs with h
    · exact .inl rfl
    · exact .inr ⟨rfl, by simpa using h⟩

theorem allocLabel_reliable (h : env.Reliable) :
    (allocLabel env d w).1.map (·.text) = vendorProduct d := by
  rw [allocLabel_apply]
  rcases vendorProduct d with _ | text
  · rfl
  · simp [h w.calls]

end Label

/-! ### The resolution the code implements -/

/-- Entry `p` resolves `name` against `catalog`: its key matches under its mode and the catalog
holds its vendor and product. -/
def resolves (catalog : List Descriptor) (name : List Char) (p : NamePattern) : Bool :=
  decide (p.keyMatches name) && catalog.any (productIs p)

/-- The first entry of the table through which `name` resolves. -/
def resolvedIndex (catalog : List Descriptor) (name : List Char) : Option Nat :=
  namePatterns.findIdx? (resolves catalog name)

/-- Through the first resolving entry, the first descriptor with its product; with none, the
first BLE descriptor whose filter accepts the name; otherwise `DC_STATUS_UNSUPPORTED`. -/
def resolveByName (catalog : List Descriptor) (name : List Char) : Except Status Descriptor :=
  match (resolvedIndex catalog name).bind (namePatterns[·]?) with
  | some p => orUnsupported (catalog.find? (productIs p))
  | none => orUnsupported (catalog.find? (bleFilter name))

theorem find?_eq_findIdx?_bind {α : Type} (q : α → Bool) :
    ∀ l : List α, l.find? q = (l.findIdx? q).bind (l[·]?)
  | [] => rfl
  | a :: l => by
    by_cases h : q a
    · simp [h]
    · simp [h, List.findIdx?_succ, find?_eq_findIdx?_bind q l, Option.bind_map,
        Function.comp_def]

section Loop

variable {env : Env} (name : List Char)

theorem patternLoop_cons (p : NamePattern) (ps : List NamePattern) (w : World) :
    patternLoop env name (p :: ps) w =
      if p.matches name then
        match searchCatalog env (productIs p) w with
        | (.error rc, w') => (.error rc, w')
        | (.ok (some d), w') => (.ok d, w')
        | (.ok none, w') => patternLoop env name ps w'
      else patternLoop env name ps w := by
  by_cases hm : p.matches name
  · rcases hs : searchCatalog env (productIs p) w with ⟨rc | _ | d, w'⟩ <;>
      simp [patternLoop, hm, hs]
  · simp [patternLoop, hm]

theorem any_eq_find?_isSome {α : Type} (q : α → Bool) (l : List α) :
    l.any q = (l.find? q).isSome := by
  rw [Bool.eq_iff_iff, List.any_eq_true, List.find?_isSome]

/-- With no failures the loop over the entries `ps` returns what `resolveByName` describes. -/
theorem patternLoop_reliable (h : env.Reliable) :
    ∀ ps : List NamePattern, (∀ p ∈ ps, '\x00' ∉ p.key.toList) → ∀ w : World,
      (patternLoop env name ps w).1.map (·.desc) =
        match ps.find? (resolves env.catalog name) with
        | some p => orUnsupported (env.catalog.find? (productIs p))
        | none => orUnsupported (env.catalog.find? (bleFilter name))
  | [], _, w => findFirst_reliable _ w h
  | p :: ps, hk, w => by
    have ih := patternLoop_reliable h ps (fun q hq => hk q (List.mem_cons_of_mem p hq))
    have hmk := NamePattern.matches_iff_keyMatches (hk p (List.mem_cons_self p ps)) name
    rw [patternLoop_cons]
    by_cases hm : p.matches name
    · obtain ⟨hs, hf⟩ := searchCatalog_reliable (productIs p) w h
      rcases hw : searchCatalog env (productIs p) w with ⟨r, w'⟩
      rw [hw] at hs
      subst hs
      rcases hl : (searchLoop env (productIs p) env.catalog (w.tick.push .iterator)).1 with _ | d
      · rw [hl, Option.map_none', eq_comm, List.find?_eq_none] at hf
        have hres : resolves env.catalog name p = false := by
          simp [resolves, any_eq_find?_isSome, List.find?_eq_none.mpr hf]
        simp [hm, List.find?_cons, hres, ih]
      · rw [hl, Option.map_some'] at hf
        have hres : resolves env.catalog name p = true := by
          simp [resolves, any_eq_find?_isSome, ← hf, ← hmk, hm]
        simp [hm, List.find?_cons, hres, ← hf, orUnsupported]
        rfl
    · have hres : resolves env.catalog name p = false := by simp [resolves, ← hmk, hm]
      simp [hm, List.find?_cons, hres, ih]

theorem patternLoop_pushes :
    ∀ (ps : List NamePattern) (w : World),
      Pushes w (patternLoop env name ps w).2
        ((patternLoop env name ps w).1.toOption.map (·.res)).toList
  | [], w => findFirst_pushes _ w
  | p :: ps, w => by
    rw [patternLoop_cons]
    split_ifs
    · have hs := @searchCatalog_pushes env (productIs p) w
      rcases hw : searchCatalog env (productIs p) w with ⟨rc | _ | d, w'⟩ <;> rw [hw] at hs
      · exact hs
      · exact hs.nil_trans (patternLoop_pushes ps w')
      · exact hs
    · exact patternLoop_pushes ps w

theorem patternLoop_kind :
    ∀ (ps : List NamePattern) (w : World) (d : DescriptorPtr),
      (patternLoop env name ps w).1 = .ok d → d.res.kind = .descriptor
  | [], w, d => findFirst_kind _ w d
  | p :: ps, w, d => by
    rw [patternLoop_cons]
    split_ifs
    · have hs := @searchCatalog_kind env (productIs p) w d
      rcases hw : searchCatalog env (productIs p) w with ⟨rc | _ | e, w'⟩ <;> rw [hw] at hs
      · simp
      · exact patternLoop_kind ps w' d
      · exact fun he => hs (by rw [← Except.ok.inj he])
    · exact patternLoop_kind ps w d

/-- Whatever fails, a descriptor the loop returns is the first with the vendor and product of
an entry whose key matches, or the first the fallback accepts. -/
theorem patternLoop_sound : ∀ (ps : List NamePattern) (w : World) (D : DescriptorPtr),
    (patternLoop env name ps w).1 = .ok D →
      (∃ p ∈ ps, p.matches name ∧ env.catalog.find? (productIs p) = some D.desc) ∨
        env.catalog.find? (bleFilter name) = some D.desc
  | [], w, D, h => .inr (findFirst_sound _ w h)
  | p :: ps, w, D, h => by
    have ih : ∀ w, (patternLoop env name ps w).1 = .ok D →
        (∃ q ∈ p :: ps, q.matches name ∧ env.catalog.find? (productIs q) = some D.desc) ∨
          env.catalog.find? (bleFilter name) = some D.desc := fun w h =>
      (patternLoop_sound ps w D h).imp_left fun ⟨q, hq, h'⟩ => ⟨q, List.mem_cons_of_mem p hq, h'⟩
    rw [patternLoop_cons] at h
    split_ifs at h with hm
    · rcases hw : searchCatalog env (productIs p) w with ⟨rc | _ | d, w'⟩ <;> rw [hw] at h
      · cases h
      · exact ih w' h
      · cases h
        exact .inl ⟨p, List.mem_cons_self p ps, hm, searchCatalog_sound _ w (by rw [hw])⟩
    · exact ih w h

end Loop

/-! ### What the lookups by name do -/

section ByName

variable {env : Env} (name : List Char) (w : World)

/-- When nothing fails, the lookup by name computes `resolveByName`. -/
theorem findDescriptorByName_reliable (h : env.Reliable) :
    (findDescriptorByName env name w).1.map (·.desc) = resolveByName env.catalog name := by
  rw [findDescriptorByName, patternLoop_reliable name h namePatterns nul_not_mem_key w,
    resolveByName, resolvedIndex, ← find?_eq_findIdx?_bind]

/-- **`find_descriptor_by_name` implements first-match resolution**, and a name holding the
longer of two overlapping keys is never resolved through the shorter one while the longer
one's product is in the table. -/
theorem findDescriptorByName_first_match (h : env.Reliable) :
    (findDescriptorByName env name w).1.map (·.desc) = resolveByName env.catalog name ∧
    ∀ i j : Fin namePatterns.length,
      (namePatterns.get j).key.toList <:+: (namePatterns.get i).key.toList →
      (namePatterns.get j).key ≠ (namePatterns.get i).key →
      (namePatterns.get i).key.toList <:+: name →
      (∃ d ∈ env.catalog, productIs (namePatterns.get i) d) →
      resolvedIndex env.catalog name ≠ some j := by
  refine ⟨findDescriptorByName_reliable name w h, fun i j hij hne hn hc => ?_⟩
  obtain ⟨hlt, hmode⟩ := longer_key_first i j hij hne
  have hi : resolves env.catalog name namePatterns[i.val] = true := by
    rw [← List.get_eq_getElem]
    simp only [resolves, Bool.and_eq_true, decide_eq_true_eq, List.any_eq_true]
    refine ⟨?_, hc⟩
    unfold NamePattern.keyMatches
    split <;> simp_all
  rw [resolvedIndex, Ne, List.findIdx?_eq_some_iff_getElem]
  rintro ⟨_, _, hfirst⟩
  exact hfirst i hlt (by simpa using hi)

/-- With the Peregrine TX in the table, `"Peregrine TX"` holds both its own key and the shorter
`"Peregrine"`, and is never resolved through the latter. -/
theorem findDescriptorByName_first_match_peregrine :
    let env : Env := ⟨[⟨some "Shearwater".toList, some "Peregrine TX".toList, 1, 9, dcTransportBle,
      fun _ _ => false⟩], fun _ => .success⟩
    let w : World := ⟨[], 0, 0, 0, []⟩
    env.Reliable ∧
    ((findDescriptorByName env "Peregrine TX".toList w).1.map (·.desc) =
      resolveByName env.catalog "Peregrine TX".toList ∧
    ∀ i j : Fin namePatterns.length,
      (namePatterns.get j).key.toList <:+: (namePatterns.get i).key.toList →
      (namePatterns.get j).key ≠ (namePatterns.get i).key →
      (namePatterns.get i).key.toList <:+: "Peregrine TX".toList →
      (∃ d ∈ env.catalog, productIs (namePatterns.get i) d) →
      resolvedIndex env.catalog "Peregrine TX".toList ≠ some j) :=
  ⟨fun _ => rfl, findDescriptorByName_first_match _ _ (fun _ => rfl)⟩

theorem findDescriptorByName_pushes :
    Pushes w (findDescriptorByName env name w).2
      ((findDescriptorByName env name w).1.toOption.map (·.res)).toList :=
  patternLoop_pushes name namePatterns w

theorem findDescriptorByName_kind (d : DescriptorPtr) :
    (findDescriptorByName env name w).1 = .ok d → d.res.kind = .descriptor :=
  patternLoop_kind name namePatterns w d

theorem getDeviceInfoFromName_pushes : Pushes w (getDeviceInfoFromName env name w).2 [] := by
  have hp := @findDescriptorByName_pushes env name w
  rcases hf : findDescriptorByName env name w with ⟨rc | d, w'⟩ <;> rw [hf] at hp
  · simpa [getDeviceInfoFromName, hf] using hp
  · simpa [getDeviceInfoFromName, hf, dcDescriptorFree]
      using (show Pushes w w' ([] ++ [d.res]) by simpa using hp).release_under (by simp)

theorem getFormattedDeviceName_pushes :
    Pushes w (getFormattedDeviceName env name w).2
      ((getFormattedDeviceName env name w).1.map (·.block)).toList ∧
    ∀ l, (getFormattedDeviceName env name w).1 = some l → l.block.kind = .block := by
  have hp := @findDescriptorByName_pushes env name w
  have hk := @findDescriptorByName_kind env name w
  rcases hf : findDescriptorByName env name w with ⟨rc | d, w'⟩ <;> rw [hf] at hp hk
  · simpa [getFormattedDeviceName, hf] using hp
  · obtain ⟨hl, hlk⟩ := @allocLabel_pushes env d.desc w'
    have hne : d.res ∉ ((allocLabel env d.desc w').1.map (·.block)).toList := by
      rcases hla : (allocLabel env d.desc w').1 with _ | l
      · simp
      · simp only [Option.map_some', Option.toList_some, List.mem_singleton]
        exact ne_of_kind_ne (by rw [(hlk l hla).1, hk d rfl]; decide)
    simp only [getFormattedDeviceName, hf, bind_apply, pure_apply, dcDescriptorFree]
    exact ⟨(hp.trans hl).release_under hne, fun l hla => (hlk l hla).1⟩

end ByName

/-! ### Nothing found is left behind -/

/-- A descriptor or an iterator. -/
def searchRes (r : Res) : Bool := r.kind == .descriptor || r.kind == .iterator

/-- `w'` holds the descriptors and iterators `w` held, and no release on the way failed. -/
def SameSearchRes (w w' : World) : Prop :=
  w'.live.filter searchRes = w.live.filter searchRes ∧ w'.faults = w.faults

/-- **The lookups free every iterator, and every descriptor but the one they return.**
`find_descriptor_by_model` and `find_descriptor_by_name` leave exactly the descriptor they
return on the ledger; `get_device_info_from_name`, `get_formatted_device_name` and
`create_parser_for_device` leave the descriptors and iterators as they were. -/
theorem lookups_free_descriptors (env : Env) (name : List Char) (family model : Nat)
    (w : World) :
    Pushes w (findDescriptorByModel env family model w).2
      ((findDescriptorByModel env family model w).1.toOption.map (·.res)).toList ∧
    Pushes w (findDescriptorByName env name w).2
      ((findDescriptorByName env name w).1.toOption.map (·.res)).toList ∧
    (∀ d, (findDescriptorByModel env family model w).1 = .ok d ∨
      (findDescriptorByName env name w).1 = .ok d → d.res.kind = .descriptor) ∧
    SameSearchRes w (getDeviceInfoFromName env name w).2 ∧
    SameSearchRes w (getFormattedDeviceName env name w).2 ∧
    SameSearchRes w (createParserForDevice env family model w).2 := by
  refine ⟨findFirst_pushes _ w, findDescriptorByName_pushes name w,
    fun d hd => hd.elim (findFirst_kind _ w d) (findDescriptorByName_kind name w d), ?_, ?_, ?_⟩
  · have h := @getDeviceInfoFromName_pushes env name w
    exact ⟨h.filter_eq _ (by simp), h.2.1⟩
  · obtain ⟨h, hk⟩ := @getFormattedDeviceName_pushes env name w
    refine ⟨h.filter_eq _ fun r hr => ?_, h.2.1⟩
    obtain ⟨l, hl, rfl⟩ := Option.mem_map.mp (Option.mem_toList.mp hr)
    simp [searchRes, hk l hl]
  · have h := createParserForDevice_pushes env family model w
    refine ⟨h.1.filter_eq _ fun r hr => ?_, h.1.2.1⟩
    simp [searchRes, h.2 r (Option.mem_toList.mp hr)]

end LibDCBridge
