import LibDCBridge.Agreement
import LibDCBridge.Run

/-!
# Which entry of the table the bridge picks

The bridge turns a family and model, or an advertised name, into an entry of libdivecomputer's
descriptor table.  A failing call ends a table walk early, so a failure can change the answer;
this module says how far.

* `pairEntry` (of `Catalog`) is the first entry with a family and model, what
  `find_descriptor_by_model` returns when nothing fails.  Over every environment, a session `open_ble_device` hands out
  holds that entry (`open_holds_first_entry`), and `create_parser_for_device` makes a parser
  only for a pair the table has (`parser_iff_entry`).
* `nameCandidates` lists the answers a lookup by name may give, in the order the code tries
  them, and the failure-free lookup gives the first (`resolveByName_eq_head`).  Over every
  environment the lookups by name answer with a candidate (`name_lookups_sound`): a failing
  `dc_iterator_next` may send the name on to a later entry of `name_patterns`, but never to an
  entry it does not identify.
* `identifiedEntry` is what `open_ble_device_with_identification` sets out to open: the stored
  family and model if the table has them, else the family and model the name resolves to.
  When nothing fails it opens exactly that entry, labelled with its `"Vendor Product"`
  and fails exactly when there is none (`identification_selects_entry`); over every environment, the session it hands out holds the
  first entry of the stored pair or of a candidate's pair (`identified_session_sound`).
-/

namespace LibDCBridge

/-- The answers a lookup by name may give, in the order the code tries them: for each entry of
`name_patterns` whose key matches the name, the first descriptor with its vendor and product,
then the first BLE descriptor whose filter accepts the name. -/
def nameCandidates (catalog : List Descriptor) (name : List Char) : List Descriptor :=
  (namePatterns.filter fun p => decide (p.keyMatches name)).filterMap
    (fun p => catalog.find? (productIs p)) ++ (catalog.find? (bleFilter name)).toList

/-- The entry a session holds, with its label. -/
def DeviceData.identity (d : DeviceData) : Option (Descriptor × Option (List Char)) :=
  d.descriptor.map fun D => (D.desc, d.model.map (·.text))

/-- What `open_ble_device_with_identification` sets out to open: the first entry of the stored
family and model when both are set and the table has them, and otherwise the first entry with
the family and model of what the name resolves to. -/
def identifiedEntry (catalog : List Descriptor) (name : List Char)
    (storedFamily storedModel : Nat) : Option Descriptor :=
  (if storedFamily ≠ 0 ∧ storedModel ≠ 0 then pairEntry catalog storedFamily storedModel
    else none).or
  ((resolveByName catalog name).toOption.bind fun D => pairEntry catalog D.type D.model)

/-! ### The candidates of a name -/

theorem head?_filterMap_filter_append {α β : Type} (q : α → Bool) (f : α → Option β)
    (t : List β) : ∀ l : List α, ((l.filter q).filterMap f ++ t).head? =
      match l.find? (fun a => q a && (f a).isSome) with
      | some a => f a
      | none => t.head?
  | [] => rfl
  | a :: l => by
    rcases hq : q a <;> rcases hf : f a with _ | b <;>
      simp [List.filter_cons, hq, hf, head?_filterMap_filter_append q f t l]

/-- The failure-free lookup by name answers with the first candidate. -/
theorem resolveByName_eq_head (catalog : List Descriptor) (name : List Char) :
    resolveByName catalog name = orUnsupported (nameCandidates catalog name).head? := by
  have hres : resolves catalog name =
      fun p => decide (p.keyMatches name) && (catalog.find? (productIs p)).isSome := by
    funext p
    rw [resolves, any_eq_find?_isSome]
  rw [nameCandidates, head?_filterMap_filter_append, resolveByName, resolvedIndex,
    ← find?_eq_findIdx?_bind, hres]
  split <;> next h => cases o : catalog.find? (bleFilter name) <;> simp [h, o]

/-! ### Under failures -/

section Faults

variable {env : Env}

theorem findDescriptorByName_sound (name : List Char) (w : World) {D : DescriptorPtr}
    (hD : (findDescriptorByName env name w).1 = .ok D) :
    D.desc ∈ nameCandidates env.catalog name := by
  rcases patternLoop_sound name namePatterns w D hD with ⟨p, hp, hm, hf⟩ | hf
  · refine List.mem_append_left _ (List.mem_filterMap.mpr ⟨p, List.mem_filter.mpr ⟨hp, ?_⟩, hf⟩)
    exact decide_eq_true ((NamePattern.matches_iff_keyMatches (nul_not_mem_key p hp) name).mp hm)
  · exact List.mem_append_right _ (by simp [hf])

theorem getDeviceInfoFromName_sound (name : List Char) (w : World) {family model : Nat}
    (h : (getDeviceInfoFromName env name w).1 = .ok (family, model)) :
    ∃ E ∈ nameCandidates env.catalog name, E.type = family ∧ E.model = model := by
  rcases hf : findDescriptorByName env name w with ⟨rc | D, w'⟩
  · simp [getDeviceInfoFromName, hf] at h
  · rw [getDeviceInfoFromName_ok name w (by rw [hf])] at h
    cases h
    exact ⟨D.desc, findDescriptorByName_sound name w (by rw [hf]), rfl, rfl⟩

/-- A session keeps the descriptor its lookup by family and model returned. -/
theorem openBleDevice_descriptor_sound (data : Res) (devdata : DeviceData) (addr : List Char)
    (family model : Nat) (w : World) {D : DescriptorPtr}
    (h : (openBleDevice env data devdata (some addr) family model w).1.2.descriptor = some D) :
    pairEntry env.catalog family model = some D.desc := by
  obtain ⟨_, _, _, descriptor, _, he, hd⟩ := @openBleDevice_shape env data devdata addr family model w
  rw [he] at h
  exact findFirst_sound _ _ (hd D h)

/-- An open succeeds exactly when it leaves a descriptor in the session. -/
theorem openBleDevice_success_iff (data : Res) (devdata : DeviceData) (addr : List Char)
    (family model : Nat) (w : World) :
    (openBleDevice env data devdata (some addr) family model w).1.1 = .success ↔
      (openBleDevice env data devdata (some addr) family model w).1.2.descriptor.isSome := by
  rcases hr : openBleDevice env data devdata (some addr) family model w with ⟨⟨rc, d⟩, w'⟩
  have hs := openBleDevice_spec data devdata addr family model hr
  refine ⟨fun hrc => ?_, fun hd => by_contra fun hrc => ?_⟩
  · obtain ⟨⟨_, _, _, D, -, -, -, hD, -⟩, -⟩ := hs.1 hrc
    simp [hD]
  · obtain ⟨-, -, ⟨-, -, -, hD, -⟩, -⟩ := hs.2 hrc
    simp [hD] at hd

theorem openIdentified_sound (block : Res) (data : DeviceData) (name addr : List Char)
    (w : World) {D : DescriptorPtr}
    (h : (openIdentified env block data name (some addr) w).1.toOption.bind (·.2.descriptor) =
      some D) :
    ∃ E ∈ nameCandidates env.catalog name, pairEntry env.catalog E.type E.model = some D.desc := by
  simp only [openIdentified, bind_apply, pure_apply] at h
  rcases h₁ : getDeviceInfoFromName env name w with ⟨rc | ⟨family, model⟩, w₁⟩ <;>
    simp only [h₁, bind_apply, pure_apply] at h
  · cases h
  obtain ⟨E, hE, rfl, rfl⟩ := getDeviceInfoFromName_sound name w (by rw [h₁])
  rcases h₂ : openBleDevice env block data (some addr) E.type E.model w₁ with ⟨⟨rc, d⟩, w₂⟩
  simp only [h₂] at h
  split_ifs at h
  · cases h
  · exact ⟨E, hE, openBleDevice_descriptor_sound block data addr _ _ w₁ (by rw [h₂]; exact h)⟩

end Faults

/-- **Failures never make an open settle on another entry.**  Over every environment, a session
`open_ble_device` leaves holds the first entry of the table with the family and model, and its
label, when it has one, is that entry's `"Vendor Product"`. -/
theorem open_holds_first_entry (env : Env) (data : Res) (devdata : DeviceData) (addr : List Char)
    (family model : Nat) (w : World) (D : DescriptorPtr)
    (hD : (openBleDevice env data devdata (some addr) family model w).1.2.descriptor = some D) :
    pairEntry env.catalog family model = some D.desc ∧
      ((openBleDevice env data devdata (some addr) family model w).1.2.model.map (·.text) =
          vendorProduct D.desc ∨
        (openBleDevice env data devdata (some addr) family model w).1.2.model = none) := by
  refine ⟨openBleDevice_descriptor_sound data devdata addr family model w hD, ?_⟩
  have hs := (openBleDevice_success_iff data devdata addr family model w).mpr (by rw [hD]; rfl)
  obtain ⟨⟨_, _, _, D', -, -, -, hD', -, -, -, -, -, hl⟩, -⟩ :=
    (openBleDevice_spec data devdata addr family model rfl).1 hs
  cases hD.symm.trans hD'
  exact hl.imp_right (·.1)

/-- With the label's `malloc` failing, the Petrel session still holds the Petrel. -/
theorem open_holds_first_entry_petrel :
    let env : Env := ⟨[petrel], fun n => if n = 8 then .noMemory else .success⟩
    (openBleDevice env appData DeviceData.zeroed (some "AA:BB".toList) 1 3
        ⟨[], 0, 0, 0, []⟩).1.2.descriptor = some ⟨⟨.descriptor, 2⟩, petrel⟩ ∧
    (pairEntry env.catalog 1 3 = some petrel ∧
      ((openBleDevice env appData DeviceData.zeroed (some "AA:BB".toList) 1 3
          ⟨[], 0, 0, 0, []⟩).1.2.model.map (·.text) = vendorProduct petrel ∨
        (openBleDevice env appData DeviceData.zeroed (some "AA:BB".toList) 1 3
          ⟨[], 0, 0, 0, []⟩).1.2.model = none)) :=
  ⟨rfl, open_holds_first_entry _ _ _ _ _ _ _ ⟨⟨.descriptor, 2⟩, petrel⟩ rfl⟩

/-- **`create_parser_for_device` makes a parser only for a pair the table has**, and when
nothing fails, for every such pair. -/
theorem parser_iff_entry (env : Env) (family model : Nat) (w : World) :
    ((createParserForDevice env family model w).1.toOption.isSome →
      (pairEntry env.catalog family model).isSome) ∧
    (env.Reliable → ((createParserForDevice env family model w).1.toOption.isSome ↔
      (pairEntry env.catalog family model).isSome)) := by
  rcases hf : findDescriptorByModel env family model w with ⟨rc | D, w'⟩
  · have hp : (createParserForDevice env family model w).1 = .error rc := by
      simp [createParserForDevice, hf]
    refine ⟨by simp [hp, Except.toOption], fun h => ?_⟩
    have hr := findFirst_reliable (fun e => e.type == family && e.model == model) w h
    rw [show findFirst env _ w = _ from hf] at hr
    rcases he : pairEntry env.catalog family model with _ | e <;>
      simp_all [pairEntry, orUnsupported, Except.map, Except.toOption]
  · have he := findFirst_sound _ w (show (findFirst env _ w).1 = _ by
      rw [show findFirst env _ w = _ from hf])
    have hp : (createParserForDevice env family model w).1 = (create env .parser w').1 := by
      simp [createParserForDevice, hf, dcParserNew2]
    refine ⟨fun _ => by simp [pairEntry, he], fun h => ?_⟩
    rw [hp, create_apply, if_pos (h _)]
    simp [pairEntry, he, Except.toOption]

/-- The Petrel's parser, in a table holding it. -/
theorem parser_iff_entry_petrel :
    petrelEnv.Reliable ∧
    ((createParserForDevice petrelEnv 1 3 ⟨[], 0, 0, 0, []⟩).1.toOption.isSome ↔
      (pairEntry petrelEnv.catalog 1 3).isSome) :=
  ⟨fun _ => rfl, (parser_iff_entry petrelEnv 1 3 ⟨[], 0, 0, 0, []⟩).2 fun _ => rfl⟩

/-- **The lookups by name answer only with a candidate.**  Over every environment, a descriptor
`find_descriptor_by_name` returns is one of the name's candidates, of which the failure-free
resolution is the first; `get_device_info_from_name` then yields its family and model, and the
label `get_formatted_device_name` returns, if any, is its `"Vendor Product"`. -/
theorem name_lookups_sound (env : Env) (name : List Char) (w : World) (D : DescriptorPtr)
    (hD : (findDescriptorByName env name w).1 = .ok D) :
    D.desc ∈ nameCandidates env.catalog name ∧
    resolveByName env.catalog name = orUnsupported (nameCandidates env.catalog name).head? ∧
    (getDeviceInfoFromName env name w).1 = .ok (D.desc.type, D.desc.model) ∧
    ∀ l, (getFormattedDeviceName env name w).1 = some l → vendorProduct D.desc = some l.text := by
  refine ⟨findDescriptorByName_sound name w hD, resolveByName_eq_head _ _,
    getDeviceInfoFromName_ok name w hD, fun l hl => ?_⟩
  rcases hf : findDescriptorByName env name w with ⟨r, w'⟩
  rw [hf] at hD
  cases hD
  simp only [getFormattedDeviceName, hf, bind_apply, pure_apply, dcDescriptorFree] at hl
  exact ((allocLabel_pushes D.desc w').2 l hl).2

/-- A failing `dc_iterator_next` in the search for the Petrel 3 sends `"Petrel 3"` on to the
entry for `"Petrel"`, whose Petrel 2 is a candidate too. -/
theorem name_lookups_sound_petrel3 :
    let petrel2 : Descriptor :=
      ⟨some "Shearwater".toList, some "Petrel 2".toList, 1, 3, 32, fun _ _ => false⟩
    let petrel3 : Descriptor :=
      ⟨some "Shearwater".toList, some "Petrel 3".toList, 1, 10, 32, fun _ _ => false⟩
    let env : Env := ⟨[petrel3, petrel2], fun n => if n = 1 then .io else .success⟩
    let w : World := ⟨[], 0, 0, 0, []⟩
    (findDescriptorByName env "Petrel 3".toList w).1 = .ok ⟨⟨.descriptor, 3⟩, petrel2⟩ ∧
    (petrel2 ∈ nameCandidates env.catalog "Petrel 3".toList ∧
    resolveByName env.catalog "Petrel 3".toList =
      orUnsupported (nameCandidates env.catalog "Petrel 3".toList).head? ∧
    (getDeviceInfoFromName env "Petrel 3".toList w).1 = .ok (petrel2.type, petrel2.model) ∧
    ∀ l, (getFormattedDeviceName env "Petrel 3".toList w).1 = some l →
      vendorProduct petrel2 = some l.text) :=
  ⟨rfl, name_lookups_sound _ _ _ ⟨⟨.descriptor, 3⟩, _⟩ rfl⟩

/-- **A session opened with identification holds the entry of the stored pair or of a
candidate's pair**, over every environment. -/
theorem identified_session_sound (env : Env) (name addr : List Char)
    (storedFamily storedModel : Nat) (w : World) (D : DescriptorPtr)
    (h : (openBleDeviceWithIdentification env name (some addr) storedFamily storedModel
      w).1.toOption.bind (·.2.descriptor) = some D) :
    storedFamily ≠ 0 ∧ storedModel ≠ 0 ∧ pairEntry env.catalog storedFamily storedModel =
        some D.desc ∨
      ∃ E ∈ nameCandidates env.catalog name, pairEntry env.catalog E.type E.model = some D.desc := by
  simp only [openBleDeviceWithIdentification, bind_apply, pure_apply] at h
  rcases h₁ : callocDeviceData env w with ⟨_ | block, w₁⟩ <;>
    simp only [h₁, bind_apply, pure_apply] at h
  · cases h
  split_ifs at h with hst
  · simp only [bind_apply, pure_apply] at h
    rcases h₂ : openBleDevice env block DeviceData.zeroed (some addr) storedFamily storedModel
      w₁ with ⟨⟨rc, d⟩, w₂⟩
    simp only [h₂] at h
    split_ifs at h
    · exact .inl ⟨hst.1, hst.2,
        openBleDevice_descriptor_sound _ _ addr _ _ w₁ (by rw [h₂]; exact h)⟩
    · exact .inr (openIdentified_sound block d name addr w₂ h)
  · exact .inr (openIdentified_sound block _ name addr w₁ h)

/-- With no stored pair, `"Petrel"` is opened as the Petrel 2 its entry names. -/
theorem identified_session_sound_petrel2 :
    let petrel2 : Descriptor :=
      ⟨some "Shearwater".toList, some "Petrel 2".toList, 1, 3, 32, fun _ _ => false⟩
    let env : Env := ⟨[petrel2], fun _ => .success⟩
    (openBleDeviceWithIdentification env "Petrel".toList (some "AA:BB".toList) 0 0
      ⟨[], 0, 0, 0, []⟩).1.toOption.bind (·.2.descriptor) = some ⟨⟨.descriptor, 5⟩, petrel2⟩ ∧
    (0 ≠ 0 ∧ 0 ≠ 0 ∧ pairEntry env.catalog 0 0 = some petrel2 ∨
      ∃ E ∈ nameCandidates env.catalog "Petrel".toList,
        pairEntry env.catalog E.type E.model = some petrel2) :=
  ⟨rfl, identified_session_sound _ _ "AA:BB".toList _ _ ⟨[], 0, 0, 0, []⟩ ⟨⟨.descriptor, 5⟩, _⟩ rfl⟩

/-! ### Without failures -/

section Reliable

variable {env : Env}

theorem getDeviceInfoFromName_reliable (h : env.Reliable) (name : List Char) (w : World) :
    (getDeviceInfoFromName env name w).1.toOption =
      (resolveByName env.catalog name).toOption.map fun D => (D.type, D.model) := by
  have hr := findDescriptorByName_reliable name w h
  rcases hf : findDescriptorByName env name w with ⟨_ | D, w'⟩ <;> rw [hf] at hr <;> rw [← hr]
  · simp [getDeviceInfoFromName, hf, Except.map, Except.toOption]
  · rw [getDeviceInfoFromName_ok name w (by rw [hf])]
    rfl

/-- When nothing fails, an open holds the first entry of the pair, labelled, and succeeds
exactly when there is one. -/
theorem openBleDevice_identity (h : env.Reliable) (data : Res) (devdata : DeviceData)
    (addr : List Char) (family model : Nat) (w : World) :
    (openBleDevice env data devdata (some addr) family model w).1.2.identity =
      (pairEntry env.catalog family model).map (fun e => (e, vendorProduct e)) ∧
    ((openBleDevice env data devdata (some addr) family model w).1.1 = .success ↔
      (pairEntry env.catalog family model).isSome) := by
  obtain ⟨hd, hm⟩ := openBleDevice_reliable h data devdata addr family model w
  rw [openBleDevice_success_iff]
  rcases hD : (openBleDevice env data devdata (some addr) family model w).1.2.descriptor with
    _ | D <;> rw [hD] at hd <;> simp [DeviceData.identity, hD, pairEntry, ← hd, hm]

/-- When nothing fails, the fall back opens the first entry of the pair the name resolves to,
and fails exactly when there is none. -/
theorem openIdentified_reliable (h : env.Reliable) (block : Res) (data : DeviceData)
    (name addr : List Char) (w : World) :
    ((openIdentified env block data name (some addr) w).1.toOption.map fun r => r.2.identity) =
      ((resolveByName env.catalog name).toOption.bind fun D =>
        pairEntry env.catalog D.type D.model).map fun e => some (e, vendorProduct e) := by
  have hg := getDeviceInfoFromName_reliable h name w
  simp only [openIdentified, bind_apply, pure_apply]
  rcases h₁ : getDeviceInfoFromName env name w with ⟨rc | ⟨family, model⟩, w₁⟩ <;>
    rw [h₁] at hg <;> rcases hr : resolveByName env.catalog name with _ | D <;> rw [hr] at hg <;>
    simp only [Except.toOption, Option.map_none', Option.map_some', Option.some.injEq,
      Prod.mk.injEq, reduceCtorEq] at hg
  · rfl
  obtain ⟨rfl, rfl⟩ := hg
  rcases h₂ : openBleDevice env block data (some addr) D.type D.model w₁ with ⟨⟨rc, d⟩, w₂⟩
  obtain ⟨hid, hs⟩ := openBleDevice_identity h block data addr D.type D.model w₁
  rw [h₂] at hid hs
  simp only [bind_apply, h₂]
  split_ifs with hrc
  · simp [Except.toOption, Option.not_isSome_iff_eq_none.mp (mt hs.mpr hrc)]
  · obtain ⟨e, he⟩ := Option.isSome_iff_exists.mp (hs.mp (not_not.mp hrc))
    simp only [he] at hid
    simp [Except.toOption, hid, he]

end Reliable

/-- **`open_ble_device_with_identification` opens what it sets out to.**  When nothing fails,
it succeeds exactly when there is an `identifiedEntry`, and the session it hands out then holds
that entry, labelled with its `"Vendor Product"`. -/
theorem identification_selects_entry (env : Env) (h : env.Reliable) (name addr : List Char)
    (storedFamily storedModel : Nat) (w : World) :
    ((openBleDeviceWithIdentification env name (some addr) storedFamily storedModel
        w).1.toOption.map fun r => r.2.identity) =
      (identifiedEntry env.catalog name storedFamily storedModel).map
        fun e => some (e, vendorProduct e) := by
  simp only [openBleDeviceWithIdentification, bind_apply, pure_apply]
  rcases h₁ : callocDeviceData env w with ⟨_ | block, w₁⟩
  · exact absurd (h w.calls) (malloc_none w h₁).1
  simp only [identifiedEntry]
  split_ifs with hst
  · simp only [bind_apply, pure_apply]
    rcases h₂ : openBleDevice env block DeviceData.zeroed (some addr) storedFamily storedModel
      w₁ with ⟨⟨rc, d⟩, w₂⟩
    obtain ⟨hid, hs⟩ :=
      openBleDevice_identity h block DeviceData.zeroed addr storedFamily storedModel w₁
    rw [h₂] at hid hs
    split_ifs with hrc
    · obtain ⟨e, he⟩ := Option.isSome_iff_exists.mp (hs.mp hrc)
      simp [Except.toOption, hid, he]
    · rw [Option.not_isSome_iff_eq_none.mp (mt hs.mpr hrc), Option.none_or]
      exact openIdentified_reliable h block d name addr w₂
  · rw [Option.none_or]
    exact openIdentified_reliable h block _ name addr w₁

/-- A stored Petrel pair, in a table holding it. -/
theorem identification_selects_entry_petrel :
    petrelEnv.Reliable ∧
    ((openBleDeviceWithIdentification petrelEnv "Petrel".toList (some "AA:BB".toList) 1 3
        ⟨[], 0, 0, 0, []⟩).1.toOption.map fun r => r.2.identity) =
      (identifiedEntry petrelEnv.catalog "Petrel".toList 1 3).map
        fun e => some (e, vendorProduct e) :=
  ⟨fun _ => rfl, identification_selects_entry _ (fun _ => rfl) _ _ _ _ _⟩

end LibDCBridge
