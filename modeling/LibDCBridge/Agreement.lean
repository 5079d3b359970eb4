import LibDCBridge.Open

/-!
# The two identifications

A device found by name is opened by family and model: `get_device_info_from_name` hands the
descriptor's pair to `open_ble_device`, which looks the pair up again with
`find_descriptor_by_model` and labels the session with what it finds.  The second lookup returns
the first entry of the table with that pair, which need not be the entry the name resolved to:
libdivecomputer's table lists several products under one family and model, and the name table
itself sends `"Petrel"` to `"Petrel 2"`.

`identification_paths_agree` says when the two agree: exactly when the first entry with the pair
has the name-resolved vendor and product.  `petrel_paths_disagree` is a table where it has not.
`formatted_name_of_resolution` says what `get_formatted_device_name` returns.
-/

namespace LibDCBridge

section Lookups

variable {env : Env} (name : List Char) (w : World)

theorem getDeviceInfoFromName_ok {D : DescriptorPtr}
    (hD : (findDescriptorByName env name w).1 = .ok D) :
    (getDeviceInfoFromName env name w).1 = .ok (D.desc.type, D.desc.model) := by
  rcases hf : findDescriptorByName env name w with ⟨r, w'⟩
  rw [hf] at hD
  cases hD
  simp [getDeviceInfoFromName, hf]

theorem getFormattedDeviceName_reliable (h : env.Reliable) {D : DescriptorPtr}
    (hD : (findDescriptorByName env name w).1 = .ok D) :
    (getFormattedDeviceName env name w).1.map (·.text) = vendorProduct D.desc := by
  rcases hf : findDescriptorByName env name w with ⟨r, w'⟩
  rw [hf] at hD
  cases hD
  simpa [getFormattedDeviceName, hf] using allocLabel_reliable D.desc w' h

end Lookups

/-- **`get_formatted_device_name` formats what the name resolves to.**  When nothing fails, the
label is the `"Vendor Product"` of the entry `resolveByName` picks, and there is none when the
name resolves to nothing. -/
theorem formatted_name_of_resolution (env : Env) (h : env.Reliable) (name : List Char)
    (w : World) :
    (getFormattedDeviceName env name w).1.map (·.text) =
      (resolveByName env.catalog name).toOption.bind vendorProduct := by
  have hr := findDescriptorByName_reliable name w h
  rcases hf : findDescriptorByName env name w with ⟨_ | D, w'⟩ <;> rw [hf] at hr <;> rw [← hr]
  · simp [getFormattedDeviceName, hf, Except.map, Except.toOption]
  · exact getFormattedDeviceName_reliable name w h (by rw [hf])

/-- `"Petrel"` is formatted as its Petrel 2. -/
theorem formatted_name_of_resolution_petrel2 :
    let env : Env := ⟨[⟨some "Shearwater".toList, some "Petrel 2".toList, 1, 3, dcTransportBle,
      fun _ _ => false⟩], fun _ => .success⟩
    env.Reliable ∧
    (getFormattedDeviceName env "Petrel".toList ⟨[], 0, 0, 0, []⟩).1.map (·.text) =
      (resolveByName env.catalog "Petrel".toList).toOption.bind vendorProduct :=
  ⟨fun _ => rfl, formatted_name_of_resolution _ (fun _ => rfl) _ _⟩

theorem vendorProduct_congr {d e : Descriptor} (hv : d.vendor = e.vendor)
    (hp : d.product = e.product) : vendorProduct d = vendorProduct e := by
  simp [vendorProduct, hv, hp]

/-- **The two identifications agree when the table does.**  When nothing fails and the lookup by
name finds `D`: `get_device_info_from_name` yields `D`'s family and model; the lookup by that
pair returns the first entry of the table with it; and when that entry has `D`'s vendor and
product, the label an open of the pair stores is `get_formatted_device_name`'s. -/
theorem identification_paths_agree (env : Env) (h : env.Reliable) (name addr : List Char)
    (data : Res) (devdata : DeviceData) (w w₁ : World) (D : DescriptorPtr)
    (hD : (findDescriptorByName env name w).1 = .ok D) :
    (getDeviceInfoFromName env name w).1 = .ok (D.desc.type, D.desc.model) ∧
    (findDescriptorByModel env D.desc.type D.desc.model w₁).1.map (·.desc) =
      orUnsupported (env.catalog.find? fun e => e.type == D.desc.type && e.model == D.desc.model) ∧
    ((pairEntry env.catalog D.desc.type D.desc.model).map (fun e => (e.vendor, e.product)) =
        some (D.desc.vendor, D.desc.product) →
      (∃ E, (findDescriptorByModel env D.desc.type D.desc.model w₁).1 = .ok E ∧
        E.desc.vendor = D.desc.vendor ∧ E.desc.product = D.desc.product) ∧
      (openBleDevice env data devdata (some addr) D.desc.type D.desc.model w₁).1.2.model.map
          (·.text) =
        (getFormattedDeviceName env name w).1.map (·.text)) := by
  have hm := findFirst_reliable (fun e => e.type == D.desc.type && e.model == D.desc.model) w₁ h
  refine ⟨getDeviceInfoFromName_ok name w hD, hm, fun hsame => ?_⟩
  obtain ⟨E, hE, hvp⟩ := Option.map_eq_some'.mp hsame
  obtain ⟨hv, hp⟩ := Prod.mk.inj hvp
  refine ⟨?_, ?_⟩
  · rw [show env.catalog.find? _ = _ from hE] at hm
    rcases hr : (findDescriptorByModel env D.desc.type D.desc.model w₁).1 with rc | P <;>
      simp only [findDescriptorByModel] at hr <;> rw [hr] at hm <;> cases hm
    exact ⟨P, rfl, hv, hp⟩
  · rw [(openBleDevice_reliable h data devdata addr _ _ w₁).2, show env.catalog.find? _ = _ from hE,
      getFormattedDeviceName_reliable name w h hD]
    exact vendorProduct_congr hv hp

/-- With the Petrel 2 alone in the table, `"Petrel"` is found through the entry sending it to the
Petrel 2. -/
theorem identification_paths_agree_petrel2 :
    let petrel2 : Descriptor :=
      ⟨some "Shearwater".toList, some "Petrel 2".toList, 1, 3, 32, fun _ _ => false⟩
    let env : Env := ⟨[petrel2], fun _ => .success⟩
    let w : World := ⟨[], 0, 0, 0, []⟩
    let D : DescriptorPtr := ⟨⟨.descriptor, 1⟩, petrel2⟩
    env.Reliable ∧ (findDescriptorByName env "Petrel".toList w).1 = .ok D ∧
    ((getDeviceInfoFromName env "Petrel".toList w).1 = .ok (D.desc.type, D.desc.model) ∧
    (findDescriptorByModel env D.desc.type D.desc.model w).1.map (·.desc) =
      orUnsupported (env.catalog.find? fun e => e.type == D.desc.type && e.model == D.desc.model) ∧
    ((pairEntry env.catalog D.desc.type D.desc.model).map (fun e => (e.vendor, e.product)) =
        some (D.desc.vendor, D.desc.product) →
      (∃ E, (findDescriptorByModel env D.desc.type D.desc.model w).1 = .ok E ∧
        E.desc.vendor = D.desc.vendor ∧ E.desc.product = D.desc.product) ∧
      (openBleDevice env appData DeviceData.zeroed (some "AA:BB".toList) D.desc.type D.desc.model
        w).1.2.model.map (·.text) =
        (getFormattedDeviceName env "Petrel".toList w).1.map (·.text))) :=
  ⟨fun _ => rfl, rfl, identification_paths_agree _ (fun _ => rfl) _ _ _ _ _ _ _ rfl⟩

/-- **The identifications can disagree.**  With the Petrel and the Petrel 2 under one family and
model, `"Petrel"` resolves to the Petrel 2, the pair to the Petrel, and an open of the pair labels
the session `"Shearwater Petrel"` where the name is formatted `"Shearwater Petrel 2"`. -/
theorem petrel_paths_disagree :
    let petrel : Descriptor :=
      ⟨some "Shearwater".toList, some "Petrel".toList, 1, 3, 32, fun _ _ => false⟩
    let petrel2 : Descriptor :=
      ⟨some "Shearwater".toList, some "Petrel 2".toList, 1, 3, 32, fun _ _ => false⟩
    let env : Env := ⟨[petrel, petrel2], fun _ => .success⟩
    let w : World := ⟨[], 0, 0, 0, []⟩
    (getDeviceInfoFromName env "Petrel".toList w).1.toOption = some (1, 3) ∧
    (findDescriptorByName env "Petrel".toList w).1.toOption.map (·.desc.product) =
      some (some "Petrel 2".toList) ∧
    (findDescriptorByModel env 1 3 w).1.toOption.map (·.desc.product) =
      some (some "Petrel".toList) ∧
    (openBleDevice env appData DeviceData.zeroed (some "AA:BB".toList) 1 3 w).1.2.model.map
        (·.text) = some "Shearwater Petrel".toList ∧
    (getFormattedDeviceName env "Petrel".toList w).1.map (·.text) =
      some "Shearwater Petrel 2".toList := by
  decide

end LibDCBridge
