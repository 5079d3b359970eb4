import LibDCBridge.Session

/-!
# Opening a session

`open_ble_device` zeroes the session, then creates the context, finds the descriptor by family
and model, opens the BLE stream, opens the device and registers the event callback with the
session's block as its userdata; the first step that fails sends it to `close_device_data` and
back to the caller with that step's status.  On success it stores the descriptor and a
`"Vendor Product"` label.  `open_ble_device_with_identification` allocates the session, tries a
stored family and model, and otherwise identifies the device by its name.

`openFailure` reads off the outcome of every call how an open ends: the status it returns and
what it leaves on the ledger, or success.  `openBleDevice_outcome` says the code ends exactly so,
over every environment: on success with a complete session (`Opened`), on failure with every
handle `NULL` and the ledger as before but for `openFailure`'s leak (`Unwound`).  The leak is
the descriptor, once the lookup by model has returned it, and the BLE connection when the
stream's `malloc` fails (`open_failures_leak`).  When nothing fails, an open succeeds exactly
when the table has the family and model (`reliable_open_succeeds_iff`).
-/

namespace LibDCBridge

/-- `DC_EVENT_DEVINFO | DC_EVENT_PROGRESS | DC_EVENT_CLOCK`. -/
def eventsMask : Nat := dcEventDevinfo ||| dcEventProgress ||| dcEventClock

section Code

variable (env : Env)

/-- `dc_context_new`. -/
def dcContextNew : StateM World (Except Status Res) := create env .context

/-- `dc_device_open (out, context, descriptor, iostream)`. -/
def dcDeviceOpen (_context : Res) (_descriptor : DescriptorPtr) (_iostream : BleStream) :
    StateM World (Except Status Res) :=
  create env .device

/-- `dc_device_set_events (device, events, ble_device_event_cb, userdata)`; a registration is
logged with its userdata. -/
def dcDeviceSetEvents (device : Res) (events : Nat) (userdata : Res) : StateM World Status := do
  let rc ← nextOutcome env
  if rc = .success then record (.setEvents device events userdata)
  return rc

/-- `open_ble_device (data, devaddr, family, model)`, with `data` the session's block and
`devdata` what it holds: the status and the session left in the block. -/
def openBleDevice (data : Res) (devdata : DeviceData) (devaddr : Option (List Char))
    (family model : Nat) : StateM World (Status × DeviceData) := do
  let some devaddr := devaddr | return (.invalidArgs, devdata)
  let devdata := DeviceData.zeroed
  match ← dcContextNew env with
  | .error rc => return (rc, devdata)
  | .ok context =>
    let devdata := { devdata with context := some context }
    match ← findDescriptorByModel env family model with
    | .error rc => return (rc, ← closeDeviceData devdata)
    | .ok descriptor =>
      match ← blePacketOpen env context devaddr with
      | .error rc => return (rc, ← closeDeviceData devdata)
      | .ok iostream =>
        let devdata := { devdata with iostream := some iostream }
        match ← dcDeviceOpen env context descriptor iostream with
        | .error rc => return (rc, ← closeDeviceData devdata)
        | .ok device =>
          let devdata := { devdata with device := some device }
          let rc ← dcDeviceSetEvents env device eventsMask data
          if rc ≠ .success then return (rc, ← closeDeviceData devdata)
          let devdata := { devdata with descriptor := some descriptor }
          let model ← allocLabel env descriptor.desc
          return (.success, { devdata with model := model })

/-- `calloc (1, sizeof (device_data_t))`: the block and its zeroed contents. -/
def callocDeviceData : StateM World (Option Res) := malloc env .block

/-- The fall back of `open_ble_device_with_identification`: identify the device by its name and
open it in `block`, or free the block. -/
def openIdentified (block : Res) (data : DeviceData) (name : List Char)
    (address : Option (List Char)) : StateM World (Except Status (Res × DeviceData)) := do
  match ← getDeviceInfoFromName env name with
  | .error rc =>
    free block
    return .error rc
  | .ok (family, model) =>
    let (rc, data) ← openBleDevice env block data address family model
    if rc ≠ .success then
      free block
      return .error rc
    return .ok (block, data)

/-- `open_ble_device_with_identification (out_data, name, address, stored_family,
stored_model)`: the session block and its contents, stored through `out_data` on success. -/
def openBleDeviceWithIdentification (name : List Char) (address : Option (List Char))
    (storedFamily storedModel : Nat) : StateM World (Except Status (Res × DeviceData)) := do
  let some block ← callocDeviceData env | return .error .noMemory
  let data := DeviceData.zeroed
  if storedFamily ≠ 0 ∧ storedModel ≠ 0 then
    let (rc, data) ← openBleDevice env block data address storedFamily storedModel
    if rc = .success then return .ok (block, data)
    openIdentified env block data name address
  else openIdentified env block data name address

end Code

/-! ### The Petrel -/

/-- libdivecomputer's Shearwater Petrel entry. -/
def petrel : Descriptor :=
  ⟨some "Shearwater".toList, some "Petrel".toList, 1, 3, dcTransportBle, fun _ _ => false⟩

/-- A table holding only the Petrel, and no call fails. -/
def petrelEnv : Env := ⟨[petrel], fun _ => .success⟩

/-- The Petrel's table, with the call numbered `n` failing. -/
def petrelFailingAt (n : Nat) : Env := ⟨[petrel], fun k => if k = n then .io else .success⟩

/-- A `device_data_t` of the application's own, outside the ledger. -/
def appData : Res := ⟨.block, 1000⟩

/-! ### What an open leaves -/

/-- Every handle of the session is `NULL`. -/
def DeviceData.Cleared (d : DeviceData) : Prop :=
  d.context = none ∧ d.iostream = none ∧ d.device = none ∧ d.descriptor = none ∧
    d.model = none ∧ d.fingerprint = none

/-- A complete session in the block `data`: context, stream, device and descriptor set, the
callback registered on the device with `data` as its userdata, no fingerprint yet, and the label
the descriptor's `"Vendor Product"` unless the label's `malloc`, the last call before `w'`,
failed. -/
def Complete (env : Env) (data : Res) (d : DeviceData) (w' : World) : Prop :=
  ∃ context iostream device descriptor,
    d.context = some context ∧ d.iostream = some iostream ∧ d.device = some device ∧
    d.descriptor = some descriptor ∧ descriptor.res.kind = .descriptor ∧ d.fingerprint = none ∧
    d.fsize = 0 ∧ d.lookupFingerprint = none ∧ Call.setEvents device eventsMask data ∈ w'.log ∧
    (d.model.map (·.text) = vendorProduct descriptor.desc ∨
      d.model = none ∧ env.outcome (w'.calls - 1) ≠ .success)

/-- A complete session in `data`, opened from `w`: on the ledger what the session holds and its
descriptor, besides what was there. -/
def Opened (env : Env) (w : World) (data : Res) (d : DeviceData) (w' : World) : Prop :=
  Complete env data d w' ∧ w'.live.Perm (d.held ++ (d.descriptor.map (·.res)).toList ++ w.live) ∧
    w'.faults = w.faults

/-- A failed open, from `w`: every handle is `NULL`, no release failed, and the ledger is as it
was but for `leak`. -/
def Unwound (w : World) (leak : List Res) (d : DeviceData) (w' : World) : Prop :=
  d.Cleared ∧ w'.live.Perm (leak ++ w.live) ∧ w'.faults = w.faults

/-- What a failed `open_ble_device` can leave on the ledger: nothing, its descriptor, or its
descriptor and the connection of a BLE object whose stream was never made. -/
def OpenLeak (leak : List Res) : Prop :=
  leak = [] ∨ ∃ descriptor : Res, descriptor.kind = .descriptor ∧
    (leak = [descriptor] ∨ ∃ n, leak = [⟨.connection, n⟩, descriptor])

/-! ### How an open ends -/

section Failure

variable (env : Env)

/-- How an open ends once the lookup by model has returned `descriptor`, its calls numbered from
`c` and the BLE object at address `n`: `createBLEObject`, `connectToBLEDevice`, the stream's
`malloc`, `dc_device_open` and `dc_device_set_events`, each with the status the code reports
for it and what stays live.  `none` is success. -/
def failureAfterLookup (c n : Nat) (descriptor : Res) : Option (Status × List Res) :=
  if env.outcome c ≠ .success then some (.noMemory, [descriptor])
  else if env.outcome (c + 1) ≠ .success then some (.io, [descriptor])
  else if env.outcome (c + 2) ≠ .success then some (.noMemory, [⟨.connection, n⟩, descriptor])
  else if env.outcome (c + 3) ≠ .success then some (env.outcome (c + 3), [descriptor])
  else if env.outcome (c + 4) ≠ .success then some (env.outcome (c + 4), [descriptor])
  else none

/-- How `open_ble_device (data, addr, family, model)` ends, its calls numbered from `c` and its
fresh addresses from `n`: `dc_context_new` and `dc_descriptor_iterator` with their own
statuses, then one `dc_iterator_next` per entry up to the first with the family and model, at
index `i`; a walk that fails or finds nothing is `DC_STATUS_UNSUPPORTED`.  The descriptor gets
the address after the `i` entries freed before it. -/
def openFailure (family model c n : Nat) : Option (Status × List Res) :=
  if env.outcome c ≠ .success then some (env.outcome c, [])
  else if env.outcome (c + 1) ≠ .success then some (env.outcome (c + 1), [])
  else match env.catalog.findIdx? fun e => e.type == family && e.model == model with
    | none => some (.unsupported, [])
    | some i =>
      if ∀ k < i + 1, env.outcome (c + 2 + k) = .success then
        failureAfterLookup env (c + i + 3) (n + i + 3) ⟨.descriptor, n + 2 + i⟩
      else some (.unsupported, [])

variable {env}

theorem failureAfterLookup_leak {c n : Nat} {descriptor : Res}
    (hd : descriptor.kind = .descriptor) {rc : Status} {leak : List Res}
    (h : failureAfterLookup env c n descriptor = some (rc, leak)) :
    rc ≠ .success ∧ OpenLeak leak := by
  unfold failureAfterLookup at h
  split_ifs at h with h₀ h₁ h₂ h₃ h₄ <;> cases h
  · exact ⟨nofun, .inr ⟨_, hd, .inl rfl⟩⟩
  · exact ⟨nofun, .inr ⟨_, hd, .inl rfl⟩⟩
  · exact ⟨nofun, .inr ⟨_, hd, .inr ⟨n, rfl⟩⟩⟩
  · exact ⟨h₃, .inr ⟨_, hd, .inl rfl⟩⟩
  · exact ⟨h₄, .inr ⟨_, hd, .inl rfl⟩⟩

/-- A failure is reported with a status other than success, and leaves what a failed open can
leave. -/
theorem openFailure_leak {family model c n : Nat} {rc : Status} {leak : List Res}
    (h : openFailure env family model c n = some (rc, leak)) : rc ≠ .success ∧ OpenLeak leak := by
  unfold openFailure at h
  split_ifs at h with h₀ h₁
  · cases h
    exact ⟨h₀, .inl rfl⟩
  · cases h
    exact ⟨h₁, .inl rfl⟩
  · split at h
    · cases h
      exact ⟨nofun, .inl rfl⟩
    · split_ifs at h
      · exact failureAfterLookup_leak rfl h
      · cases h
        exact ⟨nofun, .inl rfl⟩

/-- The lookup by model as the open makes it, after the context: a failure is `openFailure`'s,
with nothing leaked, and after a descriptor `openFailure` reads on from the calls that follow. -/
theorem openFailure_lookup {family model : Nat} {w : World}
    (h₀ : env.outcome w.calls = .success) :
    (∀ rc, (findDescriptorByModel env family model (w.tick.push .context)).1 = .error rc →
      openFailure env family model w.calls w.next = some (rc, [])) ∧
    ∀ D, (findDescriptorByModel env family model (w.tick.push .context)).1 = .ok D →
      openFailure env family model w.calls w.next =
        failureAfterLookup env (findDescriptorByModel env family model (w.tick.push .context)).2.calls
          (findDescriptorByModel env family model (w.tick.push .context)).2.next D.res := by
  have hc : ∀ k, w.calls + 1 + 1 + k = w.calls + 2 + k := fun k => by omega
  refine ⟨fun rc h => ?_, fun D h => ?_⟩
  · rw [openFailure, if_neg (not_not.mpr h₀)]
    rcases findFirst_error_cases _ _ h with ⟨hne, rfl⟩ | ⟨h₁, rfl, hnone⟩
    · rw [if_pos (by simpa using hne)]
      rfl
    · rw [if_neg (not_not.mpr (by simpa using h₁))]
      rcases hi : env.catalog.findIdx? _ with _ | i
      · rfl
      · obtain ⟨k, hk, hk'⟩ := hnone i hi
        exact if_neg fun hall => hk' (by simpa [hc] using hall k hk)
  · obtain ⟨h₁, i, hi, hall, hD, hcalls, hnext⟩ := findFirst_ok _ _ h
    rw [openFailure, if_neg (not_not.mpr h₀), if_neg (not_not.mpr (by simpa using h₁)), hi]
    refine (if_pos fun k hk => by simpa [hc] using hall k hk).trans ?_
    congr 1
    · exact (hcalls.trans (by simp only [World.push_calls, World.tick_calls]; omega)).symm
    · exact (hnext.trans (by simp only [World.push_next, World.tick_next]; omega)).symm
    · rw [hD]
      simp only [World.push_next, World.tick_next]

end Failure

section Steps

variable {env : Env}

theorem Pushes.drops {w w' : World} {new : List Res} (h : Pushes w w' new) :
    Drops w w' (new ++ w.live) :=
  ⟨h.1 ▸ List.Perm.refl _, h.2.1, h.2.2.1⟩

/-- A step that fails while the session holds `d.held` and `leak` is new besides. -/
theorem unwound_of_close {w w₁ : World} {d : DeviceData} {new leak : List Res}
    (hp : Pushes w w₁ new) (hperm : new.Perm (d.held ++ leak)) :
    Unwound w leak (closeDeviceData d w₁).1 (closeDeviceData d w₁).2 := by
  have hdrop := closeDeviceData_drops d
    (hp.drops.perm (by simpa only [List.append_assoc] using hperm.append_right w.live))
  exact ⟨by simp [DeviceData.Cleared, closeDeviceData_fst, DeviceData.closed], hdrop.1, hdrop.2.1⟩

theorem dcDeviceSetEvents_apply (device : Res) (events : Nat) (userdata : Res) (w : World) :
    dcDeviceSetEvents env device events userdata w =
      if env.outcome w.calls = .success then
        (.success, { w.tick with log := .setEvents device events userdata :: w.log })
      else (env.outcome w.calls, w.tick) := by
  by_cases h : env.outcome w.calls = .success <;> simp [dcDeviceSetEvents, h]

/-- What the lookup by model leaves, in the form the open uses. -/
theorem findDescriptorByModel_result {family model : Nat} {w w' : World}
    {r : Except Status DescriptorPtr} (h : findDescriptorByModel env family model w = (r, w')) :
    Pushes w w' (r.toOption.map (·.res)).toList ∧ ∀ p, r = .ok p → p.res.kind = .descriptor := by
  have hp := @findFirst_pushes env (fun d => d.type == family && d.model == model) w
  have hk := @findFirst_kind env (fun d => d.type == family && d.model == model) w
  unfold findDescriptorByModel at h
  rw [h] at hp hk
  exact ⟨hp, hk⟩

/-- A failed `ble_packet_open` ends the open as `failureAfterLookup` says: the close frees the
context, and the descriptor stays live, with the connection when the stream's `malloc` failed. -/
theorem failureAfterLookup_of_blePacketOpen {w w₂ w₃ : World} {descriptor : Res}
    {addr : List Char} {rc : Status} (hp : Pushes w w₂ ([descriptor] ++ [⟨.context, w.next⟩]))
    (h : blePacketOpen env ⟨.context, w.next⟩ addr w₂ = (.error rc, w₃)) :
    ∃ leak, failureAfterLookup env w₂.calls w₂.next descriptor = some (rc, leak) ∧
      Unwound w leak
        (closeDeviceData { DeviceData.zeroed with context := some ⟨.context, w.next⟩ } w₃).1
        (closeDeviceData { DeviceData.zeroed with context := some ⟨.context, w.next⟩ } w₃).2 := by
  have hheld : ({ DeviceData.zeroed with context := some ⟨.context, w.next⟩ } : DeviceData).held =
      [⟨.context, w.next⟩] := rfl
  rcases blePacketOpen_error _ _ _ h with ⟨e₀, rfl, hp₃⟩ | ⟨e₀, e₁, rfl, hp₃⟩ |
    ⟨e₀, e₁, e₂, rfl, hp₃⟩
  · refine ⟨_, by rw [failureAfterLookup, if_pos e₀], unwound_of_close (hp.trans hp₃) ?_⟩
    simpa [hheld] using List.Perm.swap _ _ []
  · refine ⟨_, by rw [failureAfterLookup, if_neg (not_not.mpr e₀), if_pos e₁],
      unwound_of_close (hp.trans hp₃) ?_⟩
    simpa [hheld] using List.Perm.swap _ _ []
  · refine ⟨_, by rw [failureAfterLookup, if_neg (not_not.mpr e₀), if_neg (not_not.mpr e₁),
      if_pos e₂], unwound_of_close (hp.trans hp₃) ?_⟩
    simpa [hheld, connectionOf] using
      @List.perm_append_comm _ [⟨.connection, w₂.next⟩, descriptor] [⟨.context, w.next⟩]

end Steps

/-! ### The open ends as `openFailure` says -/

section Spec

variable {env : Env}

/-- **How `open_ble_device` ends, over every environment.**  When `openFailure` finds a failing
call, the open returns its status, every handle of the session is `NULL`, no release failed, and
the ledger is as before but for `openFailure`'s leak.  When it finds none, the open succeeds
with a complete session in `data`, holding exactly what it acquired. -/
theorem openBleDevice_outcome (data : Res) (devdata : DeviceData) (addr : List Char)
    (family model : Nat) (w : World) :
    match openFailure env family model w.calls w.next with
    | some (rc, leak) => (openBleDevice env data devdata (some addr) family model w).1.1 = rc ∧
      Unwound w leak (openBleDevice env data devdata (some addr) family model w).1.2
        (openBleDevice env data devdata (some addr) family model w).2
    | none => (openBleDevice env data devdata (some addr) family model w).1.1 = .success ∧
      Opened env w data (openBleDevice env data devdata (some addr) family model w).1.2
        (openBleDevice env data devdata (some addr) family model w).2 := by
  rcases h : openBleDevice env data devdata (some addr) family model w with ⟨⟨rc, d⟩, w'⟩
  simp only [openBleDevice, bind_apply, pure_apply] at h
  rcases h₁ : dcContextNew env w with ⟨_ | context, w₁⟩ <;>
    simp only [h₁, bind_apply, pure_apply, Prod.mk.injEq] at h
  case mk.error rc₁ =>
    obtain ⟨⟨rfl, rfl⟩, rfl⟩ := h
    obtain ⟨rfl, hne, rfl⟩ := create_error w h₁
    rw [openFailure, if_pos hne]
    exact ⟨rfl, by simp [DeviceData.Cleared, DeviceData.zeroed], List.Perm.refl _, rfl⟩
  have h₀ := create_ok_outcome w h₁
  obtain ⟨rfl, rfl⟩ := create_ok w h₁
  have hp₁ := Pushes.push w .context
  obtain ⟨hlookup, hfound⟩ := @openFailure_lookup env family model w h₀
  rcases h₂ : findDescriptorByModel env family model (w.tick.push .context) with
    ⟨_ | descriptor, w₂⟩ <;> simp only [h₂, bind_apply, pure_apply, Prod.mk.injEq] at h
  case mk.error =>
    obtain ⟨⟨rfl, rfl⟩, rfl⟩ := h
    rw [hlookup _ (by rw [h₂])]
    exact ⟨rfl, unwound_of_close (hp₁.trans (findDescriptorByModel_result h₂).1)
      (by simp [DeviceData.held, DeviceData.zeroed, Except.toOption])⟩
  obtain ⟨hp₂, hk₂⟩ := findDescriptorByModel_result h₂
  have hd : descriptor.res.kind = .descriptor := hk₂ descriptor rfl
  rw [hfound descriptor (by rw [h₂]), h₂]
  replace hp₂ : Pushes w w₂ ([descriptor.res] ++ [⟨.context, w.next⟩]) := hp₁.trans hp₂
  rcases h₃ : blePacketOpen env ⟨.context, w.next⟩ addr w₂ with ⟨_ | iostream, w₃⟩ <;>
    simp only [h₃, bind_apply, pure_apply, Prod.mk.injEq] at h
  case mk.error =>
    obtain ⟨⟨rfl, rfl⟩, rfl⟩ := h
    obtain ⟨leak, hf, hu⟩ := failureAfterLookup_of_blePacketOpen hp₂ h₃
    rw [hf]
    exact ⟨rfl, hu⟩
  obtain ⟨e₀, e₁, e₂, hc₃, hp₃, -, -, -⟩ := blePacketOpen_ok _ _ _ h₃
  rw [failureAfterLookup, if_neg (not_not.mpr e₀), if_neg (not_not.mpr e₁),
    if_neg (not_not.mpr e₂)]
  replace hp₃ := hp₂.trans hp₃
  -- from here on the session holds the stream and the context, and the descriptor is apart
  have hs₃ : (iostream.held ++ ([descriptor.res] ++ [(⟨.context, w.next⟩ : Res)])).Perm
      ({ DeviceData.zeroed with
          context := some ⟨.context, w.next⟩, iostream := some iostream }.held ++
        [descriptor.res]) := by
    simpa [DeviceData.held, DeviceData.zeroed] using
      (@List.perm_middle _ descriptor.res iostream.held [⟨.context, w.next⟩]).trans
        (List.perm_append_singleton _ _).symm
  rcases h₄ : dcDeviceOpen env ⟨.context, w.next⟩ descriptor iostream w₃ with
    ⟨_ | device, w₄⟩ <;> simp only [h₄, bind_apply, pure_apply, Prod.mk.injEq] at h
  case mk.error =>
    obtain ⟨⟨rfl, rfl⟩, rfl⟩ := h
    obtain ⟨rfl, hne, rfl⟩ := create_error w₃ h₄
    rw [if_pos (by rwa [← hc₃])]
    exact ⟨by rw [hc₃], unwound_of_close (hp₃.trans (Pushes.tick w₃)) hs₃⟩
  have e₃ := create_ok_outcome w₃ h₄
  obtain ⟨rfl, rfl⟩ := create_ok w₃ h₄
  rw [if_neg (not_not.mpr (by rwa [← hc₃]))]
  replace hp₄ : Pushes w (w₃.tick.push .device) ([⟨.device, w₃.next⟩] ++ (iostream.held ++
      ([descriptor.res] ++ [⟨.context, w.next⟩]))) := hp₃.trans (Pushes.push w₃ .device)
  have hc₄ : (w₃.tick.push .device).calls = w₂.calls + 4 := by simp [hc₃]
  by_cases e₄ : env.outcome (w₃.tick.push .device).calls = .success <;>
    simp only [dcDeviceSetEvents_apply, e₄, if_true, if_false, ne_eq, not_true_eq_false,
      not_false_eq_true, bind_apply, pure_apply, Prod.mk.injEq] at h
  case neg =>
    obtain ⟨⟨rfl, rfl⟩, rfl⟩ := h
    rw [if_pos (by rwa [← hc₄])]
    exact ⟨by rw [hc₄], unwound_of_close (hp₄.trans (Pushes.tick _)) (hs₃.cons _)⟩
  obtain ⟨⟨rfl, rfl⟩, rfl⟩ := h
  rw [if_neg (not_not.mpr (by rwa [← hc₄]))]
  obtain ⟨hp₆, -⟩ := @allocLabel_pushes env descriptor.desc
    { (w₃.tick.push .device).tick with
      log := .setEvents ⟨.device, w₃.next⟩ eventsMask data :: (w₃.tick.push .device).log }
  refine ⟨rfl, ⟨_, iostream, _, descriptor, rfl, rfl, rfl, rfl, hd, rfl, rfl, rfl, ?_,
    allocLabel_text _ _⟩, ?_, ?_⟩
  · rw [hp₆.2.2.1]
    exact List.mem_cons_self _ _
  · rw [hp₆.1]
    simp only [World.tick_live]
    rw [hp₄.1]
    simp only [DeviceData.held, DeviceData.zeroed, Option.toList, List.nil_append,
      List.singleton_append, List.append_assoc, List.cons_append]
    exact .append_left _ (.cons _ (.append_left _ (.swap _ _ _)))
  · rw [hp₆.2.1]
    exact hp₄.2.1

/-- Three Petrel opens from an empty ledger, each with one failing call.  When the connection
fails, the open returns `DC_STATUS_IO` with the descriptor `NULL` in the session but still live;
when the stream's `malloc` fails, `DC_STATUS_NOMEMORY` with the descriptor and the connection
live; when the label's `malloc` fails, `DC_STATUS_SUCCESS` without a label, although the
descriptor has a vendor and a product. -/
theorem open_failures_leak :
    (match openBleDevice (petrelFailingAt 4) appData DeviceData.zeroed (some "AA:BB".toList) 1 3
        ⟨[], 0, 0, 0, []⟩ with
      | ((rc, d), w) => rc = .io ∧ d.descriptor.isNone ∧ w.live = [⟨.descriptor, 2⟩]) ∧
    (match openBleDevice (petrelFailingAt 5) appData DeviceData.zeroed (some "AA:BB".toList) 1 3
        ⟨[], 0, 0, 0, []⟩ with
      | ((rc, d), w) => rc = .noMemory ∧ d.descriptor.isNone ∧
        w.live = [⟨.connection, 3⟩, ⟨.descriptor, 2⟩]) ∧
    (match openBleDevice (petrelFailingAt 8) appData DeviceData.zeroed (some "AA:BB".toList) 1 3
        ⟨[], 0, 0, 0, []⟩ with
      | ((rc, d), _) => rc = .success ∧ (vendorProduct petrel).isSome ∧ d.model.isNone) :=
  ⟨⟨rfl, rfl, rfl⟩, ⟨rfl, rfl, rfl⟩, ⟨rfl, rfl, rfl⟩⟩

/-- What an open leaves, in the form its callers use: a complete session on success, and on
failure a session with every handle `NULL` over a ledger that only gained what a failed open
can leave. -/
theorem openBleDevice_spec (data : Res) (devdata : DeviceData) (addr : List Char)
    (family model : Nat) {w : World} {rc : Status} {d : DeviceData} {w' : World}
    (h : openBleDevice env data devdata (some addr) family model w = ((rc, d), w')) :
    (rc = .success → Opened env w data d w') ∧
      (rc ≠ .success → ∃ leak, OpenLeak leak ∧ Unwound w leak d w') := by
  have ho := @openBleDevice_outcome env data devdata addr family model w
  rw [h] at ho
  rcases hf : openFailure env family model w.calls w.next with _ | ⟨rc', leak⟩ <;>
    simp only [hf] at ho
  · exact ⟨fun _ => ho.2, fun hne => absurd ho.1 hne⟩
  · obtain ⟨hne, hleak⟩ := openFailure_leak hf
    obtain ⟨rfl, hu⟩ := ho
    exact ⟨fun e => absurd e hne, fun _ => ⟨leak, hleak, hu⟩⟩

/-- An open zeroes the session and sets only its handles and label; the descriptor it keeps is
the one its lookup by family and model returned. -/
theorem openBleDevice_shape (data : Res) (devdata : DeviceData) (addr : List Char)
    (family model : Nat) (w : World) :
    ∃ context iostream device descriptor label,
      (openBleDevice env data devdata (some addr) family model w).1.2 =
        { DeviceData.zeroed with
          context, iostream, device, descriptor, model := label } ∧
      ∀ D, descriptor = some D →
        (findDescriptorByModel env family model (w.tick.push .context)).1 = .ok D := by
  simp only [openBleDevice, bind_apply, pure_apply]
  rcases h₁ : dcContextNew env w with ⟨_ | context, w₁⟩ <;> simp only [h₁]
  · exact ⟨none, none, none, none, none, rfl, fun _ h => Option.noConfusion h⟩
  obtain ⟨rfl, rfl⟩ := create_ok w h₁
  rcases h₂ : findDescriptorByModel env family model (w.tick.push .context) with
    ⟨_ | descriptor, w₂⟩ <;> simp only [h₂, bind_apply, pure_apply]
  · exact ⟨none, none, none, none, none, rfl, fun _ h => Option.noConfusion h⟩
  rcases h₃ : blePacketOpen env ⟨.context, w.next⟩ addr w₂ with ⟨_ | iostream, w₃⟩ <;>
    simp only [h₃, bind_apply, pure_apply, map_apply]
  · exact ⟨none, none, none, none, none, rfl, fun _ h => Option.noConfusion h⟩
  rcases h₄ : dcDeviceOpen env ⟨.context, w.next⟩ descriptor iostream w₃ with ⟨_ | device, w₄⟩ <;>
    simp only [h₄, bind_apply, pure_apply, map_apply]
  · exact ⟨none, none, none, none, none, rfl, fun _ h => Option.noConfusion h⟩
  split_ifs
  · exact ⟨none, none, none, none, none, rfl, fun _ h => Option.noConfusion h⟩
  · exact ⟨_, _, _, some descriptor, _, rfl, fun D h => by cases h; rfl⟩

/-- When nothing fails, an open succeeds exactly when the table has the family and model; the
session then keeps the first such entry and its `"Vendor Product"`. -/
theorem openBleDevice_reliable (h : env.Reliable) (data : Res) (devdata : DeviceData)
    (addr : List Char) (family model : Nat) (w : World) :
    ((openBleDevice env data devdata (some addr) family model w).1.2.descriptor.map (·.desc) =
      env.catalog.find? fun e => e.type == family && e.model == model) ∧
    ((openBleDevice env data devdata (some addr) family model w).1.2.model.map (·.text) =
      (env.catalog.find? fun e => e.type == family && e.model == model).bind vendorProduct) := by
  simp only [openBleDevice, bind_apply, pure_apply]
  rcases h₁ : dcContextNew env w with ⟨_ | context, w₁⟩
  · exact absurd (h _) ((create_error w h₁).1 ▸ (create_error w h₁).2.1)
  obtain ⟨rfl, rfl⟩ := create_ok w h₁
  have hf := findFirst_reliable (fun e => e.type == family && e.model == model)
    (w.tick.push .context) h
  rcases h₂ : findDescriptorByModel env family model (w.tick.push .context) with
    ⟨rc | descriptor, w₂⟩ <;> rw [show findFirst env _ _ = _ from h₂] at hf <;>
    simp only [h₂, bind_apply, pure_apply, map_apply]
  · rcases hc : env.catalog.find? (fun e => e.type == family && e.model == model) with _ | e
    · simp [closeDeviceData_fst, DeviceData.closed, hc]
    · simp [hc, orUnsupported, Except.map] at hf
  rcases h₃ : blePacketOpen env ⟨.context, w.next⟩ addr w₂ with ⟨_ | iostream, w₃⟩
  · rcases blePacketOpen_error _ _ _ h₃ with ⟨e, -⟩ | ⟨-, e, -⟩ | ⟨-, -, e, -⟩ <;>
      exact absurd (h _) e
  simp only [h₃, bind_apply, pure_apply, map_apply]
  rcases h₄ : dcDeviceOpen env ⟨.context, w.next⟩ descriptor iostream w₃ with ⟨_ | device, w₄⟩
  · exact absurd (h _) ((create_error w₃ h₄).1 ▸ (create_error w₃ h₄).2.1)
  obtain ⟨rfl, rfl⟩ := create_ok w₃ h₄
  have hd : env.catalog.find? (fun e => e.type == family && e.model == model) =
      some descriptor.desc := by
    rcases hc : env.catalog.find? (fun e => e.type == family && e.model == model) with _ | e <;>
      simp [hc, orUnsupported, Except.map] at hf ⊢
    exact hf.symm
  simp only [dcDeviceSetEvents_apply, h _, if_true, ne_eq, not_true_eq_false, if_false, bind_apply,
    pure_apply, map_apply, hd, allocLabel_reliable _ _ h]
  simp

/-- **When nothing fails, an open succeeds exactly when the table has the family and model.** -/
theorem reliable_open_succeeds_iff (env : Env) (h : env.Reliable) (data : Res)
    (devdata : DeviceData) (addr : List Char) (family model : Nat) (w : World) :
    (openBleDevice env data devdata (some addr) family model w).1.1 = .success ↔
      (env.catalog.find? fun e => e.type == family && e.model == model).isSome := by
  rw [← (openBleDevice_reliable h data devdata addr family model w).1, Option.isSome_map']
  rcases hr : openBleDevice env data devdata (some addr) family model w with ⟨⟨rc, d⟩, w'⟩
  have hs := openBleDevice_spec data devdata addr family model hr
  constructor
  · intro hrc
    obtain ⟨⟨_, _, _, D, -, -, -, hD, -⟩, -⟩ := hs.1 hrc
    simp [hD]
  · intro hd
    by_contra hrc
    obtain ⟨-, -, ⟨-, -, -, hD, -⟩, -⟩ := hs.2 hrc
    simp [hD] at hd

/-- The Petrel opens from a table holding it. -/
theorem reliable_open_succeeds_petrel :
    let env : Env := ⟨[⟨some "Shearwater".toList, some "Petrel".toList, 1, 3, dcTransportBle,
      fun _ _ => false⟩], fun _ => .success⟩
    env.Reliable ∧
    ((openBleDevice env appData DeviceData.zeroed (some "AA:BB".toList) 1 3
        ⟨[], 0, 0, 0, []⟩).1.1 = .success ↔
      (env.catalog.find? fun e => e.type == 1 && e.model == 3).isSome) :=
  ⟨fun _ => rfl, reliable_open_succeeds_iff _ (fun _ => rfl) _ _ _ _ _ _⟩

/-! ### With identification -/

theorem Opened.of_pushes_nil {w w₁ w' : World} {data : Res} {d : DeviceData}
    (hp : Pushes w w₁ []) (h : Opened env w₁ data d w') : Opened env w data d w' :=
  ⟨h.1, by simpa [hp.1] using h.2.1, h.2.2.trans hp.2.1⟩

/-- The fall back frees the block when it fails, and opens a session in it otherwise. -/
theorem openIdentified_spec (block : Res) (data : DeviceData) (name addr : List Char)
    {w : World} {rest : List Res} (hb : w.live.Perm (block :: rest))
    {r : Except Status (Res × DeviceData)} {w' : World}
    (h : openIdentified env block data name (some addr) w = (r, w')) :
    (∀ b d, r = .ok (b, d) → b = block ∧ Opened env w block d w') ∧
    (∀ rc, r = .error rc → ∃ leak, OpenLeak leak ∧ w'.live.Perm (leak ++ rest) ∧
      w'.faults = w.faults) := by
  have hp := @getDeviceInfoFromName_pushes env name w
  simp only [openIdentified, bind_apply, pure_apply] at h
  rcases h₁ : getDeviceInfoFromName env name w with ⟨rc₁ | ⟨family, model⟩, w₁⟩ <;>
    rw [h₁] at hp <;> simp only [h₁, bind_apply, pure_apply] at h
  · obtain ⟨rfl, rfl⟩ := Prod.mk.inj h
    have hd := (Drops.of_perm (w := w₁) (by rw [hp.1]; exact hb)).release
    refine ⟨fun b d e => (by cases e), fun rc e => ?_⟩
    cases e
    exact ⟨[], .inl rfl, hd.1, hd.2.1.trans hp.2.1⟩
  rcases h₂ : openBleDevice env block data (some addr) family model w₁ with ⟨⟨rc, d⟩, w₂⟩
  have hs := openBleDevice_spec block data addr family model h₂
  simp only [h₂] at h
  split_ifs at h with hrc <;> simp only [bind_apply, pure_apply] at h <;>
    obtain ⟨rfl, rfl⟩ := Prod.mk.inj h
  · obtain ⟨leak, hleak, -, hl, hf⟩ := hs.2 hrc
    refine ⟨fun b d' e => (by cases e), fun rc' e => ?_⟩
    cases e
    have hl' : w₂.live.Perm (block :: (leak ++ rest)) := by
      rw [hp.1] at hl
      exact hl.trans ((hb.append_left leak).trans List.perm_middle)
    have hd := (Drops.of_perm (w := w₂) hl').release
    exact ⟨leak, hleak, hd.1, hd.2.1.trans (hf.trans hp.2.1)⟩
  · exact ⟨fun b d' e => (by cases e; exact ⟨rfl, (hs.1 (not_not.mp hrc)).of_pushes_nil hp⟩),
      fun _ e => (by cases e)⟩

/-- What `open_ble_device_with_identification` leaves, from `w`: on success a complete session
in its block, registered with the block as userdata, and on the ledger what the session holds, its
descriptor and the block, besides what a failed attempt with the stored pair left; on failure
what two failed opens can leave. -/
def IdentifiedOutcome (env : Env) (w : World) (r : Except Status (Res × DeviceData))
    (w' : World) : Prop :=
  (∀ block d, r = .ok (block, d) → block.kind = .block ∧ Complete env block d w' ∧
    ∃ leak, OpenLeak leak ∧ w'.faults = w.faults ∧
      w'.live.Perm (d.held ++ (d.descriptor.map (·.res)).toList ++ leak ++ block :: w.live)) ∧
  (∀ rc, r = .error rc → w'.faults = w.faults ∧ ∃ leak₁ leak₂, OpenLeak leak₁ ∧
    OpenLeak leak₂ ∧ w'.live.Perm (leak₁ ++ leak₂ ++ w.live))

/-- The fall back, from a world holding the block over what one failed open left. -/
theorem openIdentified_outcome {block : Res} {data : DeviceData} {name addr : List Char}
    {w w₂ : World} {leak : List Res} {r : Except Status (Res × DeviceData)} {w' : World}
    (hb : block.kind = .block) (h : openIdentified env block data name (some addr) w₂ = (r, w'))
    (hleak : OpenLeak leak) (hl : w₂.live.Perm (block :: (leak ++ w.live)))
    (hf : w₂.faults = w.faults) : IdentifiedOutcome env w r w' := by
  obtain ⟨hok, herr⟩ := openIdentified_spec block data name addr hl h
  refine ⟨fun b d e => ?_, fun rc e => ?_⟩
  · obtain ⟨rfl, hc, hp, hf'⟩ := hok b d e
    refine ⟨hb, hc, leak, hleak, hf'.trans hf, hp.trans ?_⟩
    simpa only [List.append_assoc] using
      (hl.trans List.perm_middle.symm).append_left (d.held ++ (d.descriptor.map (·.res)).toList)
  · obtain ⟨leak', hleak', hl', hf'⟩ := herr rc e
    exact ⟨hf'.trans hf, leak', leak, hleak', hleak, by simpa using hl'⟩

/-- **`open_ble_device_with_identification`, over every environment**, leaves what
`IdentifiedOutcome` says. -/
theorem openBleDeviceWithIdentification_spec (name addr : List Char)
    (storedFamily storedModel : Nat) {w : World} {r : Except Status (Res × DeviceData)}
    {w' : World}
    (h : openBleDeviceWithIdentification env name (some addr) storedFamily storedModel w =
      (r, w')) :
    IdentifiedOutcome env w r w' := by
  simp only [openBleDeviceWithIdentification, bind_apply, pure_apply] at h
  rcases h₁ : callocDeviceData env w with ⟨_ | block, w₁⟩ <;>
    simp only [h₁, bind_apply, pure_apply] at h
  · obtain ⟨-, rfl⟩ := malloc_none w h₁
    obtain ⟨rfl, rfl⟩ := Prod.mk.inj h
    exact ⟨fun _ _ e => (by cases e), fun _ _ => ⟨rfl, [], [], .inl rfl, .inl rfl, .refl _⟩⟩
  obtain ⟨rfl, rfl⟩ := malloc_some w h₁
  split_ifs at h with hst
  · simp only [bind_apply, pure_apply] at h
    rcases h₂ : openBleDevice env ⟨.block, w.next⟩ DeviceData.zeroed (some addr) storedFamily
      storedModel (w.tick.push .block) with ⟨⟨rc, d⟩, w₂⟩
    have hs := openBleDevice_spec _ _ addr _ _ h₂
    simp only [h₂] at h
    split_ifs at h with hrc
    · obtain ⟨rfl, rfl⟩ := Prod.mk.inj h
      obtain ⟨hc, hl, hf⟩ := hs.1 hrc
      refine ⟨fun b d' e => ?_, fun _ e => (by cases e)⟩
      cases e
      exact ⟨rfl, hc, [], .inl rfl, hf, by rwa [List.append_nil]⟩
    · obtain ⟨leak, hleak, -, hl, hf⟩ := hs.2 hrc
      exact openIdentified_outcome rfl h hleak (hl.trans (by simp)) hf
  · exact openIdentified_outcome rfl h (.inl rfl) (by simp) rfl

end Spec

end LibDCBridge
