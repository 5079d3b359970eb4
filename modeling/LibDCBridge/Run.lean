import LibDCBridge.Open

/-!
# Sessions over whole runs

Once `open_ble_device` has returned `DC_STATUS_SUCCESS`, the application may set the
fingerprint lookup, libdivecomputer calls `ble_device_event_cb` as often as it likes while the
device is open, and the application calls `close_device_data`, perhaps more than once.
`openAndRun` replays such a run, one `SessionOp` after another.

* `Accounted` is the ledger of a session: what it holds, the descriptor the open found, and
  buffers the lookup handed over that the session no longer keeps, besides what was live before
  the open, with no failed release.  `session_run_accounted` says every run keeps it: nothing is
  ever released twice, but the descriptor and the dropped buffers outlive the session
  (`session_close_keeps_descriptor`).
* `FingerprintCoherent` says `fsize` goes with the fingerprint.  `fingerprint_coherent_in_runs`
  proves it of every run: `fsize` is the `size_t` length the lookup answered, cut to
  `unsigned int`, and is also the size `dc_device_set_fingerprint` received; for a length of
  `2 ^ 32` both are `0` (`fingerprint_size_wraps`).
* `closed_session_inert`: once the session is closed, nothing changes the world again.
* `unlabelled_session_never_fingerprinted`: a session whose label could not be allocated never
  keeps a fingerprint nor hands one to the device, in any run.
* `identified_session_accounted` follows a session from `open_ble_device_with_identification`,
  the application's entry point, through any run: the callback stays registered with the
  session's block as userdata, the block joins what the session holds, and each failed attempt
  leaves what `openFailure` says a failed open leaves.
-/

namespace LibDCBridge

/-- What can happen to an open session: the application sets `lookup_fingerprint`, the device
reports an event, or the application calls `close_device_data`. -/
inductive SessionOp
  | setLookup (lookup : Option (List Char → List Char → Reply))
  | event (event : DcEvent)
  | close

/-- One operation.  libdivecomputer reports events on the device the callback was registered
on, so none arrives once the session has no device. -/
def sessionStep (data : DeviceData) : SessionOp → StateM World DeviceData
  | .setLookup lookup => pure { data with lookupFingerprint := lookup }
  | .event event =>
    match data.device with
    | some device => bleDeviceEventCb device event data
    | none => pure data
  | .close => closeDeviceData data

/-- The operations `ops`, in order. -/
def runSession : DeviceData → List SessionOp → StateM World DeviceData
  | data, [] => pure data
  | data, op :: ops => fun w => runSession (sessionStep data op w).1 ops (sessionStep data op w).2

/-- `open_ble_device (data, addr, family, model)` on the block `data` holding `devdata`, then
the operations `ops` on the session it leaves: the open's status and the session at the end. -/
def openAndRun (env : Env) (data : Res) (devdata : DeviceData) (addr : List Char)
    (family model : Nat) (ops : List SessionOp) : StateM World (Status × DeviceData) := do
  let opened ← openBleDevice env data devdata (some addr) family model
  let devdata ← runSession opened.2 ops
  return (opened.1, devdata)

/-- `open_ble_device_with_identification`, then the operations `ops` on the session it hands
out. -/
def openIdentifiedAndRun (env : Env) (name addr : List Char) (storedFamily storedModel : Nat)
    (ops : List SessionOp) : StateM World (Except Status (Res × DeviceData)) := do
  match ← openBleDeviceWithIdentification env name (some addr) storedFamily storedModel with
  | .error rc => return .error rc
  | .ok (block, data) => return .ok (block, ← runSession data ops)

/-! ### Runs -/

section Runs

variable (d : DeviceData) (w : World)

@[simp] theorem runSession_nil : runSession d [] w = (d, w) := rfl

@[simp] theorem runSession_cons (op : SessionOp) (ops : List SessionOp) :
    runSession d (op :: ops) w = runSession (sessionStep d op w).1 ops (sessionStep d op w).2 :=
  rfl

/-- An open, then a run on what it left. -/
theorem openAndRun_eq (env : Env) (data : Res) (devdata : DeviceData) (addr : List Char)
    (family model : Nat) (ops : List SessionOp) :
    openAndRun env data devdata addr family model ops w =
      (((openBleDevice env data devdata (some addr) family model w).1.1,
        (runSession (openBleDevice env data devdata (some addr) family model w).1.2 ops
          (openBleDevice env data devdata (some addr) family model w).2).1),
        (runSession (openBleDevice env data devdata (some addr) family model w).1.2 ops
          (openBleDevice env data devdata (some addr) family model w).2).2) :=
  rfl

end Runs

/-- **Everything one operation can do**: set the lookup, nothing (an event with no device to
report it), an event on the session's device, or a close. -/
theorem sessionStep_cases (d : DeviceData) (op : SessionOp) (w : World) :
    (∃ lookup, sessionStep d op w = ({ d with lookupFingerprint := lookup }, w)) ∨
    sessionStep d op w = (d, w) ∨
    (∃ device event, d.device = some device ∧
      sessionStep d op w = bleDeviceEventCb device event d w) ∨
    sessionStep d op w = closeDeviceData d w := by
  cases op with
  | setLookup lookup => exact .inl ⟨lookup, rfl⟩
  | event event =>
    rcases hdev : d.device with _ | device
    · exact .inr (.inl (by simp [sessionStep, hdev]))
    · exact .inr (.inr (.inl ⟨device, event, rfl, by simp [sessionStep, hdev]⟩))
  | close => exact .inr (.inr (.inr rfl))

/-- What every operation preserves, every run preserves. -/
theorem runSession_invariant (P : DeviceData → World → Prop)
    (hstep : ∀ d w op, P d w → P (sessionStep d op w).1 (sessionStep d op w).2) :
    ∀ ops d w, P d w → P (runSession d ops w).1 (runSession d ops w).2
  | [], _, _, h => h
  | op :: ops, d, w, h => runSession_invariant P hstep ops _ _ (hstep d w op h)

/-- Calls are only ever added to the log: a run keeps every call logged before it. -/
theorem runSession_log (ops : List SessionOp) (d : DeviceData) (w : World) :
    w.log <:+ (runSession d ops w).2.log :=
  runSession_invariant (fun _ w' => w.log <:+ w'.log)
    (fun d' w' op h => by
      rcases sessionStep_cases d' op w' with ⟨_, e⟩ | e | ⟨device, event, -, e⟩ | e <;> rw [e]
      · exact h
      · exact h
      · rcases (bleDeviceEventCb_cases device event d' w').2.2.2.2.2.2.2 with
          ⟨-, -, -, hl⟩ | ⟨_, _, _, -, -, -, -, hl⟩
        · exact h.trans hl
        · exact h.trans (by rw [hl]; exact (List.suffix_cons _ _).trans (List.suffix_cons _ _))
      · exact h.trans (by rw [closeDeviceData_log]))
    ops d w (List.suffix_refl _)

/-- A run whose open succeeded starts from a complete session holding what the open acquired. -/
theorem opened_of_success {env : Env} {data : Res} {devdata : DeviceData} {addr : List Char}
    {family model : Nat} {ops : List SessionOp} {w₀ : World}
    (hopen : (openAndRun env data devdata addr family model ops w₀).1.1 = .success) :
    Opened env w₀ data (openBleDevice env data devdata (some addr) family model w₀).1.2
      (openBleDevice env data devdata (some addr) family model w₀).2 :=
  (openBleDevice_spec data devdata addr family model rfl).1 hopen

/-! ### The ledger -/

/-- The ledger of a session opened from `w₀` that found the descriptor `kept`. -/
structure Accounted (w₀ : World) (kept : Res) (d : DeviceData) (w : World) : Prop where
  /-- What the session holds, `kept`, and buffers of the lookup the session dropped, over what
  `w₀` held. -/
  ledger : ∃ dropped : List Res, (∀ b ∈ dropped, b.kind = .buffer) ∧
    w.live.Perm (d.held ++ kept :: (dropped ++ w₀.live))
  /-- No release failed since `w₀`. -/
  faults : w.faults = w₀.faults
  /-- The fingerprint is a buffer of the lookup. -/
  fingerprint : ∀ b ∈ d.fingerprint, b.kind = .buffer

/-- Two sessions with the same label and handles hold the same besides their fingerprints. -/
theorem held_frame {d d' : DeviceData} (hm : d'.model = d.model) (hd : d'.device = d.device)
    (hi : d'.iostream = d.iostream) (hc : d'.context = d.context) :
    ∃ H, d.held = d.fingerprint.toList ++ H ∧ d'.held = d'.fingerprint.toList ++ H :=
  ⟨(d.model.map (·.block)).toList ++ d.device.toList ++ (d.iostream.map BleStream.held).getD [] ++
      d.context.toList, by simp only [DeviceData.held, List.append_assoc],
    by simp only [DeviceData.held, hm, hd, hi, hc, List.append_assoc]⟩

section Accounting

variable {w₀ : World} {kept : Res} {d : DeviceData} {w : World}

/-- An event keeps a new buffer as the fingerprint and drops the old one, or drops the new one. -/
theorem Accounted.event (h : Accounted w₀ kept d w) (device : Res) (event : DcEvent) :
    Accounted w₀ kept (bleDeviceEventCb device event d w).1
      (bleDeviceEventCb device event d w).2 := by
  obtain ⟨hdev, hctx, hio, -, hmodel, -, hf, hfp⟩ := bleDeviceEventCb_cases device event d w
  obtain ⟨H, hH, hH'⟩ := held_frame hmodel hdev hio hctx
  obtain ⟨dropped, hk, hl⟩ := h.ledger
  rw [hH] at hl
  have hf' := hf.trans h.faults
  rcases hfp with ⟨hfp, -, hw | hw, -⟩ | ⟨_, _, _, -, hfp, -, hw, -⟩
  · -- nothing new
    refine ⟨⟨dropped, hk, ?_⟩, hf', by rw [hfp]; exact h.fingerprint⟩
    rwa [hw, hH', hfp]
  · -- a buffer nobody keeps
    refine ⟨⟨⟨.buffer, w.next⟩ :: dropped, by simpa using hk, ?_⟩, hf',
      by rw [hfp]; exact h.fingerprint⟩
    have hm := @List.perm_middle _ ⟨.buffer, w.next⟩ (d.fingerprint.toList ++ H ++ [kept])
      (dropped ++ w₀.live)
    rw [hw, hH', hfp]
    simp only [List.append_assoc, List.singleton_append, List.cons_append] at hl hm ⊢
    exact (hl.cons _).trans hm.symm
  · -- a new fingerprint, the old one dropped
    refine ⟨⟨d.fingerprint.toList ++ dropped, fun b hb => ?_, ?_⟩, hf', by simp [hfp]⟩
    · rcases List.mem_append.mp hb with hb | hb
      · exact h.fingerprint b (Option.mem_toList.mp hb)
      · exact hk b hb
    · have hc := (@List.perm_append_comm _ d.fingerprint.toList (H ++ [kept])).append_right
        (dropped ++ w₀.live)
      rw [hw, hH', hfp]
      simp only [List.append_assoc, List.singleton_append, List.cons_append, Option.toList_some]
        at hl hc ⊢
      exact (hl.cons _).trans (.cons _ hc)

/-- A close releases what the session holds and nothing else. -/
theorem Accounted.close (h : Accounted w₀ kept d w) :
    Accounted w₀ kept (closeDeviceData d w).1 (closeDeviceData d w).2 := by
  obtain ⟨dropped, hk, hl⟩ := h.ledger
  have hd := closeDeviceData_drops d (Drops.of_perm hl)
  rw [closeDeviceData_fst]
  exact ⟨⟨dropped, hk, by simpa using hd.1⟩, hd.2.1.trans h.faults, by simp [DeviceData.closed]⟩

theorem Accounted.step (h : Accounted w₀ kept d w) (op : SessionOp) :
    Accounted w₀ kept (sessionStep d op w).1 (sessionStep d op w).2 := by
  rcases sessionStep_cases d op w with ⟨_, e⟩ | e | ⟨device, event, -, e⟩ | e <;> rw [e]
  · exact ⟨h.ledger, h.faults, h.fingerprint⟩
  · exact h
  · exact h.event device event
  · exact h.close

end Accounting

/-! ### The fingerprint -/

/-- `fsize` goes with the fingerprint. -/
structure FingerprintCoherent (d : DeviceData) (w : World) : Prop where
  /-- Without a fingerprint, `fsize` is `0`. -/
  size_of_none : d.fingerprint = none → d.fsize = 0
  /-- With one, the lookup answered it with a positive `size_t` length, `fsize` is that length
  cut to `unsigned int`, and `dc_device_set_fingerprint` received it on the session's device with
  `fsize` as its size. -/
  size_of_some : ∀ b, d.fingerprint = some b → ∃ (device : Res) (deviceType serial : List Char)
    (size : UInt64), d.device = some device ∧ 0 < size ∧ d.fsize = size.toUInt32 ∧
    Call.lookupFingerprint deviceType serial (some b) size ∈ w.log ∧
    Call.setFingerprint device b d.fsize ∈ w.log

section Coherence

variable {env : Env} {data : Res} {d : DeviceData} {w : World}

theorem FingerprintCoherent.of_complete (h : Complete env data d w) : FingerprintCoherent d w := by
  obtain ⟨-, -, -, -, -, -, -, -, -, hfp, hfs, -⟩ := h
  exact ⟨fun _ => hfs, fun b hb => by rw [hfp] at hb; cases hb⟩

theorem FingerprintCoherent.event (h : FingerprintCoherent d w) {device : Res}
    (hdev : d.device = some device) (event : DcEvent) :
    FingerprintCoherent (bleDeviceEventCb device event d w).1
      (bleDeviceEventCb device event d w).2 := by
  obtain ⟨hdev', -, -, -, -, -, -, hfp⟩ := bleDeviceEventCb_cases device event d w
  rcases hfp with ⟨hfp, hfs, -, hlog⟩ | ⟨deviceType, serial, size, hpos, hfp, hfs, -, hw⟩
  · -- the fingerprint stays, and the log only grows
    refine ⟨fun hn => (hfs ▸ h.size_of_none (hfp ▸ hn)), fun b hb => ?_⟩
    obtain ⟨device', deviceType, serial, size, h₁, h₂, h₃, h₄, h₅⟩ := h.size_of_some b (hfp ▸ hb)
    exact ⟨device', deviceType, serial, size, hdev' ▸ h₁, h₂, hfs ▸ h₃, hlog.subset h₄,
      hfs ▸ hlog.subset h₅⟩
  · -- a new fingerprint, answered by the lookup and handed to the device
    refine ⟨fun hn => (by rw [hfp] at hn; cases hn), fun b hb => ?_⟩
    rw [hfp] at hb
    cases hb
    rw [hw, hfs]
    exact ⟨device, deviceType, serial, size, hdev'.trans hdev, hpos, rfl,
      .tail _ (.head _), .head _⟩

theorem FingerprintCoherent.close (h : FingerprintCoherent d w) :
    FingerprintCoherent (closeDeviceData d w).1 (closeDeviceData d w).2 := by
  rw [closeDeviceData_fst]
  refine ⟨fun _ => ?_, fun b hb => by simp [DeviceData.closed] at hb⟩
  rcases hf : d.fingerprint with _ | b
  · simp [DeviceData.closed, hf, h.size_of_none hf]
  · simp [DeviceData.closed, hf]

theorem FingerprintCoherent.step (h : FingerprintCoherent d w) (op : SessionOp) :
    FingerprintCoherent (sessionStep d op w).1 (sessionStep d op w).2 := by
  rcases sessionStep_cases d op w with ⟨_, e⟩ | e | ⟨device, event, hdev, e⟩ | e <;> rw [e]
  · exact ⟨h.size_of_none, h.size_of_some⟩
  · exact h
  · exact h.event hdev event
  · exact h.close

end Coherence

/-! ### Sessions without a label -/

/-- A session without a label keeps no fingerprint and logs no call in any run. -/
theorem runSession_unlabelled (ops : List SessionOp) {d : DeviceData} (hm : d.model = none)
    (hf : d.fingerprint = none) (w : World) :
    (runSession d ops w).1.fingerprint = none ∧ (runSession d ops w).2.log = w.log :=
  have h := runSession_invariant
    (fun d' w' => d'.model = none ∧ d'.fingerprint = none ∧ w'.log = w.log)
    (fun d' w' op ⟨hm', hf', hl⟩ => by
      rcases sessionStep_cases d' op w' with ⟨_, e⟩ | e | ⟨device, event, -, e⟩ | e <;> rw [e]
      · exact ⟨hm', hf', hl⟩
      · exact ⟨hm', hf', hl⟩
      · obtain ⟨hfp, hw⟩ := bleDeviceEventCb_unlabelled device event hm' w'
        exact ⟨(bleDeviceEventCb_cases device event d' w').2.2.2.2.1.trans hm', hfp.trans hf',
          by rw [hw]; exact hl⟩
      · exact ⟨rfl, rfl, (closeDeviceData_log d' w').trans hl⟩)
    ops d w ⟨hm, hf, rfl⟩
  ⟨h.2.1, h.2.2⟩

/-- An open leaves no fingerprint, whether it succeeds or not. -/
theorem openBleDevice_fingerprint {env : Env} (data : Res) (devdata : DeviceData)
    (addr : List Char) (family model : Nat) (w : World) :
    (openBleDevice env data devdata (some addr) family model w).1.2.fingerprint = none := by
  obtain ⟨_, _, _, _, _, he, -⟩ := @openBleDevice_shape env data devdata addr family model w
  rw [he]
  rfl

/-! ### Closed sessions -/

/-- Once every handle is `NULL`, no operation changes the world. -/
theorem sessionStep_cleared {d : DeviceData} (h : d.Cleared) (op : SessionOp) (w : World) :
    (sessionStep d op w).2 = w ∧ (sessionStep d op w).1.Cleared := by
  obtain ⟨hc, hi, hd, hdesc, hm, hf⟩ := h
  rcases sessionStep_cases d op w with ⟨_, e⟩ | e | ⟨_, _, hdev, -⟩ | e
  · rw [e]; exact ⟨rfl, hc, hi, hd, hdesc, hm, hf⟩
  · rw [e]; exact ⟨rfl, hc, hi, hd, hdesc, hm, hf⟩
  · exact absurd (hd.symm.trans hdev) nofun
  · simp [e, closeDeviceData, closeIfSet, hc, hi, hd, hm, hf, DeviceData.Cleared,
      DeviceData.closed]

/-! ### A Petrel session -/

/-- The session `open_ble_device` leaves for the Petrel, opened from an empty world. -/
def petrelSession : DeviceData :=
  ⟨some ⟨.device, 5⟩, some ⟨.context, 0⟩, some ⟨⟨.iostream, 4⟩, ⟨.context, 0⟩, ⟨.bleObject, 3⟩⟩,
    some ⟨⟨.descriptor, 2⟩, petrel⟩, false, ⟨0, 0, 0⟩, false, ⟨0, 0⟩, none, 0, none,
    some ⟨⟨.block, 6⟩, "Shearwater Petrel".toList⟩⟩

/-- The world after that open: context, descriptor, BLE object and connection, stream, device
and label, the callback registered with the application's block. -/
def petrelWorld : World :=
  ⟨[⟨.block, 6⟩, ⟨.device, 5⟩, ⟨.iostream, 4⟩, ⟨.connection, 3⟩, ⟨.bleObject, 3⟩,
    ⟨.descriptor, 2⟩, ⟨.context, 0⟩], 7, 9, 0, [.setEvents ⟨.device, 5⟩ eventsMask appData]⟩

theorem petrel_open :
    openBleDevice petrelEnv appData DeviceData.zeroed (some "AA:BB".toList) 1 3
        ⟨[], 0, 0, 0, []⟩ =
      ((.success, petrelSession), petrelWorld) :=
  rfl

/-! ### Whole runs -/

section Sessions

variable (env : Env) (data : Res) (devdata : DeviceData) (addr : List Char) (family model : Nat)
  (ops : List SessionOp) (w₀ : World)

/-- **No run releases anything twice, but a session leaks.**  After a successful open and any
operations, no release has failed, and the ledger holds what the session holds, one
descriptor, and buffers the lookup handed over, besides what was live before the open. -/
theorem session_run_accounted
    (hopen : (openAndRun env data devdata addr family model ops w₀).1.1 = .success) :
    (openAndRun env data devdata addr family model ops w₀).2.faults = w₀.faults ∧
    ∃ kept dropped, kept.kind = .descriptor ∧ (∀ b ∈ dropped, b.kind = .buffer) ∧
      (openAndRun env data devdata addr family model ops w₀).2.live.Perm
        ((openAndRun env data devdata addr family model ops w₀).1.2.held ++
          kept :: (dropped ++ w₀.live)) := by
  obtain ⟨⟨_, _, _, descriptor, -, -, -, hd, hk, hfp, -⟩, hl, hf⟩ := opened_of_success hopen
  have h := runSession_invariant (Accounted w₀ descriptor.res) (fun _ _ op h => h.step op) ops _ _
    ⟨⟨[], by simp, by simpa [hd] using hl⟩, hf, by simp [hfp]⟩
  obtain ⟨dropped, hdk, hl'⟩ := h.ledger
  exact ⟨h.faults, descriptor.res, dropped, hk, hdk, hl'⟩

/-- A Petrel session that takes one fingerprint and is closed. -/
theorem session_run_accounted_petrel :
    let ops : List SessionOp :=
      [.setLookup (some fun _ _ => ⟨true, 20⟩), .event (.devinfo ⟨0, 0, 0⟩), .close]
    let w₀ : World := ⟨[], 0, 0, 0, []⟩
    (openAndRun petrelEnv appData DeviceData.zeroed "AA:BB".toList 1 3 ops w₀).1.1 = .success ∧
    (openAndRun petrelEnv appData DeviceData.zeroed "AA:BB".toList 1 3 ops w₀).2.faults =
      w₀.faults ∧
    ∃ kept dropped, kept.kind = .descriptor ∧ (∀ b ∈ dropped, b.kind = .buffer) ∧
      (openAndRun petrelEnv appData DeviceData.zeroed "AA:BB".toList 1 3 ops w₀).2.live.Perm
        ((openAndRun petrelEnv appData DeviceData.zeroed "AA:BB".toList 1 3 ops w₀).1.2.held ++
          kept :: (dropped ++ w₀.live)) :=
  ⟨by rw [openAndRun_eq, petrel_open],
    session_run_accounted _ _ _ _ _ _ _ _ (by rw [openAndRun_eq, petrel_open])⟩

/-- A Petrel session: a lookup hands out a 20-byte fingerprint twice, then an empty buffer, and
the session is closed twice.  The ledger, empty before the open, still holds the empty buffer,
the first fingerprint and the descriptor, though no release failed. -/
theorem session_close_keeps_descriptor :
    match openAndRun petrelEnv appData DeviceData.zeroed "AA:BB".toList 1 3
      [.setLookup (some fun _ _ => ⟨true, 20⟩), .event (.devinfo ⟨0, 0, 0⟩),
        .event (.devinfo ⟨0, 0, 0⟩), .setLookup (some fun _ _ => ⟨true, 0⟩),
        .event (.devinfo ⟨0, 0, 0⟩), .close, .close] ⟨[], 0, 0, 0, []⟩ with
    | ((rc, _), w) =>
      rc = .success ∧ w.live = [⟨.buffer, 9⟩, ⟨.buffer, 7⟩, ⟨.descriptor, 2⟩] ∧ w.faults = 0 := by
  rw [openAndRun_eq, petrel_open]
  decide

/-- **`fsize` goes with the fingerprint in every run**: `0` without one, and with one the
positive `size_t` length the lookup answered for it, cut to `unsigned int`, which is also the
size `dc_device_set_fingerprint` received for it on the session's device. -/
theorem fingerprint_coherent_in_runs
    (hopen : (openAndRun env data devdata addr family model ops w₀).1.1 = .success) :
    FingerprintCoherent (openAndRun env data devdata addr family model ops w₀).1.2
      (openAndRun env data devdata addr family model ops w₀).2 :=
  runSession_invariant FingerprintCoherent (fun _ _ op h => h.step op) ops _ _
    (.of_complete (opened_of_success hopen).1)

/-- A Petrel session that takes a 20-byte fingerprint. -/
theorem fingerprint_coherent_petrel :
    let ops : List SessionOp :=
      [.setLookup (some fun _ _ => ⟨true, 20⟩), .event (.devinfo ⟨0, 0, 0⟩)]
    let w₀ : World := ⟨[], 0, 0, 0, []⟩
    (openAndRun petrelEnv appData DeviceData.zeroed "AA:BB".toList 1 3 ops w₀).1.1 = .success ∧
    FingerprintCoherent
      (openAndRun petrelEnv appData DeviceData.zeroed "AA:BB".toList 1 3 ops w₀).1.2
      (openAndRun petrelEnv appData DeviceData.zeroed "AA:BB".toList 1 3 ops w₀).2 :=
  ⟨by rw [openAndRun_eq, petrel_open],
    fingerprint_coherent_in_runs _ _ _ _ _ _ _ _ (by rw [openAndRun_eq, petrel_open])⟩

/-- A lookup that answers a buffer of `2 ^ 32` bytes: the Petrel session keeps it as its
fingerprint with `fsize` `0`, and the device was handed it with size `0`. -/
theorem fingerprint_size_wraps :
    let r := openAndRun petrelEnv appData DeviceData.zeroed "AA:BB".toList 1 3
      [.setLookup (some fun _ _ => ⟨true, 4294967296⟩), .event (.devinfo ⟨0, 0, 0⟩)]
      ⟨[], 0, 0, 0, []⟩
    r.1.1 = .success ∧ r.1.2.fingerprint = some ⟨.buffer, 7⟩ ∧ r.1.2.fsize = 0 ∧
      r.2.log.head? = some (.setFingerprint ⟨.device, 5⟩ ⟨.buffer, 7⟩ 0) := by
  rw [openAndRun_eq, petrel_open]
  decide

/-- **A session whose label could not be allocated never resumes from a fingerprint.**  When the
label's `malloc` fails, the open still succeeds (`open_failures_leak`), but the callback only
consults the lookup when the session has a label: no run ever keeps a fingerprint or logs a
call, so every download starts from the first dive. -/
theorem unlabelled_session_never_fingerprinted
    (hlabel : (openBleDevice env data devdata (some addr) family model w₀).1.2.model = none) :
    (openAndRun env data devdata addr family model ops w₀).1.2.fingerprint = none ∧
    (openAndRun env data devdata addr family model ops w₀).2.log =
      (openBleDevice env data devdata (some addr) family model w₀).2.log :=
  runSession_unlabelled ops hlabel (openBleDevice_fingerprint data devdata addr family model w₀) _

/-- The Petrel opened while the label's `malloc` fails, then handed a 20-byte fingerprint. -/
theorem unlabelled_session_never_fingerprinted_petrel :
    let env : Env := ⟨[petrel], fun n => if n = 8 then .noMemory else .success⟩
    let ops : List SessionOp :=
      [.setLookup (some fun _ _ => ⟨true, 20⟩), .event (.devinfo ⟨0, 0, 0⟩)]
    (openBleDevice env appData DeviceData.zeroed (some "AA:BB".toList) 1 3
        ⟨[], 0, 0, 0, []⟩).1.2.model = none ∧
    ((openAndRun env appData DeviceData.zeroed "AA:BB".toList 1 3 ops
        ⟨[], 0, 0, 0, []⟩).1.2.fingerprint = none ∧
    (openAndRun env appData DeviceData.zeroed "AA:BB".toList 1 3 ops ⟨[], 0, 0, 0, []⟩).2.log =
      (openBleDevice env appData DeviceData.zeroed (some "AA:BB".toList) 1 3
        ⟨[], 0, 0, 0, []⟩).2.log) :=
  ⟨rfl, unlabelled_session_never_fingerprinted _ _ _ _ _ _ _ _ rfl⟩

end Sessions

/-- **A closed session stays closed.**  After `close_device_data`, no run changes the world
again: later closes release nothing and no event arrives. -/
theorem closed_session_inert (d : DeviceData) (w : World) (ops : List SessionOp) :
    (runSession (closeDeviceData d w).1 ops (closeDeviceData d w).2).2 =
      (closeDeviceData d w).2 ∧
    (runSession (closeDeviceData d w).1 ops (closeDeviceData d w).2).1.Cleared :=
  runSession_invariant (fun d' w' => w' = (closeDeviceData d w).2 ∧ d'.Cleared)
    (fun _ _ op h =>
      ⟨(sessionStep_cleared h.2 op _).1.trans h.1, (sessionStep_cleared h.2 op _).2⟩)
    ops _ _ ⟨rfl, by simp [closeDeviceData_fst, DeviceData.closed, DeviceData.Cleared]⟩

/-- **The life of an identified session.**  Over every environment and every run: when
`open_ble_device_with_identification` fails, the ledger is as before apart from what two failed
opens can leave; when it succeeds, the callback stays registered with the block as its userdata,
no later operation releases anything twice, and the ledger holds what the session still holds,
a descriptor, buffers the lookup handed over that the session dropped, what one failed open can
leave, and the block, besides what was live before. -/
theorem identified_session_accounted (env : Env) (name addr : List Char)
    (storedFamily storedModel : Nat) (ops : List SessionOp) (w₀ : World) :
    match openIdentifiedAndRun env name addr storedFamily storedModel ops w₀ with
    | (.ok (block, d), w) => w.faults = w₀.faults ∧ block.kind = .block ∧
      (∃ device, Call.setEvents device eventsMask block ∈ w.log) ∧
      ∃ kept dropped leak, kept.kind = .descriptor ∧ (∀ b ∈ dropped, b.kind = .buffer) ∧
        OpenLeak leak ∧ w.live.Perm (d.held ++ kept :: (dropped ++ leak ++ block :: w₀.live))
    | (.error _, w) => w.faults = w₀.faults ∧
      ∃ leak₁ leak₂, OpenLeak leak₁ ∧ OpenLeak leak₂ ∧ w.live.Perm (leak₁ ++ leak₂ ++ w₀.live) := by
  rcases h : openBleDeviceWithIdentification env name (some addr) storedFamily storedModel w₀ with
    ⟨rc | ⟨block, d⟩, w₁⟩ <;>
    have hs := openBleDeviceWithIdentification_spec name addr storedFamily storedModel h <;>
    simp only [openIdentifiedAndRun, bind_apply, h, pure_apply]
  · exact hs.2 rc rfl
  · obtain ⟨hb, ⟨_, _, device, descriptor, -, -, -, hd, hk, hfp, -, -, hev, -⟩, leak, hleak, hf,
      hl⟩ := hs.1 block d rfl
    have h₀ : Accounted { w₀ with live := leak ++ block :: w₀.live } descriptor.res d w₁ :=
      ⟨⟨[], by simp, by simpa [hd] using hl⟩, hf, by simp [hfp]⟩
    have hr := runSession_invariant (Accounted { w₀ with live := leak ++ block :: w₀.live }
      descriptor.res) (fun _ _ op h => h.step op) ops d w₁ h₀
    obtain ⟨dropped, hdk, hl'⟩ := hr.ledger
    exact ⟨hr.faults, hb, ⟨device, (runSession_log ops d w₁).subset hev⟩, descriptor.res, dropped,
      leak, hk, hdk, hleak, by simpa using hl'⟩

end LibDCBridge
