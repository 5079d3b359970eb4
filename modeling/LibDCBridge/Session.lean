import LibDCBridge.Identify
import LibDCBridge.SerialKey
import LibDCBridge.Stream

/-!
# The device session

`device_data_t` is the session: the handles `open_ble_device` fills in, what the event callback
records, the fingerprint handed over by the lookup, and the `"Vendor Product"` label.
`ble_device_event_cb` is the callback libdivecomputer calls while it talks to the device, and
`close_device_data` tears a session down.

`DeviceData.held` lists what `close_device_data` releases.  `closeDeviceData_drops` says it
releases exactly that, each resource once; the descriptor is not among them, and the close
only forgets it.  `bleDeviceEventCb_cases` says everything one event can do: record what it
reports, and on `DC_EVENT_DEVINFO` take a buffer from the lookup, which the session keeps when
its size is positive and otherwise drops on the floor.
-/

namespace LibDCBridge

/-- `dc_event_devinfo_t`. -/
structure Devinfo where
  model : UInt32
  firmware : UInt32
  serial : UInt32
  deriving DecidableEq, Repr

/-- `dc_event_progress_t`. -/
structure Progress where
  current : UInt32
  maximum : UInt32
  deriving DecidableEq, Repr

/-- A `dc_event_type_t`, with the payload the callback reads. -/
inductive DcEvent
  | waiting
  | progress (progress : Progress)
  | devinfo (devinfo : Devinfo)
  | clock
  | vendor

/-- `DC_EVENT_PROGRESS`, `DC_EVENT_DEVINFO` and `DC_EVENT_CLOCK` of libdivecomputer. -/
def dcEventProgress : Nat := 2
def dcEventDevinfo : Nat := 4
def dcEventClock : Nat := 8

/-- What `lookup_fingerprint` hands back: whether it returned a buffer (which the caller then
owns) and the `size_t` it stored through `size`. -/
structure Reply where
  buffer : Bool
  size : UInt64

/-- `device_data_t`; `lookupFingerprint` is the callback, applied to the device type and the
serial. -/
structure DeviceData where
  device : Option Res
  context : Option Res
  iostream : Option BleStream
  descriptor : Option DescriptorPtr
  haveDevinfo : Bool
  devinfo : Devinfo
  haveProgress : Bool
  progress : Progress
  fingerprint : Option Res
  fsize : UInt32
  lookupFingerprint : Option (List Char → List Char → Reply)
  model : Option Label

/-- `memset (data, 0, sizeof (device_data_t))`. -/
def DeviceData.zeroed : DeviceData :=
  ⟨none, none, none, none, false, ⟨0, 0, 0⟩, false, ⟨0, 0⟩, none, 0, none, none⟩

/-- What `close_device_data` releases: the fingerprint, the label, the device, the stream, the
context. -/
def DeviceData.held (d : DeviceData) : List Res :=
  d.fingerprint.toList ++ (d.model.map (·.block)).toList ++ d.device.toList ++
    ((d.iostream.map BleStream.held).getD []) ++ d.context.toList

/-- The session after `close_device_data` has set its handles to `NULL`: `fsize` is reset with
the fingerprint, and the descriptor is dropped without being freed. -/
def DeviceData.closed (d : DeviceData) : DeviceData :=
  { d with fingerprint := none, fsize := if d.fingerprint.isSome then 0 else d.fsize,
           model := none, device := none, iostream := none, context := none, descriptor := none }

section Code

variable (env : Env)

/-- `free`. -/
def free (block : Res) : StateM World Unit := release block

/-- `dc_device_close`. -/
def dcDeviceClose (device : Res) : StateM World Unit := release device

/-- `dc_iostream_close` on a BLE stream: the vtable's `ble_stream_close`. -/
def dcIostreamClose (iostream : BleStream) : StateM World Unit := bleStreamClose iostream

/-- `dc_context_free`. -/
def dcContextFree (context : Res) : StateM World Unit := release context

/-- `lookup (fingerprint_context, deviceType, serial, &fsize)`: the buffer the application's
lookup returned, now the caller's, and the `size_t` it stored; the call is logged with its
answer. -/
def callLookupFingerprint (lookup : List Char → List Char → Reply) (deviceType serial : List Char) :
    StateM World (Option Res × UInt64) := do
  let reply := lookup deviceType serial
  let fingerprint ← if reply.buffer then some <$> acquire .buffer else pure none
  record (.lookupFingerprint deviceType serial fingerprint reply.size)
  return (fingerprint, reply.size)

/-- `dc_device_set_fingerprint (device, data, size)`, whose `size` is an `unsigned int`; its
status is only printed. -/
def dcDeviceSetFingerprint (device data : Res) (size : UInt32) : StateM World Unit :=
  record (.setFingerprint device data size)

/-- `ble_device_event_cb (device, event, data, userdata)`, with `userdata` the session.  The
`size_t` `fsize` is converted to `unsigned int` both where it is passed to
`dc_device_set_fingerprint` and where it is stored. -/
def bleDeviceEventCb (device : Res) (event : DcEvent) (devdata : DeviceData) :
    StateM World DeviceData :=
  match event with
  | .devinfo devinfo => do
    let devdata := { devdata with devinfo := devinfo, haveDevinfo := true }
    match devdata.lookupFingerprint, devdata.model with
    | some lookup, some model =>
      let (fingerprint, fsize) ←
        callLookupFingerprint lookup model.text (serialString devinfo.serial)
      match fingerprint with
      | some fingerprint =>
        if 0 < fsize then
          dcDeviceSetFingerprint device fingerprint fsize.toUInt32
          return { devdata with fingerprint := some fingerprint, fsize := fsize.toUInt32 }
        else return devdata
      | none => return devdata
    | _, _ => return devdata
  | .progress progress => return { devdata with progress := progress, haveProgress := true }
  | _ => return devdata

/-- `if (data->field) close (data->field);`. -/
def closeIfSet {α : Type} (close : α → StateM World Unit) : Option α → StateM World Unit
  | some x => close x
  | none => pure ()

/-- `close_device_data`: each handle that is set is closed, then `closed` sets them to `NULL`. -/
def closeDeviceData (data : DeviceData) : StateM World DeviceData := do
  closeIfSet free data.fingerprint
  closeIfSet (fun model => free model.block) data.model
  closeIfSet dcDeviceClose data.device
  closeIfSet dcIostreamClose data.iostream
  closeIfSet dcContextFree data.context
  return data.closed

end Code

/-! ### Closing -/

/-- Closing an optional field releases what it holds. -/
theorem closeIfSet_drops {α : Type} (close : α → StateM World Unit) (held : α → List Res)
    (hclose : ∀ x {w₀ w : World} {rest : List Res}, Drops w₀ w (held x ++ rest) →
      Drops w₀ (close x w).2 rest) (o : Option α) {w₀ w : World} {rest : List Res}
    (h : Drops w₀ w ((o.map held).getD [] ++ rest)) : Drops w₀ (closeIfSet close o w).2 rest := by
  cases o
  · exact h
  · exact hclose _ h

theorem toList_eq_getD (o : Option Res) : o.toList = (o.map ([·])).getD [] := by
  cases o <;> rfl

theorem closeDeviceData_drops (d : DeviceData) {w₀ w : World} {rest : List Res}
    (h : Drops w₀ w (d.held ++ rest)) : Drops w₀ (closeDeviceData d w).2 rest := by
  have hr : ∀ r {w₀ w : World} {rest : List Res}, Drops w₀ w ([r] ++ rest) →
      Drops w₀ (release r w).2 rest := fun _ _ _ _ h => h.release
  simp only [DeviceData.held, List.append_assoc, toList_eq_getD, Option.map_map,
    Function.comp_def] at h
  exact closeIfSet_drops _ _ hr _
    (closeIfSet_drops _ _ (fun s _ _ _ h => bleStreamClose_drops s h) _
    (closeIfSet_drops _ _ hr _ (closeIfSet_drops _ _ (fun m _ _ _ h => hr m.block h) _
    (closeIfSet_drops _ _ hr _ h))))

theorem closeDeviceData_fst (d : DeviceData) (w : World) : (closeDeviceData d w).1 = d.closed := rfl

theorem closeIfSet_log {α : Type} (close : α → StateM World Unit)
    (hclose : ∀ x w, (close x w).2.log = w.log) (o : Option α) (w : World) :
    (closeIfSet close o w).2.log = w.log := by
  cases o <;> simp [closeIfSet, hclose]

/-- Closing logs no call. -/
theorem closeDeviceData_log (d : DeviceData) (w : World) :
    (closeDeviceData d w).2.log = w.log := by
  simp only [closeDeviceData, bind_apply, pure_apply]
  rw [closeIfSet_log dcContextFree (fun _ _ => rfl), closeIfSet_log dcIostreamClose
    (fun _ _ => rfl), closeIfSet_log dcDeviceClose (fun _ _ => rfl), closeIfSet_log _
    (fun _ _ => rfl), closeIfSet_log free (fun _ _ => rfl)]

@[simp] theorem held_closed (d : DeviceData) : d.closed.held = [] := rfl

/-! ### Events -/

theorem callLookupFingerprint_apply (lookup : List Char → List Char → Reply)
    (deviceType serial : List Char) (w : World) :
    callLookupFingerprint lookup deviceType serial w =
      if (lookup deviceType serial).buffer then
        ((some ⟨.buffer, w.next⟩, (lookup deviceType serial).size),
          { w.push .buffer with
            log := .lookupFingerprint deviceType serial (some ⟨.buffer, w.next⟩)
              (lookup deviceType serial).size :: w.log })
      else
        ((none, (lookup deviceType serial).size),
          { w with
            log := .lookupFingerprint deviceType serial none (lookup deviceType serial).size ::
              w.log }) := by
  by_cases h : (lookup deviceType serial).buffer <;> simp [callLookupFingerprint, h, World.push]

/-- **Everything one event can do.**  The handles, the label and the lookup stay, no release
fails, and calls are only added to the log.  Either the fingerprint stays, and at most a buffer
nobody keeps is new on the ledger, or a new buffer of positive `size_t` length, logged as the
lookup's answer, becomes the fingerprint: `fsize` and the size `dc_device_set_fingerprint`
receives for it are both that length cut to `unsigned int`. -/
theorem bleDeviceEventCb_cases (device : Res) (event : DcEvent) (d : DeviceData) (w : World) :
    let r := bleDeviceEventCb device event d w
    r.1.device = d.device ∧ r.1.context = d.context ∧ r.1.iostream = d.iostream ∧
    r.1.descriptor = d.descriptor ∧ r.1.model = d.model ∧
    r.1.lookupFingerprint = d.lookupFingerprint ∧ r.2.faults = w.faults ∧
    ((r.1.fingerprint = d.fingerprint ∧ r.1.fsize = d.fsize ∧
        (r.2.live = w.live ∨ r.2.live = ⟨.buffer, w.next⟩ :: w.live) ∧ w.log <:+ r.2.log) ∨
      ∃ (deviceType serial : List Char) (size : UInt64), 0 < size ∧
        r.1.fingerprint = some ⟨.buffer, w.next⟩ ∧ r.1.fsize = size.toUInt32 ∧
        r.2.live = ⟨.buffer, w.next⟩ :: w.live ∧
        r.2.log = .setFingerprint device ⟨.buffer, w.next⟩ size.toUInt32 ::
          .lookupFingerprint deviceType serial (some ⟨.buffer, w.next⟩) size :: w.log) := by
  cases event with
  | devinfo devinfo =>
    rcases hl : d.lookupFingerprint with _ | lookup
    · simp [bleDeviceEventCb, hl]
    rcases hm : d.model with _ | model
    · simp [bleDeviceEventCb, hl, hm]
    by_cases hb : (lookup model.text (serialString devinfo.serial)).buffer <;>
    by_cases hs : 0 < (lookup model.text (serialString devinfo.serial)).size <;>
      simp [bleDeviceEventCb, callLookupFingerprint_apply, hb, hs, hl, hm, dcDeviceSetFingerprint]
    exact .inr ⟨_, _, _, hs, rfl, rfl, rfl, rfl⟩
  | progress => simp [bleDeviceEventCb]
  | waiting | clock | vendor => simp [bleDeviceEventCb]

/-- On `DC_EVENT_DEVINFO`, a session with a lookup and a label asks the lookup for the label and
the serial's eight lowercase hex digits, and logs the call with the lookup's answer. -/
theorem bleDeviceEventCb_lookup_key (device : Res) (devinfo : Devinfo) {d : DeviceData}
    {lookup : List Char → List Char → Reply} {model : Label} (hl : d.lookupFingerprint = some lookup)
    (hm : d.model = some model) (w : World) :
    ∃ fingerprint, .lookupFingerprint model.text (render 8 devinfo.serial.toNat) fingerprint
        (lookup model.text (render 8 devinfo.serial.toNat)).size :: w.log <:+
      (bleDeviceEventCb device (.devinfo devinfo) d w).2.log := by
  simp only [bleDeviceEventCb, hl, hm, bind_apply, pure_apply, callLookupFingerprint_apply,
    ← serialString_eq_render]
  by_cases hb : (lookup model.text (serialString devinfo.serial)).buffer <;>
  by_cases hs : 0 < (lookup model.text (serialString devinfo.serial)).size <;>
    simp only [hb, hs, if_true, if_false, Bool.false_eq_true, bind_apply, pure_apply,
      dcDeviceSetFingerprint, record_apply]
  · exact ⟨_, List.suffix_cons _ _⟩
  all_goals exact ⟨_, List.suffix_refl _⟩

/-- Without a label the callback never calls the lookup: the fingerprint and the world stay. -/
theorem bleDeviceEventCb_unlabelled (device : Res) (event : DcEvent) {d : DeviceData}
    (h : d.model = none) (w : World) :
    (bleDeviceEventCb device event d w).1.fingerprint = d.fingerprint ∧
      (bleDeviceEventCb device event d w).2 = w := by
  cases event with
  | devinfo devinfo =>
    rcases hl : d.lookupFingerprint with _ | lookup <;>
      simp [bleDeviceEventCb, hl, h]
  | _ => simp [bleDeviceEventCb]

end LibDCBridge
