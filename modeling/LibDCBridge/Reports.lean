import LibDCBridge.Run

/-!
# What a session reports

`ble_device_event_cb` copies each `DC_EVENT_DEVINFO` payload into `devinfo` and sets
`have_devinfo`, and does the same for `DC_EVENT_PROGRESS`; the application reads these fields to
learn the device's serial and firmware and how far a download has come.

`delivered` lists the events the callback receives in a run: those before the first
`close_device_data`, after which the session has no device to report them.
`session_reports_last_events` says that after a successful open and any run, the session reports
exactly the last DEVINFO and the last PROGRESS delivered, and nothing when there was none: a
fingerprint lookup in between never disturbs them, and a close keeps them.  The step is
`bleDeviceEventCb_reportAfter`, the run `runSession_reports`.
-/

namespace LibDCBridge

/-- The DEVINFO payload an event carries. -/
def DcEvent.devinfo? : DcEvent → Option Devinfo
  | .devinfo i => some i
  | _ => none

/-- The PROGRESS payload an event carries. -/
def DcEvent.progress? : DcEvent → Option Progress
  | .progress p => some p
  | _ => none

/-- The events the callback receives in the run `ops` of a session with a device: every event
up to the first close. -/
def delivered : List SessionOp → List DcEvent
  | [] => []
  | .setLookup _ :: ops => delivered ops
  | .event event :: ops => event :: delivered ops
  | .close :: _ => []

/-- The last DEVINFO among the events `es`. -/
def lastDevinfo (es : List DcEvent) : Option Devinfo := (es.filterMap DcEvent.devinfo?).getLast?

/-- The last PROGRESS among the events `es`. -/
def lastProgress (es : List DcEvent) : Option Progress :=
  (es.filterMap DcEvent.progress?).getLast?

/-- `have_devinfo`, `devinfo`, `have_progress` and `progress`: what the session reports. -/
def DeviceData.reports (d : DeviceData) : Bool × Devinfo × Bool × Progress :=
  (d.haveDevinfo, d.devinfo, d.haveProgress, d.progress)

/-- What a session reports after the events `es`, having reported `r` before them: the last
DEVINFO and the last PROGRESS among them take the place of the earlier ones. -/
def reportAfter (es : List DcEvent) (r : Bool × Devinfo × Bool × Progress) :
    Bool × Devinfo × Bool × Progress :=
  ((lastDevinfo es).isSome || r.1, (lastDevinfo es).getD r.2.1,
    (lastProgress es).isSome || r.2.2.1, (lastProgress es).getD r.2.2.2)

theorem getLast?_filterMap_cons {α β : Type} (f : α → Option β) (a : α) (l : List α) :
    ((a :: l).filterMap f).getLast? = (l.filterMap f).getLast?.or (f a) := by
  rcases h : f a with _ | b
  · simp [List.filterMap_cons, h]
  · rcases hl : (l.filterMap f).getLast? with _ | c
    · simp [List.filterMap_cons, h, List.getLast?_eq_none_iff.mp hl]
    · simp [List.filterMap_cons, h, List.getLast?_cons, hl]

/-- The events `e :: es` report what `es` reports over what `e` reported. -/
theorem reportAfter_cons (e : DcEvent) (es : List DcEvent) (r : Bool × Devinfo × Bool × Progress) :
    reportAfter (e :: es) r = reportAfter es (reportAfter [e] r) := by
  simp only [reportAfter, lastDevinfo, lastProgress, getLast?_filterMap_cons, List.filterMap_nil,
    List.getLast?_nil, Option.none_or]
  rcases (es.filterMap DcEvent.devinfo?).getLast? with _ | i <;>
    rcases (es.filterMap DcEvent.progress?).getLast? with _ | p <;> simp [Bool.or_assoc]

/-! ### One event -/

/-- What one event sets. -/
theorem bleDeviceEventCb_reports (device : Res) (event : DcEvent) (d : DeviceData) (w : World) :
    (bleDeviceEventCb device event d w).1.haveDevinfo = (event.devinfo?.isSome || d.haveDevinfo) ∧
    (bleDeviceEventCb device event d w).1.devinfo = event.devinfo?.getD d.devinfo ∧
    (bleDeviceEventCb device event d w).1.haveProgress =
      (event.progress?.isSome || d.haveProgress) ∧
    (bleDeviceEventCb device event d w).1.progress = event.progress?.getD d.progress := by
  cases event with
  | devinfo devinfo =>
    rcases hl : d.lookupFingerprint with _ | lookup
    · simp [bleDeviceEventCb, hl, DcEvent.devinfo?, DcEvent.progress?]
    rcases hm : d.model with _ | model
    · simp [bleDeviceEventCb, hl, hm, DcEvent.devinfo?, DcEvent.progress?]
    by_cases hb : (lookup model.text (serialString devinfo.serial)).buffer <;>
    by_cases hs : 0 < (lookup model.text (serialString devinfo.serial)).size <;>
      simp [bleDeviceEventCb, hl, hm, callLookupFingerprint_apply, hb, hs, dcDeviceSetFingerprint,
        DcEvent.devinfo?, DcEvent.progress?]
  | progress => simp [bleDeviceEventCb, DcEvent.devinfo?, DcEvent.progress?]
  | waiting | clock | vendor => simp [bleDeviceEventCb, DcEvent.devinfo?, DcEvent.progress?]

theorem bleDeviceEventCb_reportAfter (device : Res) (event : DcEvent) (d : DeviceData)
    (w : World) :
    (bleDeviceEventCb device event d w).1.reports = reportAfter [event] d.reports := by
  obtain ⟨h₁, h₂, h₃, h₄⟩ := bleDeviceEventCb_reports device event d w
  simp only [DeviceData.reports, reportAfter, lastDevinfo, lastProgress, h₁, h₂, h₃, h₄,
    List.filterMap_cons, List.filterMap_nil]
  cases event <;> simp [DcEvent.devinfo?, DcEvent.progress?]

/-! ### Runs -/

/-- Once the session has no device, no run changes what it reports. -/
theorem runSession_no_device (ops : List SessionOp) {d : DeviceData} (h : d.device = none)
    (w : World) : (runSession d ops w).1.reports = d.reports :=
  (runSession_invariant (fun d' _ => d'.device = none ∧ d'.reports = d.reports)
    (fun d' w' op ⟨hd, hr⟩ => by
      rcases sessionStep_cases d' op w' with ⟨_, e⟩ | e | ⟨_, _, hd', -⟩ | e
      · rw [e]; exact ⟨hd, hr⟩
      · rw [e]; exact ⟨hd, hr⟩
      · exact absurd (hd.symm.trans hd') nofun
      · rw [e]; exact ⟨rfl, hr⟩)
    ops d w ⟨h, rfl⟩).2

/-- A session with a device ends up reporting the last DEVINFO and PROGRESS delivered. -/
theorem runSession_reports : ∀ (ops : List SessionOp) (d : DeviceData) (w : World),
    d.device.isSome → (runSession d ops w).1.reports = reportAfter (delivered ops) d.reports
  | [], d, w, _ => by simp [reportAfter, lastDevinfo, lastProgress, DeviceData.reports, delivered]
  | .setLookup _ :: ops, d, w, h => runSession_reports ops _ _ h
  | .event event :: ops, d, w, h => by
    obtain ⟨device, hd⟩ := Option.isSome_iff_exists.mp h
    have hstep : sessionStep d (.event event) w = bleDeviceEventCb device event d w := by
      simp [sessionStep, hd]
    rw [runSession_cons, hstep, delivered, reportAfter_cons,
      ← bleDeviceEventCb_reportAfter device event d w]
    exact runSession_reports ops _ _ (by rw [(bleDeviceEventCb_cases device event d w).1, hd]; rfl)
  | .close :: ops, d, w, _ => by
    rw [runSession_cons, runSession_no_device ops rfl]
    simp [reportAfter, lastDevinfo, lastProgress, delivered, sessionStep, closeDeviceData_fst,
      DeviceData.reports, DeviceData.closed]

/-- An open starts the session from zero: whatever it returns reports nothing yet. -/
theorem openBleDevice_reports (env : Env) (data : Res) (devdata : DeviceData) (addr : List Char)
    (family model : Nat) (w : World) :
    (openBleDevice env data devdata (some addr) family model w).1.2.reports =
      DeviceData.zeroed.reports := by
  obtain ⟨_, _, _, _, _, he, -⟩ := @openBleDevice_shape env data devdata addr family model w
  rw [he]
  rfl

/-- **A session reports the last DEVINFO and PROGRESS of its run.**  After a successful open and
any operations, `have_devinfo` says whether a DEVINFO event was delivered before the first close
and `devinfo` holds the last one's payload, zero without one; likewise for PROGRESS. -/
theorem session_reports_last_events (env : Env) (data : Res) (devdata : DeviceData)
    (addr : List Char) (family model : Nat) (ops : List SessionOp) (w₀ : World)
    (hopen : (openAndRun env data devdata addr family model ops w₀).1.1 = .success) :
    (openAndRun env data devdata addr family model ops w₀).1.2.haveDevinfo =
      (lastDevinfo (delivered ops)).isSome ∧
    (openAndRun env data devdata addr family model ops w₀).1.2.devinfo =
      (lastDevinfo (delivered ops)).getD ⟨0, 0, 0⟩ ∧
    (openAndRun env data devdata addr family model ops w₀).1.2.haveProgress =
      (lastProgress (delivered ops)).isSome ∧
    (openAndRun env data devdata addr family model ops w₀).1.2.progress =
      (lastProgress (delivered ops)).getD ⟨0, 0⟩ := by
  obtain ⟨⟨_, _, device, _, -, -, hd, -⟩, -⟩ := opened_of_success hopen
  have h := runSession_reports ops _ (openBleDevice env data devdata (some addr) family model w₀).2
    (by rw [hd]; rfl)
  rw [openBleDevice_reports] at h
  simpa [openAndRun_eq, DeviceData.reports, reportAfter, DeviceData.zeroed] using h

/-- A Petrel session: a DEVINFO, a PROGRESS, a close, and a DEVINFO nobody delivers. -/
theorem session_reports_last_events_petrel :
    let ops : List SessionOp :=
      [.event (.devinfo ⟨1, 2, 3⟩), .event (.progress ⟨5, 10⟩), .close, .event (.devinfo ⟨4, 5, 6⟩)]
    let w₀ : World := ⟨[], 0, 0, 0, []⟩
    (openAndRun petrelEnv appData DeviceData.zeroed "AA:BB".toList 1 3 ops w₀).1.1 = .success ∧
    ((openAndRun petrelEnv appData DeviceData.zeroed "AA:BB".toList 1 3 ops w₀).1.2.haveDevinfo =
      (lastDevinfo (delivered ops)).isSome ∧
    (openAndRun petrelEnv appData DeviceData.zeroed "AA:BB".toList 1 3 ops w₀).1.2.devinfo =
      (lastDevinfo (delivered ops)).getD ⟨0, 0, 0⟩ ∧
    (openAndRun petrelEnv appData DeviceData.zeroed "AA:BB".toList 1 3 ops w₀).1.2.haveProgress =
      (lastProgress (delivered ops)).isSome ∧
    (openAndRun petrelEnv appData DeviceData.zeroed "AA:BB".toList 1 3 ops w₀).1.2.progress =
      (lastProgress (delivered ops)).getD ⟨0, 0⟩) :=
  ⟨by rw [openAndRun_eq, petrel_open],
    session_reports_last_events _ _ _ _ _ _ _ _ (by rw [openAndRun_eq, petrel_open])⟩

end LibDCBridge
