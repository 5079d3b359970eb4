import LibDCBridge.World

/-!
# The BLE stream

`ble_packet_open` creates a BLE object, connects it, and wraps it in a `ble_stream_t` whose
vtable routes libdivecomputer's I/O to the platform.  The ledger keeps the object and its
connection apart: `connectToBLEDevice` makes the connection live, `ble_close` ends it and
`freeBLEObject` frees the object.  `ble_stream_close` does all three, then frees the stream.

`blePacketOpen_ok` and `blePacketOpen_error` say what the open leaves, by the call that failed:
on success the stream block, the connection and the object; on failure the object is freed, but
when the stream's `malloc` fails the connection made before it is not closed.  `bleStreamClose_drops` says the
close releases the three resources of a stream, each once.
-/

namespace LibDCBridge

/-- The connection of BLE object `io`. -/
def connectionOf (io : Res) : Res := ⟨.connection, io.addr⟩

/-- A `ble_stream_t`: its own block, the context its base keeps, and the BLE object. -/
structure BleStream where
  block : Res
  context : Res
  bleObject : Res

/-- What a stream holds: its block, the connection, the object. -/
def BleStream.held (s : BleStream) : List Res := [s.block, connectionOf s.bleObject, s.bleObject]

section Code

variable (env : Env)

/-- `createBLEObject`: `NULL` when it fails. -/
def createBLEObject : StateM World (Option Res) := malloc env .bleObject

/-- `freeBLEObject`. -/
def freeBLEObject (obj : Res) : StateM World Unit := release obj

/-- `connectToBLEDevice (io, deviceAddress)`: `true` and a live connection, or `false`. -/
def connectToBLEDevice (io : Res) (_deviceAddress : List Char) : StateM World Bool := do
  if (← nextOutcome env) = .success then
    attach (connectionOf io)
    return true
  else return false

/-- `ble_close`. -/
def bleClose (io : Res) : StateM World Unit := release (connectionOf io)

/-- `ble_iostream_create (out, context, bleobj)`. -/
def bleIostreamCreate (context bleobj : Res) : StateM World (Except Status BleStream) := do
  match ← malloc env .iostream with
  | none => return .error .noMemory
  | some stream => return .ok ⟨stream, context, bleobj⟩

/-- `ble_packet_open (iostream, context, devaddr, userdata)`. -/
def blePacketOpen (context : Res) (devaddr : List Char) :
    StateM World (Except Status BleStream) := do
  match ← createBLEObject env with
  | none => return .error .noMemory
  | some io =>
    if !(← connectToBLEDevice env io devaddr) then
      freeBLEObject io
      return .error .io
    match ← bleIostreamCreate env context io with
    | .error status =>
      freeBLEObject io
      return .error status
    | .ok stream => return .ok stream

/-- `ble_stream_close`, which `dc_iostream_close` reaches through the vtable. -/
def bleStreamClose (s : BleStream) : StateM World Unit := do
  bleClose s.bleObject
  freeBLEObject s.bleObject
  release s.block

end Code

/-! ### Opening -/

section Open

variable {env : Env} (context : Res) (devaddr : List Char) (w : World)

theorem blePacketOpen_apply :
    blePacketOpen env context devaddr w =
      if env.outcome w.calls ≠ .success then (.error .noMemory, w.tick)
      else if env.outcome (w.calls + 1) ≠ .success then
        (.error .io, (release ⟨.bleObject, w.next⟩ (w.tick.push .bleObject).tick).2)
      else if env.outcome (w.calls + 2) ≠ .success then
        (.error .noMemory, (release ⟨.bleObject, w.next⟩
          { (w.tick.push .bleObject).tick with
            live := connectionOf ⟨.bleObject, w.next⟩ :: (w.tick.push .bleObject).live }.tick).2)
      else
        (.ok ⟨⟨.iostream, w.next + 1⟩, context, ⟨.bleObject, w.next⟩⟩,
          ({ (w.tick.push .bleObject).tick with
            live := connectionOf ⟨.bleObject, w.next⟩ :: (w.tick.push .bleObject).live }.tick).push
            .iostream) := by
  by_cases h₀ : env.outcome w.calls = .success <;>
  by_cases h₁ : env.outcome (w.calls + 1) = .success <;>
  by_cases h₂ : env.outcome (w.calls + 2) = .success <;>
    simp [blePacketOpen, createBLEObject, connectToBLEDevice, bleIostreamCreate, freeBLEObject,
      malloc_apply, h₀, h₁, h₂, bind, StateT.bind, pure, StateT.pure, World.tick, World.push]

/-- An open stream made its three calls without failure, and holds its block, the connection
and the object, all new. -/
theorem blePacketOpen_ok {s : BleStream} {w' : World}
    (h : blePacketOpen env context devaddr w = (.ok s, w')) :
    env.outcome w.calls = .success ∧ env.outcome (w.calls + 1) = .success ∧
      env.outcome (w.calls + 2) = .success ∧ w'.calls = w.calls + 3 ∧ Pushes w w' s.held ∧
      s.context = context ∧ s.block.kind = .iostream ∧ s.bleObject.kind = .bleObject := by
  rw [blePacketOpen_apply] at h
  split_ifs at h with h₀ h₁ h₂ <;> obtain ⟨⟨⟩, rfl⟩ := Prod.mk.inj h
  exact ⟨not_not.mp h₀, not_not.mp h₁, not_not.mp h₂, rfl, ⟨rfl, rfl, rfl, by simp; omega⟩, rfl,
    rfl, rfl⟩

/-- A failed open, by the call that failed: the object's `malloc` (`DC_STATUS_NOMEMORY`) and the
connection (`DC_STATUS_IO`) leave nothing behind, the stream's `malloc` (`DC_STATUS_NOMEMORY`)
leaves the connection live. -/
theorem blePacketOpen_error {rc : Status} {w' : World}
    (h : blePacketOpen env context devaddr w = (.error rc, w')) :
    env.outcome w.calls ≠ .success ∧ rc = .noMemory ∧ Pushes w w' [] ∨
    env.outcome w.calls = .success ∧ env.outcome (w.calls + 1) ≠ .success ∧ rc = .io ∧
      Pushes w w' [] ∨
    env.outcome w.calls = .success ∧ env.outcome (w.calls + 1) = .success ∧
      env.outcome (w.calls + 2) ≠ .success ∧ rc = .noMemory ∧
      Pushes w w' [connectionOf ⟨.bleObject, w.next⟩] := by
  have hne : connectionOf ⟨.bleObject, w.next⟩ ≠ ⟨.bleObject, w.next⟩ := ne_of_kind_ne nofun
  rw [blePacketOpen_apply] at h
  split_ifs at h with h₀ h₁ h₂ <;> obtain ⟨⟨⟩, rfl⟩ := Prod.mk.inj h
  · exact .inl ⟨h₀, rfl, Pushes.tick w⟩
  · exact .inr (.inl ⟨not_not.mp h₀, h₁, rfl, by simp [Pushes]⟩)
  · exact .inr (.inr ⟨not_not.mp h₀, not_not.mp h₁, h₂, rfl,
      by simp [Pushes, erase_cons_of_ne hne]⟩)

end Open

/-! ### Closing -/

/-- `ble_stream_close` releases what the stream holds, each once. -/
theorem bleStreamClose_drops (s : BleStream) {w₀ w : World} {rest : List Res}
    (h : Drops w₀ w (s.held ++ rest)) : Drops w₀ (bleStreamClose s w).2 rest := by
  have hp : (s.block :: connectionOf s.bleObject :: s.bleObject :: rest).Perm
      (connectionOf s.bleObject :: s.bleObject :: s.block :: rest) :=
    (List.Perm.swap _ _ _).trans (List.Perm.cons _ (List.Perm.swap _ _ _))
  exact (((h.perm hp).release).release).release

end LibDCBridge
