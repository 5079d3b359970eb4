import Mathlib.Data.List.Basic

/-!
# The world the bridge acts on

`configuredc.c` is glue: almost every line calls into libdivecomputer or into the platform
BLE layer, and almost every such call can fail, acquire something or release something.
This file fixes what those calls act on.

* `Env` is what the code cannot change: the descriptor table that `dc_descriptor_iterator`
  walks, and the outcome of every fallible external call, in the order the calls are made.
  A theorem over every `Env` is a theorem over every pattern of failures.
* `World` is what the calls change.  `World.live` is the ledger of live resources: each has
  a `Kind` and the address its allocator handed out.  `acquire` pushes a fresh one and
  `release` removes one; releasing something that is not live counts in `World.faults` (a
  double or a wild free).  `World.log` records the calls whose arguments outlive the call:
  those into libdivecomputer, and those to the application's fingerprint lookup.
* `create k` is the shape of every constructor the bridge calls (`dc_context_new`,
  `dc_descriptor_iterator`, `dc_device_open`, `malloc`, `createBLEObject`): on success a
  fresh `k` is live and returned, on failure nothing is created and the status comes back.

Calls whose status the bridge never examines (`dc_device_close`, `dc_iostream_close`,
`ble_close`, `dc_context_free`, the `free` functions) are modelled by their effect alone.
-/

namespace LibDCBridge

/-- `dc_status_t`. -/
inductive Status
  | success | done | unsupported | invalidArgs | noMemory | noDevice | noAccess | io
  | timeout | protocol | dataFormat | cancelled
  deriving DecidableEq, Repr

/-- What a live resource is: the ledger tells a BLE object from its connection, the
`ble_stream_t` block from other heap blocks, and the buffers `lookup_fingerprint` hands over
(`buffer`) from the blocks the bridge allocates itself (`block`: sessions and labels). -/
inductive Kind
  | context | iterator | descriptor | bleObject | connection | iostream | device | parser
  | block | buffer
  deriving DecidableEq, Repr

/-- A live resource: its kind and the address it was given. -/
structure Res where
  kind : Kind
  addr : Nat
  deriving DecidableEq, Repr

/-- An entry of libdivecomputer's descriptor table, with the five getters the bridge reads
and the filter `dc_descriptor_filter (descriptor, transport, name)` consults. -/
structure Descriptor where
  vendor : Option (List Char)
  product : Option (List Char)
  type : Nat
  model : Nat
  transports : Nat
  filter : Nat → List Char → Bool

/-- The calls whose arguments matter after they return: the callback registration and the
fingerprint handed to libdivecomputer, each with the arguments its prototype receives, and the
application's `lookup_fingerprint`, with the buffer and the `size_t` it answered. -/
inductive Call
  | setEvents (device : Res) (events : Nat) (userdata : Res)
  | setFingerprint (device data : Res) (size : UInt32)
  | lookupFingerprint (deviceType serial : List Char) (fingerprint : Option Res) (size : UInt64)
  deriving DecidableEq, Repr

/-- What the code does not control: the descriptor table and how each fallible call ends. -/
structure Env where
  catalog : List Descriptor
  outcome : Nat → Status

/-- An environment in which no call fails. -/
def Env.Reliable (env : Env) : Prop := ∀ n, env.outcome n = .success

/-- The state the bridge's calls change. -/
structure World where
  live : List Res
  next : Nat
  calls : Nat
  faults : Nat
  log : List Call
  deriving DecidableEq, Repr

/-- `w` after one more external call. -/
def World.tick (w : World) : World := { w with calls := w.calls + 1 }

/-- `w` with a fresh resource of kind `k` live. -/
def World.push (w : World) (k : Kind) : World :=
  { w with live := ⟨k, w.next⟩ :: w.live, next := w.next + 1 }

section Fields

variable (w : World) (k : Kind)

@[simp] theorem World.tick_live : w.tick.live = w.live := rfl
@[simp] theorem World.tick_next : w.tick.next = w.next := rfl
@[simp] theorem World.tick_calls : w.tick.calls = w.calls + 1 := rfl
@[simp] theorem World.tick_faults : w.tick.faults = w.faults := rfl
@[simp] theorem World.tick_log : w.tick.log = w.log := rfl
@[simp] theorem World.push_live : (w.push k).live = ⟨k, w.next⟩ :: w.live := rfl
@[simp] theorem World.push_next : (w.push k).next = w.next + 1 := rfl
@[simp] theorem World.push_calls : (w.push k).calls = w.calls := rfl
@[simp] theorem World.push_faults : (w.push k).faults = w.faults := rfl
@[simp] theorem World.push_log : (w.push k).log = w.log := rfl

end Fields

section Effects

variable (env : Env)

/-- Make one fallible external call: it ends as the oracle says. -/
def nextOutcome : StateM World Status := fun w => (env.outcome w.calls, w.tick)

/-- A fresh resource of kind `k` becomes live. -/
def acquire (k : Kind) : StateM World Res := fun w => (⟨k, w.next⟩, w.push k)

/-- A resource that is not allocated at a fresh address of its own (a BLE connection, which
lives at its object) becomes live. -/
def attach (r : Res) : StateM World Unit := fun w => ((), { w with live := r :: w.live })

/-- Release `r`; releasing what is not live is a fault. -/
def release (r : Res) : StateM World Unit := fun w =>
  ((), { w with live := w.live.erase r, faults := w.faults + if r ∈ w.live then 0 else 1 })

/-- Record a call in the log. -/
def record (c : Call) : StateM World Unit := fun w => ((), { w with log := c :: w.log })

/-- An external constructor: a fresh `k` on success, the failing status otherwise. -/
def create (k : Kind) : StateM World (Except Status Res) := do
  let rc ← nextOutcome env
  if rc = .success then return .ok (← acquire k) else return .error rc

/-- `malloc` and the constructors that signal failure by `NULL`. -/
def malloc (k : Kind) : StateM World (Option Res) := do
  match ← create env k with
  | .ok r => return some r
  | .error _ => return none

end Effects

/-! ### Equations -/

section Equations

variable {env : Env} (w : World)

@[simp] theorem nextOutcome_apply : nextOutcome env w = (env.outcome w.calls, w.tick) := rfl

@[simp] theorem acquire_apply (k : Kind) : acquire k w = (⟨k, w.next⟩, w.push k) := rfl

@[simp] theorem attach_apply (r : Res) : attach r w = ((), { w with live := r :: w.live }) := rfl

@[simp] theorem release_apply (r : Res) :
    release r w =
      ((), { w with live := w.live.erase r, faults := w.faults + if r ∈ w.live then 0 else 1 }) :=
  rfl

@[simp] theorem record_apply (c : Call) : record c w = ((), { w with log := c :: w.log }) := rfl

@[simp] theorem bind_apply {α β : Type} (x : StateM World α) (f : α → StateM World β) :
    (x >>= f) w = f (x w).1 (x w).2 := rfl

@[simp] theorem pure_apply {α : Type} (a : α) : (pure a : StateM World α) w = (a, w) := rfl

@[simp] theorem map_apply {α β : Type} (f : α → β) (x : StateM World α) :
    (f <$> x) w = (f (x w).1, (x w).2) := rfl

theorem create_apply (k : Kind) :
    create env k w =
      if env.outcome w.calls = .success then (.ok ⟨k, w.next⟩, w.tick.push k)
      else (.error (env.outcome w.calls), w.tick) := by
  by_cases h : env.outcome w.calls = .success <;>
    simp [create, h]

theorem create_error {k : Kind} {rc : Status} {w' : World} (h : create env k w = (.error rc, w')) :
    rc = env.outcome w.calls ∧ rc ≠ .success ∧ w' = w.tick := by
  rw [create_apply] at h
  split_ifs at h with hs
  · cases (Prod.mk.inj h).1
  · obtain ⟨h₁, rfl⟩ := Prod.mk.inj h
    cases h₁
    exact ⟨rfl, hs, rfl⟩

theorem create_ok {k : Kind} {r : Res} {w' : World} (h : create env k w = (.ok r, w')) :
    r = ⟨k, w.next⟩ ∧ w' = w.tick.push k := by
  rw [create_apply] at h
  split_ifs at h
  · obtain ⟨h₁, rfl⟩ := Prod.mk.inj h
    cases h₁
    exact ⟨rfl, rfl⟩
  · cases (Prod.mk.inj h).1

/-- A constructor that returned a resource made a call that succeeded. -/
theorem create_ok_outcome {k : Kind} {r : Res} {w' : World} (h : create env k w = (.ok r, w')) :
    env.outcome w.calls = .success := by
  rw [create_apply] at h
  split_ifs at h with hs
  · exact hs
  · cases (Prod.mk.inj h).1

theorem malloc_apply (k : Kind) :
    malloc env k w =
      if env.outcome w.calls = .success then (some ⟨k, w.next⟩, w.tick.push k)
      else (none, w.tick) := by
  by_cases h : env.outcome w.calls = .success <;>
    simp [malloc, create_apply, h]

theorem malloc_none {k : Kind} {w' : World} (h : malloc env k w = (none, w')) :
    env.outcome w.calls ≠ .success ∧ w' = w.tick := by
  rw [malloc_apply] at h
  split_ifs at h with hs
  · cases (Prod.mk.inj h).1
  · exact ⟨hs, (Prod.mk.inj h).2.symm⟩

theorem malloc_some {k : Kind} {r : Res} {w' : World} (h : malloc env k w = (some r, w')) :
    r = ⟨k, w.next⟩ ∧ w' = w.tick.push k := by
  rw [malloc_apply] at h
  split_ifs at h
  · obtain ⟨h₁, rfl⟩ := Prod.mk.inj h
    cases h₁
    exact ⟨rfl, rfl⟩
  · cases (Prod.mk.inj h).1

end Equations

/-! ### What a call leaves behind -/

/-- `w'` is `w` with the resources `new` pushed on the ledger, and nothing released, logged or
faulted on the way. -/
def Pushes (w w' : World) (new : List Res) : Prop :=
  w'.live = new ++ w.live ∧ w'.faults = w.faults ∧ w'.log = w.log ∧ w.next ≤ w'.next

theorem Pushes.refl (w : World) : Pushes w w [] := ⟨rfl, rfl, rfl, le_rfl⟩

/-- A failed call pushes nothing. -/
theorem Pushes.tick (w : World) : Pushes w w.tick [] := ⟨rfl, rfl, rfl, le_rfl⟩

/-- A successful constructor pushes its resource. -/
theorem Pushes.push (w : World) (k : Kind) : Pushes w (w.tick.push k) [⟨k, w.next⟩] :=
  ⟨rfl, rfl, rfl, Nat.le_succ _⟩

theorem Pushes.trans {w₁ w₂ w₃ : World} {a b : List Res} (h₁ : Pushes w₁ w₂ a)
    (h₂ : Pushes w₂ w₃ b) : Pushes w₁ w₃ (b ++ a) :=
  ⟨by rw [h₂.1, h₁.1, List.append_assoc], h₂.2.1.trans h₁.2.1, h₂.2.2.1.trans h₁.2.2.1,
    h₁.2.2.2.trans h₂.2.2.2⟩

/-- Releasing a resource pushed below the newer ones takes it off the ledger again. -/
theorem Pushes.release_under {w w₁ : World} {r : Res} {new : List Res}
    (h : Pushes w w₁ (new ++ [r])) (hr : r ∉ new) : Pushes w (release r w₁).2 new := by
  obtain ⟨hl, hf, hg, hn⟩ := h
  refine ⟨?_, ?_, hg, hn⟩
  · simp [hl, List.erase_append_right _ hr]
  · simp [hl, hf]

/-- The live resources that `q` selects are those of `w` when `w'` only pushed others. -/
theorem Pushes.filter_eq {w w' : World} {new : List Res} (h : Pushes w w' new)
    (q : Res → Bool) (hq : ∀ r ∈ new, q r = false) : w'.live.filter q = w.live.filter q := by
  rw [h.1, List.filter_append, List.filter_eq_nil_iff.mpr (fun r hr => by simp [hq r hr]),
    List.nil_append]

theorem Pushes.nil_trans {w₁ w₂ w₃ : World} {b : List Res} (h₁ : Pushes w₁ w₂ [])
    (h₂ : Pushes w₂ w₃ b) : Pushes w₁ w₃ b := by
  simpa using h₁.trans h₂

/-! ### Telling resources apart -/

theorem erase_cons_of_ne {r s : Res} (h : s ≠ r) (l : List Res) :
    (s :: l).erase r = s :: l.erase r :=
  List.erase_cons_tail (by simpa using h)

theorem ne_of_kind_ne {r s : Res} (h : r.kind ≠ s.kind) : r ≠ s := fun e => h (e ▸ rfl)

/-! ### Releasing what is held -/

/-- `w'` is `w` after releases that left `rest` live, in some order, none of them a fault. -/
def Drops (w w' : World) (rest : List Res) : Prop :=
  w'.live.Perm rest ∧ w'.faults = w.faults ∧ w'.log = w.log

theorem Drops.of_perm {w : World} {rest : List Res} (h : w.live.Perm rest) : Drops w w rest :=
  ⟨h, rfl, rfl⟩

/-- Releasing a live resource takes it, and nothing else, off the ledger. -/
theorem Drops.release {w w₁ : World} {r : Res} {rest : List Res} (h : Drops w w₁ (r :: rest)) :
    Drops w (release r w₁).2 rest := by
  obtain ⟨hl, hf, hg⟩ := h
  have hr : r ∈ w₁.live := hl.mem_iff.mpr (List.mem_cons_self r rest)
  exact ⟨by simpa using hl.erase r, by simp [hr, hf], hg⟩

theorem Drops.perm {w w' : World} {l l' : List Res} (h : Drops w w' l) (hp : l.Perm l') :
    Drops w w' l' :=
  ⟨h.1.trans hp, h.2⟩

end LibDCBridge
