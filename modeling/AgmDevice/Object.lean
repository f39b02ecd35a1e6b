import AgmDevice.Format

/-
The device object and the effects of a call on it.

A call on a device object is a program in `DevM`, a state monad over `World` (the object, the
driver's open handles, `sysfs_fd` and an event log) that can stop with a `Fault`, C's undefined
behaviour. Every access to a field the lock guards, every lock operation, every driver call and
every notification is logged in order, so that the lock discipline and the driver-call
discipline are statements about the log.

* `DeviceObj` — `struct device_obj`, with the fields `device.c` reads or writes;
* `DeviceObj.fresh` — the object discovery stores: zeroed, identified, unlocked;
* `Driver` — the handles the driver has handed out and not yet closed;
* `lockDev`, `readRefcnt`, `writeState`, `liveHandle`, ... — the primitives the operations are
  written in, each with its `run` equation;
* `updateSysfsFd` — the notification sink, opened on first use.
-/

namespace Agm

/-- Modelled from the spec: `enum direction` of `struct hw_ep_info`. -/
inductive Direction
  | output
  | input
  deriving DecidableEq, Repr

/-- Modelled from the spec: `enum device_state`, in the order of its enumerators. -/
inductive DeviceState
  | closed
  | opened
  | prepared
  | started
  | stopped
  deriving DecidableEq, Repr

/-- The value of the enumerator, which `device_start` compares. -/
def DeviceState.val : DeviceState → Nat
  | .closed => 0
  | .opened => 1
  | .prepared => 2
  | .started => 3
  | .stopped => 4

/-- Modelled from the spec: `struct refcount`, three C `int`s. The model keeps each counter as an
unbounded `Int`: it does not model the undefined behaviour of `++` past `INT_MAX` or of `--`
past `INT_MIN`, so its results are about runs whose counters stay in the range of an `int`. Over
every run of `n` protocol-following clients, `open` and `start` stay between `0` and `n`
(`reachable_refcnt_bounds`); `prepare` is not negative and grows by one with every prepare until
the last close resets it (`devicePrepare_cases`), and a close without a matching open takes
`open` one below its value (`close_unopened_underflow`). -/
structure Refcount where
  «open» : Int
  prepare : Int
  start : Int
  deriving DecidableEq, Repr

/-- A handle the driver hands out (`struct pcm *`, `snd_pcm_t *`). -/
abbrev Pcm := Nat

/-- Modelled from the spec: `struct device_obj`, with the fields `device.c` reads or writes. -/
@[ext]
structure DeviceObj where
  /-- `lock`: whether it is held. -/
  locked : Bool
  cardId : UInt32
  pcmId : UInt32
  name : String
  /-- `hw_ep_info.dir`, as `populate_device_hw_ep_info` fills it. -/
  dir : Direction
  state : DeviceState
  refcnt : Refcount
  mediaConfig : AgmMediaConfig
  /-- `pcm`; `none` is `NULL`. -/
  pcm : Option Pcm
  /-- The `params` buffer (with `params_size`, its length); `none` is `NULL`. -/
  params : Option (List UInt8)
  deriving DecidableEq, Repr

/-- The object `parse_snd_card` stores: zeroed by `calloc` (the media format is the zero
enumerator), identified by `sscanf`, its direction filled by the probe, its lock initialised. -/
def DeviceObj.fresh (cardId pcmId : UInt32) (name : String) (dir : Direction) : DeviceObj where
  locked := false
  cardId := cardId
  pcmId := pcmId
  name := name
  dir := dir
  state := .closed
  refcnt := ⟨0, 0, 0⟩
  mediaConfig := ⟨0, 0, .other 0, 0⟩
  pcm := none
  params := none

/-- The driver's side: the handles it has handed out and not yet closed, and the next one. -/
structure Driver where
  live : List Pcm
  next : Pcm
  deriving DecidableEq, Repr

/-- The fields the lock guards. -/
inductive Field
  | state
  | refcnt
  | pcm
  | params
  deriving DecidableEq, Repr

/-- `PCM_OUT`/`PCM_IN` of tinyalsa, `SND_PCM_STREAM_PLAYBACK`/`CAPTURE` of alsa-lib. -/
inductive Stream
  | playback
  | capture
  deriving DecidableEq, Repr

/-- The stream of a device's direction. -/
def streamOf : Direction → Stream
  | .output => .playback
  | .input => .capture

/-- `struct pcm_config` as tinyalsa's `device_open` fills it (the rest is zeroed). -/
structure PcmConfig where
  channels : UInt32
  rate : UInt32
  periodSize : UInt32
  periodCount : UInt32
  format : PcmFormat
  startThreshold : UInt32
  stopThreshold : UInt32
  deriving DecidableEq, Repr

/-- The hardware parameters alsa-lib's `device_open` sets before `snd_pcm_hw_params`. -/
structure HwParams where
  format : PcmFormat
  channels : UInt32
  rate : UInt32
  periodSize : UInt32
  periods : UInt32
  deriving DecidableEq, Repr

/-- A driver call and what the driver answered. -/
inductive DriverCall
  /-- tinyalsa `pcm_open`: `none` is `NULL`, otherwise the handle and whether it is ready. -/
  | pcmOpen (card device : UInt32) (stream : Stream) (config : PcmConfig) (res : Option (Pcm × Bool))
  /-- alsa-lib `snd_pcm_open`: its return value and the handle it stored. -/
  | sndPcmOpen (name : String) (stream : Stream) (ret : Int) (res : Option Pcm)
  | hwParamsAny (h : Pcm) (ret : Int)
  | hwParams (h : Pcm) (params : HwParams) (ret : Int)
  /-- `pcm_prepare`, `snd_pcm_prepare`. -/
  | prepare (h : Pcm) (ret : Int)
  /-- `pcm_stop`, `snd_pcm_drop`. -/
  | stop (h : Pcm) (ret : Int)
  /-- `pcm_close`, `snd_pcm_close`. -/
  | close (h : Pcm) (ret : Int)
  deriving DecidableEq, Repr

/-- What a call does that the lock discipline or the driver can see. -/
inductive Event
  | lock
  | unlock
  | read (f : Field)
  | write (f : Field)
  | call (c : DriverCall)
  /-- `update_sysfs_fd(pcm_id, state)`, and whether the record reached the node. -/
  | notify (pcmId : Int) (state : Int) (written : Bool)
  deriving DecidableEq, Repr

/-- The `errno` values `device.c` returns (negated), as Linux numbers them. -/
def enoent : Int := 2

/-- `EIO`. -/
def eio : Int := 5

/-- `EAGAIN`. -/
def eagain : Int := 11

/-- `ENOMEM`. -/
def enomem : Int := 12

/-- `ENODEV`. -/
def enodev : Int := 19

/-- `EINVAL`. -/
def einval : Int := 22

/-- Undefined behaviour, where the C program has no defined continuation. -/
inductive Fault
  | divByZero
  /-- A driver call on a `NULL` or closed handle. -/
  | badHandle
  /-- `pthread_mutex_lock` on a lock the caller holds. -/
  | deadlock
  | outOfBounds
  | nullDeref
  | useAfterFree
  | doubleFree
  deriving DecidableEq, Repr

/-- What one device object's calls act on. -/
structure World where
  dev : DeviceObj
  drv : Driver
  /-- `sysfs_fd`. -/
  sysfsFd : Int
  log : List Event

/-- A call on the device object. -/
abbrev DevM := StateT World (Except Fault)

@[simp] theorem except_pure_eq_ok {ε α : Type} (a : α) : (pure a : Except ε α) = .ok a := rfl

@[simp] theorem except_ok_bind {ε α β : Type} (a : α) (f : α → Except ε β) :
    (Except.ok a >>= f) = f a := rfl

@[simp] theorem except_error_bind {ε α β : Type} (e : ε) (f : α → Except ε β) :
    (Except.error e >>= f) = .error e := rfl

/-! ### Primitives -/

/-- Undefined behaviour: the call has no continuation. -/
def fault {α : Type} (f : Fault) : DevM α := fun _ => .error f

/-- Log an event. -/
def emit (e : Event) : DevM Unit := modify fun w => { w with log := w.log ++ [e] }

/-- Update the device object. -/
def modifyDev (f : DeviceObj → DeviceObj) : DevM Unit := modify fun w => { w with dev := f w.dev }

/-- `pthread_mutex_lock(&dev_obj->lock)`. -/
def lockDev : DevM Unit := do
  if (← get).dev.locked then fault .deadlock
  modifyDev fun d => { d with locked := true }
  emit .lock

/-- `pthread_mutex_unlock(&dev_obj->lock)`, also of a lock nobody holds. -/
def unlockDev : DevM Unit := do
  modifyDev fun d => { d with locked := false }
  emit .unlock

/-- Read `dev_obj->state`. -/
def readState : DevM DeviceState := do
  emit (.read .state)
  return (← get).dev.state

/-- Write `dev_obj->state`. -/
def writeState (s : DeviceState) : DevM Unit := do
  emit (.write .state)
  modifyDev fun d => { d with state := s }

/-- Read `dev_obj->refcnt`. -/
def readRefcnt : DevM Refcount := do
  emit (.read .refcnt)
  return (← get).dev.refcnt

/-- Write one counter of `dev_obj->refcnt`, as `f` says. -/
def writeRefcnt (f : Refcount → Refcount) : DevM Unit := do
  emit (.write .refcnt)
  modifyDev fun d => { d with refcnt := f d.refcnt }

/-- `++` or `--` on one counter of `dev_obj->refcnt`: a read, then a write. -/
def modifyRefcnt (f : Refcount → Refcount) : DevM Unit := do
  let _ ← readRefcnt
  writeRefcnt f

/-- Read `dev_obj->pcm`. -/
def readPcm : DevM (Option Pcm) := do
  emit (.read .pcm)
  return (← get).dev.pcm

/-- Write `dev_obj->pcm`. -/
def writePcm (p : Option Pcm) : DevM Unit := do
  emit (.write .pcm)
  modifyDev fun d => { d with pcm := p }

/-- Read `dev_obj->params`. -/
def readParams : DevM (Option (List UInt8)) := do
  emit (.read .params)
  return (← get).dev.params

/-- Write `dev_obj->params`. -/
def writeParams (p : Option (List UInt8)) : DevM Unit := do
  emit (.write .params)
  modifyDev fun d => { d with params := p }

/-- The driver hands out a fresh handle. -/
def newHandle : DevM Pcm := do
  let w ← get
  set { w with drv := { live := w.drv.next :: w.drv.live, next := w.drv.next + 1 } }
  return w.drv.next

/-- The handle a driver call on `dev_obj->pcm` passes: `NULL` or a closed handle is undefined
behaviour. -/
def liveHandle : Option Pcm → DevM Pcm
  | some p => do if p ∈ (← get).drv.live then return p else fault .badHandle
  | none => fault .badHandle

/-- The driver frees a handle; `pcm_close` and `snd_pcm_close` free it whatever they return. -/
def dropHandle (p : Pcm) : DevM Unit :=
  modify fun w => { w with drv := { w.drv with live := w.drv.live.erase p } }

/-- `DEVICE_ENABLE`. -/
def deviceEnable : Int := 1

/-- `DEVICE_DISABLE`. -/
def deviceDisable : Int := 0

/-- The `int8_t` parameter of `update_sysfs_fd` a `uint32_t` argument becomes. -/
def toInt8 (x : UInt32) : Int :=
  if x.toNat % 256 < 128 then x.toNat % 256 else x.toNat % 256 - 256

/-- `sysfs_fd` after `update_sysfs_fd`: unchanged if open, otherwise what `open` returned. -/
def sysfsAfter (fd opened : Int) : Int := if 0 ≤ fd then fd else opened

/-- `update_sysfs_fd`: write the record if `sysfs_fd` is open, otherwise open the node first
(`opened` is what `open(SYSFS_FD_PATH, O_WRONLY)` returns) and write if that succeeded. -/
def updateSysfsFd (pcmId : UInt32) (state : Int) (opened : Int) : DevM Unit := do
  let w ← get
  if 0 ≤ w.sysfsFd then
    emit (.notify (toInt8 pcmId) state true)
  else
    set { w with sysfsFd := opened }
    emit (.notify (toInt8 pcmId) state (decide (0 ≤ opened)))

/-! ### `run` equations of the primitives -/

section Run

variable (w : World)

@[simp] theorem fault_run {α : Type} (f : Fault) : (fault f : DevM α).run w = .error f := rfl

@[simp] theorem emit_run (e : Event) :
    (emit e).run w = .ok ((), { w with log := w.log ++ [e] }) := rfl

@[simp] theorem lockDev_run :
    lockDev.run w = if w.dev.locked then .error .deadlock else
      .ok ((), { w with dev := { w.dev with locked := true }, log := w.log ++ [.lock] }) := by
  cases h : w.dev.locked <;> simp [lockDev, modifyDev, emit, h, StateT.run_bind]

@[simp] theorem unlockDev_run :
    unlockDev.run w =
      .ok ((), { w with dev := { w.dev with locked := false }, log := w.log ++ [.unlock] }) := rfl

@[simp] theorem readState_run :
    readState.run w = .ok (w.dev.state, { w with log := w.log ++ [.read .state] }) := rfl

@[simp] theorem writeState_run (s : DeviceState) :
    (writeState s).run w =
      .ok ((), { w with dev := { w.dev with state := s }, log := w.log ++ [.write .state] }) := rfl

@[simp] theorem readRefcnt_run :
    readRefcnt.run w = .ok (w.dev.refcnt, { w with log := w.log ++ [.read .refcnt] }) := rfl

@[simp] theorem writeRefcnt_run (f : Refcount → Refcount) :
    (writeRefcnt f).run w = .ok ((), { w with
      dev := { w.dev with refcnt := f w.dev.refcnt }, log := w.log ++ [.write .refcnt] }) := rfl

@[simp] theorem modifyRefcnt_run (f : Refcount → Refcount) :
    (modifyRefcnt f).run w = .ok ((), { w with
      dev := { w.dev with refcnt := f w.dev.refcnt },
      log := w.log ++ [.read .refcnt, .write .refcnt] }) := by
  simp [modifyRefcnt, StateT.run_bind]

@[simp] theorem readPcm_run :
    readPcm.run w = .ok (w.dev.pcm, { w with log := w.log ++ [.read .pcm] }) := rfl

@[simp] theorem writePcm_run (p : Option Pcm) :
    (writePcm p).run w =
      .ok ((), { w with dev := { w.dev with pcm := p }, log := w.log ++ [.write .pcm] }) := rfl

@[simp] theorem readParams_run :
    readParams.run w = .ok (w.dev.params, { w with log := w.log ++ [.read .params] }) := rfl

@[simp] theorem writeParams_run (p : Option (List UInt8)) :
    (writeParams p).run w =
      .ok ((), { w with dev := { w.dev with params := p }, log := w.log ++ [.write .params] }) :=
  rfl

@[simp] theorem newHandle_run :
    newHandle.run w = .ok (w.drv.next,
      { w with drv := { live := w.drv.next :: w.drv.live, next := w.drv.next + 1 } }) := rfl

@[simp] theorem liveHandle_run (h : Option Pcm) :
    (liveHandle h).run w =
      match h with
      | some p => if p ∈ w.drv.live then .ok (p, w) else .error .badHandle
      | none => .error .badHandle := by
  cases h with
  | none => rfl
  | some p => by_cases hp : p ∈ w.drv.live <;> simp [liveHandle, hp, StateT.run_bind]

@[simp] theorem dropHandle_run (p : Pcm) :
    (dropHandle p).run w = .ok ((), { w with drv := { w.drv with live := w.drv.live.erase p } }) :=
  rfl

@[simp] theorem updateSysfsFd_run (pcmId : UInt32) (state opened : Int) :
    (updateSysfsFd pcmId state opened).run w = .ok ((), { w with
      sysfsFd := sysfsAfter w.sysfsFd opened,
      log := w.log ++ [.notify (toInt8 pcmId) state (decide (0 ≤ sysfsAfter w.sysfsFd opened))] })
    := by
  by_cases h : 0 ≤ w.sysfsFd <;> simp [updateSysfsFd, sysfsAfter, h, StateT.run_bind]

end Run

end Agm
