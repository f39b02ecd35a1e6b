import AgmDevice.Object

/-
The lifecycle operations of a device object.

`device_open`, `device_prepare`, `device_start`, `device_stop` and `device_close` each take the
object's lock, run a body, and release it at `done:`; `withLock` is that shape and the bodies are
written one statement per line of `device.c`. `device_open` has one body per backend
(`DEVICE_USES_ALSALIB` selects alsa-lib, otherwise tinyalsa); the driver's answers are the
arguments of a call, so that every statement below ranges over all of them.

* `deviceOpen`, `devicePrepare`, `deviceStart`, `deviceStop`, `deviceClose`;
* `deviceCurrentState`, `deviceSetMediaConfig`, `deviceSetParams` — the accessors, which take
  no lock (`device_set_params` releases it twice instead);
* `Call` — one call with the driver's answers, and `Call.run`;
* `deviceOpen_tinyalsa_run`, `devicePrepare_run`, ... — each operation in closed form, the one
  place the operations are unfolded; `deviceOpen_cases`, ... — the inversion lemmas;
* `FailureLeaves` — what a failed call may change; `deviceOpen_failed`, `devicePrepare_failed`,
  `deviceStart_failed` — a non-zero return leaves the state, the three counters and the handle as
  they were, and writes no enable notification; `failed_call_leaves_device` — the three together.
-/

namespace Agm

/-- The two driver backends `device.c` is compiled against (`DEVICE_USES_ALSALIB`). -/
inductive Backend
  | alsa
  | tinyalsa
  deriving DecidableEq, Repr

/-- What tinyalsa's `pcm_open` returns: `NULL`, a handle that is not ready, or a ready one. -/
inductive PcmOpenResult
  | null
  | notReady
  | ready
  deriving DecidableEq, Repr

/-- What a driver call returns: `0`, or a negative `errno`. -/
abbrev DriverRet := {r : Int // r ≤ 0}

/-- What the driver answers to the calls of one `device_open`: alsa-lib's `snd_pcm_open`,
`snd_pcm_hw_params_any` and `snd_pcm_hw_params`, or tinyalsa's `pcm_open`. -/
inductive OpenOutcome : Backend → Type
  | alsa (openRet anyRet paramsRet : DriverRet) : OpenOutcome .alsa
  | tinyalsa (res : PcmOpenResult) : OpenOutcome .tinyalsa

/-- `INT_MAX`, tinyalsa's `stop_threshold`. -/
def intMax : UInt32 := 2147483647

/-- `pthread_mutex_lock(&dev_obj->lock); ... done: pthread_mutex_unlock(&dev_obj->lock);
return ret;`. -/
def withLock (body : DevM Int) : DevM Int := do
  lockDev
  let ret ← body
  unlockDev
  return ret

/-- `refcnt.open++`. -/
def incOpen (r : Refcount) : Refcount := { r with «open» := r.open + 1 }

/-! ### `device_open` -/

/-- The name alsa-lib's `device_open` opens: `hw:<card>,<device>`. -/
def pcmName (d : DeviceObj) : String :=
  "hw:" ++ toString d.cardId ++ "," ++ toString d.pcmId

/-- The `struct pcm_config` tinyalsa's `device_open` fills for period size `ps`. -/
def pcmConfigOf (cfg : AgmMediaConfig) (ps : UInt32) : PcmConfig :=
  { channels := cfg.channels, rate := cfg.rate, periodSize := ps,
    periodCount := defaultPeriodCount, format := agmToPcmFormat cfg.format,
    startThreshold := ps / 4, stopThreshold := intMax }

/-- The hardware parameters alsa-lib's `device_open` sets for period size `ps`. -/
def hwParamsOf (cfg : AgmMediaConfig) (ps : UInt32) : HwParams :=
  { format := agmToAlsaFormat cfg.format, channels := cfg.channels, rate := cfg.rate,
    periodSize := ps, periods := defaultPeriodCount }

/-- tinyalsa's `device_open` between the lock and `done:`. -/
def Tinyalsa.openBody (res : PcmOpenResult) (fd : Int) : DevM Int := do
  if (← readRefcnt).open ≠ 0 then
    modifyRefcnt incOpen
    return 0
  let d := (← get).dev
  let some ps := periodSize d.mediaConfig.channels d.mediaConfig.format | fault .divByZero
  let config := pcmConfigOf d.mediaConfig ps
  match res with
  | .null =>
    emit (.call (.pcmOpen d.cardId d.pcmId (streamOf d.dir) config none))
    return -eio
  | .notReady =>
    let p ← newHandle
    emit (.call (.pcmOpen d.cardId d.pcmId (streamOf d.dir) config (some (p, false))))
    return -eio
  | .ready =>
    let p ← newHandle
    emit (.call (.pcmOpen d.cardId d.pcmId (streamOf d.dir) config (some (p, true))))
    updateSysfsFd d.pcmId deviceEnable fd
    writePcm (some p)
    writeState .opened
    modifyRefcnt incOpen
    return 0

/-- alsa-lib's `device_open` between the lock and `done:`. -/
def Alsa.openBody (openRet anyRet paramsRet : DriverRet) (fd : Int) : DevM Int := do
  if (← readRefcnt).open ≠ 0 then
    modifyRefcnt incOpen
    return 0
  let d := (← get).dev
  let some ps := periodSize d.mediaConfig.channels d.mediaConfig.format | fault .divByZero
  let hw := hwParamsOf d.mediaConfig ps
  if openRet.val < 0 then
    emit (.call (.sndPcmOpen (pcmName d) (streamOf d.dir) openRet none))
    return openRet
  let p ← newHandle
  emit (.call (.sndPcmOpen (pcmName d) (streamOf d.dir) openRet (some p)))
  emit (.call (.hwParamsAny p anyRet))
  if anyRet.val < 0 then
    return anyRet
  emit (.call (.hwParams p hw paramsRet))
  if paramsRet.val < 0 then
    return paramsRet
  updateSysfsFd d.pcmId deviceEnable fd
  writePcm (some p)
  writeState .opened
  modifyRefcnt incOpen
  return paramsRet

/-- The body of `device_open` in the backend the outcome belongs to. -/
def openBody {b : Backend} : OpenOutcome b → Int → DevM Int
  | .alsa openRet anyRet paramsRet, fd => Alsa.openBody openRet anyRet paramsRet fd
  | .tinyalsa res, fd => Tinyalsa.openBody res fd

/-- `device_open`. -/
def deviceOpen {b : Backend} (o : OpenOutcome b) (fd : Int) : DevM Int :=
  withLock (openBody o fd)

/-! ### `device_prepare`, `device_start`, `device_stop`, `device_close` -/

/-- `device_prepare` between the lock and its two unlocks. -/
def prepareBody (ret : DriverRet) : DevM Int := do
  if (← readRefcnt).prepare ≠ 0 then
    modifyRefcnt fun r => { r with prepare := r.prepare + 1 }
    return 0
  let p ← readPcm >>= liveHandle
  emit (.call (.prepare p ret))
  if ret.val ≠ 0 then
    return ret
  writeState .prepared
  modifyRefcnt fun r => { r with prepare := r.prepare + 1 }
  return ret

/-- `device_prepare`. -/
def devicePrepare (ret : DriverRet) : DevM Int := withLock (prepareBody ret)

/-- `device_start` between the lock and `done:`: a state change, no driver call. -/
def startBody : DevM Int := do
  if (← readState).val < DeviceState.prepared.val then
    return -1
  if (← readRefcnt).start ≠ 0 then
    modifyRefcnt fun r => { r with start := r.start + 1 }
    return 0
  writeState .started
  modifyRefcnt fun r => { r with start := r.start + 1 }
  return 0

/-- `device_start`. -/
def deviceStart : DevM Int := withLock startBody

/-- `device_stop` between the lock and `done:`. -/
def stopBody (ret : DriverRet) : DevM Int := do
  if (← readRefcnt).start = 0 then
    return 0
  modifyRefcnt fun r => { r with start := r.start - 1 }
  if (← readRefcnt).start = 0 then
    let p ← readPcm >>= liveHandle
    emit (.call (.stop p ret))
    writeState .stopped
    return ret
  return 0

/-- `device_stop`. -/
def deviceStop (ret : DriverRet) : DevM Int := withLock (stopBody ret)

/-- `device_close` between the lock and the unlock: `--refcnt.open == 0` decides. -/
def closeBody (ret : DriverRet) (fd : Int) : DevM Int := do
  let r ← readRefcnt
  writeRefcnt fun r => { r with «open» := r.open - 1 }
  if r.open - 1 = 0 then
    updateSysfsFd (← get).dev.pcmId deviceDisable fd
    let p ← readPcm >>= liveHandle
    emit (.call (.close p ret))
    dropHandle p
    writeState .closed
    writeRefcnt fun r => { r with prepare := 0 }
    writeRefcnt fun r => { r with start := 0 }
    return ret
  return 0

/-- `device_close`. -/
def deviceClose (ret : DriverRet) (fd : Int) : DevM Int := withLock (closeBody ret fd)

/-! ### The accessors -/

/-- `device_current_state`: reads the state without the lock. -/
def deviceCurrentState : DevM DeviceState := readState

/-- `device_set_media_config`: stores the configuration unchecked and without the lock. -/
def deviceSetMediaConfig (cfg : AgmMediaConfig) : DevM Int := do
  modifyDev fun d => { d with mediaConfig := cfg }
  return 0

/-- `device_set_params`; `alloc` says whether `calloc(1, size)` returns a buffer. It releases
the lock before touching `params`, and again at `done:`. -/
def deviceSetParams (payload : List UInt8) (alloc : Bool) : DevM Int := do
  unlockDev
  if (← readParams).isSome then
    writeParams none
  writeParams (if alloc then some (List.replicate payload.length 0) else none)
  if (← readParams).isNone then
    unlockDev
    return -einval
  writeParams (some payload)
  unlockDev
  return 0

/-! ### Calls -/

/-- One call a client makes on the device — a lifecycle call or `device_set_media_config` —
with the answers of the driver and, where the call notifies, of `open(SYSFS_FD_PATH)`. -/
inductive Call (b : Backend)
  | «open» (o : OpenOutcome b) (fd : Int)
  | prepare (ret : DriverRet)
  | start
  | stop (ret : DriverRet)
  | close (ret : DriverRet) (fd : Int)
  | setMediaConfig (cfg : AgmMediaConfig)

/-- The operation a call runs. -/
def Call.run {b : Backend} : Call b → DevM Int
  | .open o fd => deviceOpen o fd
  | .prepare ret => devicePrepare ret
  | .start => deviceStart
  | .stop ret => deviceStop ret
  | .close ret fd => deviceClose ret fd
  | .setMediaConfig cfg => deviceSetMediaConfig cfg

/-! ### Closed forms

Each operation, run from a world whose lock is free, in closed form: the result, the world it
leaves and the events it logs, on every path. Everything later reads the operations through these
lemmas. -/

section ClosedForms

variable (w : World)

theorem deviceOpen_tinyalsa_run (res : PcmOpenResult) (fd : Int) (hw : w.dev.locked = false) :
    (deviceOpen (.tinyalsa res) fd).run w =
      if w.dev.refcnt.open = 0 then
        match periodSize w.dev.mediaConfig.channels w.dev.mediaConfig.format with
        | none => .error .divByZero
        | some ps =>
          match res with
          | .null =>
            .ok (-eio, { w with
              log := w.log ++ [.lock, .read .refcnt, .call (.pcmOpen w.dev.cardId w.dev.pcmId
                (streamOf w.dev.dir) (pcmConfigOf w.dev.mediaConfig ps) none), .unlock] })
          | .notReady =>
            .ok (-eio, { w with
              drv := { live := w.drv.next :: w.drv.live, next := w.drv.next + 1 },
              log := w.log ++ [.lock, .read .refcnt, .call (.pcmOpen w.dev.cardId w.dev.pcmId
                (streamOf w.dev.dir) (pcmConfigOf w.dev.mediaConfig ps)
                (some (w.drv.next, false))), .unlock] })
          | .ready =>
            .ok (0, { w with
              dev := { w.dev with
                pcm := some w.drv.next, state := .opened, refcnt := incOpen w.dev.refcnt },
              drv := { live := w.drv.next :: w.drv.live, next := w.drv.next + 1 },
              sysfsFd := sysfsAfter w.sysfsFd fd,
              log := w.log ++ [.lock, .read .refcnt, .call (.pcmOpen w.dev.cardId w.dev.pcmId
                (streamOf w.dev.dir) (pcmConfigOf w.dev.mediaConfig ps) (some (w.drv.next, true))),
                .notify (toInt8 w.dev.pcmId) deviceEnable (decide (0 ≤ sysfsAfter w.sysfsFd fd)),
                .write .pcm, .write .state, .read .refcnt, .write .refcnt, .unlock] })
      else
        .ok (0, { w with
          dev := { w.dev with refcnt := incOpen w.dev.refcnt },
          log := w.log ++ [.lock, .read .refcnt, .read .refcnt, .write .refcnt, .unlock] }) := by
  obtain ⟨⟨_, _, _, _, _, _, refcnt, cfg, _, _⟩, _, _, _⟩ := w
  subst hw
  by_cases h0 : refcnt.open = 0
  on_goal 1 => cases hps : periodSize cfg.channels cfg.format <;> cases res
  all_goals
    simp only [deviceOpen, openBody, withLock, Tinyalsa.openBody, *, ne_eq, not_true_eq_false,
      not_false_eq_true, if_true, if_false, Bool.false_eq_true, StateT.run_bind, StateT.run_pure,
      StateT.run_get, except_pure_eq_ok, except_ok_bind, except_error_bind, fault_run, emit_run,
      lockDev_run, unlockDev_run, readRefcnt_run, modifyRefcnt_run, newHandle_run,
      updateSysfsFd_run, writePcm_run, writeState_run, List.append_assoc, List.cons_append,
      List.nil_append]

theorem deviceOpen_alsa_run (openRet anyRet paramsRet : DriverRet) (fd : Int)
    (hw : w.dev.locked = false) :
    (deviceOpen (.alsa openRet anyRet paramsRet) fd).run w =
      if w.dev.refcnt.open = 0 then
        match periodSize w.dev.mediaConfig.channels w.dev.mediaConfig.format with
        | none => .error .divByZero
        | some ps =>
          if openRet.val < 0 then
            .ok (openRet, { w with
              log := w.log ++ [.lock, .read .refcnt,
                .call (.sndPcmOpen (pcmName w.dev) (streamOf w.dev.dir) openRet none), .unlock] })
          else if anyRet.val < 0 then
            .ok (anyRet, { w with
              drv := { live := w.drv.next :: w.drv.live, next := w.drv.next + 1 },
              log := w.log ++ [.lock, .read .refcnt, .call (.sndPcmOpen (pcmName w.dev)
                (streamOf w.dev.dir) openRet (some w.drv.next)),
                .call (.hwParamsAny w.drv.next anyRet), .unlock] })
          else if paramsRet.val < 0 then
            .ok (paramsRet, { w with
              drv := { live := w.drv.next :: w.drv.live, next := w.drv.next + 1 },
              log := w.log ++ [.lock, .read .refcnt, .call (.sndPcmOpen (pcmName w.dev)
                (streamOf w.dev.dir) openRet (some w.drv.next)),
                .call (.hwParamsAny w.drv.next anyRet),
                .call (.hwParams w.drv.next (hwParamsOf w.dev.mediaConfig ps) paramsRet),
                .unlock] })
          else
            .ok (paramsRet, { w with
              dev := { w.dev with
                pcm := some w.drv.next, state := .opened, refcnt := incOpen w.dev.refcnt },
              drv := { live := w.drv.next :: w.drv.live, next := w.drv.next + 1 },
              sysfsFd := sysfsAfter w.sysfsFd fd,
              log := w.log ++ [.lock, .read .refcnt, .call (.sndPcmOpen (pcmName w.dev)
                (streamOf w.dev.dir) openRet (some w.drv.next)),
                .call (.hwParamsAny w.drv.next anyRet),
                .call (.hwParams w.drv.next (hwParamsOf w.dev.mediaConfig ps) paramsRet),
                .notify (toInt8 w.dev.pcmId) deviceEnable (decide (0 ≤ sysfsAfter w.sysfsFd fd)),
                .write .pcm, .write .state, .read .refcnt, .write .refcnt, .unlock] })
      else
        .ok (0, { w with
          dev := { w.dev with refcnt := incOpen w.dev.refcnt },
          log := w.log ++ [.lock, .read .refcnt, .read .refcnt, .write .refcnt, .unlock] }) := by
  obtain ⟨⟨_, _, _, _, _, _, refcnt, cfg, _, _⟩, _, _, _⟩ := w
  subst hw
  by_cases h0 : refcnt.open = 0
  on_goal 1 =>
    cases hps : periodSize cfg.channels cfg.format
    on_goal 2 =>
      by_cases h1 : openRet.val < 0
      on_goal 2 =>
        by_cases h2 : anyRet.val < 0
        on_goal 2 => by_cases h3 : paramsRet.val < 0
  all_goals
    simp only [deviceOpen, openBody, withLock, Alsa.openBody, pcmName, *, ne_eq, not_true_eq_false,
      not_false_eq_true, if_true, if_false, Bool.false_eq_true, StateT.run_bind, StateT.run_pure,
      StateT.run_get, except_pure_eq_ok, except_ok_bind, except_error_bind, fault_run, emit_run,
      lockDev_run, unlockDev_run, readRefcnt_run, modifyRefcnt_run, newHandle_run,
      updateSysfsFd_run, writePcm_run, writeState_run, List.append_assoc, List.cons_append,
      List.nil_append]

theorem devicePrepare_run (ret : DriverRet) (hw : w.dev.locked = false) :
    (devicePrepare ret).run w =
      if w.dev.refcnt.prepare = 0 then
        match w.dev.pcm with
        | some p =>
          if p ∈ w.drv.live then
            if ret.val = 0 then
              .ok (ret, { w with
                dev := { w.dev with
                  state := .prepared,
                  refcnt := { w.dev.refcnt with prepare := w.dev.refcnt.prepare + 1 } },
                log := w.log ++ [.lock, .read .refcnt, .read .pcm, .call (.prepare p ret),
                  .write .state, .read .refcnt, .write .refcnt, .unlock] })
            else
              .ok (ret, { w with
                log := w.log ++ [.lock, .read .refcnt, .read .pcm, .call (.prepare p ret), .unlock] })
          else .error .badHandle
        | none => .error .badHandle
      else
        .ok (0, { w with
          dev := { w.dev with refcnt := { w.dev.refcnt with prepare := w.dev.refcnt.prepare + 1 } },
          log := w.log ++ [.lock, .read .refcnt, .read .refcnt, .write .refcnt, .unlock] }) := by
  obtain ⟨⟨_, _, _, _, _, _, refcnt, _, pcm, _⟩, ⟨live, _⟩, _, _⟩ := w
  subst hw
  by_cases h0 : refcnt.prepare = 0
  on_goal 1 =>
    rcases pcm with _ | p
    on_goal 2 => by_cases hl : p ∈ live <;> by_cases hr : ret.val = 0
  all_goals
    simp only [devicePrepare, withLock, prepareBody, *, ne_eq, not_true_eq_false, not_false_eq_true,
      if_true, if_false, Bool.false_eq_true, StateT.run_bind, StateT.run_pure, StateT.run_get,
      except_pure_eq_ok, except_ok_bind, except_error_bind, fault_run, emit_run, lockDev_run,
      unlockDev_run, readRefcnt_run, modifyRefcnt_run, readPcm_run, liveHandle_run, writeState_run,
      List.append_assoc, List.cons_append, List.nil_append]

theorem deviceStart_run (hw : w.dev.locked = false) :
    deviceStart.run w =
      if w.dev.state.val < DeviceState.prepared.val then
        .ok (-1, { w with log := w.log ++ [.lock, .read .state, .unlock] })
      else if w.dev.refcnt.start = 0 then
        .ok (0, { w with
          dev := { w.dev with
            state := .started, refcnt := { w.dev.refcnt with start := w.dev.refcnt.start + 1 } },
          log := w.log ++ [.lock, .read .state, .read .refcnt, .write .state, .read .refcnt,
            .write .refcnt, .unlock] })
      else
        .ok (0, { w with
          dev := { w.dev with refcnt := { w.dev.refcnt with start := w.dev.refcnt.start + 1 } },
          log := w.log ++ [.lock, .read .state, .read .refcnt, .read .refcnt, .write .refcnt,
            .unlock] }) := by
  obtain ⟨⟨_, _, _, _, _, state, refcnt, _, _, _⟩, _, _, _⟩ := w
  subst hw
  by_cases h0 : state.val < DeviceState.prepared.val
  on_goal 2 => by_cases h1 : refcnt.start = 0
  all_goals
    simp only [deviceStart, withLock, startBody, *, ne_eq, not_true_eq_false, not_false_eq_true,
      if_true, if_false, Bool.false_eq_true, StateT.run_bind, StateT.run_pure, StateT.run_get,
      except_pure_eq_ok, except_ok_bind, except_error_bind, fault_run, emit_run, lockDev_run,
      unlockDev_run, readState_run, readRefcnt_run, modifyRefcnt_run, writeState_run,
      List.append_assoc, List.cons_append, List.nil_append]

theorem deviceStop_run (ret : DriverRet) (hw : w.dev.locked = false) :
    (deviceStop ret).run w =
      if w.dev.refcnt.start = 0 then
        .ok (0, { w with log := w.log ++ [.lock, .read .refcnt, .unlock] })
      else if w.dev.refcnt.start - 1 = 0 then
        match w.dev.pcm with
        | some p =>
          if p ∈ w.drv.live then
            .ok (ret, { w with
              dev := { w.dev with
                state := .stopped, refcnt := { w.dev.refcnt with start := 0 } },
              log := w.log ++ [.lock, .read .refcnt, .read .refcnt, .write .refcnt, .read .refcnt,
                .read .pcm, .call (.stop p ret), .write .state, .unlock] })
          else .error .badHandle
        | none => .error .badHandle
      else
        .ok (0, { w with
          dev := { w.dev with refcnt := { w.dev.refcnt with start := w.dev.refcnt.start - 1 } },
          log := w.log ++ [.lock, .read .refcnt, .read .refcnt, .write .refcnt, .read .refcnt,
            .unlock] }) := by
  obtain ⟨⟨_, _, _, _, _, _, refcnt, _, pcm, _⟩, ⟨live, _⟩, _, _⟩ := w
  subst hw
  by_cases h0 : refcnt.start = 0
  on_goal 2 =>
    by_cases h1 : refcnt.start - 1 = 0
    on_goal 1 =>
      rcases pcm with _ | p
      on_goal 2 => by_cases hl : p ∈ live
  all_goals
    simp only [deviceStop, withLock, stopBody, *, if_true, if_false, Bool.false_eq_true,
      StateT.run_bind, StateT.run_pure, StateT.run_get, except_pure_eq_ok, except_ok_bind,
      except_error_bind, fault_run, emit_run, lockDev_run, unlockDev_run, readRefcnt_run,
      modifyRefcnt_run, readPcm_run, liveHandle_run, writeState_run, List.append_assoc,
      List.cons_append, List.nil_append]

theorem deviceClose_run (ret : DriverRet) (fd : Int) (hw : w.dev.locked = false) :
    (deviceClose ret fd).run w =
      if w.dev.refcnt.open - 1 = 0 then
        match w.dev.pcm with
        | some p =>
          if p ∈ w.drv.live then
            .ok (ret, { w with
              dev := { w.dev with state := .closed, refcnt := ⟨0, 0, 0⟩ },
              drv := { w.drv with live := w.drv.live.erase p },
              sysfsFd := sysfsAfter w.sysfsFd fd,
              log := w.log ++ [.lock, .read .refcnt, .write .refcnt,
                .notify (toInt8 w.dev.pcmId) deviceDisable (decide (0 ≤ sysfsAfter w.sysfsFd fd)),
                .read .pcm, .call (.close p ret), .write .state, .write .refcnt, .write .refcnt,
                .unlock] })
          else .error .badHandle
        | none => .error .badHandle
      else
        .ok (0, { w with
          dev := { w.dev with refcnt := { w.dev.refcnt with «open» := w.dev.refcnt.open - 1 } },
          log := w.log ++ [.lock, .read .refcnt, .write .refcnt, .unlock] }) := by
  obtain ⟨⟨_, _, _, _, _, _, refcnt, _, pcm, _⟩, ⟨live, _⟩, _, _⟩ := w
  subst hw
  by_cases h0 : refcnt.open - 1 = 0
  on_goal 1 =>
    rcases pcm with _ | p
    on_goal 2 => by_cases hl : p ∈ live
  all_goals
    simp only [deviceClose, withLock, closeBody, *, if_true, if_false, Bool.false_eq_true,
      StateT.run_bind, StateT.run_pure, StateT.run_get, except_pure_eq_ok, except_ok_bind,
      except_error_bind, fault_run, emit_run, lockDev_run, unlockDev_run, readRefcnt_run,
      writeRefcnt_run, updateSysfsFd_run, readPcm_run, liveHandle_run, dropHandle_run,
      writeState_run, List.append_assoc, List.cons_append, List.nil_append]

theorem deviceSetMediaConfig_run (cfg : AgmMediaConfig) :
    (deviceSetMediaConfig cfg).run w = .ok (0, { w with dev := { w.dev with mediaConfig := cfg } }) :=
  rfl

end ClosedForms

/-! ### What each operation can do

The inversion lemmas: each successful operation is one of a few transitions of the lifecycle
fields and the driver's handles. The invariants over runs are proved from these alone. -/

section Inversion

variable {w w' : World} {r : Int}

/-- The driver after it handed out a fresh handle. -/
def Driver.grant (d : Driver) : Driver := ⟨d.next :: d.live, d.next + 1⟩

theorem deviceOpen_cases {b : Backend} (o : OpenOutcome b) (fd : Int)
    (hw : w.dev.locked = false) (h : (deviceOpen o fd).run w = .ok (r, w')) :
    (w.dev.refcnt.open ≠ 0 ∧ r = 0 ∧
      w'.dev = { w.dev with refcnt := incOpen w.dev.refcnt } ∧ w'.drv = w.drv) ∨
    (w.dev.refcnt.open = 0 ∧ r = 0 ∧ w'.drv = w.drv.grant ∧
      w'.dev = { w.dev with
        pcm := some w.drv.next, state := .opened, refcnt := incOpen w.dev.refcnt }) ∨
    (w.dev.refcnt.open = 0 ∧ r ≠ 0 ∧ w'.dev = w.dev ∧
      (w'.drv = w.drv ∨ w'.drv = w.drv.grant)) := by
  cases o with
  | alsa openRet anyRet paramsRet =>
    have := openRet.2; have := anyRet.2; have := paramsRet.2
    rw [deviceOpen_alsa_run _ _ _ _ _ hw] at h
    split_ifs at h with h0 <;> (try split at h) <;> cases h <;> simp [Driver.grant, h0] <;> omega
  | tinyalsa res =>
    rw [deviceOpen_tinyalsa_run _ _ _ hw] at h
    split_ifs at h with h0 <;> (try split at h) <;> (try split at h) <;> cases h <;>
      simp [Driver.grant, h0, eio]

theorem devicePrepare_cases (ret : DriverRet) (hw : w.dev.locked = false)
    (h : (devicePrepare ret).run w = .ok (r, w')) :
    w'.drv = w.drv ∧
    ((w.dev.refcnt.prepare ≠ 0 ∧ r = 0 ∧
        w'.dev = { w.dev with refcnt := { w.dev.refcnt with prepare := w.dev.refcnt.prepare + 1 } }) ∨
      (w.dev.refcnt.prepare = 0 ∧ (∃ p, w.dev.pcm = some p ∧ p ∈ w.drv.live) ∧
        ((r = 0 ∧ w'.dev = { w.dev with
            state := .prepared,
            refcnt := { w.dev.refcnt with prepare := w.dev.refcnt.prepare + 1 } }) ∨
          (r ≠ 0 ∧ w'.dev = w.dev)))) := by
  have := ret.2
  rw [devicePrepare_run _ _ hw] at h
  split_ifs at h with h0 <;> (try split at h) <;> (try split_ifs at h) <;> cases h <;>
    simp_all

theorem deviceStart_cases (hw : w.dev.locked = false) (h : deviceStart.run w = .ok (r, w')) :
    w'.drv = w.drv ∧
    ((w.dev.state.val < DeviceState.prepared.val ∧ r ≠ 0 ∧ w'.dev = w.dev) ∨
      (¬ w.dev.state.val < DeviceState.prepared.val ∧ w.dev.refcnt.start = 0 ∧ r = 0 ∧
        w'.dev = { w.dev with
          state := .started, refcnt := { w.dev.refcnt with start := w.dev.refcnt.start + 1 } }) ∨
      (¬ w.dev.state.val < DeviceState.prepared.val ∧ w.dev.refcnt.start ≠ 0 ∧ r = 0 ∧
        w'.dev = { w.dev with refcnt := { w.dev.refcnt with start := w.dev.refcnt.start + 1 } }))
    := by
  rw [deviceStart_run _ hw] at h
  split_ifs at h <;> cases h <;> simp_all

theorem deviceStop_cases (ret : DriverRet) (hw : w.dev.locked = false)
    (h : (deviceStop ret).run w = .ok (r, w')) :
    w'.drv = w.drv ∧
    ((w.dev.refcnt.start = 0 ∧ r = 0 ∧ w'.dev = w.dev) ∨
      (w.dev.refcnt.start = 1 ∧ (∃ p, w.dev.pcm = some p ∧ p ∈ w.drv.live) ∧ r = ret ∧
        w'.dev = { w.dev with state := .stopped, refcnt := { w.dev.refcnt with start := 0 } }) ∨
      (w.dev.refcnt.start ≠ 0 ∧ w.dev.refcnt.start ≠ 1 ∧ r = 0 ∧
        w'.dev = { w.dev with refcnt := { w.dev.refcnt with start := w.dev.refcnt.start - 1 } }))
    := by
  rw [deviceStop_run _ _ hw] at h
  split_ifs at h with h0 h1 <;> (try split at h) <;> (try split_ifs at h) <;> cases h <;>
    simp_all <;> omega

theorem deviceClose_cases (ret : DriverRet) (fd : Int) (hw : w.dev.locked = false)
    (h : (deviceClose ret fd).run w = .ok (r, w')) :
    (w.dev.refcnt.open = 1 ∧ ∃ p, w.dev.pcm = some p ∧ p ∈ w.drv.live ∧ r = ret ∧
      w'.dev = { w.dev with state := .closed, refcnt := ⟨0, 0, 0⟩ } ∧
      w'.drv = { w.drv with live := w.drv.live.erase p }) ∨
    (w.dev.refcnt.open ≠ 1 ∧ r = 0 ∧ w'.drv = w.drv ∧
      w'.dev = { w.dev with refcnt := { w.dev.refcnt with «open» := w.dev.refcnt.open - 1 } }) := by
  rw [deviceClose_run _ _ _ hw] at h
  split_ifs at h with h0 <;> (try split at h) <;> (try split_ifs at h) <;> cases h <;>
    simp_all <;> omega

end Inversion

/-! ### What a failed call leaves

`device_open`, `device_prepare` and `device_start` change the object only after the last point
where they can fail. This holds from every object, reachable or not, with every answer of the
driver; a call on a lock its caller holds does not return. -/

section Failure

/-- The notification `update_sysfs_fd(pcm_id, DEVICE_ENABLE)` writes. -/
def Event.isEnable : Event → Bool
  | .notify _ state _ => state = deviceEnable
  | _ => false

/-- What a failed call leaves: the state, the counters and the handle of the object as they
were, and no enable notification among the events it appended. -/
structure FailureLeaves (w w' : World) : Prop where
  state_eq : w'.dev.state = w.dev.state
  refcnt_eq : w'.dev.refcnt = w.dev.refcnt
  pcm_eq : w'.dev.pcm = w.dev.pcm
  no_enable : ∃ es, w'.log = w.log ++ es ∧ ∀ e ∈ es, e.isEnable = false

variable {w w' : World} {r : Int}

/-- `pthread_mutex_lock` on a lock the caller holds. -/
theorem withLock_held (body : DevM Int) (h : w.dev.locked = true) :
    (withLock body).run w = .error .deadlock := by
  simp [withLock, StateT.run_bind, h]

theorem deviceOpen_failed {b : Backend} (o : OpenOutcome b) (fd : Int)
    (h : (deviceOpen o fd).run w = .ok (r, w')) (hr : r ≠ 0) : FailureLeaves w w' := by
  cases hl : w.dev.locked
  · cases o with
    | tinyalsa res =>
      rw [deviceOpen_tinyalsa_run _ _ _ hl] at h
      split_ifs at h <;> (try split at h) <;> (try split at h) <;> cases h <;>
        first | exact absurd rfl hr | exact ⟨rfl, rfl, rfl, _, rfl, by simp [Event.isEnable]⟩
    | alsa openRet anyRet paramsRet =>
      have := paramsRet.2
      rw [deviceOpen_alsa_run _ _ _ _ _ hl] at h
      split_ifs at h <;> (try split at h) <;> cases h <;>
        first | exact absurd rfl hr | exact ⟨rfl, rfl, rfl, _, rfl, by simp [Event.isEnable]⟩ |
          omega
  · rw [deviceOpen, withLock_held _ hl] at h
    cases h

theorem devicePrepare_failed (ret : DriverRet) (h : (devicePrepare ret).run w = .ok (r, w'))
    (hr : r ≠ 0) : FailureLeaves w w' := by
  cases hl : w.dev.locked
  · rw [devicePrepare_run _ _ hl] at h
    split_ifs at h <;> (try split at h) <;> (try split_ifs at h) <;> cases h <;>
      first | exact absurd rfl hr | exact ⟨rfl, rfl, rfl, _, rfl, by simp [Event.isEnable]⟩ |
        exact absurd ‹_› hr
  · rw [devicePrepare, withLock_held _ hl] at h
    cases h

theorem deviceStart_failed (h : deviceStart.run w = .ok (r, w')) (hr : r ≠ 0) :
    FailureLeaves w w' := by
  cases hl : w.dev.locked
  · rw [deviceStart_run _ hl] at h
    split_ifs at h <;> cases h <;>
      first | exact absurd rfl hr | exact ⟨rfl, rfl, rfl, _, rfl, by simp [Event.isEnable]⟩
  · rw [deviceStart, withLock_held _ hl] at h
    cases h

/-- From every object and with every answer of the driver, in either backend: a call of
`device_open`, `device_prepare` or `device_start` that returns a non-zero value leaves the
state, the counters and the handle as they were, and writes no enable notification. -/
theorem failed_call_leaves_device {b : Backend} (w : World) :
    (∀ (o : OpenOutcome b) (fd r : Int) (w' : World),
      (deviceOpen o fd).run w = .ok (r, w') → r ≠ 0 → FailureLeaves w w') ∧
    (∀ (ret : DriverRet) (r : Int) (w' : World),
      (devicePrepare ret).run w = .ok (r, w') → r ≠ 0 → FailureLeaves w w') ∧
    (∀ (r : Int) (w' : World),
      deviceStart.run w = .ok (r, w') → r ≠ 0 → FailureLeaves w w') :=
  ⟨fun o fd _ _ h hr => deviceOpen_failed o fd h hr,
    fun ret _ _ h hr => devicePrepare_failed ret h hr, fun _ _ h hr => deviceStart_failed h hr⟩

/-- A tinyalsa open whose `pcm_open` returns a handle that is not ready fails with `-EIO`, and
leaves the configured object as it was. -/
theorem failed_call_leaves_device_not_ready :
    ∃ w', (deviceOpen (.tinyalsa .notReady) (-1)).run
        ⟨{ DeviceObj.fresh 0 0 "PRI_MI2S_RX" .output with
            mediaConfig := ⟨48000, 2, .pcmS16Le, 0⟩ }, ⟨[], 0⟩, -1, []⟩ = .ok (-eio, w') ∧
      FailureLeaves ⟨{ DeviceObj.fresh 0 0 "PRI_MI2S_RX" .output with
        mediaConfig := ⟨48000, 2, .pcmS16Le, 0⟩ }, ⟨[], 0⟩, -1, []⟩ w' :=
  ⟨_, rfl, (failed_call_leaves_device _).1 (.tinyalsa .notReady) (-1) _ _ rfl (by decide)⟩

end Failure

end Agm
