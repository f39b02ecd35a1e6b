import AgmDevice.Lifecycle

/-
The lock discipline of the device operations.

Each device object has a mutex that guards its state, its three counters, its driver handle and
its parameters. The discipline is a monitor over the events one call logs: the call takes the
lock before it touches a guarded field, never takes it twice or releases it without holding it,
and leaves it free.

* `lockRun` — the monitor; `LockDisciplined` — a call's events keep the discipline;
* `call_lockDisciplined` — every lifecycle call, on every path, from a free lock: its events
  keep the discipline and the lock is free when it returns;
* `lock_discipline_broken` — `device_set_params` releases a lock it does not hold and writes the
  parameters without the lock, and `device_current_state` reads the state without it, from every
  world.
-/

namespace Agm

/-- One event of the lock discipline of a call, where `held` says whether the call holds the
lock; `none` is a violation: taking a lock it holds, releasing one it does not hold, touching a
guarded field without it. -/
def lockStep (held : Bool) : Event → Option Bool
  | .lock => if held then none else some true
  | .unlock => if held then some false else none
  | .read _ => if held then some held else none
  | .write _ => if held then some held else none
  | _ => some held

/-- The lock discipline over the events of one call. -/
def lockRun (held : Bool) : List Event → Option Bool
  | [] => some held
  | e :: es => (lockStep held e).bind fun h => lockRun h es

/-- A call's events keep the lock discipline and leave the lock free. -/
def LockDisciplined (es : List Event) : Prop := lockRun false es = some false

instance (es : List Event) : Decidable (LockDisciplined es) :=
  inferInstanceAs (Decidable (lockRun false es = some false))

/-! ### The lifecycle calls -/

section Calls

variable {w w' : World} {r : Int}

/-- Every lifecycle call, on every path, from a free lock: its events keep the lock discipline,
and the lock is free when it returns. -/
theorem call_lockDisciplined {b : Backend} (c : Call b) (hw : w.dev.locked = false)
    (hrun : c.run.run w = .ok (r, w')) :
    ∃ es, w'.log = w.log ++ es ∧ LockDisciplined es ∧ w'.dev.locked = false := by
  cases c with
  | «open» o fd =>
    cases o with
    | tinyalsa res =>
      rw [Call.run, deviceOpen_tinyalsa_run _ _ _ hw] at hrun
      split_ifs at hrun <;> (try split at hrun) <;> (try split at hrun) <;> cases hrun <;>
        exact ⟨_, rfl, rfl, hw⟩
    | alsa openRet anyRet paramsRet =>
      rw [Call.run, deviceOpen_alsa_run _ _ _ _ _ hw] at hrun
      split_ifs at hrun <;> (try split at hrun) <;> cases hrun <;> exact ⟨_, rfl, rfl, hw⟩
  | prepare ret =>
    rw [Call.run, devicePrepare_run _ _ hw] at hrun
    split_ifs at hrun <;> (try split at hrun) <;> (try split_ifs at hrun) <;> cases hrun <;>
      exact ⟨_, rfl, rfl, hw⟩
  | start =>
    rw [Call.run, deviceStart_run _ hw] at hrun
    split_ifs at hrun <;> cases hrun <;> exact ⟨_, rfl, rfl, hw⟩
  | stop ret =>
    rw [Call.run, deviceStop_run _ _ hw] at hrun
    split_ifs at hrun <;> (try split at hrun) <;> (try split_ifs at hrun) <;> cases hrun <;>
      exact ⟨_, rfl, rfl, hw⟩
  | close ret fd =>
    rw [Call.run, deviceClose_run _ _ _ hw] at hrun
    split_ifs at hrun <;> (try split at hrun) <;> (try split_ifs at hrun) <;> cases hrun <;>
      exact ⟨_, rfl, rfl, hw⟩
  | setMediaConfig cfg =>
    rw [Call.run, deviceSetMediaConfig_run] at hrun
    cases hrun
    exact ⟨[], by simp, rfl, hw⟩

end Calls

/-! ### The accessors -/

/-- The events `device_set_params` logs, when `params` held a buffer (`had`) and when `calloc`
returns one (`alloc`). -/
def setParamsEvents (had alloc : Bool) : List Event :=
  [.unlock, .read .params] ++ (if had then [.write .params] else []) ++
    [.write .params, .read .params] ++ (if alloc then [.write .params, .unlock] else [.unlock])

theorem deviceSetParams_run (w : World) (payload : List UInt8) (alloc : Bool) :
    (deviceSetParams payload alloc).run w =
      .ok (if alloc then 0 else -einval, { w with
        dev := { w.dev with locked := false, params := if alloc then some payload else none },
        log := w.log ++ setParamsEvents w.dev.params.isSome alloc }) := by
  cases hp : w.dev.params <;> cases alloc <;>
    simp [deviceSetParams, setParamsEvents, StateT.run_bind, hp]

/-- `device_set_params` releases a lock it does not hold and writes `params` without the lock;
`device_current_state` reads the state without the lock. -/
theorem lock_discipline_broken (w : World) (payload : List UInt8) (alloc : Bool) :
    (∃ r w' es, (deviceSetParams payload alloc).run w = .ok (r, w') ∧ w'.log = w.log ++ es ∧
      es.head? = some .unlock ∧ lockRun false es = none) ∧
    (∃ w', deviceCurrentState.run w = .ok (w.dev.state, w') ∧ w'.log = w.log ++ [.read .state] ∧
      lockRun false [.read .state] = none) :=
  ⟨⟨_, _, _, deviceSetParams_run w payload alloc, rfl, rfl, rfl⟩, _, rfl, rfl, rfl⟩

end Agm
