import AgmDevice.Clients

/-
The driver calls of a run: first opener pays, last releaser acts.

The share-once discipline is an automaton over the event log (`Hw.run`). It sees the driver
calls and notifications of a call and ignores the lock and the field accesses; a call outside the
discipline has no transition. Its states say what the driver has of the device: no configured
handle; a configured handle whose enable notification is due; a configured handle, prepared in
this cycle or not; a disable notification made, whose close is due.

* `Hw.run_append` — the automaton reads a log one call at a time;
* `deviceOpen_trace`, ... — each operation, from a state of a run, moves the automaton from
  `Hw.of` of the object before to `Hw.of` of the object after, and issues its real calls only
  at the counter values the discipline names;
* `reachable_log_accepted` — the whole log of every run is accepted, and leaves the automaton
  where the device object says;
* `share_once_discipline` — moreover every step issues a real open only at `refcnt.open = 0`, a
  real close exactly when `refcnt.open` drops from `1` to `0`, and a real stop exactly when
  `refcnt.start` drops from `1` to `0`.
-/

namespace Agm

/-- How the share-once discipline sees an event. -/
inductive Seen
  | quiet
  /-- A driver call of a real open that leaves no configured handle. -/
  | openTry
  /-- The driver call that completes a real open. -/
  | openDone
  | prepare (ok : Bool)
  | stop
  | close
  | notify (state : Int)
  deriving DecidableEq, Repr

/-- The discipline's view of an event: in alsa-lib a real open completes with a successful
`snd_pcm_hw_params`, in tinyalsa with a ready `pcm_open`. -/
def Event.seen : Event → Seen
  | .call (.pcmOpen _ _ _ _ (some (_, true))) => .openDone
  | .call (.pcmOpen _ _ _ _ _) => .openTry
  | .call (.sndPcmOpen _ _ _ _) => .openTry
  | .call (.hwParamsAny _ _) => .openTry
  | .call (.hwParams _ _ ret) => if ret < 0 then .openTry else .openDone
  | .call (.prepare _ ret) => .prepare (ret = 0)
  | .call (.stop _ _) => .stop
  | .call (.close _ _) => .close
  | .notify _ state _ => .notify state
  | _ => .quiet

/-- The driver's side of one device, as the share-once discipline tracks it. -/
inductive Hw
  | closed
  | enabling
  | opened (prepared : Bool)
  | disabling
  deriving DecidableEq, Repr

/-- One event of the share-once automaton; `none` is a violation. A completed real open only
from no handle, followed by its enable notification; a real prepare only before a successful
one in the cycle; a real stop only after it; the disable notification, then the close. -/
def Hw.next : Hw → Seen → Option Hw
  | h, .quiet => some h
  | .closed, .openTry => some .closed
  | .closed, .openDone => some .enabling
  | .enabling, .notify state => if state = deviceEnable then some (.opened false) else none
  | .opened false, .prepare ok => some (.opened ok)
  | .opened true, .stop => some (.opened true)
  | .opened _, .notify state => if state = deviceDisable then some .disabling else none
  | .disabling, .close => some .closed
  | _, _ => none

/-- The share-once automaton over a log. -/
def Hw.run : Hw → List Event → Option Hw
  | h, [] => some h
  | h, e :: es => (h.next e.seen).bind fun h' => h'.run es

theorem Hw.run_append (h : Hw) (es es' : List Event) :
    h.run (es ++ es') = (h.run es).bind fun h' => h'.run es' := by
  induction es generalizing h with
  | nil => rfl
  | cons e es ih =>
    simp only [List.cons_append, Hw.run]
    cases h.next e.seen <;> simp [ih]

/-- Where the automaton is when the device object is `d`. -/
def Hw.of (d : DeviceObj) : Hw :=
  if d.refcnt.open = 0 then .closed else .opened (decide (0 < d.refcnt.prepare))

/-- A driver call of a real open (`pcm_open`, `snd_pcm_open`, `snd_pcm_hw_params_any`,
`snd_pcm_hw_params`). -/
def Event.isRealOpen : Event → Bool
  | .call (.pcmOpen _ _ _ _ _) => true
  | .call (.sndPcmOpen _ _ _ _) => true
  | .call (.hwParamsAny _ _) => true
  | .call (.hwParams _ _ _) => true
  | _ => false

/-- `pcm_close`, `snd_pcm_close`. -/
def Event.isRealClose : Event → Bool
  | .call (.close _ _) => true
  | _ => false

/-- `pcm_stop`, `snd_pcm_drop`. -/
def Event.isRealStop : Event → Bool
  | .call (.stop _ _) => true
  | _ => false

/-- What one call does to the driver: the events it appends move the automaton from the object
before to the object after, and its real open, close and stop happen at the counter values the
discipline names. -/
structure StepTrace (w w' : World) (es : List Event) : Prop where
  log_eq : w'.log = w.log ++ es
  run_eq : (Hw.of w.dev).run es = some (Hw.of w'.dev)
  open_zero : es.any Event.isRealOpen → w.dev.refcnt.open = 0
  close_iff : es.any Event.isRealClose ↔ w.dev.refcnt.open = 1 ∧ w'.dev.refcnt.open = 0
  stop_iff : es.any Event.isRealStop ↔ w.dev.refcnt.start = 1 ∧ w'.dev.refcnt.start = 0

/-! ### One call

Each operation from its closed form: every branch appends an explicit list of events, which the
automaton reads in one pass. -/

section Ops

variable {w w' : World} {r : Int}

theorem deviceOpen_trace {b : Backend} (hD : DevInv w.dev w.drv.live) (o : OpenOutcome b)
    (fd : Int) (hrun : (deviceOpen o fd).run w = .ok (r, w')) : ∃ es, StepTrace w w' es := by
  have := hD.start_nonneg
  have := hD.start_le_open
  have hz := hD.of_open_zero
  have h1 : w.dev.refcnt.open + 1 ≠ 0 := by omega
  cases o with
  | tinyalsa res =>
    rw [deviceOpen_tinyalsa_run _ _ _ hD.unlocked] at hrun
    split_ifs at hrun with h0 <;> (try split at hrun) <;> (try split at hrun) <;> cases hrun <;>
      refine ⟨_, rfl, ?_, ?_, ?_, ?_⟩ <;>
      simp only [Hw.run, Hw.next, Event.seen, Event.isRealOpen, Event.isRealClose,
        Event.isRealStop, List.any_cons, List.any_nil, Option.some_bind] <;>
      simp [Hw.of, incOpen, h0, h1, hz] <;> omega
  | alsa openRet anyRet paramsRet =>
    rw [deviceOpen_alsa_run _ _ _ _ _ hD.unlocked] at hrun
    split_ifs at hrun with h0 <;> (try split at hrun) <;> cases hrun <;>
      refine ⟨_, rfl, ?_, ?_, ?_, ?_⟩ <;>
      simp only [Hw.run, Hw.next, Event.seen, Event.isRealOpen, Event.isRealClose,
        Event.isRealStop, List.any_cons, List.any_nil, Option.some_bind] <;>
      simp [Hw.of, incOpen, h0, h1, hz, *] <;> omega

theorem devicePrepare_trace (hD : DevInv w.dev w.drv.live) (ho : 0 < w.dev.refcnt.open)
    (ret : DriverRet) (hrun : (devicePrepare ret).run w = .ok (r, w')) :
    ∃ es, StepTrace w w' es := by
  have := hD.prepare_nonneg
  have ho' : w.dev.refcnt.open ≠ 0 := by omega
  rw [devicePrepare_run _ _ hD.unlocked] at hrun
  split_ifs at hrun <;> (try split at hrun) <;> (try split_ifs at hrun) <;> cases hrun <;>
    refine ⟨_, rfl, ?_, ?_, ?_, ?_⟩ <;>
    simp only [Hw.run, Hw.next, Event.seen, Event.isRealOpen, Event.isRealClose,
      Event.isRealStop, List.any_cons, List.any_nil, Option.some_bind] <;>
    simp [Hw.of, ho', *] <;> omega

theorem deviceStart_trace (hD : DevInv w.dev w.drv.live)
    (hrun : deviceStart.run w = .ok (r, w')) : ∃ es, StepTrace w w' es := by
  have := hD.start_nonneg
  rw [deviceStart_run _ hD.unlocked] at hrun
  split_ifs at hrun <;> cases hrun <;> refine ⟨_, rfl, ?_, ?_, ?_, ?_⟩ <;>
    simp only [Hw.run, Hw.next, Event.seen, Event.isRealOpen, Event.isRealClose,
      Event.isRealStop, List.any_cons, List.any_nil, Option.some_bind] <;>
    simp [Hw.of] <;> omega

theorem deviceStop_trace (hD : DevInv w.dev w.drv.live) (hs : 0 < w.dev.refcnt.start)
    (ret : DriverRet) (hrun : (deviceStop ret).run w = .ok (r, w')) :
    ∃ es, StepTrace w w' es := by
  have ho : w.dev.refcnt.open ≠ 0 := by have := hD.start_le_open; omega
  have hp := hD.prepare_pos_iff.2 (.inr (.inl (hD.start_pos_iff.1 hs)))
  rw [deviceStop_run _ _ hD.unlocked] at hrun
  split_ifs at hrun <;> (try split at hrun) <;> (try split_ifs at hrun) <;> cases hrun <;>
    refine ⟨_, rfl, ?_, ?_, ?_, ?_⟩ <;>
    simp only [Hw.run, Hw.next, Event.seen, Event.isRealOpen, Event.isRealClose,
      Event.isRealStop, List.any_cons, List.any_nil, Option.some_bind] <;>
    simp [Hw.of, ho, hp] <;> omega

theorem deviceClose_trace (hD : DevInv w.dev w.drv.live)
    (hs : w.dev.refcnt.start < w.dev.refcnt.open) (ret : DriverRet) (fd : Int)
    (hrun : (deviceClose ret fd).run w = .ok (r, w')) : ∃ es, StepTrace w w' es := by
  have := hD.start_nonneg
  have ho : w.dev.refcnt.open ≠ 0 := by omega
  rw [deviceClose_run _ _ _ hD.unlocked] at hrun
  split_ifs at hrun with h1 <;> (try split at hrun) <;> (try split_ifs at hrun) <;> cases hrun <;>
    refine ⟨_, rfl, ?_, ?_, ?_, ?_⟩ <;>
    simp only [Hw.run, Hw.next, Event.seen, Event.isRealOpen, Event.isRealClose,
      Event.isRealStop, List.any_cons, List.any_nil, Option.some_bind] <;>
    simp [Hw.of, ho, h1, deviceDisable] <;> omega

theorem deviceSetMediaConfig_trace (cfg : AgmMediaConfig)
    (hrun : (deviceSetMediaConfig cfg).run w = .ok (r, w')) : ∃ es, StepTrace w w' es := by
  rw [deviceSetMediaConfig_run] at hrun
  cases hrun
  exact ⟨[], by simp, by simp [Hw.run, Hw.of], by simp, by simp; omega, by simp; omega⟩

end Ops

/-! ### Every run -/

/-- A step of a run from a state of the invariant appends a trace of the discipline. -/
theorem SysInv.trace {b : Backend} {s s' : Sys} (hI : SysInv s) (hs : Step b s s') :
    ∃ es, StepTrace s.world s'.world es := by
  cases hs with
  | call hi hrun hph =>
    rename_i i c r w' ph
    obtain ⟨w, cs⟩ := s
    obtain ⟨hD, ho, ht⟩ := hI
    simp only [Sys.dev_mk] at hD ho ht
    generalize hp : cs[i] = p at hph
    cases c <;> cases p <;> simp only [Phase.after, reduceCtorEq] at hph
    case «open».idle => exact deviceOpen_trace hD _ _ hrun
    case prepare.opened =>
      exact devicePrepare_trace hD (ho ▸ countP_pos_of_getElem _ hi (by simp [hp])) _ hrun
    case start.prepared => exact deviceStart_trace hD hrun
    case stop.started =>
      exact deviceStop_trace hD (ht ▸ countP_pos_of_getElem _ hi (by simp [hp])) _ hrun
    case close.opened | close.prepared =>
      have hlt := countP_holdsStart_lt hi (by simp [hp]) (by simp [hp])
      exact deviceClose_trace hD (by rw [ho, ht]; exact hlt) _ _ hrun
    all_goals exact deviceSetMediaConfig_trace _ hrun

section Runs

variable {b : Backend} {cardId pcmId : UInt32} {name : String} {dir : Direction} {fd : Int}
  {n : Nat} {s : Sys}

/-- The log of every run is accepted by the share-once automaton, which ends where the object
says. -/
theorem reachable_log_accepted
    (h : Reachable b (Sys.init (DeviceObj.fresh cardId pcmId name dir) fd n) s) :
    Hw.closed.run s.world.log = some (Hw.of s.dev) := by
  induction h with
  | refl => simp [Sys.init, Sys.dev, Hw.run, Hw.of, DeviceObj.fresh]
  | tail hr hs ih =>
    obtain ⟨es, hlog, hrun, -⟩ := (reachable_sysInv hr).trace hs
    rw [hlog, Hw.run_append, ih, Option.some_bind]
    exact hrun

/-- The share-once discipline at a state of a run. -/
structure ShareOnce (b : Backend) (s : Sys) : Prop where
  /-- The driver calls so far: successful real opens and real closes alternate, starting with an
  open; each successful real open is followed by its enable notification and each real close
  preceded by its disable notification; real prepares and stops happen only inside a cycle, no
  real prepare after a successful one, and no real stop before it. -/
  log_accepted : Hw.closed.run s.world.log = some (Hw.of s.dev)
  /-- Every next step issues its real calls only at the counter values the discipline names. -/
  step : ∀ s', Step b s s' → ∃ es, StepTrace s.world s'.world es

theorem share_once_discipline
    (h : Reachable b (Sys.init (DeviceObj.fresh cardId pcmId name dir) fd n) s) :
    ShareOnce b s :=
  ⟨reachable_log_accepted h, fun _ hs => (reachable_sysInv h).trace hs⟩

theorem share_once_discipline_two_clients :
    ∃ s, Reachable .tinyalsa (Sys.init (DeviceObj.fresh 0 0 "PRI_MI2S_RX" .output) (-1) 2) s ∧
      s.clients = [.started, .opened] ∧ ShareOnce .tinyalsa s :=
  let ⟨s, h, hc⟩ := two_clients_run
  ⟨s, h, hc, share_once_discipline h⟩

end Runs

end Agm
