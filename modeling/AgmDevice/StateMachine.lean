import AgmDevice.Handles

/-
The lifecycle state of a device object, for any caller.

`device_current_state` reports `dev_obj->state`, which the operations set beside their counters.
Over every sequence of calls on one object that return, in or out of the protocol and with every
answer of the driver, the state says what the counters say:

  `state = DEV_CLOSED ↔ refcnt.open ≤ 0`, `0 < refcnt.start ↔ state = DEV_STARTED`,
  `0 < refcnt.prepare ↔ state ∈ {DEV_PREPARED, DEV_STARTED, DEV_STOPPED}`,

and `refcnt.prepare` and `refcnt.start` never go below zero. `refcnt.open` can: a close with no
open takes it to `-1`, and the state then stays `DEV_CLOSED`.

* `Agrees` — the state agrees with the counters, with one lemma per transition of the
  inversion lemmas;
* `StateAccount` — `Agrees`, and the device's handle is neither kept by a failed open nor yet
  to be handed out;
* `StateAccount.call` — every call that returns keeps it;
* `state_tracks_counters` — the agreement over every sequence of calls.

Design notes: a real `device_prepare` after the last close passes the driver the handle that
close released, which is undefined behaviour and ends the run. The invariant carries what makes
this so: the device's handle is live only while `refcnt.open` is positive (`open_pos`), so a
prepare that returns acts on an open device.
-/

namespace Agm

/-- The state of `d` agrees with its counters. -/
structure Agrees (d : DeviceObj) : Prop where
  prepare_nonneg : 0 ≤ d.refcnt.prepare
  start_nonneg : 0 ≤ d.refcnt.start
  closed_iff : d.state = .closed ↔ d.refcnt.open ≤ 0
  start_pos_iff : 0 < d.refcnt.start ↔ d.state = .started
  prepare_pos_iff :
    0 < d.refcnt.prepare ↔ d.state = .prepared ∨ d.state = .started ∨ d.state = .stopped

namespace Agrees

variable {d : DeviceObj}

theorem fresh (cardId pcmId : UInt32) (name : String) (dir : Direction) :
    Agrees (DeviceObj.fresh cardId pcmId name dir) := by
  constructor <;> simp [DeviceObj.fresh]

/-- Without a prepare the device is neither prepared, started nor stopped, and so not started. -/
theorem start_zero (h : Agrees d) (h0 : d.refcnt.prepare = 0) : d.refcnt.start = 0 := by
  have hs : ¬ 0 < d.refcnt.start := fun hs => by
    have := h.prepare_pos_iff.2 (.inr (.inl (h.start_pos_iff.1 hs)))
    omega
  have := h.start_nonneg
  omega

theorem config (h : Agrees d) (cfg : AgmMediaConfig) : Agrees { d with mediaConfig := cfg } :=
  ⟨h.prepare_nonneg, h.start_nonneg, h.closed_iff, h.start_pos_iff, h.prepare_pos_iff⟩

theorem openShared (h : Agrees d) (h0 : d.refcnt.open ≠ 0) :
    Agrees { d with refcnt := incOpen d.refcnt } :=
  ⟨h.prepare_nonneg, h.start_nonneg, by simp only [incOpen, h.closed_iff]; omega,
    h.start_pos_iff, h.prepare_pos_iff⟩

theorem openReal (h : Agrees d) (h0 : d.refcnt.open = 0) (p : Pcm) :
    Agrees { d with pcm := some p, state := .opened, refcnt := incOpen d.refcnt } := by
  have hc := h.closed_iff.2 (by omega)
  have hp : d.refcnt.prepare = 0 := by
    have := h.prepare_nonneg
    have := mt h.prepare_pos_iff.1 (by simp [hc])
    omega
  have hs := h.start_zero hp
  constructor <;> simp [incOpen, hp, hs, h0]

theorem prepareShared (h : Agrees d) (h0 : d.refcnt.prepare ≠ 0) :
    Agrees { d with refcnt := { d.refcnt with prepare := d.refcnt.prepare + 1 } } := by
  have := h.prepare_nonneg
  exact ⟨by simp only; omega, h.start_nonneg, h.closed_iff, h.start_pos_iff,
    by simp only; rw [← h.prepare_pos_iff]; omega⟩

theorem prepareReal (h : Agrees d) (h0 : d.refcnt.prepare = 0) (ho : 0 < d.refcnt.open) :
    Agrees { d with
      state := .prepared, refcnt := { d.refcnt with prepare := d.refcnt.prepare + 1 } } := by
  have hs := h.start_zero h0
  constructor <;> simp [h0, hs, not_le.2 ho]

theorem startFirst (h : Agrees d) (hs : ¬ d.state.val < DeviceState.prepared.val)
    (h0 : d.refcnt.start = 0) :
    Agrees { d with
      state := .started, refcnt := { d.refcnt with start := d.refcnt.start + 1 } } := by
  have hst : d.state = .prepared ∨ d.state = .started ∨ d.state = .stopped := by
    cases hd : d.state <;> simp_all [DeviceState.val]
  have ho := mt h.closed_iff.2 (by rcases hst with h' | h' | h' <;> simp [h'])
  have hp := h.prepare_pos_iff.2 hst
  constructor <;> simp [h0] <;> omega

theorem startShared (h : Agrees d) (h0 : d.refcnt.start ≠ 0) :
    Agrees { d with refcnt := { d.refcnt with start := d.refcnt.start + 1 } } := by
  have := h.start_nonneg
  exact ⟨h.prepare_nonneg, by simp only; omega, h.closed_iff,
    by simp only; rw [← h.start_pos_iff]; omega, h.prepare_pos_iff⟩

theorem stopLast (h : Agrees d) (h1 : d.refcnt.start = 1) :
    Agrees { d with state := .stopped, refcnt := { d.refcnt with start := 0 } } := by
  have hst := h.start_pos_iff.1 (by omega)
  have ho := mt h.closed_iff.2 (by simp [hst])
  have hp := h.prepare_pos_iff.2 (.inr (.inl hst))
  constructor <;> simp <;> omega

theorem stopShared (h : Agrees d) (h0 : d.refcnt.start ≠ 0) (h1 : d.refcnt.start ≠ 1) :
    Agrees { d with refcnt := { d.refcnt with start := d.refcnt.start - 1 } } := by
  have := h.start_nonneg
  exact ⟨h.prepare_nonneg, by simp only; omega, h.closed_iff,
    by simp only; rw [← h.start_pos_iff]; omega, h.prepare_pos_iff⟩

theorem closeLast (d : DeviceObj) : Agrees { d with state := .closed, refcnt := ⟨0, 0, 0⟩ } := by
  constructor <;> simp

theorem closeShared (h : Agrees d) (h1 : d.refcnt.open ≠ 1) :
    Agrees { d with refcnt := { d.refcnt with «open» := d.refcnt.open - 1 } } :=
  ⟨h.prepare_nonneg, h.start_nonneg, by simp only [h.closed_iff]; omega, h.start_pos_iff,
    h.prepare_pos_iff⟩

end Agrees

/-- The device's state agrees with its counters, and its handle is neither one a failed open
kept nor one the driver has yet to hand out. -/
structure StateAccount (w : World) : Prop where
  agrees : Agrees w.dev
  pcm_lt : ∀ p, w.dev.pcm = some p → p < w.drv.next
  pcm_not_kept : ∀ p, w.dev.pcm = some p → p ∉ keptHandles w.log

namespace StateAccount

variable {w w' : World}

theorem fresh (cardId pcmId : UInt32) (name : String) (dir : Direction) (fd : Int) :
    StateAccount ⟨DeviceObj.fresh cardId pcmId name dir, ⟨[], 0⟩, fd, []⟩ :=
  ⟨Agrees.fresh cardId pcmId name dir, by simp [DeviceObj.fresh], by simp [DeviceObj.fresh]⟩

/-- The device's handle is live only while the device is open. -/
theorem open_pos (h : StateAccount w) (ha : HandleAccount w) {p : Pcm}
    (hp : w.dev.pcm = some p) (hl : p ∈ w.drv.live) : 0 < w.dev.refcnt.open := by
  rcases (ha.live_iff p).1 hl with ⟨ho, -⟩ | hk
  · exact ho
  · exact absurd hk (h.pcm_not_kept p hp)

/-- A call that keeps the handle, the next handle and the kept handles. -/
theorem frame (h : StateAccount w) (hd : Agrees w'.dev) (hp : w'.dev.pcm = w.dev.pcm)
    (hn : w'.drv.next = w.drv.next) (hk : keptHandles w'.log = keptHandles w.log) :
    StateAccount w' :=
  ⟨hd, by rw [hp, hn]; exact h.pcm_lt, by rw [hp, hk]; exact h.pcm_not_kept⟩

/-- Every call that returns keeps the state in agreement with the counters, in or out of the
protocol. -/
theorem call {b : Backend} {r : Int} (h : StateAccount w) (ha : HandleAccount w)
    (hw : w.dev.locked = false) (c : Call b) (hrun : c.run.run w = .ok (r, w')) :
    StateAccount w' := by
  have hA := h.agrees
  cases c with
  | «open» o fd =>
    have hk := deviceOpen_kept o fd hw hrun
    rcases deviceOpen_cases o fd hw hrun with ⟨h0, rfl, hdev, hd⟩ | ⟨h0, rfl, hd, hdev⟩ |
      ⟨h0, hr, hdev, hd | hd⟩
    · exact h.frame (hdev ▸ hA.openShared h0) (by rw [hdev]) (by rw [hd]) (by simp [hk])
    · refine ⟨hdev ▸ hA.openReal h0 _, ?_, ?_⟩ <;> rw [hdev] <;> rintro p ⟨⟩
      · rw [hd]; exact Nat.lt_succ_self _
      · rw [hk]; simpa using fun hm => absurd (ha.kept_lt _ hm) (lt_irrefl _)
    · exact h.frame (hdev ▸ hA) (by rw [hdev]) (by rw [hd])
        (by simp [hk, hd, Driver.grant, Driver.ne_grant])
    · refine ⟨hdev ▸ hA, fun p hp => ?_, fun p hp => ?_⟩ <;> rw [hdev] at hp
      · rw [hd]; exact Nat.lt_succ_of_lt (h.pcm_lt p hp)
      · have hne : p ≠ w.drv.next := (h.pcm_lt p hp).ne
        simpa [hk, hd, hr, hne] using h.pcm_not_kept p hp
  | prepare ret =>
    have hK := devicePrepare_keepsOpen ret hw hrun
    refine h.frame ?_ hK.pcm (by rw [hK.drv]) (devicePrepare_kept ret hw hrun)
    rcases (devicePrepare_cases ret hw hrun).2 with ⟨h0, -, hdev⟩ |
      ⟨h0, ⟨p, hp, hl⟩, ⟨-, hdev⟩ | ⟨-, hdev⟩⟩ <;> rw [hdev]
    · exact hA.prepareShared h0
    · exact hA.prepareReal h0 (h.open_pos ha hp hl)
    · exact hA
  | start =>
    have hK := deviceStart_keepsOpen hw hrun
    refine h.frame ?_ hK.pcm (by rw [hK.drv]) (deviceStart_kept hw hrun)
    rcases (deviceStart_cases hw hrun).2 with ⟨-, -, hdev⟩ | ⟨hs, h0, -, hdev⟩ |
      ⟨-, h0, -, hdev⟩ <;> rw [hdev]
    · exact hA
    · exact hA.startFirst hs h0
    · exact hA.startShared h0
  | stop ret =>
    have hK := deviceStop_keepsOpen ret hw hrun
    refine h.frame ?_ hK.pcm (by rw [hK.drv]) (deviceStop_kept ret hw hrun)
    rcases (deviceStop_cases ret hw hrun).2 with ⟨-, -, hdev⟩ | ⟨h1, -, -, hdev⟩ |
      ⟨h0, h1, -, hdev⟩ <;> rw [hdev]
    · exact hA
    · exact hA.stopLast h1
    · exact hA.stopShared h0 h1
  | close ret fd =>
    have hk := deviceClose_kept ret fd hw hrun
    rcases deviceClose_cases ret fd hw hrun with ⟨-, p, -, -, -, hdev, hd⟩ | ⟨h1, -, hd, hdev⟩
    · exact h.frame (hdev ▸ Agrees.closeLast w.dev) (by rw [hdev]) (by rw [hd]) hk
    · exact h.frame (hdev ▸ hA.closeShared h1) (by rw [hdev]) (by rw [hd]) hk
  | setMediaConfig cfg =>
    rw [Call.run, deviceSetMediaConfig_run] at hrun
    cases hrun
    exact h.frame (hA.config cfg) rfl rfl rfl

end StateAccount

/-- Over every sequence of calls on the object discovery created that return, in or out of the
protocol and with every answer of the driver, the state (what `device_current_state` returns)
agrees with the counters: `DEV_CLOSED` exactly while `refcnt.open ≤ 0`, `DEV_STARTED` exactly while
`refcnt.start > 0`, one of `DEV_PREPARED`, `DEV_STARTED`, `DEV_STOPPED` exactly while
`refcnt.prepare > 0`; and `refcnt.prepare` and `refcnt.start` never go below zero. -/
theorem state_tracks_counters {b : Backend} {cardId pcmId : UInt32} {name : String}
    {dir : Direction} {fd : Int} {w : World}
    (h : Relation.ReflTransGen (CallStep b)
      ⟨DeviceObj.fresh cardId pcmId name dir, ⟨[], 0⟩, fd, []⟩ w) :
    0 ≤ w.dev.refcnt.prepare ∧ 0 ≤ w.dev.refcnt.start ∧
      (w.dev.state = .closed ↔ w.dev.refcnt.open ≤ 0) ∧
      (0 < w.dev.refcnt.start ↔ w.dev.state = .started) ∧
      (0 < w.dev.refcnt.prepare ↔
        w.dev.state = .prepared ∨ w.dev.state = .started ∨ w.dev.state = .stopped) := by
  obtain ⟨-, -, hS⟩ := @CallStep.run_invariant b (fun w => HandleAccount w ∧ StateAccount w) _ _
    rfl ⟨HandleAccount.fresh cardId pcmId name dir fd, StateAccount.fresh cardId pcmId name dir fd⟩
    (fun c hw hI hrun => ⟨hI.1.call hw c hrun, hI.2.call hI.1 hw c hrun⟩) h
  exact ⟨hS.agrees.prepare_nonneg, hS.agrees.start_nonneg, hS.agrees.closed_iff,
    hS.agrees.start_pos_iff, hS.agrees.prepare_pos_iff⟩

/-- A close with no open takes `refcnt.open` to `-1`; the state stays `DEV_CLOSED`. -/
theorem state_tracks_counters_close_first :
    ∃ w, Relation.ReflTransGen (CallStep .tinyalsa)
        ⟨DeviceObj.fresh 0 0 "" .output, ⟨[], 0⟩, -1, []⟩ w ∧
      w.dev.refcnt.open = -1 ∧ w.dev.state = .closed ∧
      (0 ≤ w.dev.refcnt.prepare ∧ 0 ≤ w.dev.refcnt.start ∧
        (w.dev.state = .closed ↔ w.dev.refcnt.open ≤ 0) ∧
        (0 < w.dev.refcnt.start ↔ w.dev.state = .started) ∧
        (0 < w.dev.refcnt.prepare ↔
          w.dev.state = .prepared ∨ w.dev.state = .started ∨ w.dev.state = .stopped)) := by
  have h := Relation.ReflTransGen.single (show CallStep .tinyalsa
    ⟨DeviceObj.fresh 0 0 "" .output, ⟨[], 0⟩, -1, []⟩ _ from ⟨.close ⟨0, le_refl 0⟩ (-1), 0, rfl⟩)
  exact ⟨_, h, rfl, rfl, state_tracks_counters h⟩

end Agm
