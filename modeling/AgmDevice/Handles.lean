import AgmDevice.Clients
import AgmDevice.Locking

/-
Where the driver's handles go.

Every handle the driver hands out is held by the device object until its last close, or kept by
the real open that failed after obtaining it: tinyalsa's `device_open` leaves a handle that is
not ready open, and alsa-lib's leaves the handle whose `snd_pcm_hw_params_any` or
`snd_pcm_hw_params` failed. Nothing else keeps a handle, and no handle is live twice. This holds
over every sequence of calls, in or out of the protocol, with every answer of the driver.

* `Event.keptHandle`, `keptHandles` — the handles the failed real opens of a log kept;
* `deviceOpen_kept`, `devicePrepare_kept`, ... — the handles each operation's events keep;
* `HandleAccount` — the accounting invariant, with one lemma per transition;
* `HandleAccount.call` — every call that returns keeps it;
* `CallStep.run_invariant` — the run lemma: what every call keeps holds after every sequence;
* `driver_handles_accounted` — the accounting over every sequence of calls;
* `deviceOpen_shared_run` — `device_open` on a non-zero counter, in either backend;
  `close_unopened_underflow` — from every object whose counter is `0`, a close and an open both
  return `0` and leave the counter at `0` with no driver call; `close_unopened_fresh` — the same
  from the object discovery creates;
* `handle_leaks_and_dangles` — runs of one protocol-following client after which the device is
  closed but a handle of a failed open is still live (both backends), and `dev_obj->pcm` names a
  handle that was closed (tinyalsa).
-/

namespace Agm

/-- The handle a driver call of a failed real open obtained and kept: tinyalsa's `pcm_open`
returning a handle that is not ready, or alsa-lib's `snd_pcm_hw_params_any` or
`snd_pcm_hw_params` failing on the handle `snd_pcm_open` stored. -/
def Event.keptHandle : Event → Option Pcm
  | .call (.pcmOpen _ _ _ _ (some (p, false))) => some p
  | .call (.hwParamsAny p ret) => if ret < 0 then some p else none
  | .call (.hwParams p _ ret) => if ret < 0 then some p else none
  | _ => none

/-- The handles the failed real opens of a log kept. -/
def keptHandles (log : List Event) : List Pcm := log.filterMap Event.keptHandle

@[simp] theorem keptHandles_append (l l' : List Event) :
    keptHandles (l ++ l') = keptHandles l ++ keptHandles l' :=
  List.filterMap_append _ _ _

@[simp] theorem keptHandles_cons (e : Event) (l : List Event) :
    keptHandles (e :: l) = (e.keptHandle).toList ++ keptHandles l := by
  cases h : e.keptHandle <;> simp [keptHandles, List.filterMap_cons, h]

@[simp] theorem keptHandles_nil : keptHandles [] = [] := rfl

/-- A driver that hands out a handle is not the driver it was. -/
theorem Driver.ne_grant (d : Driver) : d ≠ ⟨d.next :: d.live, d.next + 1⟩ := fun h => by
  have := congrArg Driver.next h
  simp at this

section Kept

variable {w w' : World} {r : Int}

/-- The handles a `device_open` keeps: the one it obtained, exactly when it fails after the driver
handed one out. -/
theorem deviceOpen_kept {b : Backend} (o : OpenOutcome b) (fd : Int) (hw : w.dev.locked = false)
    (h : (deviceOpen o fd).run w = .ok (r, w')) :
    keptHandles w'.log =
      keptHandles w.log ++ if r ≠ 0 ∧ w'.drv = w.drv.grant then [w.drv.next] else [] := by
  cases o with
  | tinyalsa res =>
    rw [deviceOpen_tinyalsa_run _ _ _ hw] at h
    split_ifs at h <;> (try split at h) <;> (try split at h) <;> cases h <;>
      simp [Event.keptHandle, Driver.grant, eio, Driver.ne_grant]
  | alsa openRet anyRet paramsRet =>
    have := anyRet.2
    have := paramsRet.2
    rw [deviceOpen_alsa_run _ _ _ _ _ hw] at h
    split_ifs at h <;> (try split at h) <;> cases h <;>
      simp [*, Event.keptHandle, Driver.grant, Driver.ne_grant] <;>
      first | omega | exact (if_neg (by omega)).symm

theorem devicePrepare_kept (ret : DriverRet) (hw : w.dev.locked = false)
    (h : (devicePrepare ret).run w = .ok (r, w')) : keptHandles w'.log = keptHandles w.log := by
  rw [devicePrepare_run _ _ hw] at h
  split_ifs at h <;> (try split at h) <;> (try split_ifs at h) <;> cases h <;>
    simp [Event.keptHandle]

theorem deviceStart_kept (hw : w.dev.locked = false) (h : deviceStart.run w = .ok (r, w')) :
    keptHandles w'.log = keptHandles w.log := by
  rw [deviceStart_run _ hw] at h
  split_ifs at h <;> cases h <;> simp [Event.keptHandle]

theorem deviceStop_kept (ret : DriverRet) (hw : w.dev.locked = false)
    (h : (deviceStop ret).run w = .ok (r, w')) : keptHandles w'.log = keptHandles w.log := by
  rw [deviceStop_run _ _ hw] at h
  split_ifs at h <;> (try split at h) <;> (try split_ifs at h) <;> cases h <;>
    simp [Event.keptHandle]

theorem deviceClose_kept (ret : DriverRet) (fd : Int) (hw : w.dev.locked = false)
    (h : (deviceClose ret fd).run w = .ok (r, w')) : keptHandles w'.log = keptHandles w.log := by
  rw [deviceClose_run _ _ _ hw] at h
  split_ifs at h <;> (try split at h) <;> (try split_ifs at h) <;> cases h <;>
    simp [Event.keptHandle]

/-- A call that leaves the driver, the device's pcm id, its handle and its open count as they
were. -/
structure KeepsOpen (w w' : World) : Prop where
  drv : w'.drv = w.drv
  pcmId : w'.dev.pcmId = w.dev.pcmId
  pcm : w'.dev.pcm = w.dev.pcm
  «open» : w'.dev.refcnt.open = w.dev.refcnt.open

theorem devicePrepare_keepsOpen (ret : DriverRet) (hw : w.dev.locked = false)
    (h : (devicePrepare ret).run w = .ok (r, w')) : KeepsOpen w w' := by
  obtain ⟨hd, hcases⟩ := devicePrepare_cases ret hw h
  rcases hcases with ⟨-, -, hdev⟩ | ⟨-, -, ⟨-, hdev⟩ | ⟨-, hdev⟩⟩ <;>
    exact ⟨hd, by rw [hdev], by rw [hdev], by rw [hdev]⟩

theorem deviceStart_keepsOpen (hw : w.dev.locked = false) (h : deviceStart.run w = .ok (r, w')) :
    KeepsOpen w w' := by
  obtain ⟨hd, hcases⟩ := deviceStart_cases hw h
  rcases hcases with ⟨-, -, hdev⟩ | ⟨-, -, -, hdev⟩ | ⟨-, -, -, hdev⟩ <;>
    exact ⟨hd, by rw [hdev], by rw [hdev], by rw [hdev]⟩

theorem deviceStop_keepsOpen (ret : DriverRet) (hw : w.dev.locked = false)
    (h : (deviceStop ret).run w = .ok (r, w')) : KeepsOpen w w' := by
  obtain ⟨hd, hcases⟩ := deviceStop_cases ret hw h
  rcases hcases with ⟨-, -, hdev⟩ | ⟨-, -, -, hdev⟩ | ⟨-, -, -, hdev⟩ <;>
    exact ⟨hd, by rw [hdev], by rw [hdev], by rw [hdev]⟩

end Kept

/-! ### The accounting invariant -/

/-- The driver's live handles, accounted for: each is live once, and they are the device's
handle while `refcnt.open` is positive and the handle of every failed real open in the log. -/
structure HandleAccount (w : World) : Prop where
  nodup : w.drv.live.Nodup
  live_lt : ∀ p ∈ w.drv.live, p < w.drv.next
  kept_lt : ∀ p ∈ keptHandles w.log, p < w.drv.next
  pcm_not_kept : 0 < w.dev.refcnt.open → ∀ p, w.dev.pcm = some p → p ∉ keptHandles w.log
  live_iff : ∀ p, p ∈ w.drv.live ↔
    (0 < w.dev.refcnt.open ∧ w.dev.pcm = some p) ∨ p ∈ keptHandles w.log

namespace HandleAccount

variable {w w' : World}

theorem fresh (cardId pcmId : UInt32) (name : String) (dir : Direction) (fd : Int) :
    HandleAccount ⟨DeviceObj.fresh cardId pcmId name dir, ⟨[], 0⟩, fd, []⟩ where
  nodup := List.nodup_nil
  live_lt := by simp
  kept_lt := by simp
  pcm_not_kept := by simp [DeviceObj.fresh]
  live_iff := by simp [DeviceObj.fresh]

/-- A call that keeps the driver, the handle, whether the device is open, and the kept
handles. -/
theorem frame (h : HandleAccount w) (hd : w'.drv = w.drv) (hp : w'.dev.pcm = w.dev.pcm)
    (ho : 0 < w'.dev.refcnt.open ↔ 0 < w.dev.refcnt.open)
    (hk : keptHandles w'.log = keptHandles w.log) : HandleAccount w' where
  nodup := hd ▸ h.nodup
  live_lt := by rw [hd]; exact h.live_lt
  kept_lt := by rw [hd, hk]; exact h.kept_lt
  pcm_not_kept := by rw [hp, ho, hk]; exact h.pcm_not_kept
  live_iff := by rw [hd, hp, ho, hk]; exact h.live_iff

/-- The handle the driver hands out is fresh. -/
theorem nodup_grant (h : HandleAccount w) : w.drv.grant.live.Nodup :=
  List.nodup_cons.2 ⟨fun hm => absurd (h.live_lt _ hm) (lt_irrefl _), h.nodup⟩

theorem live_lt_grant (h : HandleAccount w) : ∀ p ∈ w.drv.grant.live, p < w.drv.grant.next := by
  intro p hm
  rcases List.mem_cons.1 hm with rfl | hm
  · exact Nat.lt_succ_self _
  · exact Nat.lt_succ_of_lt (h.live_lt p hm)

/-- A real open that succeeds: the device's new handle is the one the driver handed out. -/
theorem openReal (h : HandleAccount w) (h0 : w.dev.refcnt.open = 0) (hd : w'.drv = w.drv.grant)
    (hp : w'.dev.pcm = some w.drv.next) (ho : w'.dev.refcnt.open = 1)
    (hk : keptHandles w'.log = keptHandles w.log) : HandleAccount w' where
  nodup := hd ▸ h.nodup_grant
  live_lt := hd ▸ h.live_lt_grant
  kept_lt := by rw [hd, hk]; exact fun p hm => Nat.lt_succ_of_lt (h.kept_lt p hm)
  pcm_not_kept := by
    rw [hp, hk]
    rintro - p ⟨⟩ hm
    exact absurd (h.kept_lt _ hm) (lt_irrefl _)
  live_iff p := by
    rw [hd, hp, ho, hk]
    simp only [Driver.grant, List.mem_cons, h.live_iff p, h0, lt_irrefl, false_and, false_or,
      Option.some.injEq, zero_lt_one, true_and]
    exact ⟨fun hm => hm.imp Eq.symm id, fun hm => hm.imp Eq.symm id⟩

/-- A real open that fails after the driver handed out a handle, which it keeps. -/
theorem openKept (h : HandleAccount w) (h0 : w.dev.refcnt.open = 0) (hd : w'.drv = w.drv.grant)
    (hdev : w'.dev = w.dev) (hk : keptHandles w'.log = keptHandles w.log ++ [w.drv.next]) :
    HandleAccount w' where
  nodup := hd ▸ h.nodup_grant
  live_lt := hd ▸ h.live_lt_grant
  kept_lt := by
    rw [hd, hk]
    intro p hm
    rcases List.mem_append.1 hm with hm | hm
    · exact Nat.lt_succ_of_lt (h.kept_lt p hm)
    · rw [List.mem_singleton.1 hm]; exact Nat.lt_succ_self _
  pcm_not_kept := by rw [hdev, h0]; exact fun h => absurd h (lt_irrefl 0)
  live_iff p := by
    rw [hd, hdev, hk]
    simp only [Driver.grant, List.mem_cons, h.live_iff p, h0, lt_irrefl, false_and, false_or,
      List.mem_append, List.mem_singleton, List.not_mem_nil, or_false]
    exact Or.comm

/-- The last close, which closes the device's handle. -/
theorem closeLast (h : HandleAccount w) (h1 : w.dev.refcnt.open = 1) {p : Pcm}
    (hp : w.dev.pcm = some p) (hd : w'.drv = { w.drv with live := w.drv.live.erase p })
    (ho : w'.dev.refcnt.open = 0) (hk : keptHandles w'.log = keptHandles w.log) :
    HandleAccount w' where
  nodup := hd ▸ h.nodup.erase p
  live_lt := by rw [hd]; exact fun q hm => h.live_lt q (List.mem_of_mem_erase hm)
  kept_lt := by rw [hd, hk]; exact h.kept_lt
  pcm_not_kept := by rw [ho]; exact fun h => absurd h (lt_irrefl 0)
  live_iff q := by
    have hpk := h.pcm_not_kept (by omega) p hp
    rw [hd, ho, hk, h.nodup.mem_erase_iff, h.live_iff q, h1, hp]
    by_cases hq : q = p
    · subst hq
      simp [hpk]
    · simp [hq, Ne.symm hq]

/-- Every call that returns keeps the handles accounted for, in or out of the protocol. -/
theorem call {b : Backend} {r : Int} (h : HandleAccount w) (hw : w.dev.locked = false)
    (c : Call b) (hrun : c.run.run w = .ok (r, w')) : HandleAccount w' := by
  cases c with
  | «open» o fd =>
    have hk := deviceOpen_kept o fd hw hrun
    rcases deviceOpen_cases o fd hw hrun with ⟨h0, rfl, hdev, hd⟩ | ⟨h0, rfl, hd, hdev⟩ |
      ⟨h0, hr, hdev, hd | hd⟩
    · refine h.frame hd (by rw [hdev]) (by rw [hdev]; simp only [incOpen]; omega) (by simp [hk])
    · exact h.openReal h0 hd (by rw [hdev]) (by rw [hdev]; simp [incOpen, h0]) (by simp [hk])
    · exact h.frame hd (by rw [hdev]) (by rw [hdev])
        (by simp [hk, hd, Driver.grant, Driver.ne_grant])
    · exact h.openKept h0 hd hdev (by simp [hk, hd, hr])
  | prepare ret =>
    have hk := devicePrepare_keepsOpen ret hw hrun
    exact h.frame hk.drv hk.pcm (by rw [hk.open]) (devicePrepare_kept ret hw hrun)
  | start =>
    have hk := deviceStart_keepsOpen hw hrun
    exact h.frame hk.drv hk.pcm (by rw [hk.open]) (deviceStart_kept hw hrun)
  | stop ret =>
    have hk := deviceStop_keepsOpen ret hw hrun
    exact h.frame hk.drv hk.pcm (by rw [hk.open]) (deviceStop_kept ret hw hrun)
  | close ret fd =>
    have hk := deviceClose_kept ret fd hw hrun
    rcases deviceClose_cases ret fd hw hrun with ⟨h1, p, hp, -, -, hdev, hd⟩ | ⟨h1, -, hd, hdev⟩
    · exact h.closeLast h1 hp hd (by rw [hdev]) hk
    · exact h.frame hd (by rw [hdev]) (by rw [hdev]; simp only; omega) hk
  | setMediaConfig cfg =>
    rw [Call.run, deviceSetMediaConfig_run] at hrun
    cases hrun
    exact h.frame rfl rfl Iff.rfl rfl

end HandleAccount

/-- One call on the device object, in or out of the protocol, that returns. -/
def CallStep (b : Backend) (w w' : World) : Prop :=
  ∃ (c : Call b) (r : Int), c.run.run w = .ok (r, w')

/-- The run lemma: an invariant that every call returning from an unlocked world keeps holds,
with the lock free, after every sequence of calls. -/
theorem CallStep.run_invariant {b : Backend} {P : World → Prop} {w₀ w : World}
    (hw₀ : w₀.dev.locked = false) (h₀ : P w₀)
    (hstep : ∀ {w w' : World} {r : Int} (c : Call b), w.dev.locked = false → P w →
      c.run.run w = .ok (r, w') → P w')
    (h : Relation.ReflTransGen (CallStep b) w₀ w) : w.dev.locked = false ∧ P w := by
  induction h with
  | refl => exact ⟨hw₀, h₀⟩
  | tail _ hs ih =>
    obtain ⟨c, r, hrun⟩ := hs
    obtain ⟨-, -, -, hl⟩ := call_lockDisciplined c ih.1 hrun
    exact ⟨hl, hstep c ih.1 ih.2 hrun⟩

/-- Over every sequence of calls on the object discovery created, in or out of the protocol and
with every answer of the driver and of `open(SYSFS_FD_PATH)`, each handle the driver has live is
live once, and the live handles are exactly the device's handle while `refcnt.open` is positive
and the handle of every real open that failed after the driver handed one out. -/
theorem driver_handles_accounted {b : Backend} {cardId pcmId : UInt32} {name : String}
    {dir : Direction} {fd : Int} {w : World}
    (h : Relation.ReflTransGen (CallStep b)
      ⟨DeviceObj.fresh cardId pcmId name dir, ⟨[], 0⟩, fd, []⟩ w) :
    w.drv.live.Nodup ∧ ∀ p, p ∈ w.drv.live ↔
      (0 < w.dev.refcnt.open ∧ w.dev.pcm = some p) ∨ p ∈ keptHandles w.log := by
  obtain ⟨-, hA⟩ := CallStep.run_invariant rfl (HandleAccount.fresh cardId pcmId name dir fd)
    (fun c hw hA hrun => hA.call hw c hrun) h
  exact ⟨hA.nodup, hA.live_iff⟩

/-- A configuration, then a tinyalsa open whose handle is not ready: the handle stays live, kept
by the failed open. -/
theorem driver_handles_accounted_failed_open :
    ∃ w, Relation.ReflTransGen (CallStep .tinyalsa)
        ⟨DeviceObj.fresh 0 0 "" .output, ⟨[], 0⟩, -1, []⟩ w ∧ w.drv.live = [0] ∧
      (w.drv.live.Nodup ∧ ∀ p, p ∈ w.drv.live ↔
        (0 < w.dev.refcnt.open ∧ w.dev.pcm = some p) ∨ p ∈ keptHandles w.log) :=
  let h := (Relation.ReflTransGen.single ⟨.setMediaConfig ⟨48000, 2, .pcmS16Le, 0⟩, 0, rfl⟩).tail
    ⟨.open (.tinyalsa .notReady) (-1), -eio, rfl⟩
  ⟨_, h, rfl, driver_handles_accounted h⟩

/-! ### Calls outside the protocol, and the handles a run strands

`device_close` decrements `refcnt.open` before it looks at it, so a close without a matching open
takes the counter to `-1` and returns `0`; the next `device_open` then sees a non-zero counter,
takes the shared path and returns `0` with no driver open. Within the protocol, the handle a
failed real open kept stays live after the device closes, and the last close closes the stored
handle without clearing `dev_obj->pcm`. -/

section Ownership

variable {w : World}

/-- `device_open` on a non-zero counter only counts the new opener, in either backend. -/
theorem deviceOpen_shared_run {b : Backend} (o : OpenOutcome b) (fd : Int)
    (hw : w.dev.locked = false) (h0 : w.dev.refcnt.open ≠ 0) :
    (deviceOpen o fd).run w =
      .ok (0, { w with
        dev := { w.dev with refcnt := incOpen w.dev.refcnt },
        log := w.log ++ [.lock, .read .refcnt, .read .refcnt, .write .refcnt, .unlock] }) := by
  cases o with
  | tinyalsa res => rw [deviceOpen_tinyalsa_run _ _ _ hw, if_neg h0]
  | alsa openRet anyRet paramsRet => rw [deviceOpen_alsa_run _ _ _ _ _ hw, if_neg h0]

/-- A close without a matching open underflows the counter and reports success; the open after
it takes the shared path, reports success, and leaves the device as it was: closed if it was
closed, with no handle if it had none. -/
theorem close_unopened_underflow {b : Backend} (hw : w.dev.locked = false)
    (h0 : w.dev.refcnt.open = 0) (ret : DriverRet) (fd : Int) (o : OpenOutcome b) (fd' : Int) :
    ∃ w₁ w₂, (deviceClose ret fd).run w = .ok (0, w₁) ∧ w₁.dev.refcnt.open = -1 ∧
      (deviceOpen o fd').run w₁ = .ok (0, w₂) ∧ w₂.dev.refcnt.open = 0 ∧
      w₂.dev.state = w.dev.state ∧ w₂.dev.pcm = w.dev.pcm ∧ w₂.drv = w.drv := by
  have h1 : ¬ w.dev.refcnt.open - 1 = 0 := by omega
  rw [deviceClose_run _ _ _ hw, if_neg h1]
  refine ⟨_, _, rfl, by simp [h0], deviceOpen_shared_run o fd' ?_ ?_, ?_, rfl, rfl, rfl⟩ <;>
    simp [incOpen, h0, hw]

theorem close_unopened_fresh :
    ∃ w₁ w₂,
      (deviceClose ⟨0, le_rfl⟩ (-1)).run
        (Sys.init (DeviceObj.fresh 0 0 "PRI_MI2S_RX" .output) (-1) 1).world = .ok (0, w₁) ∧
      w₁.dev.refcnt.open = -1 ∧
      (deviceOpen (.tinyalsa .ready) (-1)).run w₁ = .ok (0, w₂) ∧ w₂.dev.refcnt.open = 0 ∧
      w₂.dev.state = .closed ∧ w₂.dev.pcm = none ∧ w₂.drv.live = [] := by
  obtain ⟨w₁, w₂, h1, h2, h3, h4, h5, h6, h7⟩ :=
    close_unopened_underflow (w := (Sys.init (DeviceObj.fresh 0 0 "PRI_MI2S_RX" .output) (-1) 1).world)
      rfl rfl ⟨0, le_rfl⟩ (-1) (.tinyalsa .ready) (-1)
  exact ⟨w₁, w₂, h1, h2, h3, h4, h5, h6, by rw [h7]; rfl⟩

/-- Protocol-following runs of one client that break handle ownership. Tinyalsa: an open whose
`pcm_open` returns a handle that is not ready fails with `-EIO` and keeps the handle; an open and
a close then leave `dev_obj->pcm` naming the closed handle. Alsa-lib: an open whose
`snd_pcm_hw_params_any` fails keeps the handle `snd_pcm_open` gave it. -/
theorem handle_leaks_and_dangles :
    (∃ s, Reachable .tinyalsa (Sys.init (DeviceObj.fresh 0 0 "PRI_MI2S_RX" .output) (-1) 1) s ∧
      s.dev.refcnt.open = 0 ∧ s.world.drv.live = [0] ∧ s.dev.pcm = some 1) ∧
    (∃ s, Reachable .alsa (Sys.init (DeviceObj.fresh 0 0 "PRI_MI2S_RX" .output) (-1) 1) s ∧
      s.dev.refcnt.open = 0 ∧ s.world.drv.live = [0] ∧ s.dev.pcm = none) :=
  ⟨⟨_, .tail (.tail (.tail (.single
      (Step.call (i := 0) (c := .setMediaConfig ⟨48000, 2, .pcmS16Le, 0⟩) (by decide) rfl rfl))
      (Step.call (i := 0) (c := .open (.tinyalsa .notReady) (-1)) (by decide) rfl rfl))
      (Step.call (i := 0) (c := .open (.tinyalsa .ready) (-1)) (by decide) rfl rfl))
      (Step.call (i := 0) (c := .close ⟨0, le_rfl⟩ (-1)) (by decide) rfl rfl), rfl, rfl, rfl⟩,
    ⟨_, .tail (.single
      (Step.call (i := 0) (c := .setMediaConfig ⟨48000, 2, .pcmS16Le, 0⟩) (by decide) rfl rfl))
      (Step.call (i := 0) (c := .open (.alsa ⟨0, le_rfl⟩ ⟨-22, Int.neg_nonpos_of_nonneg (Int.ofNat_zero_le 22)⟩ ⟨0, le_rfl⟩) (-1))
        (by decide) rfl rfl), rfl, rfl, rfl⟩⟩

end Ownership

end Agm
