import AgmDevice.Handles

/-
What the device tells the `aud_dev` sysfs node.

`device_open` calls `update_sysfs_fd(pcm_id, DEVICE_ENABLE)` once its real open has succeeded,
and `device_close` calls `update_sysfs_fd(pcm_id, DEVICE_DISABLE)` when it brings `refcnt.open`
to zero. `update_sysfs_fd` writes its record to `sysfs_fd`, and opens the node first while
`sysfs_fd` is not open. Over every sequence of calls on one object, in or out of the protocol and
with every answer of the driver and of `open`, the records alternate `DEVICE_ENABLE`,
`DEVICE_DISABLE`, ... from `DEVICE_ENABLE`, all with the device's `pcm_id`; the last one is
`DEVICE_ENABLE` exactly while `refcnt.open` is positive; and once a record has reached the node,
every later one does.

* `SysfsRecord`, `sysfsRecords` — the records of a log;
* `deviceOpen_sysfs`, `deviceClose_sysfs`, `devicePrepare_sysfs`, ... — the record each
  operation adds, if any, and the `sysfs_fd` it leaves;
* `SysfsAccount` — the invariant, with one lemma for a call that adds no record and one for a
  call that adds one;
* `sysfs_tracks_open` — the invariant over every sequence of calls.

Design notes: the counter alone decides which record comes next, so the invariant ties the
parity of the number of records to the sign of `refcnt.open`. A close on a device that was never
opened takes the counter below zero without a record, and the opens that bring it back to zero
take the shared path, also without one; the parity argument covers these runs unchanged.
-/

namespace Agm

/-- A record `update_sysfs_fd` formats, `"%d %d"` of the pcm id and the state, and whether it
reached the node. -/
structure SysfsRecord where
  pcmId : Int
  state : Int
  written : Bool
  deriving DecidableEq, Repr

/-- The record of a `notify` event. -/
def Event.sysfsRecord : Event → Option SysfsRecord
  | .notify p s written => some ⟨p, s, written⟩
  | _ => none

/-- The records of a log, in order. -/
def sysfsRecords (log : List Event) : List SysfsRecord := log.filterMap Event.sysfsRecord

@[simp] theorem sysfsRecords_append (l l' : List Event) :
    sysfsRecords (l ++ l') = sysfsRecords l ++ sysfsRecords l' :=
  List.filterMap_append _ _ _

@[simp] theorem sysfsRecords_cons (e : Event) (l : List Event) :
    sysfsRecords (e :: l) = (e.sysfsRecord).toList ++ sysfsRecords l := by
  cases h : e.sysfsRecord <;> simp [sysfsRecords, List.filterMap_cons, h]

@[simp] theorem sysfsRecords_nil : sysfsRecords [] = [] := rfl

/-- The state of the `i`-th record when the records alternate from `DEVICE_ENABLE`. -/
def alternating (i : Nat) : Int := if i % 2 = 0 then deviceEnable else deviceDisable

theorem sysfsAfter_of_nonneg {fd : Int} (h : 0 ≤ fd) (opened : Int) :
    sysfsAfter fd opened = fd := if_pos h

/-! ### The records of each operation -/

/-- A call that adds no record and leaves `sysfs_fd` as it was. -/
def SysfsQuiet (w w' : World) : Prop :=
  sysfsRecords w'.log = sysfsRecords w.log ∧ w'.sysfsFd = w.sysfsFd

/-- A call that runs `update_sysfs_fd(pcm_id, state)` once, where `open` returns `fd` if the
node is not open. -/
def SysfsNotified (w w' : World) (state fd : Int) : Prop :=
  sysfsRecords w'.log = sysfsRecords w.log ++
      [⟨toInt8 w.dev.pcmId, state, decide (0 ≤ sysfsAfter w.sysfsFd fd)⟩] ∧
    w'.sysfsFd = sysfsAfter w.sysfsFd fd

section Records

variable {w w' : World} {r : Int}

/-- `device_open` notifies exactly when its real open succeeds. -/
theorem deviceOpen_sysfs {b : Backend} (o : OpenOutcome b) (fd : Int)
    (hw : w.dev.locked = false) (h : (deviceOpen o fd).run w = .ok (r, w')) :
    if w.dev.refcnt.open = 0 ∧ r = 0 then SysfsNotified w w' deviceEnable fd
    else SysfsQuiet w w' := by
  cases o with
  | tinyalsa res =>
    rw [deviceOpen_tinyalsa_run _ _ _ hw] at h
    split_ifs at h <;> (try split at h) <;> (try split at h) <;> cases h <;>
      simp [*, SysfsNotified, SysfsQuiet, Event.sysfsRecord, eio]
  | alsa openRet anyRet paramsRet =>
    have := anyRet.2
    have := paramsRet.2
    rw [deviceOpen_alsa_run _ _ _ _ _ hw] at h
    split_ifs at h <;> (try split at h) <;> cases h <;>
      simp [*, SysfsNotified, SysfsQuiet, Event.sysfsRecord] <;> omega

/-- `device_close` notifies exactly when it closes the last open. -/
theorem deviceClose_sysfs (ret : DriverRet) (fd : Int) (hw : w.dev.locked = false)
    (h : (deviceClose ret fd).run w = .ok (r, w')) :
    if w.dev.refcnt.open = 1 then SysfsNotified w w' deviceDisable fd else SysfsQuiet w w' := by
  rw [deviceClose_run _ _ _ hw] at h
  split_ifs at h <;> (try split at h) <;> (try split_ifs at h) <;> cases h <;>
    simp [*, SysfsNotified, SysfsQuiet, Event.sysfsRecord] <;> omega

theorem devicePrepare_sysfs (ret : DriverRet) (hw : w.dev.locked = false)
    (h : (devicePrepare ret).run w = .ok (r, w')) : SysfsQuiet w w' := by
  rw [devicePrepare_run _ _ hw] at h
  split_ifs at h <;> (try split at h) <;> (try split_ifs at h) <;> cases h <;>
    simp [SysfsQuiet, Event.sysfsRecord]

theorem deviceStart_sysfs (hw : w.dev.locked = false) (h : deviceStart.run w = .ok (r, w')) :
    SysfsQuiet w w' := by
  rw [deviceStart_run _ hw] at h
  split_ifs at h <;> cases h <;> simp [SysfsQuiet, Event.sysfsRecord]

theorem deviceStop_sysfs (ret : DriverRet) (hw : w.dev.locked = false)
    (h : (deviceStop ret).run w = .ok (r, w')) : SysfsQuiet w w' := by
  rw [deviceStop_run _ _ hw] at h
  split_ifs at h <;> (try split at h) <;> (try split_ifs at h) <;> cases h <;>
    simp [SysfsQuiet, Event.sysfsRecord]

end Records

/-! ### The invariant -/

/-- The records of a log, accounted for against the device: they carry its `pcm_id`, alternate
from `DEVICE_ENABLE`, number an odd count exactly while `refcnt.open` is positive, and are
written from the first one that reached the node on. -/
structure SysfsAccount (pcmId : UInt32) (w : World) : Prop where
  pcmId_eq : w.dev.pcmId = pcmId
  pcm : ∀ x ∈ sysfsRecords w.log, x.pcmId = toInt8 pcmId
  alternate : (sysfsRecords w.log).map SysfsRecord.state =
    (List.range (sysfsRecords w.log).length).map alternating
  open_iff : 0 < w.dev.refcnt.open ↔ (sysfsRecords w.log).length % 2 = 1
  written_mono : ((sysfsRecords w.log).map SysfsRecord.written).Pairwise
    fun a b => a = true → b = true
  written_open : ∀ x ∈ sysfsRecords w.log, x.written = true → 0 ≤ w.sysfsFd

namespace SysfsAccount

variable {pcmId : UInt32} {w w' : World}

theorem fresh (cardId : UInt32) (name : String) (dir : Direction) (fd : Int) :
    SysfsAccount pcmId ⟨DeviceObj.fresh cardId pcmId name dir, ⟨[], 0⟩, fd, []⟩ where
  pcmId_eq := rfl
  pcm := by simp
  alternate := rfl
  open_iff := by simp [DeviceObj.fresh]
  written_mono := List.Pairwise.nil
  written_open := by simp

/-- A call that adds no record, keeps the pcm id and whether the device is open. -/
theorem quiet (h : SysfsAccount pcmId w) (hq : SysfsQuiet w w')
    (hp : w'.dev.pcmId = w.dev.pcmId)
    (ho : 0 < w'.dev.refcnt.open ↔ 0 < w.dev.refcnt.open) : SysfsAccount pcmId w' where
  pcmId_eq := hp.trans h.pcmId_eq
  pcm := by rw [hq.1]; exact h.pcm
  alternate := by rw [hq.1]; exact h.alternate
  open_iff := by rw [ho, hq.1]; exact h.open_iff
  written_mono := by rw [hq.1]; exact h.written_mono
  written_open := by rw [hq.1, hq.2]; exact h.written_open

/-- A call that adds one record, `DEVICE_DISABLE` if the device was open and `DEVICE_ENABLE` if
not, and turns whether it is open. -/
theorem notified {st fd : Int} (h : SysfsAccount pcmId w) (hn : SysfsNotified w w' st fd)
    (hp : w'.dev.pcmId = w.dev.pcmId)
    (hst : st = if 0 < w.dev.refcnt.open then deviceDisable else deviceEnable)
    (ho : 0 < w'.dev.refcnt.open ↔ ¬ 0 < w.dev.refcnt.open) : SysfsAccount pcmId w' where
  pcmId_eq := hp.trans h.pcmId_eq
  pcm := by
    rw [hn.1]
    intro x hx
    rcases List.mem_append.1 hx with hx | hx
    · exact h.pcm x hx
    · rw [List.mem_singleton.1 hx, h.pcmId_eq]
  alternate := by
    have hparity := h.open_iff
    rw [hn.1, List.map_append, List.length_append, List.length_singleton, List.range_succ,
      List.map_append, h.alternate, hst]
    by_cases ho' : 0 < w.dev.refcnt.open
    · simp [alternating, ho', hparity.1 ho']
    · simp [alternating, ho', show (sysfsRecords w.log).length % 2 = 0 by omega]
  open_iff := by
    rw [ho, hn.1, List.length_append, List.length_singleton, h.open_iff]
    omega
  written_mono := by
    rw [hn.1, List.map_append, List.pairwise_append]
    refine ⟨h.written_mono, List.pairwise_singleton _ _, fun a ha b hb hat => ?_⟩
    obtain ⟨x, hx, rfl⟩ := List.mem_map.1 ha
    have hfd := h.written_open x hx hat
    simp only [List.map_cons, List.map_nil, List.mem_singleton] at hb
    simp [hb, sysfsAfter_of_nonneg hfd, hfd]
  written_open := by
    rw [hn.1, hn.2]
    intro x hx hwr
    rcases List.mem_append.1 hx with hx | hx
    · have hfd := h.written_open x hx hwr
      rwa [sysfsAfter_of_nonneg hfd]
    · rw [List.mem_singleton.1 hx] at hwr
      exact of_decide_eq_true hwr

/-- Every call that returns keeps the records accounted for, in or out of the protocol. -/
theorem call {b : Backend} {r : Int} (h : SysfsAccount pcmId w) (hw : w.dev.locked = false)
    (c : Call b) (hrun : c.run.run w = .ok (r, w')) : SysfsAccount pcmId w' := by
  cases c with
  | «open» o fd =>
    have hs := deviceOpen_sysfs o fd hw hrun
    rcases deviceOpen_cases o fd hw hrun with ⟨h0, rfl, hdev, -⟩ | ⟨h0, rfl, -, hdev⟩ |
      ⟨h0, hr, hdev, -⟩
    · rw [if_neg fun h' => h0 h'.1] at hs
      exact h.quiet hs (by rw [hdev]) (by rw [hdev]; simp only [incOpen]; omega)
    · rw [if_pos ⟨h0, rfl⟩] at hs
      exact h.notified hs (by rw [hdev]) (by simp [h0]) (by rw [hdev]; simp [incOpen, h0])
    · rw [if_neg fun h' => hr h'.2] at hs
      exact h.quiet hs (by rw [hdev]) (by rw [hdev])
  | prepare ret =>
    have hk := devicePrepare_keepsOpen ret hw hrun
    exact h.quiet (devicePrepare_sysfs ret hw hrun) hk.pcmId (by rw [hk.open])
  | start =>
    have hk := deviceStart_keepsOpen hw hrun
    exact h.quiet (deviceStart_sysfs hw hrun) hk.pcmId (by rw [hk.open])
  | stop ret =>
    have hk := deviceStop_keepsOpen ret hw hrun
    exact h.quiet (deviceStop_sysfs ret hw hrun) hk.pcmId (by rw [hk.open])
  | close ret fd =>
    have hs := deviceClose_sysfs ret fd hw hrun
    rcases deviceClose_cases ret fd hw hrun with ⟨h1, -, -, -, -, hdev, -⟩ | ⟨h1, -, -, hdev⟩
    · rw [if_pos h1] at hs
      exact h.notified hs (by rw [hdev]) (by simp [h1]) (by rw [hdev, h1]; simp)
    · rw [if_neg h1] at hs
      exact h.quiet hs (by rw [hdev]) (by rw [hdev]; simp only; omega)
  | setMediaConfig cfg =>
    rw [Call.run, deviceSetMediaConfig_run] at hrun
    cases hrun
    exact h.quiet ⟨rfl, rfl⟩ rfl Iff.rfl

end SysfsAccount

/-- Over every sequence of calls on the object discovery created, in or out of the protocol and
with every answer of the driver and of `open(SYSFS_FD_PATH)`, the records the device sends the
`aud_dev` node carry its `pcm_id` and alternate `DEVICE_ENABLE`, `DEVICE_DISABLE`, ... from
`DEVICE_ENABLE`; the last one is `DEVICE_ENABLE` exactly while `refcnt.open` is positive; and
after one record has reached the node, every later one does. -/
theorem sysfs_tracks_open {b : Backend} {cardId pcmId : UInt32} {name : String}
    {dir : Direction} {fd : Int} {w : World}
    (h : Relation.ReflTransGen (CallStep b)
      ⟨DeviceObj.fresh cardId pcmId name dir, ⟨[], 0⟩, fd, []⟩ w) :
    (∀ x ∈ sysfsRecords w.log, x.pcmId = toInt8 pcmId) ∧
    (sysfsRecords w.log).map SysfsRecord.state =
      (List.range (sysfsRecords w.log).length).map alternating ∧
    (0 < w.dev.refcnt.open ↔ (sysfsRecords w.log).length % 2 = 1) ∧
    ((sysfsRecords w.log).map SysfsRecord.written).Pairwise fun a b => a = true → b = true := by
  obtain ⟨-, hA⟩ := CallStep.run_invariant rfl (SysfsAccount.fresh cardId name dir fd)
    (fun c hw hA hrun => hA.call hw c hrun) h
  exact ⟨hA.pcm, hA.alternate, hA.open_iff, hA.written_mono⟩

/-- An open while the node cannot be opened, its close once it can, and a second open: the first
record is lost, the next two are written. -/
theorem sysfs_tracks_open_reopen :
    ∃ w, Relation.ReflTransGen (CallStep .tinyalsa)
        ⟨DeviceObj.fresh 0 7 "" .output, ⟨[], 0⟩, -1, []⟩ w ∧
      sysfsRecords w.log = [⟨7, 1, false⟩, ⟨7, 0, true⟩, ⟨7, 1, true⟩] ∧
      ((∀ x ∈ sysfsRecords w.log, x.pcmId = toInt8 7) ∧
        (sysfsRecords w.log).map SysfsRecord.state =
          (List.range (sysfsRecords w.log).length).map alternating ∧
        (0 < w.dev.refcnt.open ↔ (sysfsRecords w.log).length % 2 = 1) ∧
        ((sysfsRecords w.log).map SysfsRecord.written).Pairwise fun a b => a = true → b = true) := by
  have h₁ := Relation.ReflTransGen.single (show CallStep .tinyalsa
    ⟨DeviceObj.fresh 0 7 "" .output, ⟨[], 0⟩, -1, []⟩ _ from
    ⟨.setMediaConfig ⟨48000, 2, .pcmS16Le, 0⟩, 0, rfl⟩)
  have h₂ := h₁.tail (show CallStep .tinyalsa _ _ from ⟨.open (.tinyalsa .ready) (-1), 0, rfl⟩)
  have h₃ := h₂.tail (show CallStep .tinyalsa _ _ from ⟨.close ⟨0, le_refl 0⟩ 3, 0, rfl⟩)
  have h₄ := h₃.tail (show CallStep .tinyalsa _ _ from ⟨.open (.tinyalsa .ready) (-1), 0, rfl⟩)
  exact ⟨_, h₄, rfl, sysfs_tracks_open h₄⟩

end Agm
