import AgmDevice.Lifecycle

/-
Clients sharing one device object, and the refcount invariant.

Each client of a device object follows the caller protocol: `device_open`; `device_prepare` once
its open succeeded; `device_start` once its prepare succeeded; `device_stop` once its start
succeeded; and one `device_close`, after stopping if it started (`device_set_media_config` is
allowed at any time). A run interleaves such calls of any number of clients, each call with any
answers of the driver. Every lifecycle operation holds the object's lock over its whole body, so
the calls of a run on one object happen one after the other.

* `Step` — one client makes one call the protocol allows;
* `DevInv` — the device-side invariant: the state is determined by the three counters, and
  while the device is open its handle is live; `DevInv.openShared`, ... — one lemma per
  transition of the inversion lemmas;
* `SysInv` — `DevInv`, and the counters count the clients holding an open and a start;
* `reachable_sysInv` — every state a run reaches satisfies `SysInv`; `reachable_refcnt_bounds` —
  the bound that keeps the counters in the range of an `int`;
* `refcount_invariant` — the refcount invariant of the device object over every run.
-/

namespace Agm

/-- A client's place in the caller protocol. -/
inductive Phase
  | idle
  | opened
  | prepared
  | started
  deriving DecidableEq, Repr

/-- The client holds a successful `device_open`. -/
@[simp] def Phase.holdsOpen : Phase → Bool
  | .idle => false
  | .opened => true
  | .prepared => true
  | .started => true

/-- The client holds a successful `device_start`. -/
@[simp] def Phase.holdsStart : Phase → Bool
  | .idle => false
  | .opened => false
  | .prepared => false
  | .started => true

/-- The protocol: the phase a call that returned `r` leaves a client in; `none` where the
protocol does not allow the call. -/
def Phase.after {b : Backend} : Phase → Call b → Int → Option Phase
  | .idle, .open _ _, r => some (if r = 0 then .opened else .idle)
  | .opened, .prepare _, r => some (if r = 0 then .prepared else .opened)
  | .prepared, .start, r => some (if r = 0 then .started else .prepared)
  | .started, .stop _, _ => some .prepared
  | .opened, .close _ _, _ => some .idle
  | .prepared, .close _ _, _ => some .idle
  | ph, .setMediaConfig _, _ => some ph
  | _, _, _ => none

/-- The device object's world and the phase of each client. -/
structure Sys where
  world : World
  clients : List Phase

/-- The device object of a system. -/
def Sys.dev (s : Sys) : DeviceObj := s.world.dev

/-- One step of a run: client `i` makes a call the protocol allows, which returns. -/
inductive Step (b : Backend) : Sys → Sys → Prop
  | call {s : Sys} {i : Nat} {c : Call b} {r : Int} {w' : World} {ph : Phase}
      (hi : i < s.clients.length) (hrun : c.run.run s.world = .ok (r, w'))
      (hph : s.clients[i].after c r = some ph) :
      Step b s ⟨w', s.clients.set i ph⟩

/-- `n` clients that have not called yet, on the object `d`. -/
def Sys.init (d : DeviceObj) (fd : Int) (n : Nat) : Sys :=
  ⟨⟨d, ⟨[], 0⟩, fd, []⟩, List.replicate n .idle⟩

/-- The states the runs from `s₀` reach. -/
def Reachable (b : Backend) (s₀ s : Sys) : Prop := Relation.ReflTransGen (Step b) s₀ s

/-- A run of two clients on a tinyalsa device: a configuration, both open (the second takes the
shared path), and the first prepares and starts. -/
theorem two_clients_run :
    ∃ s, Reachable .tinyalsa (Sys.init (DeviceObj.fresh 0 0 "PRI_MI2S_RX" .output) (-1) 2) s ∧
      s.clients = [.started, .opened] := by
  have h₁ := Relation.ReflTransGen.single (Step.call (b := .tinyalsa)
    (s := Sys.init (DeviceObj.fresh 0 0 "PRI_MI2S_RX" .output) (-1) 2) (i := 0)
    (c := .setMediaConfig ⟨48000, 2, .pcmS16Le, 0⟩) (by decide) rfl rfl)
  have h₂ := h₁.tail (Step.call (i := 0) (c := .open (.tinyalsa .ready) (-1)) (by decide) rfl rfl)
  have h₃ := h₂.tail (Step.call (i := 1) (c := .open (.tinyalsa .ready) (-1)) (by decide) rfl rfl)
  have h₄ := h₃.tail (Step.call (i := 0) (c := .prepare ⟨0, le_rfl⟩) (by decide) rfl rfl)
  exact ⟨_, h₄.tail (Step.call (i := 0) (c := .start) (by decide) rfl rfl), rfl⟩

/-! ### The device-side invariant -/

/-- The device-side invariant of a run, over the object and the driver's live handles. -/
structure DevInv (d : DeviceObj) (live : List Pcm) : Prop where
  unlocked : d.locked = false
  start_nonneg : 0 ≤ d.refcnt.start
  start_le_open : d.refcnt.start ≤ d.refcnt.open
  prepare_nonneg : 0 ≤ d.refcnt.prepare
  of_open_zero : d.refcnt.open = 0 → d.refcnt.prepare = 0 ∧ d.state = .closed
  open_zero_of_closed : d.state = .closed → d.refcnt.open = 0
  start_pos_iff : 0 < d.refcnt.start ↔ d.state = .started
  prepare_pos_iff :
    0 < d.refcnt.prepare ↔ d.state = .prepared ∨ d.state = .started ∨ d.state = .stopped
  handle_live : 0 < d.refcnt.open → ∃ p, d.pcm = some p ∧ p ∈ live

namespace DevInv

variable {d : DeviceObj} {live : List Pcm}

theorem fresh (cardId pcmId : UInt32) (name : String) (dir : Direction) (live : List Pcm) :
    DevInv (DeviceObj.fresh cardId pcmId name dir) live := by
  constructor <;> simp [DeviceObj.fresh]

theorem config (h : DevInv d live) (cfg : AgmMediaConfig) :
    DevInv { d with mediaConfig := cfg } live := by
  obtain ⟨⟩ := h; constructor <;> assumption

theorem openShared (h : DevInv d live) (h0 : d.refcnt.open ≠ 0) :
    DevInv { d with refcnt := incOpen d.refcnt } live where
  unlocked := h.unlocked
  start_nonneg := h.start_nonneg
  start_le_open := by have := h.start_le_open; simp only [incOpen]; omega
  prepare_nonneg := h.prepare_nonneg
  of_open_zero := by have := h.start_nonneg; have := h.start_le_open; simp only [incOpen]; omega
  open_zero_of_closed hc := absurd (h.open_zero_of_closed hc) h0
  start_pos_iff := h.start_pos_iff
  prepare_pos_iff := h.prepare_pos_iff
  handle_live _ := h.handle_live (by have := h.start_nonneg; have := h.start_le_open; omega)

theorem openReal (h : DevInv d live) (h0 : d.refcnt.open = 0) (p : Pcm) :
    DevInv { d with pcm := some p, state := .opened, refcnt := incOpen d.refcnt } (p :: live) where
  unlocked := h.unlocked
  start_nonneg := h.start_nonneg
  start_le_open := by have := h.start_le_open; simp only [incOpen]; omega
  prepare_nonneg := h.prepare_nonneg
  of_open_zero := by simp only [incOpen]; omega
  open_zero_of_closed := by simp
  start_pos_iff := by have := h.start_nonneg; have := h.start_le_open; simp [incOpen]; omega
  prepare_pos_iff := by simp [incOpen, (h.of_open_zero h0).1]
  handle_live _ := ⟨p, rfl, List.mem_cons_self p live⟩

theorem grow (h : DevInv d live) (hl : live ⊆ live') : DevInv d live' :=
  { h with handle_live := fun ho => (h.handle_live ho).imp fun _ hp => ⟨hp.1, hl hp.2⟩ }

theorem prepareShared (h : DevInv d live) (h0 : d.refcnt.prepare ≠ 0) :
    DevInv { d with refcnt := { d.refcnt with prepare := d.refcnt.prepare + 1 } } live where
  unlocked := h.unlocked
  start_nonneg := h.start_nonneg
  start_le_open := h.start_le_open
  prepare_nonneg := by have := h.prepare_nonneg; simp only; omega
  of_open_zero ho := absurd (h.of_open_zero ho).1 h0
  open_zero_of_closed := h.open_zero_of_closed
  start_pos_iff := h.start_pos_iff
  prepare_pos_iff := by have := h.prepare_nonneg; rw [← h.prepare_pos_iff]; simp only; omega
  handle_live := h.handle_live

theorem prepareReal (h : DevInv d live) (h0 : d.refcnt.prepare = 0) (ho : 0 < d.refcnt.open) :
    DevInv { d with
      state := .prepared, refcnt := { d.refcnt with prepare := d.refcnt.prepare + 1 } } live where
  unlocked := h.unlocked
  start_nonneg := h.start_nonneg
  start_le_open := h.start_le_open
  prepare_nonneg := by simp only; omega
  of_open_zero := by simp only; omega
  open_zero_of_closed := by simp
  start_pos_iff := by
    have hns : d.state ≠ .started := fun hs => by have := h.prepare_pos_iff.2 (.inr (.inl hs)); omega
    simpa [hns] using h.start_pos_iff
  prepare_pos_iff := by simp only; simp; omega
  handle_live := h.handle_live

theorem startFirst (h : DevInv d live) (hp : ¬ d.state.val < DeviceState.prepared.val)
    (h0 : d.refcnt.start = 0) (ho : 0 < d.refcnt.open) :
    DevInv { d with
      state := .started, refcnt := { d.refcnt with start := d.refcnt.start + 1 } } live where
  unlocked := h.unlocked
  start_nonneg := by simp only; omega
  start_le_open := by simp only; omega
  prepare_nonneg := h.prepare_nonneg
  of_open_zero := by simp only; omega
  open_zero_of_closed := by simp
  start_pos_iff := by simp only; simp; omega
  prepare_pos_iff := by
    have : 0 < d.refcnt.prepare :=
      h.prepare_pos_iff.2 (by cases hs : d.state <;> simp_all [DeviceState.val])
    simp only; simpa using this
  handle_live := h.handle_live

theorem startShared (h : DevInv d live) (h0 : d.refcnt.start ≠ 0)
    (ho : d.refcnt.start < d.refcnt.open) :
    DevInv { d with refcnt := { d.refcnt with start := d.refcnt.start + 1 } } live where
  unlocked := h.unlocked
  start_nonneg := by have := h.start_nonneg; simp only; omega
  start_le_open := by simp only; omega
  prepare_nonneg := h.prepare_nonneg
  of_open_zero := by have := h.start_nonneg; simp only; omega
  open_zero_of_closed := h.open_zero_of_closed
  start_pos_iff := by
    have := h.start_nonneg
    rw [← h.start_pos_iff]; simp only; omega
  prepare_pos_iff := h.prepare_pos_iff
  handle_live := h.handle_live

theorem stopLast (h : DevInv d live) (h0 : d.refcnt.start = 1) :
    DevInv { d with state := .stopped, refcnt := { d.refcnt with start := 0 } } live where
  unlocked := h.unlocked
  start_nonneg := le_rfl
  start_le_open := by have := h.start_le_open; simp only; omega
  prepare_nonneg := h.prepare_nonneg
  of_open_zero := by have := h.start_le_open; simp only; omega
  open_zero_of_closed := by simp
  start_pos_iff := by simp
  prepare_pos_iff := by
    have := h.prepare_pos_iff.2 (.inr (.inl (h.start_pos_iff.1 (by omega))))
    simpa using this
  handle_live := h.handle_live

theorem stopShared (h : DevInv d live) (h0 : d.refcnt.start ≠ 0) (h1 : d.refcnt.start ≠ 1) :
    DevInv { d with refcnt := { d.refcnt with start := d.refcnt.start - 1 } } live where
  unlocked := h.unlocked
  start_nonneg := by have := h.start_nonneg; simp only; omega
  start_le_open := by have := h.start_le_open; simp only; omega
  prepare_nonneg := h.prepare_nonneg
  of_open_zero := h.of_open_zero
  open_zero_of_closed := h.open_zero_of_closed
  start_pos_iff := by
    have := h.start_nonneg
    rw [← h.start_pos_iff]; simp only; omega
  prepare_pos_iff := h.prepare_pos_iff
  handle_live := h.handle_live

theorem closeLast (h : DevInv d live) (live' : List Pcm) :
    DevInv { d with state := .closed, refcnt := ⟨0, 0, 0⟩ } live' := by
  constructor <;> simp [h.unlocked]

theorem closeShared (h : DevInv d live) (h0 : d.refcnt.open ≠ 1)
    (hs : d.refcnt.start < d.refcnt.open) :
    DevInv { d with refcnt := { d.refcnt with «open» := d.refcnt.open - 1 } } live where
  unlocked := h.unlocked
  start_nonneg := h.start_nonneg
  start_le_open := by simp only; omega
  prepare_nonneg := h.prepare_nonneg
  of_open_zero := by have := h.start_nonneg; simp only; omega
  open_zero_of_closed hc := by have := h.open_zero_of_closed hc; have := h.start_nonneg; omega
  start_pos_iff := h.start_pos_iff
  prepare_pos_iff := h.prepare_pos_iff
  handle_live _ := h.handle_live (by have := h.start_nonneg; omega)

end DevInv

/-! ### The invariant of a run -/

@[simp] theorem Sys.dev_mk (w : World) (cs : List Phase) : (Sys.mk w cs).dev = w.dev := rfl

/-- The count of clients in a phase after one client moves from `a` to `b`. -/
theorem countP_set_phase (p : Phase → Bool) {cs : List Phase} {i : Nat} (hi : i < cs.length)
    {a : Phase} (ha : cs[i] = a) (b : Phase) :
    ((cs.set i b).countP p : Int) = cs.countP p - (p a).toNat + (p b).toNat := by
  rw [List.countP_set p cs i b hi]
  have := List.boole_getElem_le_countP p cs i hi
  rw [ha] at this ⊢
  cases hpa : p a <;> cases hpb : p b <;>
    simp only [hpa, hpb, Bool.false_eq_true, if_false, if_true, Bool.toNat_false,
      Bool.toNat_true] at this ⊢ <;>
    omega

/-- Every client holding a start holds an open. -/
theorem countP_holdsStart_le (cs : List Phase) :
    cs.countP Phase.holdsStart ≤ cs.countP Phase.holdsOpen :=
  List.countP_mono_left fun x _ => by cases x <;> simp [Phase.holdsStart, Phase.holdsOpen]

/-- A client holding an open but no start leaves more holders of an open than of a start. -/
theorem countP_holdsStart_lt {cs : List Phase} {i : Nat} (hi : i < cs.length)
    (ho : cs[i].holdsOpen) (ht : cs[i].holdsStart = false) :
    (cs.countP Phase.holdsStart : Int) < cs.countP Phase.holdsOpen := by
  have hO := countP_set_phase Phase.holdsOpen hi rfl .idle
  have hT := countP_set_phase Phase.holdsStart hi rfl .idle
  have := countP_holdsStart_le (cs.set i .idle)
  rw [ho] at hO
  rw [ht] at hT
  simp at hO hT
  omega

/-- A client in a phase that holds an open makes the open count positive. -/
theorem countP_pos_of_getElem (p : Phase → Bool) {cs : List Phase} {i : Nat} (hi : i < cs.length)
    (h : p cs[i]) : (0 : Int) < cs.countP p := by
  exact_mod_cast List.countP_pos_iff.2 ⟨cs[i], List.getElem_mem hi, h⟩

/-- The invariant of a run: the device-side invariant, and the counters count the clients. -/
structure SysInv (s : Sys) : Prop where
  dev : DevInv s.dev s.world.drv.live
  open_eq : s.dev.refcnt.open = s.clients.countP Phase.holdsOpen
  start_eq : s.dev.refcnt.start = s.clients.countP Phase.holdsStart

theorem SysInv.init (cardId pcmId : UInt32) (name : String) (dir : Direction) (fd : Int)
    (n : Nat) : SysInv (Sys.init (DeviceObj.fresh cardId pcmId name dir) fd n) where
  dev := DevInv.fresh cardId pcmId name dir []
  open_eq := by simp [Sys.init, DeviceObj.fresh, List.countP_replicate, Phase.holdsOpen]
  start_eq := by simp [Sys.init, DeviceObj.fresh, List.countP_replicate, Phase.holdsStart]

section Step

variable {b : Backend} {w w' : World} {cs : List Phase} {i : Nat} {r : Int}

theorem SysInv.step_open (hI : SysInv ⟨w, cs⟩) (hi : i < cs.length) (hp : cs[i] = .idle)
    (o : OpenOutcome b) (fd : Int) (hrun : (deviceOpen o fd).run w = .ok (r, w')) :
    SysInv ⟨w', cs.set i (if r = 0 then .opened else .idle)⟩ := by
  have hO := countP_set_phase Phase.holdsOpen hi hp
  have hT := countP_set_phase Phase.holdsStart hi hp
  obtain ⟨hD, ho, ht⟩ := hI
  simp only [Sys.dev_mk] at hD ho ht
  rcases deviceOpen_cases o fd hD.unlocked hrun with
    ⟨h0, rfl, hd, hdrv⟩ | ⟨h0, rfl, hdrv, hd⟩ | ⟨h0, hr, hd, hdrv⟩
  · refine ⟨?_, ?_, ?_⟩ <;> simp only [Sys.dev_mk, hd, hdrv, if_true, hO, hT]
    · exact hD.openShared h0
    all_goals simp [incOpen, Phase.holdsOpen, Phase.holdsStart, ho, ht]
  · refine ⟨?_, ?_, ?_⟩ <;> simp only [Sys.dev_mk, hd, hdrv, if_true, hO, hT]
    · exact hD.openReal h0 _
    all_goals simp [incOpen, Phase.holdsOpen, Phase.holdsStart, ho, ht]
  · refine ⟨?_, ?_, ?_⟩ <;> simp only [Sys.dev_mk, hd, hr, if_false, hO, hT]
    · rcases hdrv with hdrv | hdrv <;> rw [hdrv]
      · exact hD
      · exact hD.grow (List.subset_cons_self _ _)
    all_goals simp [Phase.holdsOpen, Phase.holdsStart, ho, ht]

theorem SysInv.step_prepare (hI : SysInv ⟨w, cs⟩) (hi : i < cs.length) (hp : cs[i] = .opened)
    (ret : DriverRet) (hrun : (devicePrepare ret).run w = .ok (r, w')) :
    SysInv ⟨w', cs.set i (if r = 0 then .prepared else .opened)⟩ := by
  have hO := countP_set_phase Phase.holdsOpen hi hp
  have hT := countP_set_phase Phase.holdsStart hi hp
  have hpos := countP_pos_of_getElem Phase.holdsOpen hi (by simp [hp, Phase.holdsOpen])
  obtain ⟨hD, ho, ht⟩ := hI
  simp only [Sys.dev_mk] at hD ho ht
  obtain ⟨hdrv, ⟨h0, rfl, hd⟩ | ⟨h0, -, ⟨rfl, hd⟩ | ⟨hr, hd⟩⟩⟩ :=
    devicePrepare_cases ret hD.unlocked hrun
  · refine ⟨?_, ?_, ?_⟩ <;> simp only [Sys.dev_mk, hd, hdrv, if_true, hO, hT]
    · exact hD.prepareShared h0
    all_goals simp [Phase.holdsOpen, Phase.holdsStart, ho, ht]
  · refine ⟨?_, ?_, ?_⟩ <;> simp only [Sys.dev_mk, hd, hdrv, if_true, hO, hT]
    · exact hD.prepareReal h0 (ho ▸ hpos)
    all_goals simp [Phase.holdsOpen, Phase.holdsStart, ho, ht]
  · refine ⟨?_, ?_, ?_⟩ <;> simp only [Sys.dev_mk, hd, hdrv, hr, if_false, hO, hT]
    · exact hD
    all_goals simp [Phase.holdsOpen, Phase.holdsStart, ho, ht]

theorem SysInv.step_start (hI : SysInv ⟨w, cs⟩) (hi : i < cs.length) (hp : cs[i] = .prepared)
    (hrun : deviceStart.run w = .ok (r, w')) :
    SysInv ⟨w', cs.set i (if r = 0 then .started else .prepared)⟩ := by
  have hO := countP_set_phase Phase.holdsOpen hi hp
  have hT := countP_set_phase Phase.holdsStart hi hp
  have hpos := countP_pos_of_getElem Phase.holdsOpen hi (by simp [hp, Phase.holdsOpen])
  have hlt := countP_holdsStart_lt hi (by simp [hp, Phase.holdsOpen]) (by simp [hp, Phase.holdsStart])
  obtain ⟨hD, ho, ht⟩ := hI
  simp only [Sys.dev_mk] at hD ho ht
  obtain ⟨hdrv, ⟨h0, hr, hd⟩ | ⟨h0, h1, rfl, hd⟩ | ⟨h0, h1, rfl, hd⟩⟩ :=
    deviceStart_cases hD.unlocked hrun
  · refine ⟨?_, ?_, ?_⟩ <;> simp only [Sys.dev_mk, hd, hdrv, hr, if_false, hO, hT]
    · exact hD
    all_goals simp [Phase.holdsOpen, Phase.holdsStart, ho, ht]
  · refine ⟨?_, ?_, ?_⟩ <;> simp only [Sys.dev_mk, hd, hdrv, if_true, hO, hT]
    · exact hD.startFirst h0 h1 (ho ▸ hpos)
    all_goals simp [Phase.holdsOpen, Phase.holdsStart, ho, ht]
  · refine ⟨?_, ?_, ?_⟩ <;> simp only [Sys.dev_mk, hd, hdrv, if_true, hO, hT]
    · exact hD.startShared h1 (by rw [ho, ht]; exact hlt)
    all_goals simp [Phase.holdsOpen, Phase.holdsStart, ho, ht]

theorem SysInv.step_stop (hI : SysInv ⟨w, cs⟩) (hi : i < cs.length) (hp : cs[i] = .started)
    (ret : DriverRet) (hrun : (deviceStop ret).run w = .ok (r, w')) :
    SysInv ⟨w', cs.set i .prepared⟩ := by
  have hO := countP_set_phase Phase.holdsOpen hi hp .prepared
  have hT := countP_set_phase Phase.holdsStart hi hp .prepared
  have hpos := countP_pos_of_getElem Phase.holdsStart hi (by simp [hp, Phase.holdsStart])
  obtain ⟨hD, ho, ht⟩ := hI
  simp only [Sys.dev_mk] at hD ho ht
  obtain ⟨hdrv, ⟨h0, -, hd⟩ | ⟨h0, -, -, hd⟩ | ⟨h0, h1, -, hd⟩⟩ :=
    deviceStop_cases ret hD.unlocked hrun
  · omega
  · refine ⟨?_, ?_, ?_⟩ <;> simp only [Sys.dev_mk, hd, hdrv, hO, hT]
    · exact hD.stopLast h0
    all_goals simp [Phase.holdsOpen, Phase.holdsStart, ho, ← ht, h0]
  · refine ⟨?_, ?_, ?_⟩ <;> simp only [Sys.dev_mk, hd, hdrv, hO, hT]
    · exact hD.stopShared h0 h1
    all_goals simp [Phase.holdsOpen, Phase.holdsStart, ho, ht]

theorem SysInv.step_close (hI : SysInv ⟨w, cs⟩) (hi : i < cs.length)
    (hp : cs[i] = .opened ∨ cs[i] = .prepared) (ret : DriverRet) (fd : Int)
    (hrun : (deviceClose ret fd).run w = .ok (r, w')) :
    SysInv ⟨w', cs.set i .idle⟩ := by
  have hph : cs[i].holdsOpen ∧ cs[i].holdsStart = false := by
    rcases hp with hp | hp <;> simp [hp, Phase.holdsOpen, Phase.holdsStart]
  have hO := countP_set_phase Phase.holdsOpen hi rfl .idle
  have hT := countP_set_phase Phase.holdsStart hi rfl .idle
  have hlt := countP_holdsStart_lt hi hph.1 hph.2
  rw [hph.1] at hO
  rw [hph.2] at hT
  simp at hO hT
  obtain ⟨hD, ho, ht⟩ := hI
  simp only [Sys.dev_mk] at hD ho ht
  rcases deviceClose_cases ret fd hD.unlocked hrun with
    ⟨h0, p, -, -, -, hd, hdrv⟩ | ⟨h0, -, hdrv, hd⟩
  · refine ⟨?_, ?_, ?_⟩ <;> simp only [Sys.dev_mk, hd, hdrv, hO, hT]
    · exact hD.closeLast _
    all_goals omega
  · refine ⟨?_, ?_, ?_⟩ <;> simp only [Sys.dev_mk, hd, hdrv, hO, hT]
    · exact hD.closeShared h0 (by omega)
    all_goals omega

theorem SysInv.step_config (hI : SysInv ⟨w, cs⟩) (hi : i < cs.length) (cfg : AgmMediaConfig)
    (hrun : (deviceSetMediaConfig cfg).run w = .ok (r, w')) :
    SysInv ⟨w', cs.set i cs[i]⟩ := by
  rw [deviceSetMediaConfig_run] at hrun
  cases hrun
  have hO := countP_set_phase Phase.holdsOpen hi rfl cs[i]
  have hT := countP_set_phase Phase.holdsStart hi rfl cs[i]
  obtain ⟨hD, ho, ht⟩ := hI
  exact ⟨hD.config cfg, by simp only [Sys.dev_mk] at ho ⊢; omega,
    by simp only [Sys.dev_mk] at ht ⊢; omega⟩

/-- Every step of a run keeps the invariant. -/
theorem SysInv.step {s s' : Sys} (hI : SysInv s) (hs : Step b s s') : SysInv s' := by
  cases hs with
  | call hi hrun hph =>
    rename_i i c r w' ph
    obtain ⟨w, cs⟩ := s
    generalize hp : cs[i] = p at hph
    cases c <;> cases p <;> simp only [Phase.after, Option.some.injEq, reduceCtorEq] at hph <;>
      subst hph
    case «open».idle => exact hI.step_open hi hp _ _ hrun
    case prepare.opened => exact hI.step_prepare hi hp _ hrun
    case start.prepared => exact hI.step_start hi hp hrun
    case stop.started => exact hI.step_stop hi hp _ hrun
    case close.opened => exact hI.step_close hi (.inl hp) _ _ hrun
    case close.prepared => exact hI.step_close hi (.inr hp) _ _ hrun
    all_goals rw [← hp]; exact hI.step_config hi _ hrun

end Step

/-- Every state a run reaches from the object discovery created satisfies the invariant. -/
theorem reachable_sysInv {b : Backend} {cardId pcmId : UInt32} {name : String}
    {dir : Direction} {fd : Int} {n : Nat} {s : Sys}
    (h : Reachable b (Sys.init (DeviceObj.fresh cardId pcmId name dir) fd n) s) : SysInv s := by
  induction h with
  | refl => exact SysInv.init cardId pcmId name dir fd n
  | tail _ hs ih => exact ih.step hs

/-- Over every run of protocol-following clients, `refcnt.open` and `refcnt.start` stay between
`0` and the number of clients, and `refcnt.prepare` is not negative. -/
theorem reachable_refcnt_bounds {b : Backend} {cardId pcmId : UInt32} {name : String}
    {dir : Direction} {fd : Int} {n : Nat} {s : Sys}
    (h : Reachable b (Sys.init (DeviceObj.fresh cardId pcmId name dir) fd n) s) :
    0 ≤ s.dev.refcnt.start ∧ s.dev.refcnt.start ≤ s.dev.refcnt.open ∧
      s.dev.refcnt.open ≤ s.clients.length ∧ 0 ≤ s.dev.refcnt.prepare := by
  obtain ⟨hD, ho, -⟩ := reachable_sysInv h
  have hle : (s.clients.countP Phase.holdsOpen : Int) ≤ s.clients.length :=
    Int.ofNat_le.2 (List.countP_le_length _)
  exact ⟨hD.start_nonneg, hD.start_le_open, ho ▸ hle, hD.prepare_nonneg⟩

/-! ### The refcount invariant -/

/-- The refcount invariant of a device object shared by protocol-following clients. -/
structure RefcountInvariant (s : Sys) : Prop where
  /-- `refcnt.open` counts the clients holding a successful open. -/
  open_eq : s.dev.refcnt.open = s.clients.countP Phase.holdsOpen
  /-- `refcnt.start` counts the clients holding a successful start. -/
  start_eq : s.dev.refcnt.start = s.clients.countP Phase.holdsStart
  of_open_zero : s.dev.refcnt.open = 0 →
    s.dev.refcnt.prepare = 0 ∧ s.dev.refcnt.start = 0 ∧ s.dev.state = .closed
  open_pos_of_prepare_pos : 0 < s.dev.refcnt.prepare → 0 < s.dev.refcnt.open
  start_pos_iff : 0 < s.dev.refcnt.start ↔ s.dev.state = .started
  prepared_iff : s.dev.state = .prepared ∨ s.dev.state = .started ∨ s.dev.state = .stopped ↔
    0 < s.dev.refcnt.prepare
  closed_iff : s.dev.state = .closed ↔ s.dev.refcnt.open = 0

theorem SysInv.refcountInvariant {s : Sys} (h : SysInv s) : RefcountInvariant s := by
  obtain ⟨hD, ho, ht⟩ := h
  have hz := hD.start_nonneg
  have hle := hD.start_le_open
  refine ⟨ho, ht, fun h0 => ⟨(hD.of_open_zero h0).1, by omega, (hD.of_open_zero h0).2⟩,
    fun hp => ?_, hD.start_pos_iff, hD.prepare_pos_iff.symm,
    ⟨hD.open_zero_of_closed, fun h0 => (hD.of_open_zero h0).2⟩⟩
  by_contra hn
  have h0 : s.dev.refcnt.open = 0 := by rw [ho] at hn ⊢; omega
  have := (hD.of_open_zero h0).1
  omega

/-- Over every interleaving of protocol-following clients, with every answer of the driver,
in either backend, the object discovery created keeps the refcount invariant. -/
theorem refcount_invariant {b : Backend} {cardId pcmId : UInt32} {name : String}
    {dir : Direction} {fd : Int} {n : Nat} {s : Sys}
    (h : Reachable b (Sys.init (DeviceObj.fresh cardId pcmId name dir) fd n) s) :
    RefcountInvariant s :=
  (reachable_sysInv h).refcountInvariant

theorem refcount_invariant_two_clients :
    ∃ s, Reachable .tinyalsa (Sys.init (DeviceObj.fresh 0 0 "PRI_MI2S_RX" .output) (-1) 2) s ∧
      s.clients = [.started, .opened] ∧ RefcountInvariant s :=
  let ⟨s, h, hc⟩ := two_clients_run
  ⟨s, h, hc, refcount_invariant h⟩

end Agm
