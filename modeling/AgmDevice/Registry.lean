import AgmDevice.Parse

/-
The registry of device objects and its discovery.

`device_list` and `num_audio_intfs` are globals. `parse_snd_card` counts the records of
`/proc/asound/pcm`, allocates that many slots, then parses the records again and stores an
object for each record whose probe succeeds; `device_init` retries it while it reports
`-EAGAIN`, `MAX_RETRY` attempts at most; `device_deinit` frees the objects and the array. A call
of the registry is a program in `RegM`, a state monad over `Registry` (the value of
`device_list`, `num_audio_intfs` as a `uint32_t`, the heap of device objects by address) that
stops with a `Fault` on a read through a null or freed pointer, past the end of the array, or a
second `free`.

* `Attempt` — what the environment gives one attempt: whether the listing opens, the records of
  each pass, the allocations' and the probe's outcomes;
* `parseSndCard`, `deviceInit`, `deviceDeinit`, `deviceGetObj`, `deviceGetSndCardId`;
* `Registry.devices` — the objects the registry lists;
* `parsePass_run`, `parsePass_overflow` — the parsing pass writes its objects in order while
  the array has room, and faults when it has none;
* `parseSndCard_clean`, `retryLoop_clean` — an attempt, and the retry loop, when every
  allocation succeeds and both passes read the same records.
-/

namespace Agm

/-- `MAX_RETRY`. -/
def maxRetry : Nat := 100

/-- A cell of the heap of device objects. -/
inductive Cell
  | live (d : DeviceObj)
  | freed
  deriving DecidableEq, Repr

/-- The value of `device_list`: `NULL`, a live array of slots (each the address of a device
object, or `NULL`), or an array `free` released while the pointer still names it. -/
inductive ListPtr
  | null
  | live (slots : List (Option Nat))
  | freed
  deriving DecidableEq, Repr

/-- `device_list`, `num_audio_intfs`, and the heap of device objects. -/
structure Registry where
  list : ListPtr
  num : UInt32
  objs : List Cell
  deriving DecidableEq, Repr

/-- The globals at start: static storage is zero. -/
def Registry.init : Registry := ⟨.null, 0, []⟩

/-- A call of the registry. -/
abbrev RegM := StateT Registry (Except Fault)

/-! ### Primitives -/

/-- `calloc(1, sizeof(struct device_obj))` returning an object: a fresh address. -/
def allocObj (d : DeviceObj) : RegM Nat := fun r =>
  .ok (r.objs.length, { r with objs := r.objs ++ [.live d] })

/-- `free(dev_obj)`. -/
def freeObj (a : Nat) : RegM Unit := fun r =>
  match r.objs[a]? with
  | some (.live _) => .ok ((), { r with objs := r.objs.set a .freed })
  | some .freed => .error .doubleFree
  | none => .error .outOfBounds

/-- `*dev_obj` for the pointer in a slot. -/
def readObj (s : Option Nat) : RegM DeviceObj := fun r =>
  match s with
  | none => .error .nullDeref
  | some a =>
    match r.objs[a]? with
    | some (.live d) => .ok (d, r)
    | _ => .error .useAfterFree

/-- `device_list[i]`. -/
def readSlot (i : Nat) : RegM (Option Nat) := fun r =>
  match r.list with
  | .null => .error .nullDeref
  | .freed => .error .useAfterFree
  | .live slots => if h : i < slots.length then .ok (slots[i], r) else .error .outOfBounds

/-- `device_list[i] = v`. -/
def writeSlot (i : Nat) (v : Option Nat) : RegM Unit := fun r =>
  match r.list with
  | .null => .error .nullDeref
  | .freed => .error .useAfterFree
  | .live slots =>
    if i < slots.length then .ok ((), { r with list := .live (slots.set i v) })
    else .error .outOfBounds

/-- `free(device_list)`; `free(NULL)` does nothing. -/
def freeList : RegM Unit := fun r =>
  match r.list with
  | .null => .ok ((), r)
  | .live _ => .ok ((), { r with list := .freed })
  | .freed => .error .doubleFree

/-! ### Discovery -/

/-- A record of the parsing pass, with what the environment answers for it. -/
structure ParsedRecord where
  text : Record
  /-- `calloc` of its device object succeeds. -/
  alloc : Bool
  /-- `populate_device_hw_ep_info`: the direction it fills in, or `none` when it fails. -/
  probe : Option Direction
  deriving DecidableEq, Repr

/-- What the environment gives one call of `parse_snd_card`. -/
structure Attempt where
  /-- `fopen(PCM_DEVICE_FILE, "r")` succeeds. -/
  opens : Bool
  /-- The records the counting pass reads. -/
  counted : List Record
  /-- `calloc` of `device_list` succeeds. -/
  listAlloc : Bool
  /-- The records the parsing pass reads, after `rewind`. -/
  parsed : List ParsedRecord
  deriving DecidableEq, Repr

/-- The counting pass: `num_audio_intfs++` for each record. -/
def countPass (n : UInt32) : List Record → UInt32
  | [] => n
  | _ :: rs => countPass (n + 1) rs

/-- The parsing pass, storing from slot `count` on; `none` when the `calloc` of an object fails.
A record whose probe fails gets an object that is freed unread. -/
def parsePass (count : UInt32) : List ParsedRecord → RegM (Option UInt32)
  | [] => pure (some count)
  | p :: ps =>
    if p.alloc then do
      let a ← allocObj (deviceOfRecord p.text (p.probe.getD .output))
      match p.probe with
      | none =>
        freeObj a
        parsePass count ps
      | some _ =>
        writeSlot count.toNat (some a)
        parsePass (count + 1) ps
    else pure none

/-- The loop of `free_device:` over the slots `i, ..., i + k - 1`. -/
def freeSlots : Nat → Nat → RegM Unit
  | _, 0 => pure ()
  | i, k + 1 => do
    match ← readSlot i with
    | some a => freeObj a
    | none => pure ()
    freeSlots (i + 1) k

/-- `free_device:`: the objects of the first `num_audio_intfs` slots, then the array. -/
def freeDevices : RegM Unit := do
  freeSlots 0 (← get).num.toNat
  freeList

/-- `parse_snd_card`. -/
def parseSndCard (a : Attempt) : RegM Int :=
  if !a.opens then pure (-enodev) else do
    modify fun r => { r with num := countPass r.num a.counted }
    if !a.listAlloc then do
      modify fun r => { r with list := .null }
      pure (-enomem)
    else do
      modify fun r => { r with list := .live (List.replicate r.num.toNat none) }
      match ← parsePass 0 a.parsed with
      | none => do
        freeDevices
        pure (-enomem)
      | some count =>
        if count = 0 then do
          freeDevices
          pure (-eagain)
        else do
          modify fun r => { r with num := count }
          pure 0

/-- The `do ... while (retries > 0)` loop of `device_init` from attempt `k`, with `n + 1`
retries left. -/
def retryLoop (env : Nat → Attempt) (k : Nat) : Nat → RegM Int
  | 0 => parseSndCard (env k)
  | n + 1 => do
    let ret ← parseSndCard (env k)
    if ret = -eagain then retryLoop env (k + 1) n else return ret

/-- `device_init`, where attempt `k` of discovery reads `env k`. -/
def deviceInit (env : Nat → Attempt) : RegM Int := retryLoop env 0 (maxRetry - 1)

/-- The loop of `device_deinit` over the slots `i, ..., i + k - 1`: each object is read (its
metadata and parameters are released) and freed. -/
def deinitSlots : Nat → Nat → RegM Unit
  | _, 0 => pure ()
  | i, k + 1 => do
    let s ← readSlot i
    let _ ← readObj s
    match s with
    | some a => freeObj a
    | none => pure ()
    deinitSlots (i + 1) k

/-- `device_deinit`: the objects, then the array; `num_audio_intfs` is left as it is. -/
def deviceDeinit : RegM Unit := do
  deinitSlots 0 (← get).num.toNat
  freeList
  modify fun r => { r with list := .null }

/-- `device_get_obj`: the return value, and the pointer stored in `*dev_obj` (`none`: nothing
is stored). -/
def deviceGetObj (idx : UInt32) : RegM (Int × Option (Option Nat)) := do
  if idx > (← get).num then return (-einval, none)
  let s ← readSlot idx.toNat
  return (0, some s)

/-- `device_get_snd_card_id`: the `uint32_t` card number returned as an `int`. -/
def deviceGetSndCardId : RegM Int := do
  match ← readSlot 0 with
  | none => return -einval
  | some a =>
    let d ← readObj (some a)
    let c : Int := d.cardId.toNat
    return if c < 2 ^ 31 then c else c - 2 ^ 32

/-! ### What the registry lists -/

/-- The object at a slot's pointer, when it is live. -/
def resolve (objs : List Cell) : Option Nat → Option DeviceObj
  | some a =>
    match objs[a]? with
    | some (.live d) => some d
    | _ => none
  | none => none

/-- The objects at a list of slots, when all are live. -/
def resolveAll (objs : List Cell) : List (Option Nat) → Option (List DeviceObj)
  | [] => some []
  | s :: ss => (resolve objs s).bind fun d => (resolveAll objs ss).map (d :: ·)

/-- The devices the registry lists: the objects of its first `num_audio_intfs` slots, when the
array is live, has that many slots, and all of them hold live objects. -/
def Registry.devices (r : Registry) : Option (List DeviceObj) :=
  match r.list with
  | .live slots =>
    if r.num.toNat ≤ slots.length then resolveAll r.objs (slots.take r.num.toNat) else none
  | _ => none

/-- The objects a parsing pass stores: one for each record whose probe succeeds, in order. -/
def registered (ps : List ParsedRecord) : List DeviceObj :=
  ps.filterMap fun p => p.probe.map (deviceOfRecord p.text)

/-- Some record of the attempt passes the probe. -/
def Attempt.passes (a : Attempt) : Bool := !(registered a.parsed).isEmpty

/-- An attempt where the listing opens, both passes read the same records and every allocation
succeeds. -/
structure Attempt.Clean (a : Attempt) : Prop where
  opens : a.opens = true
  listAlloc : a.listAlloc = true
  alloc : ∀ p ∈ a.parsed, p.alloc = true
  same : a.counted = a.parsed.map ParsedRecord.text

/-! ### The primitives, run -/

section Run

variable (r : Registry)

@[simp] theorem allocObj_run (d : DeviceObj) :
    (allocObj d).run r = .ok (r.objs.length, { r with objs := r.objs ++ [.live d] }) := rfl

@[simp] theorem modify_run (f : Registry → Registry) :
    (modify f : RegM Unit).run r = .ok ((), f r) := rfl

@[simp] theorem get_run : (get : RegM Registry).run r = .ok (r, r) := rfl

@[simp] theorem regM_pure_run {α : Type} (x : α) : (pure x : RegM α).run r = .ok (x, r) := rfl

theorem writeSlot_live_run {slots : List (Option Nat)} (h : r.list = .live slots) (i : Nat)
    (v : Option Nat) :
    (writeSlot i v).run r =
      if i < slots.length then .ok ((), { r with list := .live (slots.set i v) })
      else .error .outOfBounds := by
  simp only [StateT.run, writeSlot, h]

theorem readSlot_freed_run (h : r.list = .freed) (i : Nat) :
    (readSlot i).run r = .error .useAfterFree := by
  simp only [StateT.run, readSlot, h]

theorem readSlot_live_run {slots : List (Option Nat)} (h : r.list = .live slots) {i : Nat}
    (hi : i < slots.length) : (readSlot i).run r = .ok (slots[i], r) := by
  simp only [StateT.run, readSlot, h, dif_pos hi]

end Run

/-! ### The counting pass -/

@[simp] theorem toNat_uint32_ofNat (n : Nat) : (UInt32.ofNat n).toNat = n % 2 ^ 32 := rfl

theorem add_one_add_ofNat (c : UInt32) (k : Nat) :
    c + 1 + UInt32.ofNat k = c + UInt32.ofNat (k + 1) := by
  have h1 : (1 : UInt32).toNat = 1 := rfl
  apply UInt32.ext
  simp only [UInt32.toNat_add, h1, toNat_uint32_ofNat, UInt32.size]
  omega

theorem countPass_toNat (n : UInt32) (rs : List Record) :
    (countPass n rs).toNat = (n.toNat + rs.length) % 2 ^ 32 := by
  induction rs generalizing n with
  | nil => simp [countPass, Nat.mod_eq_of_lt (UInt32.toNat_lt n)]
  | cons _ rs ih =>
    have h1 : (1 : UInt32).toNat = 1 := rfl
    rw [countPass, ih, UInt32.toNat_add, h1, List.length_cons, UInt32.size]
    omega

/-! ### The parsing pass

With every allocation succeeding, the parsing pass appends one heap cell per record (live for
a record that passes the probe) and stores the passing records' addresses in order, from slot
`count` on. -/

/-- The heap cell the parsing pass leaves for a record. -/
def cellOf (p : ParsedRecord) : Cell :=
  match p.probe with
  | none => .freed
  | some d => .live (deviceOfRecord p.text d)

/-- The addresses the parsing pass stores, when the heap has `base` cells before it. -/
def newAddrs (base : Nat) : List ParsedRecord → List Nat
  | [] => []
  | p :: ps =>
    match p.probe with
    | none => newAddrs (base + 1) ps
    | some _ => base :: newAddrs (base + 1) ps

@[simp] theorem registered_nil : registered [] = [] := rfl

theorem registered_cons_none {p : ParsedRecord} (h : p.probe = none) (ps : List ParsedRecord) :
    registered (p :: ps) = registered ps := by
  simp [registered, h]

theorem registered_cons_some {p : ParsedRecord} {d : Direction} (h : p.probe = some d)
    (ps : List ParsedRecord) :
    registered (p :: ps) = deviceOfRecord p.text d :: registered ps := by
  simp [registered, h]

theorem length_registered_le (ps : List ParsedRecord) : (registered ps).length ≤ ps.length :=
  List.length_filterMap_le _ _

theorem length_newAddrs (base : Nat) (ps : List ParsedRecord) :
    (newAddrs base ps).length = (registered ps).length := by
  induction ps generalizing base with
  | nil => rfl
  | cons p ps ih =>
    cases h : p.probe <;>
      simp [newAddrs, h, ih, registered_cons_none, registered_cons_some]

/-- The stored addresses resolve, in the heap the pass leaves, to the registered objects. -/
theorem resolveAll_newAddrs (E : List Cell) (ps : List ParsedRecord) (O : List Cell) :
    resolveAll (O ++ ps.map cellOf ++ E) ((newAddrs O.length ps).map some) =
      some (registered ps) := by
  induction ps generalizing O with
  | nil => rfl
  | cons p ps ih =>
    have hO := ih (O ++ [cellOf p])
    simp only [List.length_append, List.length_singleton, List.append_assoc,
      List.singleton_append] at hO
    cases h : p.probe with
    | none => simpa [newAddrs, h, registered_cons_none] using hO
    | some d =>
      simp only [cellOf, h, List.map_cons, List.append_assoc, List.cons_append] at hO ⊢
      have hget : (O ++ Cell.live (deviceOfRecord p.text d) :: (ps.map cellOf ++ E))[O.length]? =
          some (.live (deviceOfRecord p.text d)) := by
        rw [List.getElem?_append_right (le_refl _), Nat.sub_self, List.getElem?_cons_zero]
      simp only [newAddrs, h, List.map_cons, resolveAll, resolve, hget, Option.some_bind,
        List.append_assoc, hO, Option.map_some', registered_cons_some h]

/-! One record of the parsing pass, when its allocation succeeds: a record whose probe fails
leaves a freed cell, one that passes is stored in the first free slot, or past the end when
there is none. -/

theorem parsePass_cons_freed (r : Registry) {p : ParsedRecord} (hp : p.alloc = true)
    (h : p.probe = none) (count : UInt32) (ps : List ParsedRecord) :
    (parsePass count (p :: ps)).run r =
      (parsePass count ps).run { r with objs := r.objs ++ [.freed] } := by
  simp only [parsePass, hp, if_true, h, StateT.run_bind, allocObj_run, except_ok_bind]
  simp [StateT.run, freeObj]

theorem parsePass_cons_stored (r : Registry) {p : ParsedRecord} {d : Direction}
    (hp : p.alloc = true) (h : p.probe = some d) {count : UInt32} {pre : List (Option Nat)}
    {m : Nat} (hl : r.list = .live (pre ++ List.replicate (m + 1) none))
    (hc : count.toNat = pre.length) (ps : List ParsedRecord) :
    (parsePass count (p :: ps)).run r =
      (parsePass (count + 1) ps).run { r with
        list := .live ((pre ++ [some r.objs.length]) ++ List.replicate m none),
        objs := r.objs ++ [cellOf p] } := by
  simp only [parsePass, hp, if_true, h, cellOf, StateT.run_bind, allocObj_run, except_ok_bind]
  simp [StateT.run, writeSlot, hl, hc, List.set_append_right, List.replicate_succ]

theorem parsePass_cons_full (r : Registry) {p : ParsedRecord} {d : Direction}
    (hp : p.alloc = true) (h : p.probe = some d) {count : UInt32} {pre : List (Option Nat)}
    (hl : r.list = .live (pre ++ List.replicate 0 none)) (hc : count.toNat = pre.length)
    (ps : List ParsedRecord) : (parsePass count (p :: ps)).run r = .error .outOfBounds := by
  simp only [parsePass, hp, if_true, h, StateT.run_bind, allocObj_run, except_ok_bind]
  simp [StateT.run, writeSlot, hl, hc]

/-- The slot counter after a store, while the slots fit in a `uint32_t`. -/
theorem toNat_count_succ {count : UInt32} {pre : List (Option Nat)} (a : Option Nat)
    (hc : count.toNat = pre.length) (hw : pre.length + 1 < 2 ^ 32) :
    (count + 1).toNat = (pre ++ [a]).length := by
  have h1 : (1 : UInt32).toNat = 1 := rfl
  rw [UInt32.toNat_add, h1, hc, UInt32.size, List.length_append, List.length_singleton]
  omega

theorem parsePass_run (ps : List ParsedRecord) (hall : ∀ p ∈ ps, p.alloc = true)
    (count : UInt32) (pre : List (Option Nat)) (m : Nat) (r : Registry)
    (hl : r.list = .live (pre ++ List.replicate m none)) (hc : count.toNat = pre.length)
    (hroom : (registered ps).length ≤ m) (hw : pre.length + m < 2 ^ 32) :
    (parsePass count ps).run r =
      .ok (some (count + UInt32.ofNat (registered ps).length), { r with
        list := .live (pre ++ (newAddrs r.objs.length ps).map some ++
          List.replicate (m - (registered ps).length) none),
        objs := r.objs ++ ps.map cellOf }) := by
  induction ps generalizing count pre m r with
  | nil =>
    obtain ⟨l, n, o⟩ := r
    simp_all [parsePass, newAddrs]
  | cons p ps ih =>
    have hp := hall p (List.mem_cons_self p ps)
    have hall' := fun q hq => hall q (List.mem_cons_of_mem p hq)
    cases h : p.probe with
    | none =>
      rw [registered_cons_none h] at hroom ⊢
      rw [parsePass_cons_freed r hp h,
        ih hall' count pre m { r with objs := r.objs ++ [.freed] } hl hc hroom hw]
      simp [newAddrs, h, cellOf]
    | some d =>
      rw [registered_cons_some h] at hroom ⊢
      obtain ⟨m, rfl⟩ : ∃ m', m = m' + 1 := ⟨m - 1, by simp at hroom; omega⟩
      rw [parsePass_cons_stored r hp h hl hc, ih hall' (count + 1) _ m _ rfl
        (toNat_count_succ _ hc (by omega)) (by simp at hroom; omega) (by simp; omega)]
      simp [newAddrs, h, add_one_add_ofNat]

/-- A parsing pass that meets more passing records than free slots writes past the end. -/
theorem parsePass_overflow (ps : List ParsedRecord) (hall : ∀ p ∈ ps, p.alloc = true)
    (count : UInt32) (pre : List (Option Nat)) (m : Nat) (r : Registry)
    (hl : r.list = .live (pre ++ List.replicate m none)) (hc : count.toNat = pre.length)
    (hover : m < (registered ps).length) (hw : pre.length + m < 2 ^ 32) :
    (parsePass count ps).run r = .error .outOfBounds := by
  induction ps generalizing count pre m r with
  | nil => simp at hover
  | cons p ps ih =>
    have hp := hall p (List.mem_cons_self p ps)
    have hall' := fun q hq => hall q (List.mem_cons_of_mem p hq)
    cases h : p.probe with
    | none =>
      rw [registered_cons_none h] at hover
      rw [parsePass_cons_freed r hp h]
      exact ih hall' count pre m { r with objs := r.objs ++ [.freed] } hl hc hover hw
    | some d =>
      rw [registered_cons_some h] at hover
      cases m with
      | zero => exact parsePass_cons_full r hp h hl hc ps
      | succ m =>
        rw [parsePass_cons_stored r hp h hl hc]
        exact ih hall' (count + 1) _ m _ rfl (toNat_count_succ _ hc (by omega))
          (by simp at hover; omega) (by simp; omega)

/-- `free_device:` over slots that hold no object frees nothing. -/
theorem freeSlots_none (r : Registry) (n : Nat) (hl : r.list = .live (List.replicate n none))
    (i k : Nat) (hik : i + k ≤ n) : (freeSlots i k).run r = .ok ((), r) := by
  induction k generalizing i with
  | zero => rfl
  | succ k ih =>
    simp only [freeSlots, StateT.run_bind,
      readSlot_live_run r hl (show i < (List.replicate n none).length by simp; omega),
      except_ok_bind, List.getElem_replicate]
    exact ih (i + 1) (by omega)

/-- `free_device:` when no slot holds an object: only the array is freed. -/
theorem freeDevices_empty_run (r : Registry)
    (hl : r.list = .live (List.replicate r.num.toNat none)) :
    freeDevices.run r = .ok ((), { r with list := .freed }) := by
  simp only [freeDevices, StateT.run_bind, get_run, except_ok_bind,
    freeSlots_none r _ hl 0 _ (Nat.zero_add _).le]
  simp [StateT.run, freeList, hl]

/-- A count of stored objects that fits in a `uint32_t` is zero only when nothing was stored. -/
theorem uint32_ofNat_ne_zero {n : Nat} (h0 : 0 < n) (hn : n < 2 ^ 32) : UInt32.ofNat n ≠ 0 :=
  fun h => by
    have h' : (UInt32.ofNat n).toNat = 0 := by rw [h]; rfl
    rw [toNat_uint32_ofNat, Nat.mod_eq_of_lt hn] at h'
    omega

/-! ### One attempt, and the retry loop -/

theorem registered_eq_nil_iff {a : Attempt} : a.passes = false ↔ registered a.parsed = [] := by
  simp [Attempt.passes]

/-- The registry the parsing pass leaves once `num_audio_intfs` counts the objects it stored. -/
theorem devices_after_store (ps : List ParsedRecord) (objs : List Cell) (N : Nat)
    (hk : (registered ps).length ≤ N) (hN : N < 2 ^ 32) :
    (⟨.live ((newAddrs objs.length ps).map some ++
        List.replicate (N - (registered ps).length) none),
      UInt32.ofNat (registered ps).length, objs ++ ps.map cellOf⟩ : Registry).devices =
      some (registered ps) := by
  have hlen := length_newAddrs objs.length ps
  simp only [Registry.devices, toNat_uint32_ofNat, Nat.mod_eq_of_lt (lt_of_le_of_lt hk hN),
    List.length_append, List.length_map, List.length_replicate, hlen]
  rw [if_pos (by omega), List.take_left' (by simp [hlen])]
  simpa using resolveAll_newAddrs [] ps objs

/-- An attempt where every allocation succeeds and both passes read the same records, from a
counter that does not wrap: it reports `-EAGAIN` exactly when no record passes the probe; then
the array is freed and the counter keeps the records counted; otherwise the registry lists the
passing records' objects in order. -/
theorem parseSndCard_clean {a : Attempt} (ha : a.Clean) (r : Registry)
    (hw : r.num.toNat + a.counted.length < 2 ^ 32) :
    ∃ r', (parseSndCard a).run r = .ok (if a.passes then 0 else -eagain, r') ∧
      (a.passes → r'.num.toNat = (registered a.parsed).length ∧
        r'.devices = some (registered a.parsed)) ∧
      (a.passes = false → r'.list = .freed ∧ r'.num.toNat = r.num.toNat + a.counted.length) := by
  set N := (countPass r.num a.counted).toNat with hN
  have hN' : N = r.num.toNat + a.counted.length := by
    rw [hN, countPass_toNat, Nat.mod_eq_of_lt hw]
  have hk : (registered a.parsed).length ≤ N := by
    have := length_registered_le a.parsed
    rw [ha.same, List.length_map] at hN'
    omega
  have hpass := parsePass_run a.parsed ha.alloc 0 [] N
    { r with num := countPass r.num a.counted, list := .live (List.replicate N none) }
    (by simp) rfl hk (by simp [hN]; exact UInt32.toNat_lt _)
  simp only [parseSndCard, ha.opens, ha.listAlloc, Bool.not_true, Bool.false_eq_true, if_false,
    StateT.run_bind, modify_run, except_ok_bind, ← hN, hpass, List.nil_append, zero_add]
  have hlen := length_newAddrs r.objs.length a.parsed
  have hNlt : N < 2 ^ 32 := UInt32.toNat_lt _
  cases hp : a.passes
  · -- no record passes: `free_device:` finds every slot empty
    have hnil := registered_eq_nil_iff.1 hp
    rw [hnil, List.length_nil] at hlen
    rw [List.eq_nil_of_length_eq_zero hlen, hnil]
    have h0 : UInt32.ofNat 0 = 0 := rfl
    simp only [List.length_nil, List.map_nil, List.nil_append, Nat.sub_zero, h0, if_true,
      StateT.run_bind]
    rw [freeDevices_empty_run _ (by exact rfl)]
    exact ⟨_, rfl, by simp, fun _ => ⟨rfl, hN'⟩⟩
  · -- some record passes: the counter becomes the number stored
    have hpos : 0 < (registered a.parsed).length := by
      simpa [Attempt.passes, List.isEmpty_iff, ← List.length_pos] using hp
    have hlt : (registered a.parsed).length < 2 ^ 32 := by omega
    refine ⟨_, by simp [uint32_ofNat_ne_zero hpos hlt]; rfl, fun _ => ⟨?_, ?_⟩, by simp⟩
    · simp only [toNat_uint32_ofNat]
      omega
    exact devices_after_store _ _ N hk hNlt

/-- The records the attempts `k, ..., k + n` count, in all. -/
def countedFrom (env : Nat → Attempt) (k n : Nat) : Nat :=
  ((List.range' k (n + 1)).map fun j => (env j).counted.length).sum

@[simp] theorem countedFrom_zero (env : Nat → Attempt) (k : Nat) :
    countedFrom env k 0 = (env k).counted.length := by
  simp [countedFrom]

theorem countedFrom_succ (env : Nat → Attempt) (k n : Nat) :
    countedFrom env k (n + 1) = (env k).counted.length + countedFrom env (k + 1) n := by
  simp [countedFrom, List.range'_succ]

/-- Attempts that each count at most `m` records count at most `m` records apiece in all. -/
theorem countedFrom_le {env : Nat → Attempt} {m : Nat} (h : ∀ k, (env k).counted.length ≤ m) :
    ∀ k n, countedFrom env k n ≤ (n + 1) * m
  | k, 0 => by simpa using h k
  | k, n + 1 => by
    rw [countedFrom_succ, Nat.succ_mul, Nat.add_comm _ m]
    exact Nat.add_le_add (h k) (countedFrom_le h (k + 1) n)

/-- The retry loop over clean attempts, when no attempt that runs takes the counter past
`2 ^ 32`: attempt `k + j` runs when the attempts before it find nothing, and then
`num_audio_intfs` and the records counted up to it stay below `2 ^ 32`. The loop ends with the
first attempt that passes and lists that attempt's objects; if none passes, every attempt reports
`-EAGAIN`, the array is freed and the counter keeps every record counted. -/
theorem retryLoop_clean (env : Nat → Attempt) (hclean : ∀ k, (env k).Clean) (k n : Nat)
    (r : Registry) (hw : ∀ j ≤ n, (∀ i < j, (env (k + i)).passes = false) →
      r.num.toNat + countedFrom env k j < 2 ^ 32) :
    ∃ ret r', (retryLoop env k n).run r = .ok (ret, r') ∧
      match (List.range' k (n + 1)).find? fun j => (env j).passes with
      | some j => ret = 0 ∧ r'.num.toNat = (registered (env j).parsed).length ∧
          r'.devices = some (registered (env j).parsed)
      | none => ret = -eagain ∧ r'.list = .freed ∧
          r'.num.toNat = r.num.toNat + countedFrom env k n := by
  obtain ⟨r', hrun, hpass, hfail⟩ := parseSndCard_clean (hclean k) r
    (by simpa using hw 0 (Nat.zero_le n) fun i hi => absurd hi (Nat.not_lt_zero i))
  induction n generalizing k r r' with
  | zero =>
    refine ⟨_, r', hrun, ?_⟩
    cases hp : (env k).passes
    · simpa [hp] using hfail hp
    · simpa [hp] using hpass hp
  | succ n ih =>
    have hne : (0 : Int) ≠ -eagain := by decide
    cases hp : (env k).passes
    · obtain ⟨hlist, hnum⟩ := hfail hp
      -- the attempts after the first see the counter the first one left
      have hw' : ∀ j ≤ n, (∀ i < j, (env (k + 1 + i)).passes = false) →
          r'.num.toNat + countedFrom env (k + 1) j < 2 ^ 32 := fun j hj hrun => by
        have := hw (j + 1) (by omega) fun i hi => by
          cases i with
          | zero => exact hp
          | succ i => rw [← Nat.add_assoc, Nat.add_right_comm]; exact hrun i (by omega)
        rw [countedFrom_succ] at this
        omega
      obtain ⟨r₂, hrun₂, hpass₂, hfail₂⟩ := parseSndCard_clean (hclean (k + 1)) r'
        (by simpa using hw' 0 (Nat.zero_le n) fun i hi => absurd hi (Nat.not_lt_zero i))
      obtain ⟨ret, r'', hrun', hmatch⟩ := ih (k + 1) r' hw' r₂ hrun₂ hpass₂ hfail₂
      refine ⟨ret, r'', ?_, ?_⟩
      · simp only [retryLoop, StateT.run_bind, hrun, hp, Bool.false_eq_true, if_false,
          except_ok_bind, if_true]
        exact hrun'
      · rw [List.range'_succ, List.find?_cons, hp, countedFrom_succ]
        split at hmatch <;> simp_all only [true_and]
        omega
    · refine ⟨0, r', ?_, ?_⟩
      · simp only [retryLoop, StateT.run_bind, hrun, hp, if_true, except_ok_bind, if_neg hne]
        rfl
      · rw [List.range'_succ, List.find?_cons, hp]
        exact ⟨rfl, hpass hp⟩

/-- An attempt whose parsing pass meets more passing records than the counting pass made
slots writes past the end of the array. -/
theorem parseSndCard_overflow (a : Attempt) (r : Registry) (hopen : a.opens = true)
    (hlist : a.listAlloc = true) (hall : ∀ p ∈ a.parsed, p.alloc = true)
    (hover : (countPass r.num a.counted).toNat < (registered a.parsed).length) :
    (parseSndCard a).run r = .error .outOfBounds := by
  simp only [parseSndCard, hopen, hlist, Bool.not_true, Bool.false_eq_true, if_false,
    StateT.run_bind, modify_run, except_ok_bind]
  rw [parsePass_overflow a.parsed hall 0 [] _ _ (by simp) rfl hover
    (by simpa using UInt32.toNat_lt _)]
  rfl

/-! ### Peeling a bind

A program of the registry that returns ran each of its parts to a result. -/

theorem except_bind_eq_ok {ε α β : Type} {x : Except ε α} {f : α → Except ε β} {b : β}
    (h : x >>= f = .ok b) : ∃ a, x = .ok a ∧ f a = .ok b := by
  cases x with
  | error e => cases h
  | ok a => exact ⟨a, rfl, h⟩

end Agm
