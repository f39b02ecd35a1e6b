import AgmDevice.Discovery

/-
`device_get_aif_info_list`: the interfaces discovery registered, copied into the caller's array.

The caller passes its capacity in the `size_t` `*audio_intfs`. A capacity `0` asks for the count;
otherwise entries `0, 1, ...` of the array get the name (`strlcpy` to `AIF_NAME_MAX_LEN`) and
the direction of device `0, 1, ...` while `copied` is below both `num_audio_intfs` and the
`uint32_t` `requested`, which keeps only the low 32 bits of the capacity.

The registry is the one a successful `device_init` leaves: every attempt that returns `0` has
stored one live object per record that passed the probe and counts them in `num_audio_intfs`
(`deviceInit_ok_devices`), whatever the listing and the allocations did in earlier attempts.

* `deviceGetAifInfoList` — the call, with its loop `copyAifs`;
* `deviceInit_ok_devices` — what every successful `device_init` builds;
  `registered_fields_bounded` — the fields of every device it registers, whatever the listing;
* `copyAifs_run`, `deviceGetAifInfoList_run` — the loop and the call over such a registry;
* `aif_info_list_capacity_truncated` — the count and the entries it gives for every capacity,
  and a capacity of `2 ^ 32` that fills nothing.
-/

namespace Agm

/-- Modelled from the spec: `struct aif_info`, declared in a header that is not under src/;
`device_get_aif_info_list` writes its name and its direction. -/
structure AifInfo where
  aifName : String
  dir : Direction
  deriving DecidableEq, Repr

/-- `strlcpy(dst, src, size)`: the first `size - 1` bytes of `src`, or nothing written when `size`
is `0`. A name holds one `Char` per byte of the C string (`Record`). -/
def strlcpy (dst src : String) (size : Nat) : String :=
  if size = 0 then dst else String.mk (src.toList.take (size - 1))

/-- The loop of `device_get_aif_info_list` from `copied`, with `k` rounds left: entry `copied`
gets the name and the direction of `device_list[copied]`. The test `copied < requested` stops it
within `requested` rounds. -/
def copyAifs (aifNameMaxLen : Nat) (requested : UInt32) :
    Nat → UInt32 → (Nat → AifInfo) → RegM (UInt32 × (Nat → AifInfo))
  | 0, copied, aifs => pure (copied, aifs)
  | k + 1, copied, aifs => do
    if copied < (← get).num ∧ copied < requested then
      let d ← readSlot copied.toNat >>= readObj
      copyAifs aifNameMaxLen requested k (copied + 1) (Function.update aifs copied.toNat
        ⟨strlcpy (aifs copied.toNat).aifName d.name aifNameMaxLen, d.dir⟩)
    else pure (copied, aifs)

/-- `device_get_aif_info_list(aif_list, audio_intfs)`, where `aifs` is the array `aif_list`
points to, `audioIntfs` is the `size_t` `*audio_intfs` and `aifNameMaxLen` is
`AIF_NAME_MAX_LEN`: the return value, the new `*audio_intfs` and the new array. -/
def deviceGetAifInfoList (aifNameMaxLen : Nat) (aifs : Nat → AifInfo) (audioIntfs : UInt64) :
    RegM (Int × UInt64 × (Nat → AifInfo)) := do
  let requested := audioIntfs.toUInt32
  if audioIntfs = 0 then
    return (0, (← get).num.toUInt64, aifs)
  let (copied, aifs) ← copyAifs aifNameMaxLen requested requested.toNat 0 aifs
  return (0, copied.toUInt64, aifs)

/-- Entry `old` once it names the device `d`. -/
def aifOf (aifNameMaxLen : Nat) (old : AifInfo) (d : DeviceObj) : AifInfo :=
  ⟨strlcpy old.aifName d.name aifNameMaxLen, d.dir⟩

/-- The array with entries `i, ..., m - 1` naming the devices `ds`, the others as in `aifs`. -/
def fillAifs (aifNameMaxLen : Nat) (ds : List DeviceObj) (i m : Nat) (aifs : Nat → AifInfo)
    (j : Nat) : AifInfo :=
  if i ≤ j ∧ j < m then (ds[j]?).elim (aifs j) (aifOf aifNameMaxLen (aifs j)) else aifs j

/-! ### What a successful `device_init` builds -/

theorem parsePass_some_alloc {ps : List ParsedRecord} {count c : UInt32} {r r' : Registry}
    (h : (parsePass count ps).run r = .ok (some c, r')) : ∀ p ∈ ps, p.alloc = true := by
  induction ps generalizing count r with
  | nil => simp
  | cons p ps ih =>
    cases hp : p.alloc
    · simp [parsePass, hp] at h
    · cases hpr : p.probe <;>
        simp only [parsePass, hp, hpr, if_true, StateT.run_bind, allocObj_run,
          except_ok_bind] at h <;>
        obtain ⟨_, _, h⟩ := except_bind_eq_ok h <;>
        exact List.forall_mem_cons.2 ⟨hp, ih h⟩

/-- An attempt that returns `0` leaves `num_audio_intfs` objects, the registered ones. -/
theorem parseSndCard_ok_zero {a : Attempt} {r r' : Registry}
    (h : (parseSndCard a).run r = .ok (0, r')) :
    r'.num.toNat = (registered a.parsed).length ∧ r'.devices = some (registered a.parsed) := by
  cases ho : a.opens
  · simp [parseSndCard, ho, enodev] at h
  cases hl : a.listAlloc
  · simp [parseSndCard, ho, hl, StateT.run_bind, enomem] at h
  simp only [parseSndCard, ho, hl, Bool.not_true, Bool.false_eq_true, if_false,
    StateT.run_bind, modify_run, except_ok_bind] at h
  obtain ⟨⟨res, r₂⟩, hpass, hrest⟩ := except_bind_eq_ok h
  cases res with
  | none =>
    obtain ⟨_, _, h'⟩ := except_bind_eq_ok hrest
    cases h'
  | some count =>
    have hall := parsePass_some_alloc hpass
    set N := (countPass r.num a.counted).toNat
    have hNlt : N < 2 ^ 32 := UInt32.toNat_lt _
    have hk : (registered a.parsed).length ≤ N := by
      by_contra hk
      rw [parsePass_overflow a.parsed hall 0 [] N _ (by simp) rfl (by omega) (by simpa using hNlt)]
        at hpass
      cases hpass
    rw [parsePass_run a.parsed hall 0 [] N _ (by simp) rfl hk (by simpa using hNlt)] at hpass
    cases hpass
    simp only [zero_add] at hrest
    split at hrest
    · obtain ⟨_, _, h'⟩ := except_bind_eq_ok hrest
      cases h'
    · cases hrest
      simp only [List.nil_append]
      exact ⟨by rw [toNat_uint32_ofNat, Nat.mod_eq_of_lt (lt_of_le_of_lt hk hNlt)],
        devices_after_store _ _ N hk hNlt⟩

/-- A retry loop that returns `0` ends with an attempt that returns `0`. -/
theorem retryLoop_ok_zero {env : Nat → Attempt} {k n : Nat} {r r' : Registry}
    (h : (retryLoop env k n).run r = .ok (0, r')) :
    ∃ j r₀, (parseSndCard (env j)).run r₀ = .ok (0, r') := by
  induction n generalizing k r with
  | zero => exact ⟨k, r, h⟩
  | succ n ih =>
    simp only [retryLoop, StateT.run_bind] at h
    obtain ⟨⟨ret, r₁⟩, h₁, h₂⟩ := except_bind_eq_ok h
    split at h₂
    · exact ih h₂
    · cases h₂
      exact ⟨k, r, h₁⟩

/-- What every successful `device_init` builds: `num_audio_intfs` live objects in the first
slots of a live array. -/
theorem deviceInit_ok_devices {env : Nat → Attempt} {r₀ r : Registry}
    (h : (deviceInit env).run r₀ = .ok (0, r)) :
    ∃ ds, r.devices = some ds ∧ r.num.toNat = ds.length :=
  let ⟨_, _, hj⟩ := retryLoop_ok_zero h
  let ⟨hnum, hdev⟩ := parseSndCard_ok_zero hj
  ⟨_, hdev, hnum⟩

/-- Whatever the listing holds, every device a successful `device_init` registers has a name of
at most `80` characters without white space, and a card and a device number that `%02u` read
from at most two characters: below `100`, or the `unsigned` negation of one digit. -/
theorem registered_fields_bounded {env : Nat → Attempt} {r₀ r : Registry}
    (h : (deviceInit env).run r₀ = .ok (0, r)) :
    ∃ ds, r.devices = some ds ∧ ∀ d ∈ ds, d.name.length ≤ 80 ∧
      (∀ c ∈ d.name.toList, isCSpace c = false) ∧ TwoDigits d.cardId ∧ TwoDigits d.pcmId := by
  obtain ⟨j, r₁, hj⟩ := retryLoop_ok_zero h
  refine ⟨_, (parseSndCard_ok_zero hj).2, fun d hd => ?_⟩
  obtain ⟨p, -, hp⟩ := List.mem_filterMap.1 hd
  obtain ⟨dir, -, rfl⟩ := Option.map_eq_some'.1 hp
  exact deviceOfRecord_bounded p.text dir

theorem registered_fields_bounded_sample :
    ∃ r, (deviceInit fun _ => cleanAttempt [sampleRecord] fun _ => some .output).run
        Registry.init = .ok (0, r) ∧
      ∃ ds, r.devices = some ds ∧ ∀ d ∈ ds, d.name.length ≤ 80 ∧
        (∀ c ∈ d.name.toList, isCSpace c = false) ∧ TwoDigits d.cardId ∧ TwoDigits d.pcmId :=
  ⟨_, rfl, @registered_fields_bounded (fun _ => cleanAttempt [sampleRecord] fun _ => some .output)
    Registry.init _ rfl⟩

/-! ### The call over a registry that `device_init` built -/

theorem resolveAll_getElem {objs : List Cell} {ss : List (Option Nat)} {ds : List DeviceObj}
    (h : resolveAll objs ss = some ds) :
    ds.length = ss.length ∧ ∀ j (hj : j < ss.length), resolve objs ss[j] = ds[j]? := by
  induction ss generalizing ds with
  | nil => cases h; simp
  | cons s ss ih =>
    obtain ⟨d, hd, h'⟩ := Option.bind_eq_some.1 h
    obtain ⟨ds', hds', rfl⟩ := Option.map_eq_some'.1 h'
    refine ⟨by simp [(ih hds').1], fun j hj => ?_⟩
    cases j with
    | zero => simpa using hd
    | succ j => simpa using (ih hds').2 j (by simpa using hj)

theorem readObj_of_resolve {r : Registry} {s : Option Nat} {d : DeviceObj}
    (h : resolve r.objs s = some d) : (readObj s).run r = .ok (d, r) := by
  cases s with
  | none => cases h
  | some a =>
    simp only [resolve] at h
    simp only [StateT.run, readObj]
    split at h <;> simp_all

/-- The devices a registry lists are its first `num_audio_intfs` objects. -/
theorem devices_length {r : Registry} {ds : List DeviceObj} (h : r.devices = some ds) :
    ds.length = r.num.toNat := by
  simp only [Registry.devices] at h
  split at h
  · split_ifs at h with hn
    rw [(resolveAll_getElem h).1, List.length_take, min_eq_left hn]
  all_goals cases h

/-- Device `j` of the list, read through `device_list[j]`. -/
theorem devices_read {r : Registry} {ds : List DeviceObj} (h : r.devices = some ds) {j : Nat}
    (hj : j < ds.length) : (readSlot j >>= readObj).run r = .ok (ds[j], r) := by
  have hlen := devices_length h
  simp only [Registry.devices] at h
  split at h
  · rename_i slots hl
    split_ifs at h with hn
    have hres := (resolveAll_getElem h).2 j (by simp; omega)
    rw [List.getElem_take, List.getElem?_eq_getElem hj] at hres
    rw [StateT.run_bind, readSlot_live_run r hl (by omega), except_ok_bind,
      readObj_of_resolve hres]
  all_goals cases h

theorem toNat_ofNat_of_lt {i : Nat} (h : i < 2 ^ 32) : (UInt32.ofNat i).toNat = i := by
  rw [toNat_uint32_ofNat, Nat.mod_eq_of_lt h]

theorem ofNat_add_one (i : Nat) : UInt32.ofNat i + 1 = UInt32.ofNat (i + 1) := by
  have h1 : (1 : UInt32).toNat = 1 := rfl
  apply UInt32.ext
  simp only [UInt32.toNat_add, h1, toNat_uint32_ofNat, UInt32.size]
  omega

theorem uint32_lt_iff {a b : UInt32} : a < b ↔ a.toNat < b.toNat := Iff.rfl

/-- Nothing is filled between `i` and `i`. -/
theorem fillAifs_self (L : Nat) (ds : List DeviceObj) (i : Nat) (aifs : Nat → AifInfo) :
    fillAifs L ds i i aifs = aifs := by
  funext j
  simp only [fillAifs]
  rw [if_neg (by omega)]

/-- Filling entry `i`, then `i + 1, ..., m - 1`. -/
theorem fillAifs_succ (L : Nat) (ds : List DeviceObj) {i m : Nat} (hi : i < m)
    (hm : m ≤ ds.length) (aifs : Nat → AifInfo) :
    fillAifs L ds (i + 1) m (Function.update aifs i (aifOf L (aifs i) ds[i])) =
      fillAifs L ds i m aifs := by
  funext j
  by_cases hj : j = i
  · subst hj
    simp [fillAifs, hi, List.getElem?_eq_getElem (show j < ds.length by omega)]
  · simp only [fillAifs, Function.update_noteq hj]
    congr 1
    simp only [eq_iff_iff]
    omega

/-- The copy loop over the devices `ds`: from entry `i` with as many rounds as `requested`
leaves, it fills entries `i` to `min requested n - 1` and stops there. -/
theorem copyAifs_run {r : Registry} {ds : List DeviceObj} (hd : r.devices = some ds) (L : Nat)
    (requested : UInt32) (k : Nat) : ∀ (i : Nat) (aifs : Nat → AifInfo),
      i + k = requested.toNat → i ≤ min requested.toNat ds.length →
      (copyAifs L requested k (UInt32.ofNat i) aifs).run r =
        .ok ((UInt32.ofNat (min requested.toNat ds.length),
          fillAifs L ds i (min requested.toNat ds.length) aifs), r) := by
  have hlen := devices_length hd
  have hreq := UInt32.toNat_lt requested
  induction k with
  | zero =>
    intro i aifs hk hi
    have him : min requested.toNat ds.length = i := by omega
    rw [him, fillAifs_self]
    rfl
  | succ k ih =>
    intro i aifs hk hi
    have hi' : (UInt32.ofNat i).toNat = i := toNat_ofNat_of_lt (by omega)
    simp only [copyAifs, StateT.run_bind, get_run, except_ok_bind, uint32_lt_iff, hi', ← hlen]
    by_cases hn : i < ds.length
    · rw [if_pos ⟨hn, by omega⟩, StateT.run_bind, devices_read hd hn, except_ok_bind,
        ofNat_add_one, ih (i + 1) _ (by omega) (by omega)]
      rw [← fillAifs_succ L ds (show i < min requested.toNat ds.length by omega)
        (min_le_right _ _)]
      rfl
    · have him : min requested.toNat ds.length = i := by omega
      rw [if_neg (by omega), him, fillAifs_self]
      rfl

theorem toNat_toUInt32 (c : UInt64) : c.toUInt32.toNat = c.toNat % 2 ^ 32 := rfl

theorem toUInt64_eq_ofNat (a : UInt32) : a.toUInt64 = UInt64.ofNat a.toNat :=
  UInt64.toNat.inj (by
    show a.toNat = a.toNat % 2 ^ 64
    rw [Nat.mod_eq_of_lt (lt_trans (UInt32.toNat_lt a) (by decide))])

/-- `device_get_aif_info_list` over a registry that lists the devices `ds`: a capacity `0` is
answered with the count; any other is cut to its low 32 bits, and that many entries are filled,
at most one per device. -/
theorem deviceGetAifInfoList_run {r : Registry} {ds : List DeviceObj} (hd : r.devices = some ds)
    (L : Nat) (aifs : Nat → AifInfo) (c : UInt64) :
    (deviceGetAifInfoList L aifs c).run r =
      .ok (if c = 0 then (0, UInt64.ofNat ds.length, aifs)
        else (0, UInt64.ofNat (min (c.toNat % 2 ^ 32) ds.length),
          fillAifs L ds 0 (min (c.toNat % 2 ^ 32) ds.length) aifs), r) := by
  by_cases hc : c = 0
  · simp [deviceGetAifInfoList, hc, toUInt64_eq_ofNat, devices_length hd]
  · have hrun := copyAifs_run hd L c.toUInt32 c.toUInt32.toNat 0 aifs (by omega) (by omega)
    rw [toNat_toUInt32] at hrun
    simp only [deviceGetAifInfoList, hc, if_false, StateT.run_bind, toNat_toUInt32, regM_pure_run,
      except_ok_bind]
    have hm : min (c.toNat % 2 ^ 32) ds.length < 2 ^ 32 :=
      lt_of_le_of_lt (min_le_left _ _) (Nat.mod_lt _ (by decide))
    rw [show (0 : UInt32) = UInt32.ofNat 0 from rfl, hrun]
    simp only [except_ok_bind, regM_pure_run, toUInt64_eq_ofNat, toNat_ofNat_of_lt hm]

/-- `requested` keeps the low 32 bits of the `size_t` capacity, while the zero test reads all
64. After every successful `device_init`, with `n` devices listed, a capacity `c ≠ 0` fills and
reports `min (c mod 2 ^ 32) n` entries; after a discovery of one device, the capacity `2 ^ 32`
fills none and reports `0`. -/
theorem aif_info_list_capacity_truncated :
    (∀ (env : Nat → Attempt) (r₀ r : Registry), (deviceInit env).run r₀ = .ok (0, r) →
      ∃ ds, r.devices = some ds ∧ r.num.toNat = ds.length ∧
        ∀ (L : Nat) (aifs : Nat → AifInfo) (c : UInt64),
          (deviceGetAifInfoList L aifs c).run r =
            .ok (if c = 0 then (0, UInt64.ofNat ds.length, aifs)
              else (0, UInt64.ofNat (min (c.toNat % 2 ^ 32) ds.length),
                fillAifs L ds 0 (min (c.toNat % 2 ^ 32) ds.length) aifs), r)) ∧
    (∃ r, (deviceInit fun _ => cleanAttempt [sampleRecord] fun _ => some .output).run
        Registry.init = .ok (0, r) ∧ r.num = 1 ∧
      ∀ (L : Nat) (aifs : Nat → AifInfo),
        (deviceGetAifInfoList L aifs 4294967296).run r = .ok ((0, 0, aifs), r)) :=
  ⟨fun _ _ _ h =>
    let ⟨ds, hd, hn⟩ := deviceInit_ok_devices h
    ⟨ds, hd, hn, deviceGetAifInfoList_run hd⟩,
   ⟨_, rfl, rfl, fun _ _ => rfl⟩⟩

end Agm
