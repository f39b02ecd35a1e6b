import AgmDevice.Lifecycle

/-
The channel map and the buffers it allocates.

`device_get_channel_map` opens the static `mixer` handle on its first call, allocates the
control's name `mixer_str` and the 64-byte `payload`, reads the control into `payload` and hands
it to the caller through `*chmap`. The two backends differ in their error paths. tinyalsa's
`err_get_ctl` frees `payload` before `done` frees `mixer_str`, so every failure releases what
the call allocated (`tinyalsa_ends`). alsa-lib's two labels stand together and free `mixer_str`
only, so a failed `snd_ctl_elem_info` or `snd_ctl_elem_read` returns its error with `payload`
still allocated and referenced by nothing (`alsa_leaks`).

* `MixerWorld`, `calloc`, `free` — the handle, the heap of blocks and `*chmap`;
* `Alsa.getChannelMap`, `Tinyalsa.getChannelMap`, `deviceGetChannelMap` — the two backends;
* `ChannelMapEnds` — the two ways the call is meant to end;
* `tinyalsa_ends`, `alsa_ends_or_leaks`, `alsa_leaks`, `channel_map_alsa_leaks_payload`.

Design notes: the heap is the list of blocks `calloc` returned, in order, each marked live or
freed, so the blocks one call allocates are the suffix it appends. Each backend's body is cut
where the source leaves the `if (mixer == NULL)` block; each part has a closed form, and every
result about the call is read off the two closed forms.
-/

namespace Agm

/-- A block `calloc` returned: its size in bytes, and whether it is still allocated. -/
structure Block where
  size : Nat
  live : Bool
  deriving DecidableEq, Repr

/-- What `device_get_channel_map` acts on: whether the static `mixer` handle is set, the blocks
of the heap in the order `calloc` returned them, and the caller's `*chmap`. -/
structure MixerWorld where
  mixer : Bool
  heap : List Block
  chmap : Option Nat
  deriving DecidableEq, Repr

/-- A call of `device_get_channel_map`. -/
abbrev ChM := StateT MixerWorld (Except Fault)

/-- `calloc`: `ok` says whether it returns memory, which is then a fresh block of `size` bytes. -/
def calloc (size : Nat) (ok : Bool) : ChM (Option Nat) := fun w =>
  if ok then .ok (some w.heap.length, { w with heap := w.heap ++ [⟨size, true⟩] })
  else .ok (none, w)

/-- `free` of a block `calloc` returned. -/
def free (a : Nat) : ChM Unit := fun w =>
  match w.heap[a]? with
  | some ⟨size, true⟩ => .ok ((), { w with heap := w.heap.set a ⟨size, false⟩ })
  | some ⟨_, false⟩ => .error .doubleFree
  | none => .error .outOfBounds

/-- `strlen(dev_obj->name) + 1 + strlen("Channel Map") + 1`. A name holds one `Char` per byte of
the C string (`Record`), so `strlen` is its `length`. -/
def ctlLen (name : String) : Nat := name.length + 1 + "Channel Map".length + 1

/-- `16 * sizeof(uint32_t)`, the size of the channel map. -/
def chmapSize : Nat := 16 * 4

/-- What the mixer calls of one `device_get_channel_map` answer: alsa-lib's `snd_ctl_open`,
`snd_ctl_elem_info` and `snd_ctl_elem_read`, or tinyalsa's `mixer_open` (a handle or `NULL`),
`mixer_get_ctl_by_name` (a control or `NULL`) and `mixer_ctl_get_array`. -/
inductive MixerOutcome : Backend → Type
  | alsa (openRet infoRet readRet : DriverRet) : MixerOutcome .alsa
  | tinyalsa (opened found : Bool) (getRet : DriverRet) : MixerOutcome .tinyalsa

/-- alsa-lib's `device_get_channel_map` once `mixer` is open: `strOk` and `payloadOk` say what
the two `calloc`s do, `infoRet` and `readRet` what `snd_ctl_elem_info` and `snd_ctl_elem_read`
return. A failed info jumps to `done`, a failed read to `err_get_ctl` just above it, and
neither label frees more than `mixer_str`. -/
def Alsa.readChannelMap (d : DeviceObj) (strOk payloadOk : Bool) (infoRet readRet : DriverRet) :
    ChM Int := do
  let some mixerStr ← calloc (ctlLen d.name) strOk | return -enomem
  let some payload ← calloc chmapSize payloadOk | do free mixerStr; return -enomem
  if infoRet.val < 0 then
    free mixerStr
    return infoRet
  if readRet.val < 0 then
    free mixerStr
    return readRet
  modify fun w => { w with chmap := some payload }
  free mixerStr
  return readRet

/-- alsa-lib's `device_get_channel_map`: `cardId` is what `device_get_snd_card_id` returns and
`openRet` what `snd_ctl_open` returns, which sets `mixer` when it succeeds. -/
def Alsa.getChannelMap (d : DeviceObj) (cardId : Int) (strOk payloadOk : Bool)
    (openRet infoRet readRet : DriverRet) : ChM Int := do
  if !(← get).mixer then
    if cardId < 0 then return -einval
    if openRet.val < 0 then return openRet
    modify fun w => { w with mixer := true }
  Alsa.readChannelMap d strOk payloadOk infoRet readRet

/-- tinyalsa's `device_get_channel_map` once `mixer` is open: `found` says whether
`mixer_get_ctl_by_name` finds the control and `getRet` is what `mixer_ctl_get_array` returns.
Both failures of the control jump to `err_get_ctl`, which frees `payload` and then `mixer_str`. -/
def Tinyalsa.readChannelMap (d : DeviceObj) (strOk payloadOk found : Bool) (getRet : DriverRet) :
    ChM Int := do
  let some mixerStr ← calloc (ctlLen d.name) strOk | return -enomem
  let some payload ← calloc chmapSize payloadOk | do free mixerStr; return -enomem
  if !found then
    free payload
    free mixerStr
    return -enoent
  if getRet.val < 0 then
    free payload
    free mixerStr
    return getRet
  modify fun w => { w with chmap := some payload }
  free mixerStr
  return getRet

/-- tinyalsa's `device_get_channel_map`: `opened` says whether `mixer_open` returns a handle. -/
def Tinyalsa.getChannelMap (d : DeviceObj) (cardId : Int) (strOk payloadOk opened found : Bool)
    (getRet : DriverRet) : ChM Int := do
  if !(← get).mixer then
    if cardId < 0 then return -einval
    if !opened then return -einval
    modify fun w => { w with mixer := true }
  Tinyalsa.readChannelMap d strOk payloadOk found getRet

/-- `device_get_channel_map` in the backend the outcome belongs to. -/
def deviceGetChannelMap {b : Backend} (d : DeviceObj) (cardId : Int) (strOk payloadOk : Bool) :
    MixerOutcome b → ChM Int
  | .alsa openRet infoRet readRet =>
    Alsa.getChannelMap d cardId strOk payloadOk openRet infoRet readRet
  | .tinyalsa opened found getRet =>
    Tinyalsa.getChannelMap d cardId strOk payloadOk opened found getRet

/-- The two ways `device_get_channel_map` is meant to end, from `w` to `w'` with result `r`:
the blocks allocated before are kept as they were, and either `r = 0`, `*chmap` points to one
new live block of `16 * sizeof(uint32_t)` bytes and every other new block is freed, or `r < 0`,
`*chmap` is unchanged and every new block is freed. -/
def ChannelMapEnds (w w' : MixerWorld) (r : Int) : Prop :=
  ∃ new, w'.heap = w.heap ++ new ∧
    ((r = 0 ∧ ∃ i, w'.chmap = some (w.heap.length + i) ∧ new[i]? = some ⟨chmapSize, true⟩ ∧
        ∀ j blk, j ≠ i → new[j]? = some blk → blk.live = false) ∨
      (r < 0 ∧ w'.chmap = w.chmap ∧ ∀ blk ∈ new, blk.live = false))

section Run

variable (w : MixerWorld)

@[simp] theorem calloc_true_run (size : Nat) :
    (calloc size true).run w =
      .ok (some w.heap.length, { w with heap := w.heap ++ [⟨size, true⟩] }) := rfl

@[simp] theorem calloc_false_run (size : Nat) : (calloc size false).run w = .ok (none, w) := rfl

variable (old rest : List Block) (mixer : Bool) (chmap : Option Nat) (size : Nat)

/-- `free` of the first block allocated after `old`. -/
@[simp] theorem free_first_run :
    (free old.length).run ⟨mixer, old ++ ⟨size, true⟩ :: rest, chmap⟩ =
      .ok ((), ⟨mixer, old ++ ⟨size, false⟩ :: rest, chmap⟩) := by
  simp only [StateT.run, free, List.getElem?_append_right (Nat.le_refl _), Nat.sub_self]
  simp [List.set_append_right]

/-- `free` of the second block allocated after `old`. -/
@[simp] theorem free_second_run (b : Block) :
    (free (old.length + 1)).run ⟨mixer, old ++ b :: ⟨size, true⟩ :: rest, chmap⟩ =
      .ok ((), ⟨mixer, old ++ b :: ⟨size, false⟩ :: rest, chmap⟩) := by
  simp only [StateT.run, free, List.getElem?_append_right (Nat.le_add_right _ 1),
    Nat.add_sub_cancel_left]
  simp [List.set_append_right]

/-- tinyalsa's call once `mixer` is open, one result per exit of the source. -/
theorem Tinyalsa.readChannelMap_run (d : DeviceObj) (strOk payloadOk found : Bool)
    (getRet : DriverRet) :
    (Tinyalsa.readChannelMap d strOk payloadOk found getRet).run w =
      if !strOk then .ok (-enomem, w)
      else if !payloadOk then
        .ok (-enomem, { w with heap := w.heap ++ [⟨ctlLen d.name, false⟩] })
      else if !found then
        .ok (-enoent,
          { w with heap := w.heap ++ [⟨ctlLen d.name, false⟩, ⟨chmapSize, false⟩] })
      else if getRet.val < 0 then
        .ok (getRet, { w with heap := w.heap ++ [⟨ctlLen d.name, false⟩, ⟨chmapSize, false⟩] })
      else .ok (getRet, { w with
        heap := w.heap ++ [⟨ctlLen d.name, false⟩, ⟨chmapSize, true⟩]
        chmap := some (w.heap.length + 1) }) := by
  cases strOk
  · rfl
  have := getRet.2
  cases payloadOk <;> cases found <;> by_cases hg : getRet.val < 0 <;>
    simp only [Tinyalsa.readChannelMap, StateT.run_bind, StateT.run_map, StateT.run_modify,
      bind_pure_comp, pure_bind, except_ok_bind, except_pure_eq_ok, Except.map_ok,
      calloc_true_run, calloc_false_run, free_first_run, free_second_run, List.length_append,
      List.length_singleton, List.append_assoc, List.singleton_append, Bool.not_true,
      Bool.not_false, Bool.false_eq_true, ↓reduceIte, hg]

/-- alsa-lib's call once `mixer` is open: after both allocations, a failure of the control
returns with `payload` live. -/
theorem Alsa.readChannelMap_run (d : DeviceObj) (strOk payloadOk : Bool)
    (infoRet readRet : DriverRet) :
    (Alsa.readChannelMap d strOk payloadOk infoRet readRet).run w =
      if !strOk then .ok (-enomem, w)
      else if !payloadOk then
        .ok (-enomem, { w with heap := w.heap ++ [⟨ctlLen d.name, false⟩] })
      else if infoRet.val < 0 then
        .ok (infoRet, { w with heap := w.heap ++ [⟨ctlLen d.name, false⟩, ⟨chmapSize, true⟩] })
      else if readRet.val < 0 then
        .ok (readRet, { w with heap := w.heap ++ [⟨ctlLen d.name, false⟩, ⟨chmapSize, true⟩] })
      else .ok (readRet, { w with
        heap := w.heap ++ [⟨ctlLen d.name, false⟩, ⟨chmapSize, true⟩]
        chmap := some (w.heap.length + 1) }) := by
  cases strOk
  · rfl
  cases payloadOk <;> by_cases hi : infoRet.val < 0 <;> by_cases hr : readRet.val < 0 <;>
    simp only [Alsa.readChannelMap, StateT.run_bind, StateT.run_map, StateT.run_modify,
      bind_pure_comp, pure_bind, except_ok_bind, except_pure_eq_ok, Except.map_ok,
      calloc_true_run, calloc_false_run, free_first_run, List.length_append,
      List.length_singleton, List.append_assoc, List.singleton_append, Bool.not_true,
      Bool.not_false, Bool.false_eq_true, ↓reduceIte, hi, hr]

/-- alsa-lib's call returns before any allocation when `mixer` is unset and cannot be opened,
and otherwise goes on with `mixer` set. -/
theorem Alsa.getChannelMap_run (d : DeviceObj) (cardId : Int) (strOk payloadOk : Bool)
    (openRet infoRet readRet : DriverRet) :
    (Alsa.getChannelMap d cardId strOk payloadOk openRet infoRet readRet).run w =
      if w.mixer = false ∧ (cardId < 0 ∨ openRet.val < 0) then
        .ok (if cardId < 0 then -einval else openRet.val, w)
      else
        (Alsa.readChannelMap d strOk payloadOk infoRet readRet).run { w with mixer := true } := by
  obtain ⟨_ | _, heap, chmap⟩ := w <;> by_cases hc : cardId < 0 <;>
    by_cases ho : openRet.val < 0 <;>
    simp only [Alsa.getChannelMap, StateT.run_bind, StateT.run_get, StateT.run_pure,
      StateT.run_modify, bind_pure_comp, map_pure, pure_bind, except_pure_eq_ok, except_ok_bind,
      Bool.not_true, Bool.not_false, Bool.true_eq_false, Bool.false_eq_true, ↓reduceIte, hc, ho,
      or_self, or_true, or_false, and_self, and_false, false_and]

/-- tinyalsa's call returns `-EINVAL` before any allocation when `mixer` is unset and cannot be
opened, and otherwise goes on with `mixer` set. -/
theorem Tinyalsa.getChannelMap_run (d : DeviceObj) (cardId : Int)
    (strOk payloadOk opened found : Bool) (getRet : DriverRet) :
    (Tinyalsa.getChannelMap d cardId strOk payloadOk opened found getRet).run w =
      if w.mixer = false ∧ (cardId < 0 ∨ opened = false) then .ok (-einval, w)
      else
        (Tinyalsa.readChannelMap d strOk payloadOk found getRet).run { w with mixer := true } := by
  obtain ⟨_ | _, heap, chmap⟩ := w <;> by_cases hc : cardId < 0 <;> cases opened <;>
    simp only [Tinyalsa.getChannelMap, StateT.run_bind, StateT.run_get, StateT.run_pure,
      StateT.run_modify, bind_pure_comp, map_pure, pure_bind, except_pure_eq_ok, except_ok_bind,
      Bool.not_true, Bool.not_false, Bool.true_eq_false, Bool.false_eq_true, ↓reduceIte, hc,
      or_self, or_true, or_false, and_self, and_false, false_and]

end Run

/-! ### The endings of the two backends -/

variable {d : DeviceObj} {cardId : Int} {strOk payloadOk : Bool} {w w' : MixerWorld} {r : Int}

/-- Handing over the second of two new blocks, the first freed, is an ending of the first
kind. -/
theorem ends_of_handed (hr : r = 0) (mixer : Bool) (size : Nat) :
    ChannelMapEnds w
      ⟨mixer, w.heap ++ [⟨size, false⟩, ⟨chmapSize, true⟩], some (w.heap.length + 1)⟩ r := by
  refine ⟨_, rfl, .inl ⟨hr, 1, rfl, rfl, fun j blk hj hb => ?_⟩⟩
  rcases j with _ | _ | j
  · cases hb; rfl
  · exact absurd rfl hj
  · cases hb

/-- A negative result with the payload still allocated is neither of the two endings. -/
theorem not_ends_of_leaked {size : Nat} (hr : r < 0)
    (hheap : w'.heap = w.heap ++ [⟨size, false⟩, ⟨chmapSize, true⟩]) :
    ¬ ChannelMapEnds w w' r := by
  rintro ⟨new, hnew, ⟨rfl, -⟩ | ⟨-, -, hdead⟩⟩
  · exact absurd hr (lt_irrefl 0)
  · obtain rfl := List.append_cancel_left (hheap.symm.trans hnew)
    simp at hdead

/-- Every exit of tinyalsa's call is one of the two endings. -/
theorem tinyalsa_ends {opened found : Bool} {getRet : DriverRet}
    (h : (Tinyalsa.getChannelMap d cardId strOk payloadOk opened found getRet).run w =
      .ok (r, w')) :
    ChannelMapEnds w w' r := by
  rw [Tinyalsa.getChannelMap_run, Tinyalsa.readChannelMap_run] at h
  have := getRet.2
  split_ifs at h <;> cases h
  all_goals first
    | exact ⟨[], (List.append_nil _).symm, .inr ⟨by decide, rfl, by simp⟩⟩
    | exact ⟨_, rfl, .inr ⟨by first | decide | assumption, rfl, by simp⟩⟩
    | exact ends_of_handed (by omega) _ _

/-- Every exit of alsa-lib's call is one of the two endings, except those where the control
fails after both allocations: they return the error with `mixer_str` freed, `payload` live and
`*chmap` unchanged. -/
theorem alsa_ends_or_leaks {openRet infoRet readRet : DriverRet}
    (h : (Alsa.getChannelMap d cardId strOk payloadOk openRet infoRet readRet).run w =
      .ok (r, w')) :
    ChannelMapEnds w w' r ∨
      r < 0 ∧ w'.chmap = w.chmap ∧
        w'.heap = w.heap ++ [⟨ctlLen d.name, false⟩, ⟨chmapSize, true⟩] := by
  rw [Alsa.getChannelMap_run, Alsa.readChannelMap_run] at h
  have := readRet.2
  split_ifs at h <;> cases h
  all_goals first
    | exact .inl ⟨[], (List.append_nil _).symm, .inr ⟨by first | decide | omega, rfl, by simp⟩⟩
    | exact .inl ⟨_, rfl, .inr ⟨by decide, rfl, by simp⟩⟩
    | exact .inr ⟨‹_›, rfl, rfl⟩
    | exact .inl (ends_of_handed (by omega) _ _)

/-- Those exits are taken whenever `mixer` is or gets open, both allocations succeed and
`snd_ctl_elem_info` or `snd_ctl_elem_read` fails. -/
theorem alsa_leaks {openRet infoRet readRet : DriverRet}
    (hm : w.mixer = true ∨ 0 ≤ cardId ∧ openRet.val = 0)
    (hf : infoRet.val < 0 ∨ readRet.val < 0) :
    ∃ r w', (Alsa.getChannelMap d cardId true true openRet infoRet readRet).run w = .ok (r, w') ∧
      r < 0 ∧ w'.chmap = w.chmap ∧
        w'.heap = w.heap ++ [⟨ctlLen d.name, false⟩, ⟨chmapSize, true⟩] := by
  have hopen : ¬ (w.mixer = false ∧ (cardId < 0 ∨ openRet.val < 0)) := by
    rcases hm with hm | ⟨hc, ho⟩
    · simp [hm]
    · omega
  rw [Alsa.getChannelMap_run, if_neg hopen, Alsa.readChannelMap_run]
  simp only [Bool.not_true, Bool.false_eq_true, ↓reduceIte]
  by_cases hi : infoRet.val < 0
  · rw [if_pos hi]
    exact ⟨_, _, rfl, hi, rfl, rfl⟩
  · rw [if_neg hi, if_pos (hf.resolve_left hi)]
    exact ⟨_, _, rfl, hf.resolve_left hi, rfl, rfl⟩

/-- tinyalsa's `device_get_channel_map` ends one of the two ways with every answer of the mixer
calls and of the allocations. alsa-lib's ends one of the two ways or returns a negative error
with `payload` allocated and not handed over, and it does the latter on every input where the
mixer is open, both allocations succeed and the control's info or read fails. -/
theorem channel_map_alsa_leaks_payload :
    (∀ (d : DeviceObj) cardId strOk payloadOk (o : MixerOutcome .tinyalsa) w w' r,
      (deviceGetChannelMap d cardId strOk payloadOk o).run w = .ok (r, w') →
        ChannelMapEnds w w' r) ∧
    (∀ (d : DeviceObj) cardId strOk payloadOk (o : MixerOutcome .alsa) w w' r,
      (deviceGetChannelMap d cardId strOk payloadOk o).run w = .ok (r, w') →
        ChannelMapEnds w w' r ∨
          r < 0 ∧ w'.chmap = w.chmap ∧
            w'.heap = w.heap ++ [⟨ctlLen d.name, false⟩, ⟨chmapSize, true⟩]) ∧
    (∀ (d : DeviceObj) cardId (openRet infoRet readRet : DriverRet) (w : MixerWorld),
      (w.mixer = true ∨ 0 ≤ cardId ∧ openRet.val = 0) → (infoRet.val < 0 ∨ readRet.val < 0) →
        ∃ r w', (deviceGetChannelMap d cardId true true (.alsa openRet infoRet readRet)).run w =
          .ok (r, w') ∧ r < 0 ∧ ¬ ChannelMapEnds w w' r) := by
  refine ⟨fun _ _ _ _ o _ _ _ h => ?_, fun _ _ _ _ o _ _ _ h => ?_, fun _ _ _ _ _ _ hm hf => ?_⟩
  · cases o
    exact tinyalsa_ends h
  · cases o
    exact alsa_ends_or_leaks h
  · obtain ⟨r, w', h, hr, -, hheap⟩ := alsa_leaks hm hf
    exact ⟨r, w', h, hr, not_ends_of_leaked hr hheap⟩

end Agm
