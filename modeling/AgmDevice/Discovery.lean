import AgmDevice.Registry

/-
What discovery guarantees, and where the registry breaks.

`InitSpec` states what `device_init` does when every attempt reads the same records in both
passes and every allocation succeeds: an attempt reports `-EAGAIN` exactly when none of its
records passes the probe, and `device_init` returns `0` with the first attempt that passes, with
`num_audio_intfs` the number of its passing records and `device_list` naming their objects in
file order, or `-EAGAIN` when none of the `MAX_RETRY` attempts passes. `device_init_registers`
proves it under one condition on the size of the listings: the counting passes add to
`num_audio_intfs`, a `uint32_t` that no failed attempt resets, so with the records that the
attempts that run count it stays below `2 ^ 32`.

The registry is not consistent between calls. `device_deinit` and a failed `device_init` leave
`num_audio_intfs` positive over a null or freed array, which the next `device_get_obj` reads
(`registry_stale`); a parsing pass that meets more passing records than the counting pass saw
writes past the array (`parse_overruns_slots`); and `device_get_obj` accepts the index
`num_audio_intfs` (`get_obj_past_end`).

* `InitSpec`, `device_init_registers` — discovery with clean attempts;
* `registry_stale`, `parse_overruns_slots`, `get_obj_past_end`.
-/

namespace Agm

/-- The first line of a listing: card 0, device 0. -/
def sampleRecord : Record := "00-00: PRI_MI2S_RX multicodec-0 :  : playback 1\n".toList

/-- An attempt that reads the records `rs` in both passes, where every allocation succeeds and
the probe gives `probe r` for the record `r`. -/
def cleanAttempt (rs : List Record) (probe : Record → Option Direction) : Attempt :=
  ⟨true, rs, true, rs.map fun r => ⟨r, true, probe r⟩⟩

@[simp] theorem cleanAttempt_counted (rs : List Record) (probe : Record → Option Direction) :
    (cleanAttempt rs probe).counted = rs := rfl

@[simp] theorem cleanAttempt_parsed (rs : List Record) (probe : Record → Option Direction) :
    (cleanAttempt rs probe).parsed = rs.map fun r => ⟨r, true, probe r⟩ := rfl

theorem cleanAttempt_clean (rs : List Record) (probe : Record → Option Direction) :
    (cleanAttempt rs probe).Clean :=
  ⟨rfl, rfl, by simp [cleanAttempt], by simp [cleanAttempt, Function.comp_def]⟩

/-! ### Discovery with clean attempts -/

/-- What discovery does from the registry `r` when attempt `k` reads `env k`: an attempt
reports `-EAGAIN` exactly when none of its records passes the probe, and `device_init` returns
`0` with the first attempt that passes, listing its objects in order, or `-EAGAIN` when none of
the `MAX_RETRY` attempts passes. -/
structure InitSpec (env : Nat → Attempt) (r : Registry) : Prop where
  attempt : ∀ k (r₀ : Registry), r₀.num.toNat + (env k).counted.length < 2 ^ 32 →
    ∃ r', (parseSndCard (env k)).run r₀ = .ok (if (env k).passes then 0 else -eagain, r')
  init : ∃ ret r', (deviceInit env).run r = .ok (ret, r') ∧
    match (List.range maxRetry).find? fun k => (env k).passes with
    | some k => ret = 0 ∧ r'.num.toNat = (registered (env k).parsed).length ∧
        r'.devices = some (registered (env k).parsed)
    | none => ret = -eagain

/-- Discovery with clean attempts, when no attempt that runs takes `num_audio_intfs` past
`2 ^ 32`: attempt `j` runs when the attempts before it find nothing, and then `num_audio_intfs`
and the records counted up to attempt `j` stay below `2 ^ 32`. -/
theorem device_init_registers (env : Nat → Attempt) (r : Registry)
    (hclean : ∀ k, (env k).Clean)
    (hwrap : ∀ j < maxRetry, (∀ i < j, (env i).passes = false) →
      r.num.toNat + countedFrom env 0 j < 2 ^ 32) :
    InitSpec env r where
  attempt k r₀ hw :=
    let ⟨r', hrun, _⟩ := parseSndCard_clean (hclean k) r₀ hw
    ⟨r', hrun⟩
  init := by
    obtain ⟨ret, r', hrun, hmatch⟩ := retryLoop_clean env hclean 0 (maxRetry - 1) r
      fun j hj hrun => hwrap j (by unfold maxRetry at hj ⊢; omega) (by simpa using hrun)
    refine ⟨ret, r', hrun, ?_⟩
    rw [List.range_eq_range']
    rw [show maxRetry - 1 + 1 = maxRetry from rfl] at hmatch
    cases h : (List.range' 0 maxRetry).find? fun j => (env j).passes with
    | some k => simp only [h] at hmatch; exact hmatch
    | none => simp only [h] at hmatch; exact hmatch.1

/-- Two attempts whose one record fails the probe, then one of two records where the first is
dropped by the probe and the second passes. -/
theorem device_init_registers_third_attempt :
    InitSpec (fun k => if k < 2 then cleanAttempt [sampleRecord] (fun _ => none) else
      cleanAttempt ["00-01: TERT_TDM_TX_0 multicodec-1 :  : capture 1\n".toList, sampleRecord]
        fun rec => if rec = sampleRecord then some .output else none) Registry.init :=
  device_init_registers _ _ (fun k => by split <;> exact cleanAttempt_clean _ _) fun j hj _ => by
    refine lt_of_le_of_lt (Nat.add_le_add_left (countedFrom_le (m := 2) (fun k => ?_) 0 j) _) ?_
    · split <;> simp
    · have h100 : maxRetry = 100 := rfl
      have h0 : Registry.init.num.toNat = 0 := rfl
      omega

/-! ### The registry between calls -/

/-- `device_deinit` after a successful `device_init` leaves `num_audio_intfs = 1` over a null
`device_list`, and `device_get_obj(0)` then reads through the null pointer. A `device_init`
whose `MAX_RETRY` attempts each count one record that fails the probe returns `-EAGAIN` with
`num_audio_intfs = 100` over the freed array, and `device_get_obj(0)` reads the freed array. -/
theorem registry_stale :
    (∃ r₁ r₂,
      (deviceInit fun _ => cleanAttempt [sampleRecord] fun _ => some .output).run
        Registry.init = .ok (0, r₁) ∧
      deviceDeinit.run r₁ = .ok ((), r₂) ∧ r₂.num = 1 ∧ r₂.list = .null ∧
      (deviceGetObj 0).run r₂ = .error .nullDeref) ∧
    (∃ r₁,
      (deviceInit fun _ => cleanAttempt [sampleRecord] fun _ => none).run Registry.init =
        .ok (-eagain, r₁) ∧
      r₁.num = 100 ∧ r₁.list = .freed ∧ (deviceGetObj 0).run r₁ = .error .useAfterFree) := by
  refine ⟨⟨_, _, rfl, rfl, rfl, rfl, rfl⟩, ?_⟩
  obtain ⟨ret, r₁, hrun, hmatch⟩ := retryLoop_clean (fun _ => cleanAttempt [sampleRecord]
    fun _ => none) (fun _ => cleanAttempt_clean _ _) 0 (maxRetry - 1) Registry.init
    fun j hj _ => by
      refine lt_of_le_of_lt
        (Nat.add_le_add_left (countedFrom_le (m := 1) (fun _ => ?_) 0 j) _) ?_
      · exact le_rfl
      · have h99 : maxRetry - 1 = 99 := rfl
        have h0 : Registry.init.num.toNat = 0 := rfl
        omega
  have hnone : (List.range' 0 (maxRetry - 1 + 1)).find?
      (fun _ => (cleanAttempt [sampleRecord] fun _ => none).passes) = none := by
    decide
  rw [hnone] at hmatch
  obtain ⟨rfl, hlist, hnum⟩ := hmatch
  have hnum' : r₁.num = 100 := UInt32.ext (by rw [hnum]; decide)
  refine ⟨r₁, hrun, hnum', hlist, ?_⟩
  have hidx : ¬ (0 : UInt32) > 100 := by decide
  simp only [deviceGetObj, StateT.run_bind, get_run, except_ok_bind, hnum', hidx, if_false,
    regM_pure_run, readSlot_freed_run _ hlist, except_error_bind]

/-- A listing that grows between the two passes: the counting pass sees one record and makes
one slot, the parsing pass sees two records that pass the probe and writes the second past the
end. -/
theorem parse_overruns_slots :
    (parseSndCard ⟨true, [sampleRecord], true,
      [⟨sampleRecord, true, some .output⟩, ⟨sampleRecord, true, some .output⟩]⟩).run
        Registry.init = .error .outOfBounds :=
  parseSndCard_overflow _ _ rfl rfl (by simp) (by decide)

/-- `device_get_obj(num_audio_intfs)` passes the index check. After a `device_init` whose
listing has a record that passes the probe and one that fails, it returns `0` and stores
`NULL`; after one whose only record passes, it reads past the array. -/
theorem get_obj_past_end :
    (∃ r, (deviceInit fun _ => cleanAttempt [sampleRecord, sampleRecord.tail]
        fun t => if t = sampleRecord then some .output else none).run Registry.init =
        .ok (0, r) ∧
      r.num = 1 ∧ (deviceGetObj 1).run r = .ok ((0, some none), r)) ∧
    (∃ r, (deviceInit fun _ => cleanAttempt [sampleRecord] fun _ => some .output).run
        Registry.init = .ok (0, r) ∧
      r.num = 1 ∧ (deviceGetObj 1).run r = .error .outOfBounds) :=
  ⟨⟨_, rfl, rfl, rfl⟩, ⟨_, rfl, rfl, rfl⟩⟩

end Agm
