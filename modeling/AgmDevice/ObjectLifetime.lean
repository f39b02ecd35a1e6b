import AgmDevice.Discovery

/-
The lifetime of the device objects.

`parse_snd_card` allocates one object per record of its parsing pass. It frees the object of a
record whose probe fails at once and stores the others in `device_list`; on its error paths
(`free_device:`) it frees every stored object and the array; `device_deinit` frees every listed
object. Whatever the environment answers (a listing that does not open, any allocation that
fails, any probe that fails, attempts that find nothing), discovery either writes past the end of
`device_list`, at an attempt whose parsing pass reads more records than the counting pass made
slots, or returns; and when it returns, discovery and teardown never leak an object and never
free one twice.

* `OwnsExactly` — the live objects of the heap are exactly a list of distinct addresses, with
  one lemma per heap operation of discovery;
* `parsePass_owns` — the parsing pass writes past the array or keeps the stored slots and the
  live objects equal;
* `freeSlots_owns`, `deinitSlots_owns` — both teardown loops free each stored object once;
* `parseSndCard_owns`, `retryLoop_owns` — an attempt, and the retry loop;
* `discovery_frees_every_object` — from a heap with no live object, `device_init` writes past
  the array, or fails and leaves no live object, or succeeds and leaves exactly the listed
  objects, which `device_deinit` then frees without fault;
* `deinit_after_failed_init` — after a `device_init` that fails, `device_deinit` returns only if
  nothing was counted and `device_list` is `NULL`.
-/

namespace Agm

/-- Whether the heap holds a live device object at address `a`. -/
def liveAt (objs : List Cell) (a : Nat) : Bool :=
  match objs[a]? with
  | some (.live _) => true
  | _ => false

/-- The live objects of the heap are exactly the distinct addresses `owned`. -/
structure OwnsExactly (objs : List Cell) (owned : List Nat) : Prop where
  nodup : owned.Nodup
  live_iff : ∀ a, liveAt objs a = true ↔ a ∈ owned

/-- The registry owns every live object: the first `num_audio_intfs` slots of a live array point
to the distinct addresses `stored`, which are all the live objects, and the other slots are
empty. -/
def Registry.Owns (r : Registry) (stored : List Nat) : Prop :=
  (∃ m, r.list = .live (stored.map some ++ List.replicate m none)) ∧
    r.num.toNat = stored.length ∧ OwnsExactly r.objs stored

/-! ### The heap operations of discovery -/

theorem liveAt_lt {objs : List Cell} {a : Nat} (h : liveAt objs a = true) : a < objs.length := by
  by_contra hn
  simp [liveAt, List.getElem?_eq_none (Nat.le_of_not_lt hn)] at h

theorem liveAt_append_of_lt {objs : List Cell} {a : Nat} (ext : List Cell) (h : a < objs.length) :
    liveAt (objs ++ ext) a = liveAt objs a := by
  simp only [liveAt, List.getElem?_append_left h]

theorem liveAt_set_ne {objs : List Cell} {a b : Nat} (c : Cell) (h : a ≠ b) :
    liveAt (objs.set a c) b = liveAt objs b := by
  simp only [liveAt, List.getElem?_set_ne h]

theorem ownsExactly_nil : OwnsExactly [] [] := ⟨List.nodup_nil, fun a => by simp [liveAt]⟩

namespace OwnsExactly

variable {objs : List Cell} {owned : List Nat}

theorem length_not_mem (h : OwnsExactly objs owned) : objs.length ∉ owned :=
  fun hm => absurd (liveAt_lt ((h.live_iff _).2 hm)) (lt_irrefl _)

/-- A new cell that is not live, as the object of a record whose probe fails ends. -/
theorem append_freed (h : OwnsExactly objs owned) : OwnsExactly (objs ++ [.freed]) owned := by
  refine ⟨h.nodup, fun a => ?_⟩
  rcases Nat.lt_or_ge a objs.length with ha | ha
  · rw [liveAt_append_of_lt _ ha, h.live_iff]
  · have hn : a ∉ owned := fun hm => absurd (liveAt_lt ((h.live_iff a).2 hm)) (by omega)
    rcases Nat.lt_or_ge a (objs.length + 1) with ha' | ha'
    · obtain rfl : a = objs.length := by omega
      simp [liveAt, hn]
    · simp [liveAt, List.getElem?_eq_none (show (objs ++ [Cell.freed]).length ≤ a by simpa), hn]

/-- A new live object, owned from now on. -/
theorem append_live (h : OwnsExactly objs owned) (d : DeviceObj) :
    OwnsExactly (objs ++ [.live d]) (owned ++ [objs.length]) := by
  refine ⟨h.nodup.append (List.nodup_singleton _) (by simpa using h.length_not_mem), fun a => ?_⟩
  rcases Nat.lt_or_ge a objs.length with ha | ha
  · rw [liveAt_append_of_lt _ ha, h.live_iff]
    simp [ha.ne]
  · have hn : a ∉ owned := fun hm => absurd (liveAt_lt ((h.live_iff a).2 hm)) (by omega)
    rcases Nat.lt_or_ge a (objs.length + 1) with ha' | ha'
    · obtain rfl : a = objs.length := by omega
      simp [liveAt]
    · simp [liveAt, List.getElem?_eq_none (show (objs ++ [Cell.live d]).length ≤ a by simpa), hn]
      omega

/-- Freeing an owned object. -/
theorem set_freed (h : OwnsExactly objs owned) {a : Nat} (ha : a ∈ owned) :
    OwnsExactly (objs.set a .freed) (owned.erase a) := by
  refine ⟨h.nodup.erase a, fun b => ?_⟩
  rw [h.nodup.mem_erase_iff]
  by_cases hb : a = b
  · subst hb
    simp [liveAt, List.getElem?_set_self (liveAt_lt ((h.live_iff a).2 ha))]
  · rw [liveAt_set_ne _ hb, h.live_iff]
    exact ⟨fun hm => ⟨Ne.symm hb, hm⟩, And.right⟩

/-- Freeing the owned object `a`, which stands between the owned `A` and `R`. -/
theorem free_mid {A R : List Nat} {a : Nat} (h : OwnsExactly objs (A ++ a :: R)) :
    OwnsExactly (objs.set a .freed) (A ++ R) := by
  have hA : a ∉ A := fun ha => (List.nodup_append.1 h.nodup).2.2 ha (List.mem_cons_self a R)
  have ho := h.set_freed (show a ∈ A ++ a :: R by simp)
  rwa [List.erase_append_right _ hA, List.erase_cons_head] at ho

theorem live_mid {A R : List Nat} {a : Nat} (h : OwnsExactly objs (A ++ a :: R)) :
    liveAt objs a = true :=
  (h.live_iff a).2 (by simp)

end OwnsExactly

theorem freeObj_live_run (r : Registry) {a : Nat} (h : liveAt r.objs a = true) :
    (freeObj a).run r = .ok ((), { r with objs := r.objs.set a .freed }) := by
  cases hc : r.objs[a]? with
  | none => simp [liveAt, hc] at h
  | some c =>
    cases c with
    | live d => simp [StateT.run, freeObj, hc]
    | freed => simp [liveAt, hc] at h

theorem readObj_live_run (r : Registry) {a : Nat} (h : liveAt r.objs a = true) :
    ∃ d, (readObj (some a)).run r = .ok (d, r) := by
  cases hc : r.objs[a]? with
  | none => simp [liveAt, hc] at h
  | some c =>
    cases c with
    | live d => exact ⟨d, by simp [StateT.run, readObj, hc]⟩
    | freed => simp [liveAt, hc] at h

/-! ### The parsing pass, with every answer of the environment -/

/-- The parsing pass over any records, whatever the allocations and the probe answer: it either
writes past the array, when it reads more records than the array has free slots, or returns,
and then the stored slots point to distinct objects that are all the live ones, and the slot
counter it returns counts them. -/
theorem parsePass_owns (ps : List ParsedRecord) : ∀ (count : UInt32) (stored : List Nat)
    (m : Nat) (r : Registry),
    r.list = .live (stored.map some ++ List.replicate m none) →
    count.toNat = stored.length → stored.length + m < 2 ^ 32 → OwnsExactly r.objs stored →
    ((parsePass count ps).run r = .error .outOfBounds ∧ m < ps.length) ∨
    ∃ res r', (parsePass count ps).run r = .ok (res, r') ∧
      ∃ stored' m', r'.list = .live (stored'.map some ++ List.replicate m' none) ∧
        stored'.length + m' = stored.length + m ∧ OwnsExactly r'.objs stored' ∧ r'.num = r.num ∧
        ∀ c, res = some c → c.toNat = stored'.length := by
  induction ps with
  | nil =>
    intro count stored m r hl hc _ ho
    exact .inr ⟨_, _, rfl, stored, m, hl, rfl, ho, rfl, fun c hc' => by cases hc'; exact hc⟩
  | cons p ps ih =>
    intro count stored m r hl hc hw ho
    cases hp : p.alloc
    · exact .inr ⟨none, r, by simp [parsePass, hp], stored, m, hl, rfl, ho, rfl,
        fun c hc' => by cases hc'⟩
    cases hpr : p.probe with
    | none =>
      rw [parsePass_cons_freed r hp hpr]
      exact (ih count stored m { r with objs := r.objs ++ [.freed] } hl hc hw ho.append_freed).imp_left
        fun ⟨hf, hm⟩ => ⟨hf, by simp; omega⟩
    | some d =>
      have hc' : count.toNat = (stored.map some).length := by simpa using hc
      cases m with
      | zero => exact .inl ⟨parsePass_cons_full r hp hpr hl hc' ps, by simp⟩
      | succ m =>
        rw [parsePass_cons_stored r hp hpr hl hc']
        have hcount : (count + 1).toNat = (stored ++ [r.objs.length]).length := by
          rw [toNat_count_succ (some r.objs.length) hc' (by simp; omega)]
          simp
        rcases ih (count + 1) (stored ++ [r.objs.length]) m { r with
            list := .live ((stored.map some ++ [some r.objs.length]) ++ List.replicate m none),
            objs := r.objs ++ [cellOf p] } (by simp) hcount (by simp; omega)
            (by simpa [cellOf, hpr] using ho.append_live _) with
          ⟨hf, hm⟩ | ⟨res, r', h, s', m', h₁, h₂, h₃, h₄, h₅⟩
        · exact .inl ⟨hf, by simp; omega⟩
        · exact .inr ⟨res, r', h, s', m', h₁, by simp at h₂; omega, h₃, h₄, h₅⟩

/-! ### The two teardown loops -/

/-- `free_device:` over the slots `i, ..., i + k - 1` frees the object of each slot that holds
one, once, and no other. -/
theorem freeSlots_owns (sl : List (Option Nat)) (A : List Nat) : ∀ (k i : Nat) (r : Registry),
    r.list = .live sl → i + k ≤ sl.length →
    OwnsExactly r.objs (A ++ ((sl.drop i).take k).reduceOption) →
    ∃ objs', (freeSlots i k).run r = .ok ((), { r with objs := objs' }) ∧ OwnsExactly objs' A := by
  intro k
  induction k with
  | zero => intro i r _ _ ho; exact ⟨r.objs, rfl, by simpa using ho⟩
  | succ k ih =>
    intro i r hl hik ho
    have hi : i < sl.length := by omega
    rw [List.drop_eq_getElem_cons hi, List.take_succ_cons] at ho
    simp only [freeSlots, StateT.run_bind, readSlot_live_run r hl hi, except_ok_bind]
    cases hs : sl[i] with
    | none =>
      rw [hs, List.reduceOption_cons_of_none] at ho
      exact ih (i + 1) r hl (by omega) ho
    | some a =>
      rw [hs, List.reduceOption_cons_of_some] at ho
      simp only [StateT.run_bind, freeObj_live_run r ho.live_mid, except_ok_bind]
      exact ih (i + 1) { r with objs := r.objs.set a .freed } hl (by omega) ho.free_mid

/-- The loop of `device_deinit` over slots `i, ..., i + k - 1` that all point to owned objects
reads and frees each of them once. -/
theorem deinitSlots_owns (sl : List (Option Nat)) (A : List Nat) : ∀ (R : List Nat) (i : Nat)
    (r : Registry), r.list = .live sl → (sl.drop i).take R.length = R.map some →
    i + R.length ≤ sl.length → OwnsExactly r.objs (A ++ R) →
    ∃ objs', (deinitSlots i R.length).run r = .ok ((), { r with objs := objs' }) ∧
      OwnsExactly objs' A := by
  intro R
  induction R with
  | nil => intro i r _ _ _ ho; exact ⟨r.objs, rfl, by simpa using ho⟩
  | cons a R ih =>
    intro i r hl hsl hik ho
    have hi : i < sl.length := by simp at hik; omega
    rw [List.drop_eq_getElem_cons hi, List.length_cons, List.take_succ_cons, List.map_cons,
      List.cons.injEq] at hsl
    obtain ⟨d, hd⟩ := readObj_live_run r ho.live_mid
    simp only [deinitSlots, StateT.run_bind, readSlot_live_run r hl hi, except_ok_bind, hsl.1, hd,
      freeObj_live_run r ho.live_mid]
    exact ih (i + 1) { r with objs := r.objs.set a .freed } hl hsl.2 (by simp at hik; omega)
      ho.free_mid

theorem reduceOption_stored (stored : List Nat) (m : Nat) :
    (stored.map some ++ List.replicate m none).reduceOption = stored := by
  simp [List.reduceOption, List.filterMap_replicate]

/-- `free_device:` over an array whose slots point to distinct objects, which are all the live
ones: it frees each of them and the array. -/
theorem freeDevices_owns (r : Registry) {stored : List Nat} {m : Nat}
    (hl : r.list = .live (stored.map some ++ List.replicate m none))
    (hn : r.num.toNat = stored.length + m) (ho : OwnsExactly r.objs stored) :
    ∃ objs', freeDevices.run r = .ok ((), { r with list := .freed, objs := objs' }) ∧
      OwnsExactly objs' [] := by
  have hred : (((stored.map some ++ List.replicate m none).drop 0).take r.num.toNat).reduceOption =
      stored := by
    rw [hn, List.drop_zero, List.take_of_length_le (by simp), reduceOption_stored]
  obtain ⟨objs', h, h'⟩ :=
    freeSlots_owns _ [] r.num.toNat 0 r hl (by simp [hn]) (by rwa [List.nil_append, hred])
  refine ⟨objs', ?_, h'⟩
  simp only [freeDevices, StateT.run_bind, get_run, except_ok_bind, h]
  simp [StateT.run, freeList, hl]

/-! ### One attempt, the retry loop, and teardown -/

/-- `device_list` holds no live array: `NULL`, or an array already freed. -/
def Registry.NoArray (r : Registry) : Prop := r.list = .null ∨ r.list = .freed

/-- One attempt, with every answer of the environment, from a heap with no live object: it writes
past the array when its parsing pass reads more records than the counting pass made slots, or
returns. If it returns `0` the registry owns every live object; otherwise none is left, and
`device_list` is `NULL`, freed, or as it was (when the listing does not open); after `-EAGAIN`,
`num_audio_intfs` keeps the records counted. -/
theorem parseSndCard_owns (a : Attempt) {r : Registry} (h₀ : OwnsExactly r.objs []) :
    ((parseSndCard a).run r = .error .outOfBounds ∧
      (countPass r.num a.counted).toNat < a.parsed.length) ∨
    ∃ ret r', (parseSndCard a).run r = .ok (ret, r') ∧
      (ret = -eagain → r'.num = countPass r.num a.counted) ∧
      ((ret = 0 ∧ ∃ stored, r'.Owns stored) ∨
        (ret ≠ 0 ∧ OwnsExactly r'.objs [] ∧ (r'.NoArray ∨ r'.list = r.list))) := by
  cases ho : a.opens
  · -- the listing does not open
    refine .inr ⟨-enodev, r, ?_, fun h => absurd h (by decide), .inr ⟨by decide, h₀, .inr rfl⟩⟩
    simp only [parseSndCard, ho, Bool.not_false, if_true, regM_pure_run]
  cases hl : a.listAlloc
  · -- the array is not allocated
    refine .inr ⟨-enomem, { r with num := countPass r.num a.counted, list := .null }, ?_,
      fun h => absurd h (by decide), .inr ⟨by decide, h₀, .inl (.inl rfl)⟩⟩
    simp only [parseSndCard, ho, hl, Bool.not_true, Bool.not_false, Bool.false_eq_true, if_true,
      if_false, StateT.run_bind, modify_run, except_ok_bind, regM_pure_run]
  simp only [parseSndCard, ho, hl, Bool.not_true, Bool.false_eq_true, if_false,
    StateT.run_bind, modify_run, except_ok_bind]
  rcases parsePass_owns a.parsed 0 [] (countPass r.num a.counted).toNat
      ⟨.live (List.replicate (countPass r.num a.counted).toNat none), countPass r.num a.counted,
        r.objs⟩ (by simp) rfl (by simpa using UInt32.toNat_lt _) h₀ with
    ⟨hf, hm⟩ | ⟨res, r₂, hpass, stored, m, hl₂, hlen, ho₂, hnum₂, hres⟩
  · exact .inl ⟨by rw [hf]; rfl, hm⟩
  have hn : r₂.num.toNat = stored.length + m := by rw [hnum₂, hlen]; simp
  obtain ⟨objs', hfree, hown⟩ := freeDevices_owns r₂ hl₂ hn ho₂
  refine .inr ?_
  rw [hpass, except_ok_bind]
  cases res with
  | none =>
    simp only [StateT.run_bind, hfree, except_ok_bind, regM_pure_run]
    exact ⟨_, _, rfl, fun h => absurd h (by decide), .inr ⟨by decide, hown, .inl (.inr rfl)⟩⟩
  | some count =>
    by_cases h0 : count = 0
    · simp only [h0, if_true, StateT.run_bind, hfree, except_ok_bind, regM_pure_run]
      exact ⟨_, _, rfl, fun _ => hnum₂, .inr ⟨by decide, hown, .inl (.inr rfl)⟩⟩
    · simp only [h0, if_false, StateT.run_bind, modify_run, except_ok_bind, regM_pure_run]
      exact ⟨_, _, rfl, fun h => absurd h (by decide),
        .inl ⟨rfl, stored, ⟨m, hl₂⟩, hres count rfl, ho₂⟩⟩

/-- The retry loop: it writes past the array at an attempt whose parsing pass reads more records
than `num_audio_intfs` after its counting pass, or returns as one attempt does. -/
theorem retryLoop_owns (env : Nat → Attempt) (n : Nat) : ∀ (k : Nat) {r : Registry},
    OwnsExactly r.objs [] →
    ((retryLoop env k n).run r = .error .outOfBounds ∧
      ∃ i ≤ n, (r.num.toNat + countedFrom env k i) % 2 ^ 32 < (env (k + i)).parsed.length) ∨
    ∃ ret r', (retryLoop env k n).run r = .ok (ret, r') ∧
      ((ret = 0 ∧ ∃ stored, r'.Owns stored) ∨
        (ret ≠ 0 ∧ OwnsExactly r'.objs [] ∧ (r'.NoArray ∨ r'.list = r.list))) := by
  induction n with
  | zero =>
    intro k r h₀
    rcases parseSndCard_owns (env k) h₀ with ⟨hf, hm⟩ | ⟨ret, r', h, -, hres⟩
    · exact .inl ⟨hf, 0, le_rfl, by rwa [countedFrom_zero, ← countPass_toNat]⟩
    · exact .inr ⟨ret, r', h, hres⟩
  | succ n ih =>
    intro k r h₀
    simp only [retryLoop, StateT.run_bind]
    rcases parseSndCard_owns (env k) h₀ with ⟨hf, hm⟩ | ⟨ret₁, r₁, h₁, hnum, hres⟩
    · exact .inl ⟨by rw [hf]; rfl, 0, Nat.zero_le _, by rwa [countedFrom_zero, ← countPass_toNat]⟩
    rw [h₁, except_ok_bind]
    by_cases heq : ret₁ = -eagain
    · rw [if_pos heq]
      rcases hres with ⟨h0, -⟩ | ⟨-, ho₁, hl₁⟩
      · exact absurd (h0 ▸ heq) (by decide)
      rcases ih (k + 1) ho₁ with ⟨hf, i, hi, hm⟩ | ⟨ret, r', h, hok | ⟨hne, ho', hl'⟩⟩
      · -- the attempts after the first start from the counter it left
        refine .inl ⟨hf, i + 1, by omega, ?_⟩
        rw [hnum heq, countPass_toNat] at hm
        rw [countedFrom_succ, show k + (i + 1) = k + 1 + i by omega]
        omega
      · exact .inr ⟨ret, r', h, .inl hok⟩
      · refine .inr ⟨ret, r', h, .inr ⟨hne, ho', ?_⟩⟩
        rcases hl' with hl' | hl'
        · exact .inl hl'
        · unfold Registry.NoArray at hl₁ ⊢
          rw [hl']
          exact hl₁
    · rw [if_neg heq]
      exact .inr ⟨ret₁, r₁, rfl, hres⟩

/-- `device_deinit` of a registry that owns every live object returns and frees all of them. -/
theorem deviceDeinit_owns {r : Registry} {stored : List Nat} (h : r.Owns stored) :
    ∃ r', deviceDeinit.run r = .ok ((), r') ∧ OwnsExactly r'.objs [] := by
  obtain ⟨⟨m, hl⟩, hn, ho⟩ := h
  obtain ⟨objs', h₁, h₂⟩ := deinitSlots_owns _ [] stored 0 r hl (by simp) (by simp)
    (by simpa using ho)
  refine ⟨{ r with list := .null, objs := objs' }, ?_, h₂⟩
  simp only [deviceDeinit, StateT.run_bind, get_run, except_ok_bind, hn, h₁]
  simp only [StateT.run, freeList, hl]
  rfl

/-- Discovery and teardown, with every answer of the environment, from a heap with no live
device object. `device_init` either writes past the end of `device_list`, at an attempt whose
parsing pass reads more records than `num_audio_intfs` after its counting pass (a listing that
grows between the two passes, or a counter that wraps), or returns. A `device_init` that returns
an error leaves no live object; one that returns `0` leaves exactly the objects `device_list`
names, each named once, and the `device_deinit` after it returns and frees every one of them. -/
theorem discovery_frees_every_object (env : Nat → Attempt) {r₀ : Registry}
    (h₀ : OwnsExactly r₀.objs []) :
    ((deviceInit env).run r₀ = .error .outOfBounds ∧
      ∃ j < maxRetry, (r₀.num.toNat + countedFrom env 0 j) % 2 ^ 32 < (env j).parsed.length) ∨
    ∃ ret r, (deviceInit env).run r₀ = .ok (ret, r) ∧
      ((ret ≠ 0 ∧ OwnsExactly r.objs []) ∨
        (ret = 0 ∧ ∃ stored, r.Owns stored ∧
          ∃ r', deviceDeinit.run r = .ok ((), r') ∧ OwnsExactly r'.objs [])) := by
  rcases retryLoop_owns env _ 0 h₀ with
    ⟨hf, j, hj, hm⟩ | ⟨ret, r, h, ⟨h0, stored, hown⟩ | ⟨hne, hown, -⟩⟩
  · exact .inl ⟨hf, j, by unfold maxRetry at hj ⊢; omega, by simpa using hm⟩
  · exact .inr ⟨ret, r, h, .inr ⟨h0, stored, hown, deviceDeinit_owns hown⟩⟩
  · exact .inr ⟨ret, r, h, .inl ⟨hne, hown⟩⟩

/-- The listing grows between the two passes of the first attempt, from one record to two that
pass the probe: `device_init` writes past the one slot. -/
theorem discovery_frees_every_object_growing :
    (deviceInit fun _ => ⟨true, [sampleRecord], true,
      [⟨sampleRecord, true, some .output⟩, ⟨sampleRecord, true, some .output⟩]⟩).run
        Registry.init = .error .outOfBounds ∧
    ∃ j < maxRetry, (Registry.init.num.toNat + countedFrom (fun _ => ⟨true, [sampleRecord], true,
      [⟨sampleRecord, true, some .output⟩, ⟨sampleRecord, true, some .output⟩]⟩) 0 j) % 2 ^ 32 <
        2 :=
  (discovery_frees_every_object _ ownsExactly_nil).resolve_right fun ⟨_, _, h, _⟩ => by
    cases h.symm.trans (show _ = .error .outOfBounds from rfl)

/-! ### Teardown after a failed discovery -/

/-- `device_deinit` over a registry with no live array returns only when `num_audio_intfs` is `0`
and `device_list` is `NULL`. Otherwise its loop reads `device_list[0]` through the null or freed
pointer, or, with no slot to visit, it frees the freed array again. -/
theorem deviceDeinit_noArray_run {r : Registry} (hl : r.NoArray) :
    deviceDeinit.run r = if r.list = .null ∧ r.num = 0 then .ok ((), r) else
      .error (if r.list = .null then .nullDeref else if r.num = 0 then .doubleFree
        else .useAfterFree) := by
  obtain ⟨list, num, objs⟩ := r
  simp only [deviceDeinit, StateT.run_bind, get_run, except_ok_bind]
  rcases hn : num.toNat with _ | k
  · have h0 : num = 0 := UInt32.toNat.inj hn
    rcases hl with rfl | rfl <;>
      simp only [h0, and_true, true_and, if_true, reduceCtorEq, if_false] <;> rfl
  · have h0 : num ≠ 0 := fun h => by simp [h] at hn
    rcases hl with rfl | rfl <;>
      simp only [h0, and_false, false_and, if_false, if_true, reduceCtorEq] <;> rfl

/-- A `device_init` that fails, from a registry with no live object and no live array (as at
start, or after `device_deinit`), leaves `device_list` `NULL` or freed, whatever the environment
answers. A `device_deinit` after it returns only when `num_audio_intfs` is `0` and `device_list`
is `NULL`; otherwise it reads `device_list[0]` through the null or freed pointer (the counting
passes left `num_audio_intfs` above `0`), or frees the freed array a second time. -/
theorem deinit_after_failed_init (env : Nat → Attempt) {r₀ r : Registry} {ret : Int}
    (h₀ : OwnsExactly r₀.objs []) (hl₀ : r₀.NoArray)
    (h : (deviceInit env).run r₀ = .ok (ret, r)) (hret : ret ≠ 0) :
    r.NoArray ∧ deviceDeinit.run r = if r.list = .null ∧ r.num = 0 then .ok ((), r) else
      .error (if r.list = .null then .nullDeref else if r.num = 0 then .doubleFree
        else .useAfterFree) := by
  have hl : r.NoArray := by
    rcases retryLoop_owns env _ 0 h₀ with ⟨hf, -⟩ | ⟨ret', r', h', hres⟩
    · cases h.symm.trans hf
    cases h.symm.trans h'
    rcases hres with ⟨h0, -⟩ | ⟨-, -, hl | hl⟩
    · exact absurd h0 hret
    · exact hl
    · unfold Registry.NoArray
      rw [hl]
      exact hl₀
  exact ⟨hl, deviceDeinit_noArray_run hl⟩

/-- The listing opens and counts one record, and the `calloc` of `device_list` fails:
`device_init` returns `-ENOMEM` with `num_audio_intfs = 1` and `device_list = NULL`, and
`device_deinit` reads `device_list[0]` through the null pointer. -/
theorem deinit_after_failed_init_no_list :
    ∃ r, (deviceInit fun _ => ⟨true, [sampleRecord], false, []⟩).run Registry.init =
        .ok (-enomem, r) ∧ r.num = 1 ∧ deviceDeinit.run r = .error .nullDeref ∧
      (r.NoArray ∧ deviceDeinit.run r = if r.list = .null ∧ r.num = 0 then .ok ((), r) else
        .error (if r.list = .null then .nullDeref else if r.num = 0 then .doubleFree
          else .useAfterFree)) :=
  ⟨_, rfl, rfl, rfl, @deinit_after_failed_init (fun _ => ⟨true, [sampleRecord], false, []⟩)
    Registry.init _ _ ownsExactly_nil (.inl rfl) rfl (by decide)⟩

end Agm
