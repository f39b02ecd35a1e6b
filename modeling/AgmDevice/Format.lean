import Mathlib

/-
Media formats and the period size of a device open.

Both backends of `device_open` hand the driver a period size computed from the stored media
configuration, `MAX_PERIOD_BUFFER / (channels * (get_pcm_bits_per_sample(format) / 8))`, in
`unsigned int` arithmetic. This file models the format switches and that computation:

* `getPcmBitsPerSample`, `agmToPcmFormat`, `agmToAlsaFormat` — the three switches of `device.c`;
* `periodSize` — the computation, `none` where it divides by zero;
* `periodSize_eq_none_iff`, `periodSize_toNat` — it divides by zero exactly when the frame size
  is `0` modulo `2 ^ 32`, and otherwise yields the quotient by that remainder;
* `periodSize_exceeds_max` — how it leaves the dummy-dai limit that the comment at
  `MAX_PERIOD_BUFFER` states: a frame that fits in 32 bits gets the exact quotient (no period
  for zero channels, a period of zero frames above `8192` bytes), and a frame that wraps gets
  the quotient by its remainder, a period far above `8192` bytes.

Design notes: `device_set_media_config` stores any channel count unchecked, so nothing bounds
the frame size.
-/

namespace Agm

/-- Modelled from the spec: `enum agm_media_format`, whose header is not under `src/`. The five
PCM formats the switches of `device.c` name, and `other v` for every other enumerator; all of
those take the `default` branches. -/
inductive AgmMediaFormat
  | pcmS8
  | pcmS16Le
  | pcmS24Le
  | pcmS24_3Le
  | pcmS32Le
  | other (v : Nat)
  deriving DecidableEq, Repr

/-- Modelled from the spec: `struct agm_media_config`. -/
structure AgmMediaConfig where
  rate : UInt32
  channels : UInt32
  format : AgmMediaFormat
  dataFormat : UInt32
  deriving DecidableEq, Repr

/-- The driver's sample formats: `enum pcm_format` of tinyalsa, `snd_pcm_format_t` of alsa-lib. -/
inductive PcmFormat
  | s8
  | s16Le
  | s24Le
  | s24_3Le
  | s32Le
  deriving DecidableEq, Repr

/-- `MAX_PERIOD_BUFFER`: the largest period of the dummy dai, in bytes. -/
def maxPeriodBuffer : UInt32 := 8192

/-- `DEFAULT_PERIOD_COUNT`. -/
def defaultPeriodCount : UInt32 := 2

/-- `get_pcm_bits_per_sample`. -/
def getPcmBitsPerSample : AgmMediaFormat → Int
  | .pcmS8 => 8
  | .pcmS24Le => 32
  | .pcmS24_3Le => 24
  | .pcmS32Le => 32
  | .pcmS16Le | .other _ => 16

/-- The switch `agm_to_pcm_format` and `agm_to_alsa_format` share; they differ only in the enum
they name. -/
def toDriverFormat : AgmMediaFormat → PcmFormat
  | .pcmS32Le => .s32Le
  | .pcmS8 => .s8
  | .pcmS24_3Le => .s24_3Le
  | .pcmS24Le => .s24Le
  | .pcmS16Le | .other _ => .s16Le

/-- `agm_to_pcm_format` (tinyalsa). -/
def agmToPcmFormat : AgmMediaFormat → PcmFormat := toDriverFormat

/-- `agm_to_alsa_format` (alsa-lib). -/
def agmToAlsaFormat : AgmMediaFormat → PcmFormat := toDriverFormat

/-! ### The period size -/

/-- `get_pcm_bits_per_sample(format) / 8`, converted to `unsigned int` as the product does. -/
def bytesPerSample (format : AgmMediaFormat) : UInt32 :=
  UInt32.ofNat (getPcmBitsPerSample format / 8).toNat

/-- The period size of `device_open`, `MAX_PERIOD_BUFFER / (channels * bytes)` in `unsigned int`
arithmetic; `none` is the division by zero. -/
def periodSize (channels : UInt32) (format : AgmMediaFormat) : Option UInt32 :=
  let frame := channels * bytesPerSample format
  if frame = 0 then none else some (maxPeriodBuffer / frame)

/-- Every enumerator outside the switch counts as 16-bit. -/
theorem bytesPerSample_other (v : Nat) :
    bytesPerSample (.other v) = bytesPerSample .pcmS16Le := rfl

theorem bytesPerSample_toNat_mem (format : AgmMediaFormat) :
    1 ≤ (bytesPerSample format).toNat ∧ (bytesPerSample format).toNat ≤ 4 := by
  cases format <;> (try rw [bytesPerSample_other]) <;> decide

theorem toNat_mul_uint32 (a b : UInt32) : (a * b).toNat = a.toNat * b.toNat % 2 ^ 32 :=
  BitVec.toNat_mul _ _

theorem periodSize_eq_none_iff (channels : UInt32) (format : AgmMediaFormat) :
    periodSize channels format = none ↔
      channels.toNat * (bytesPerSample format).toNat % 2 ^ 32 = 0 := by
  rw [← toNat_mul_uint32, periodSize]
  constructor
  · intro h
    by_cases h0 : channels * bytesPerSample format = 0
    · simp [h0]
    · simp [h0] at h
  · intro h
    simp [UInt32.toNat.inj (b := 0) h]

/-- The period size is `MAX_PERIOD_BUFFER` divided by the frame size modulo `2 ^ 32`. -/
theorem periodSize_toNat {channels : UInt32} {format : AgmMediaFormat} {p : UInt32}
    (h : periodSize channels format = some p) :
    p.toNat =
      maxPeriodBuffer.toNat / (channels.toNat * (bytesPerSample format).toNat % 2 ^ 32) := by
  dsimp only [periodSize] at h
  split_ifs at h
  cases h
  rw [UInt32.toNat_div, toNat_mul_uint32]

/-- `device_set_media_config` stores the channel count unchecked, and the frame size is a
product modulo `2 ^ 32`. While the frame fits in 32 bits the period is the exact quotient: zero
channels divide by zero, a frame of at most `8192` bytes gets one or more frames within
`MAX_PERIOD_BUFFER`, and a larger frame gets none. A frame that wraps is divided as its
remainder: `2 ^ 31 + 1` channels of `S16_LE` are a frame of `2 ^ 32 + 2` bytes, computed as `2`,
and get `4096` frames, a period of more than `2 ^ 44` bytes. -/
theorem periodSize_exceeds_max :
    (∀ channels format, channels.toNat * (bytesPerSample format).toNat < 2 ^ 32 →
      (periodSize channels format = none ↔ channels = 0) ∧
      ∀ p, periodSize channels format = some p →
        p.toNat * (channels.toNat * (bytesPerSample format).toNat) ≤ maxPeriodBuffer.toNat ∧
        (1 ≤ p.toNat ↔
          channels.toNat * (bytesPerSample format).toNat ≤ maxPeriodBuffer.toNat)) ∧
    periodSize 2147483649 .pcmS16Le = some 4096 ∧
      maxPeriodBuffer.toNat < 4096 * (2147483649 * (bytesPerSample .pcmS16Le).toNat) := by
  refine ⟨fun channels format hw => ?_, by decide, by decide⟩
  have hb := (bytesPerSample_toNat_mem format).1
  have hmod := Nat.mod_eq_of_lt hw
  have hzero : channels.toNat * (bytesPerSample format).toNat = 0 ↔ channels = 0 := by
    rw [Nat.mul_eq_zero]
    exact ⟨fun h => UInt32.toNat.inj (b := 0) (h.resolve_right (by omega)), fun h => .inl (by
      rw [h]; rfl)⟩
  have hnone : periodSize channels format = none ↔ channels = 0 := by
    rw [periodSize_eq_none_iff, hmod, hzero]
  refine ⟨hnone, fun p hp => ?_⟩
  have hpos : 0 < channels.toNat * (bytesPerSample format).toNat :=
    Nat.pos_of_ne_zero fun h0 => by simp [hnone.2 (hzero.1 h0)] at hp
  rw [periodSize_toNat hp, hmod]
  exact ⟨Nat.div_mul_le_self _ _, Nat.one_le_div_iff hpos⟩

end Agm
