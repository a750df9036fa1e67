import Mathlib.Tactic.Ring

namespace OcppGo
namespace Ws
namespace Client

/-!
# The delays between the attempts to reconnect

`handleReconnection` of the websocket client waits before every attempt.  The delay begins with the
configured minimum and is doubled after a failed attempt, a given number of times; a random number
of seconds is added whenever it is computed.  Durations are nanoseconds in 64 bits and counters are
64 bits wide, so both wrap around.
-/

/-- The part of the timeout configuration that `handleReconnection` reads. -/
structure ClientTimeoutConfig where
  retryBackOffRepeatTimes : Int64
  retryBackOffRandomRange : Int64
  retryBackOffWaitMinimum : Int64

/-- `time.Second`. -/
def second : Int64 := 1000000000

/-- The local variables of `handleReconnection`. -/
structure Retry where
  delay : Int64
  reconnectionAttempts : Int64

namespace ClientTimeoutConfig

variable (config : ClientTimeoutConfig)

/-- What `rand.Intn(c.timeoutConfig.RetryBackOffRandomRange+1)` may return. -/
def Drawn (drawn : Int64) : Prop := 0 ≤ drawn ∧ drawn < config.retryBackOffRandomRange + 1
  deriving Decidable

/-- The variables before the first attempt. -/
def begin (drawn : Int64) : Retry := ⟨config.retryBackOffWaitMinimum + drawn * second, 1⟩

/-- The variables after an attempt that failed. -/
def failed (drawn : Int64) (retry : Retry) : Retry :=
  ⟨if retry.reconnectionAttempts < config.retryBackOffRepeatTimes then
      retry.delay * 2 + drawn * second
    else retry.delay,
    retry.reconnectionAttempts + 1⟩

/-- The variables after a number of failed attempts, given the random draws. -/
def after (draws : Nat -> Int64) : Nat -> Retry
  | 0 => config.begin (draws 0)
  | failures + 1 => config.failed (draws (failures + 1)) (after draws failures)

/-! ## The longest delays -/

/-- The largest number of nanoseconds that is added at random. -/
def noise : Int := config.retryBackOffRandomRange.toInt * 1000000000

/-- How often the delay is doubled. -/
def doublings : Nat := config.retryBackOffRepeatTimes.toInt.toNat - 1

/-- The longest delay after a number of doublings, in unbounded numbers. -/
def longest (doubled : Nat) : Int :=
  2 ^ doubled * (config.retryBackOffWaitMinimum.toInt + 2 * config.noise) - config.noise

theorem longest_zero : config.longest 0 = config.retryBackOffWaitMinimum.toInt + config.noise := by
  unfold longest
  ring

theorem longest_succ (doubled : Nat) :
    config.longest (doubled + 1) = 2 * config.longest doubled + config.noise := by
  unfold longest
  ring

/-- The minimum and the random range are not negative, and `rand.Intn` can be given the range. -/
structure Allowed : Prop where
  minimum : 0 ≤ config.retryBackOffWaitMinimum
  range : 0 ≤ config.retryBackOffRandomRange
  bounded : config.retryBackOffRandomRange < Int64.maxValue

/-- The delay after a number of failures is at least the minimum and at most the next delay, which
is the same once the attempts are as many as the configuration says. -/
def BacksOff (draws : Nat -> Int64) (failures : Nat) : Prop :=
  config.retryBackOffWaitMinimum ≤ (config.after draws failures).delay ∧
    (config.after draws failures).delay ≤ (config.after draws (failures + 1)).delay ∧
    (config.retryBackOffRepeatTimes.toInt ≤ failures + 1 ->
      (config.after draws (failures + 1)).delay = (config.after draws failures).delay)

/-- The counter is the number of the attempt, in 64 bits. -/
theorem reconnectionAttempts_after (draws : Nat -> Int64) (failures : Nat) :
    (config.after draws failures).reconnectionAttempts = Int64.ofNat (failures + 1) := by
  induction failures with
  | zero => rfl
  | succ failures ih => rw [after, failed, ih, Int64.ofNat_add (failures + 1) 1]; rfl

/-- The delay in unbounded numbers, before it is brought back to 64 bits. -/
theorem toInt_delay (delay drawn : Int64) :
    (delay + drawn * second).toInt =
      (delay.toInt + drawn.toInt * 1000000000).bmod (2 ^ 64) := by
  rw [Int64.toInt_add, Int64.toInt_mul, Int.add_bmod_bmod]
  rfl

theorem toInt_doubled (delay drawn : Int64) :
    (delay * 2 + drawn * second).toInt =
      (2 * delay.toInt + drawn.toInt * 1000000000).bmod (2 ^ 64) := by
  rw [toInt_delay, Int64.toInt_mul, Int.bmod_add_bmod, Int.mul_comm]
  rfl

/-- If no draw makes the sum wrap around, the sum with the largest draw fits. -/
theorem sum_fits {base range : Int} (least : 0 ≤ base) (most : base < 2 ^ 64)
    (nonneg : ∀ drawn, 0 ≤ drawn -> drawn ≤ range ->
      0 ≤ (base + drawn * 1000000000).bmod (2 ^ 64)) (some : 0 ≤ range) :
    base + range * 1000000000 < 2 ^ 63 := by
  by_contra large
  -- the first draw that brings the sum to `2 ^ 63` leaves it below `2 ^ 64`
  obtain ⟨drawn, low, high, wraps⟩ : ∃ drawn, 0 ≤ drawn ∧ drawn ≤ range ∧
      (base + drawn * 1000000000).bmod (2 ^ 64) < 0 := by
    by_cases already : 2 ^ 63 ≤ base
    · refine ⟨0, by omega, by omega, ?_⟩
      rw [Int.bmod_def]
      split <;> omega
    · refine ⟨(2 ^ 63 - base + 999999999) / 1000000000, by omega, by omega, ?_⟩
      rw [Int.bmod_def]
      split <;> omega
  exact absurd (nonneg drawn low high) (by omega)

variable {config}

variable {drawn : Int64}

theorem after_congr {first second : Nat -> Int64} {failures : Nat}
    (same : ∀ num ≤ failures, first num = second num) :
    config.after first failures = config.after second failures := by
  induction failures with
  | zero => exact congrArg config.begin (same 0 le_rfl)
  | succ failures ih =>
    rw [after, after, same _ le_rfl, ih fun num few => same num (Nat.le_succ_of_le few)]

/-- A draw does not matter to the delays before it. -/
theorem after_update (draws : Nat -> Int64) (failures : Nat) (last : Int64) :
    config.after (Function.update draws (failures + 1) last) failures =
      config.after draws failures :=
  after_congr fun _ few => Function.update_of_ne (Nat.ne_of_lt (Nat.lt_succ_of_le few)) last draws

variable (allowed : config.Allowed)
include allowed

theorem Allowed.toInt_minimum : 0 ≤ config.retryBackOffWaitMinimum.toInt :=
  Int64.le_iff_toInt_le.mp allowed.minimum

theorem Allowed.toInt_range : 0 ≤ config.retryBackOffRandomRange.toInt :=
  Int64.le_iff_toInt_le.mp allowed.range

theorem drawn_iff :
    config.Drawn drawn <->
      0 ≤ drawn.toInt ∧ drawn.toInt ≤ config.retryBackOffRandomRange.toInt := by
  have bounded : config.retryBackOffRandomRange.toInt < 2 ^ 63 - 1 :=
    Int64.lt_iff_toInt_lt.mp allowed.bounded
  have range := allowed.toInt_range
  have next : (config.retryBackOffRandomRange + 1).toInt =
      config.retryBackOffRandomRange.toInt + 1 := by
    rw [Int64.toInt_add]
    exact Int.bmod_eq_of_le (by change _ ≤ _ + 1; omega) (by change _ + 1 < _; omega)
  rw [Drawn, Int64.le_iff_toInt_le, Int64.lt_iff_toInt_lt, next, Int.lt_add_one_iff]
  rfl

theorem longest_mono {few many : Nat} (fewer : few ≤ many) :
    config.longest few ≤ config.longest many := by
  have minimum := allowed.toInt_minimum
  have range := allowed.toInt_range
  induction fewer with
  | refl => exact Int.le_refl _
  | @step doubled _ ih =>
    have nonneg : 0 ≤ config.longest doubled + config.noise := by
      rw [longest, Int.sub_add_cancel]
      exact Int.mul_nonneg (Int.pow_nonneg (by decide)) (by unfold noise; omega)
    rw [longest_succ]
    omega

/-! ## Delays that fit -/

/-- What holds of the delay as long as nothing wraps around. -/
structure Sound (config : ClientTimeoutConfig) (failures : Nat) (retry : Retry) : Prop where
  minimum : config.retryBackOffWaitMinimum.toInt ≤ retry.delay.toInt
  longest : retry.delay.toInt ≤ config.longest (min failures config.doublings)

theorem begin_sound (draw : config.Drawn drawn) (room : config.longest 0 < 2 ^ 63) :
    Sound config 0 (config.begin drawn) := by
  have minimum := allowed.toInt_minimum
  have bounds := (drawn_iff allowed).mp draw
  rw [longest_zero, noise] at room
  have delay : (config.begin drawn).delay.toInt =
      config.retryBackOffWaitMinimum.toInt + drawn.toInt * 1000000000 := by
    rw [begin, toInt_delay, Int.bmod_eq_of_le (by omega) (by omega)]
  refine ⟨by omega, ?_⟩
  rw [Nat.zero_min, longest_zero, noise]
  omega

/-- One failed attempt: the delay does not shrink, and does not change any more once the attempts
are as many as the configuration says. -/
theorem failed_sound (draw : config.Drawn drawn) {failures : Nat} (few : failures + 1 < 2 ^ 63)
    (room : config.longest (min (failures + 1) config.doublings) < 2 ^ 63) {retry : Retry}
    (counted : retry.reconnectionAttempts = Int64.ofNat (failures + 1))
    (sound : Sound config failures retry) :
    Sound config (failures + 1) (config.failed drawn retry) ∧
      retry.delay.toInt ≤ (config.failed drawn retry).delay.toInt ∧
      (config.retryBackOffRepeatTimes.toInt ≤ failures + 1 ->
        (config.failed drawn retry).delay = retry.delay) := by
  have minimum := allowed.toInt_minimum
  have least := sound.minimum
  have bounds := (drawn_iff allowed).mp draw
  have doubles : retry.reconnectionAttempts < config.retryBackOffRepeatTimes <->
      (failures + 1 : Int) < config.retryBackOffRepeatTimes.toInt := by
    rw [counted, Int64.lt_iff_toInt_lt, Int64.toInt_ofNat_of_lt few]
    rfl
  by_cases early : (failures + 1 : Int) < config.retryBackOffRepeatTimes.toInt
  · have below : failures + 1 ≤ config.doublings := by
      unfold doublings
      omega
    have longest := sound.longest
    rw [Nat.min_eq_left (by omega)] at longest
    rw [Nat.min_eq_left below, longest_succ, noise] at room
    have delay : (config.failed drawn retry).delay.toInt =
        2 * retry.delay.toInt + drawn.toInt * 1000000000 := by
      rw [failed, if_pos (doubles.mpr early), toInt_doubled,
        Int.bmod_eq_of_le (by omega) (by omega)]
    refine ⟨⟨by omega, ?_⟩, by omega, by omega⟩
    rw [Nat.min_eq_left below, longest_succ, noise]
    omega
  · have same : (config.failed drawn retry).delay = retry.delay := if_neg (mt doubles.mp early)
    have all : min (failures + 1) config.doublings = min failures config.doublings := by
      unfold doublings
      omega
    exact ⟨⟨same ▸ sound.minimum, all ▸ same ▸ sound.longest⟩, by rw [same], fun _ => same⟩

variable {draws : Nat -> Int64} {failures : Nat}

section

variable (draw : ∀ num, config.Drawn (draws num))
include draw

theorem after_sound (few : failures < 2 ^ 63)
    (room : config.longest (min failures config.doublings) < 2 ^ 63) :
    Sound config failures (config.after draws failures) := by
  induction failures with
  | zero => exact begin_sound allowed (draw 0) (Nat.zero_min _ ▸ room)
  | succ failures ih =>
    have shorter := longest_mono allowed (min_le_min_right config.doublings failures.le_succ)
    exact (failed_sound allowed (draw _) few room (config.reconnectionAttempts_after draws failures)
      (ih (by omega) (Int.lt_of_le_of_lt shorter room))).1

/-- A counter that is never below the configured number, or nothing to double and to add: the delay
stays what it was, also when the counter wraps around. -/
theorem delay_steady (steady : config.retryBackOffRepeatTimes = Int64.minValue ∨
      config.retryBackOffWaitMinimum = 0 ∧ config.retryBackOffRandomRange = 0) :
    (config.after draws failures).delay = (config.begin (draws 0)).delay := by
  induction failures with
  | zero => rfl
  | succ failures ih =>
    rcases steady with never | ⟨minimum, range⟩
    · have late : ¬ (config.after draws failures).reconnectionAttempts <
          config.retryBackOffRepeatTimes := by
        rw [never]
        exact Int64.not_lt.mpr (Int64.minValue_le _)
      rw [after, failed, if_neg late, ih]
    · have zero : ∀ num, draws num = 0 := by
        intro num
        have bounds := (drawn_iff allowed).mp (draw num)
        rw [range] at bounds
        exact Int64.toInt_inj.mp (Int.le_antisymm bounds.2 bounds.1)
      have nothing : (config.begin (draws 0)).delay = 0 := by
        rw [begin, zero, minimum]
        rfl
      rw [nothing] at ih ⊢
      rw [after, failed, ih, zero]
      exact ite_self _

end

/-! ## Delays that have to fit -/

/-- The largest draws, but for one of them. -/
theorem drawn_update (num : Nat) {last : Int64} (draw : config.Drawn last) (other : Nat) :
    config.Drawn (Function.update (fun _ => config.retryBackOffRandomRange) num last other) := by
  by_cases same : other = num
  · rwa [same, Function.update_self]
  · rw [Function.update_of_ne same]
    exact (drawn_iff allowed).mpr ⟨allowed.toInt_range, le_rfl⟩

variable (all : ∀ draws : Nat -> Int64, (∀ num, config.Drawn (draws num)) ->
    ∀ earlier ≤ failures, config.BacksOff draws earlier)
include all

/-- Whatever is drawn last, the delay is not negative. -/
theorem last_nonneg {num : Nat} (few : num ≤ failures + 1) {last : Int} (low : 0 ≤ last)
    (high : last ≤ config.retryBackOffRandomRange.toInt) :
    0 ≤ (config.after (Function.update (fun _ => config.retryBackOffRandomRange) num
      (Int64.ofInt last)) num).delay.toInt ∧ (Int64.ofInt last).toInt = last := by
  have small := Int64.toInt_lt config.retryBackOffRandomRange
  have exact : (Int64.ofInt last).toInt = last :=
    Int64.toInt_ofInt_of_le (by omega) (by omega)
  have draw : config.Drawn (Int64.ofInt last) := (drawn_iff allowed).mpr ⟨by omega, by omega⟩
  refine ⟨Int.le_trans allowed.toInt_minimum (Int64.le_iff_toInt_le.mp ?_), exact⟩
  rcases Nat.le_succ_iff.mp few with earlier | rfl
  · exact (all _ (drawn_update allowed num draw) num earlier).1
  · have pre := all _ (drawn_update allowed (failures + 1) draw) failures le_rfl
    exact Int64.le_trans pre.1 pre.2.1

/-- With the largest draws the delays are the longest ones, as no draw makes them wrap around. -/
theorem longest_reached {doubled : Nat} (few : doubled ≤ min (failures + 1) config.doublings) :
    (config.after (fun _ => config.retryBackOffRandomRange) doubled).delay.toInt =
      config.longest doubled := by
  have minimum := allowed.toInt_minimum
  have range := allowed.toInt_range
  induction doubled with
  | zero =>
    have fits : config.retryBackOffWaitMinimum.toInt +
        config.retryBackOffRandomRange.toInt * 1000000000 < 2 ^ 63 := by
      refine sum_fits minimum (by have := config.retryBackOffWaitMinimum.toInt_lt; omega)
        (fun last low high => ?_) range
      obtain ⟨nonneg, exact⟩ := last_nonneg allowed all (Nat.zero_le _) low high
      rwa [after, Function.update_self, begin, toInt_delay, exact] at nonneg
    rw [after, begin, toInt_delay, Int.bmod_eq_of_le (by omega) (by omega), longest_zero, noise]
  | succ doubled ih =>
    have reached := ih (by omega)
    have small := Int64.toInt_lt (config.after (fun _ => config.retryBackOffRandomRange)
      doubled).delay
    have least := longest_mono allowed (Nat.zero_le doubled)
    rw [longest_zero, noise] at least
    have doubles : Int64.ofNat (doubled + 1) < config.retryBackOffRepeatTimes := by
      have most := Int64.toInt_lt config.retryBackOffRepeatTimes
      unfold doublings at few
      rw [Int64.lt_iff_toInt_lt, Int64.toInt_ofNat_of_lt (by omega)]
      omega
    have delay : ∀ last, (config.after (Function.update
        (fun _ => config.retryBackOffRandomRange) (doubled + 1) last) (doubled + 1)).delay.toInt =
        (2 * config.longest doubled + last.toInt * 1000000000).bmod (2 ^ 64) := by
      intro last
      rw [after, after_update, Function.update_self, failed, reconnectionAttempts_after,
        if_pos doubles, toInt_doubled, reached]
    have fits : 2 * config.longest doubled +
        config.retryBackOffRandomRange.toInt * 1000000000 < 2 ^ 63 := by
      refine sum_fits (by omega) (by omega) (fun last low high => ?_) range
      obtain ⟨nonneg, exact⟩ := last_nonneg allowed all (few.trans (min_le_left _ _)) low high
      rwa [delay, exact] at nonneg
    have last := delay config.retryBackOffRandomRange
    rw [Function.update_eq_self_iff.mpr rfl, Int.bmod_eq_of_le (by omega) (by omega)] at last
    rw [last, longest_succ, noise]

/-- A counter that wraps around makes the delay grow again, unless nothing is ever doubled or what
is doubled is nothing. -/
theorem counter_fits (many : ¬ failures + 1 < 2 ^ 63)
    (doubles : config.retryBackOffRepeatTimes ≠ Int64.minValue) :
    config.retryBackOffWaitMinimum = 0 ∧ config.retryBackOffRandomRange = 0 := by
  have minimum := allowed.toInt_minimum
  have range := allowed.toInt_range
  obtain ⟨num, last⟩ : ∃ num, num + 1 = 2 ^ 63 := ⟨2 ^ 63 - 1, by norm_num⟩
  have draw : config.Drawn 0 := (drawn_iff allowed).mpr ⟨le_rfl, range⟩
  have grows : ∀ earlier ≤ num, config.longest 0 ≤
      (config.after (fun _ => config.retryBackOffRandomRange) earlier).delay.toInt := by
    intro earlier
    induction earlier with
    | zero => exact fun _ => (longest_reached allowed all (Nat.zero_le _)).ge
    | succ earlier ih =>
      intro few
      have next := all _ (fun _ => (drawn_iff allowed).mpr ⟨range, le_rfl⟩) earlier (by omega)
      exact Int.le_trans (ih (by omega)) (Int64.le_iff_toInt_le.mp next.2.1)
  have constant := (all _ (drawn_update allowed (num + 1) draw) num (by omega)).2.2
    (by have := Int64.toInt_lt config.retryBackOffRepeatTimes; omega)
  have wraps : Int64.ofNat (num + 1) < config.retryBackOffRepeatTimes := by
    rw [last]
    exact Int64.lt_of_le_of_ne (Int64.minValue_le _) (Ne.symm doubles)
  rw [after, after_update, Function.update_self, failed, reconnectionAttempts_after,
    if_pos wraps] at constant
  have nothing := congrArg Int64.toInt constant
  have zero : Int64.toInt 0 = 0 := rfl
  have least := grows num le_rfl
  rw [toInt_doubled, Int.bmod_def, zero] at nothing
  rw [longest_zero, noise] at least
  have none : config.retryBackOffWaitMinimum.toInt = 0 ∧
      config.retryBackOffRandomRange.toInt = 0 := by
    split at nothing <;> omega
  exact ⟨Int64.toInt_inj.mp none.1, Int64.toInt_inj.mp none.2⟩

end ClientTimeoutConfig

/-- The delays after a number of failed attempts and before are at least the minimum, do not shrink
and are constant from the attempt on whose number is configured, whatever is drawn, exactly if the
longest of them fits into 64 bits and the attempts can be counted, unless they need not be. -/
theorem reconnection_backs_off (config : ClientTimeoutConfig) (allowed : config.Allowed)
    (failures : Nat) :
    (∀ draws : Nat -> Int64, (∀ num, config.Drawn (draws num)) ->
      ∀ earlier ≤ failures, config.BacksOff draws earlier) <->
      config.longest (min (failures + 1) config.doublings) < 2 ^ 63 ∧
        (failures + 1 < 2 ^ 63 ∨ config.retryBackOffRepeatTimes = Int64.minValue ∨
          config.retryBackOffWaitMinimum = 0 ∧ config.retryBackOffRandomRange = 0) := by
  open ClientTimeoutConfig in
  constructor
  · intro all
    refine ⟨longest_reached allowed all le_rfl ▸ Int64.toInt_lt _, ?_⟩
    by_contra! overflows
    obtain ⟨many, doubles, some⟩ := overflows
    obtain ⟨minimum, range⟩ := counter_fits allowed all (by omega) doubles
    exact some minimum range
  · rintro ⟨room, few | steady⟩ draws draw earlier early
    · have room : config.longest (min (earlier + 1) config.doublings) < 2 ^ 63 :=
        Int.lt_of_le_of_lt (longest_mono allowed (min_le_min_right _ (by omega))) room
      have sound : Sound config earlier (config.after draws earlier) :=
        after_sound allowed draw (by omega)
          (Int.lt_of_le_of_lt (longest_mono allowed (min_le_min_right _ (by omega))) room)
      have next := failed_sound allowed (draw (earlier + 1)) (by omega) room
        (config.reconnectionAttempts_after draws earlier) sound
      exact ⟨Int64.le_iff_toInt_le.mpr sound.minimum, Int64.le_iff_toInt_le.mpr next.2.1, next.2.2⟩
    · have room : config.longest 0 < 2 ^ 63 :=
        Int.lt_of_le_of_lt (longest_mono allowed (Nat.zero_le _)) room
      have sound := begin_sound allowed (draw 0) room
      rw [BacksOff, delay_steady allowed draw steady, delay_steady allowed draw steady]
      exact ⟨Int64.le_iff_toInt_le.mpr sound.minimum, Int64.le_refl _, fun _ => rfl⟩

/-- Ten seconds, to be doubled up to forty times, after three failures. -/
theorem reconnection_backs_off_early :
    ClientTimeoutConfig.BacksOff ⟨40, 0, 10 * second⟩ (fun _ => 0) 3 := by
  have allowed : (⟨40, 0, 10 * second⟩ : ClientTimeoutConfig).Allowed :=
    ⟨by decide, by decide, by decide⟩
  exact (reconnection_backs_off _ allowed 3).mpr ⟨by decide, .inl (by decide)⟩ _
    (fun _ => ⟨Int64.le_refl 0, (by decide : (0 : Int64) < 0 + 1)⟩) 3 le_rfl

/-- Ten seconds, doubled thirty times, are a negative delay. -/
theorem reconnection_delay_wraps :
    ∃ (config : ClientTimeoutConfig) (draws : Nat -> Int64) (failures : Nat),
      0 ≤ config.retryBackOffWaitMinimum ∧ 0 ≤ config.retryBackOffRandomRange ∧
        config.retryBackOffRandomRange < Int64.maxValue ∧
        (∀ num, config.Drawn (draws num)) ∧
        ¬ config.retryBackOffWaitMinimum ≤ (config.after draws failures).delay ∧
        ¬ (config.after draws (failures - 1)).delay ≤ (config.after draws failures).delay :=
  ⟨⟨40, 0, 10 * second⟩, fun _ => 0, 30, by decide, by decide, by decide,
    fun _ => ⟨Int64.le_refl 0, (by decide : (0 : Int64) < 0 + 1)⟩, by decide +kernel,
    by decide +kernel⟩

end Client
end Ws
end OcppGo
