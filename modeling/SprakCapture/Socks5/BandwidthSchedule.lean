import SprakCapture.Data.Text

/-!
# The schedule of a bandwidth limit

The connections of an account share a schedule for each direction. A reservation is granted for
the instant at which what was reserved before it is sent, less a burst of one second. Instants and
durations are nanoseconds, and an instant behind the last one of the clock is a panic.
-/

namespace SprakCapture.Socks5

open List

/-- A rate in bytes for each second, and the instant from which on it is free. -/
structure DirectionSchedule where
  bytesPerSecond : Int
  nextAvailable : Nat
deriving DecidableEq

/-- The nanoseconds of a second. -/
def oneSecond : Nat := 1000000000

/-- The nanoseconds that bytes take at a rate. -/
def reservedNanos (bytesPerSecond : Nat) (byteCount : UInt64) : Nat :=
  min ((min (byteCount.toNat * oneSecond) (2 ^ 128 - 1) + bytesPerSecond - 1) / bytesPerSecond)
    (2 ^ 64 - 1)

/-- The instant after a duration, if the clock has it. -/
def instantAfter (lastInstant instant duration : Nat) : Option Nat :=
  if instant + duration ≤ lastInstant then some (instant + duration) else none

namespace DirectionSchedule

variable (lastInstant : Nat) (schedule : DirectionSchedule)

/-- The schedule after a reservation and the instant that is granted, or nothing for a panic. -/
def reserve (byteCount : UInt64) (now : Nat) : Option (DirectionSchedule × Option Nat) :=
  if schedule.bytesPerSecond < 0 then some (schedule, none)
  else if schedule.bytesPerSecond = 0 then
    (instantAfter lastInstant now (86400 * oneSecond)).map fun closed => (schedule, some closed)
  else do
    let duration := reservedNanos schedule.bytesPerSecond.toNat byteCount
    let credit := min oneSecond duration
    let base := max schedule.nextAvailable now
    let scheduled ← instantAfter lastInstant base (duration - credit)
    let nextAvailable ← instantAfter lastInstant base duration
    some ({ schedule with nextAvailable }, some scheduled)

/-- Reservations one after another, with what they are granted. -/
def reserveAll (schedule : DirectionSchedule) :
    List (UInt64 × Nat) → Option (List (UInt64 × Option Nat))
  | [] => some []
  | (byteCount, now) :: calls => do
    let (after, granted) ← schedule.reserve lastInstant byteCount now
    (reserveAll after calls).map ((byteCount, granted) :: ·)

end DirectionSchedule

/-- The bytes that are granted from one instant to another. -/
def windowBytes (first last : Nat) (grants : List (UInt64 × Option Nat)) : Nat :=
  ((grants.filter fun grant => grant.2.any fun instant => first ≤ instant && instant ≤ last).map
    fun grant => grant.1.toNat).sum

/-- Grants go forward in time, and no window of time has more bytes than its rate allows, the burst
and one reservation. -/
structure KeepsCap (rate : Nat) (grants : List (UInt64 × Option Nat)) : Prop where
  granted : ∀ grant ∈ grants, grant.2.isSome
  ordered : (grants.filterMap Prod.snd).Pairwise (· ≤ ·)
  window : ∀ first last largest, first < last → (∀ grant ∈ grants, grant.1.toNat ≤ largest) →
    windowBytes first last grants * oneSecond ≤
      rate * (last - first) + rate * oneSecond + largest * oneSecond

variable {rate : Nat}

/-- Bytes whose duration is not cut off fit into their duration. -/
theorem le_reservedNanos (positive : 0 < rate) {byteCount : UInt64}
    (uncapped : byteCount.toNat * oneSecond ≤ rate * (2 ^ 64 - 1)) :
    byteCount.toNat * oneSecond ≤ rate * reservedNanos rate byteCount := by
  have bound := byteCount.toNat_lt
  have product : min (byteCount.toNat * oneSecond) (2 ^ 128 - 1) = byteCount.toNat * oneSecond :=
    Nat.min_eq_left (by simp only [oneSecond]; omega)
  rw [reservedNanos, product]
  rcases Nat.le_total ((byteCount.toNat * oneSecond + rate - 1) / rate) (2 ^ 64 - 1) with low | high
  · rw [Nat.min_eq_left low]
    have division := Nat.div_add_mod (byteCount.toNat * oneSecond + rate - 1) rate
    have remainder := Nat.mod_lt (byteCount.toNat * oneSecond + rate - 1) positive
    omega
  · rwa [Nat.min_eq_right high]

theorem windowBytes_cons (first last : Nat) (byteCount : UInt64) (instant : Nat)
    (grants : List (UInt64 × Option Nat)) :
    windowBytes first last ((byteCount, some instant) :: grants) =
      (if first ≤ instant ∧ instant ≤ last then byteCount.toNat else 0) +
        windowBytes first last grants := by
  rw [windowBytes, filter_cons]
  by_cases inside : first ≤ instant ∧ instant ≤ last
  · simp [inside, windowBytes]
  · simp only [Option.any_some, Bool.and_eq_true, decide_eq_true_eq, inside, if_false, Nat.zero_add]
    rfl

/-- What follows a schedule: grants that begin at its free instant, and of which a window that is
open there has only what it takes to send them. -/
structure Follows (rate free : Nat) (grants : List (UInt64 × Option Nat)) : Prop where
  cap : KeepsCap rate grants
  later : ∀ instant ∈ grants.filterMap Prod.snd, free ≤ instant
  rest : ∀ first last, first ≤ free →
    windowBytes first last grants * oneSecond ≤ rate * (last + oneSecond - free)

theorem Follows.cons {base duration free granted : Nat} {byteCount : UInt64}
    {grants : List (UInt64 × Option Nat)} (follows : Follows rate (base + duration) grants)
    (sent : byteCount.toNat * oneSecond ≤ rate * duration) (waits : free ≤ base)
    (isGranted : granted = base + (duration - min oneSecond duration)) :
    Follows rate free ((byteCount, some granted) :: grants) := by
  have before : base ≤ granted ∧ granted ≤ base + duration ∧
      base + duration ≤ granted + oneSecond := by
    omega
  refine ⟨⟨?_, ?_, ?_⟩, ?_, ?_⟩
  · rintro grant (_ | ⟨_, member⟩)
    · rfl
    · exact follows.cap.granted grant member
  · change (granted :: grants.filterMap Prod.snd).Pairwise _
    rw [pairwise_cons]
    exact ⟨fun instant member => before.2.1.trans (follows.later instant member),
      follows.cap.ordered⟩
  · intro first last largest ordered small
    rw [windowBytes_cons]
    split
    · next inside =>
      have rest := follows.rest first last (inside.1.trans before.2.1)
      have head : byteCount.toNat ≤ largest := small _ mem_cons_self
      have room : rate * (last + oneSecond - (base + duration)) ≤
          rate * (last - first) + rate * oneSecond := by
        rw [← Nat.mul_add]
        exact Nat.mul_le_mul_left _ (by omega)
      have size := Nat.mul_le_mul_right oneSecond head
      rw [Nat.add_mul]
      omega
    · rw [Nat.zero_add]
      exact follows.cap.window first last largest ordered fun grant member =>
        small grant (mem_cons_of_mem _ member)
  · rintro instant (_ | ⟨_, member⟩)
    · exact waits.trans before.1
    · exact waits.trans ((Nat.le_add_right _ _).trans (follows.later instant member))
  · intro first last _
    rw [windowBytes_cons, Nat.add_mul]
    have rest := follows.rest first last (by omega)
    split
    · next inside =>
      have room : rate * duration + rate * (last + oneSecond - (base + duration)) ≤
          rate * (last + oneSecond - free) := by
        rw [← Nat.mul_add]
        exact Nat.mul_le_mul_left _ (by omega)
      omega
    · have room : rate * (last + oneSecond - (base + duration)) ≤
          rate * (last + oneSecond - free) := Nat.mul_le_mul_left _ (by omega)
      omega

/-- Reservations whose durations are not cut off, on a clock that has their instants, keep to the
rate. -/
theorem reserveAll_keepsCap (lastInstant latest : Nat) (schedule : DirectionSchedule)
    (calls : List (UInt64 × Nat)) (positive : 0 < schedule.bytesPerSecond)
    (uncapped : ∀ call ∈ calls,
      call.1.toNat * oneSecond ≤ schedule.bytesPerSecond.toNat * (2 ^ 64 - 1))
    (started : schedule.nextAvailable ≤ latest ∧ ∀ call ∈ calls, call.2 ≤ latest)
    (fits : latest + (calls.map fun call =>
      reservedNanos schedule.bytesPerSecond.toNat call.1).sum ≤ lastInstant) :
    ∃ grants, schedule.reserveAll lastInstant calls = some grants ∧
      grants.map Prod.fst = calls.map Prod.fst ∧ KeepsCap schedule.bytesPerSecond.toNat grants := by
  suffices whole : ∃ grants, schedule.reserveAll lastInstant calls = some grants ∧
      grants.map Prod.fst = calls.map Prod.fst ∧
        Follows schedule.bytesPerSecond.toNat schedule.nextAvailable grants by
    obtain ⟨grants, granted, same, follows⟩ := whole
    exact ⟨grants, granted, same, follows.cap⟩
  induction calls generalizing schedule latest with
  | nil => exact ⟨[], rfl, rfl, ⟨nofun, .nil, fun _ _ _ _ _ => by simp [windowBytes]⟩, nofun,
      fun _ _ _ => by simp [windowBytes]⟩
  | cons call calls ih =>
    obtain ⟨byteCount, now⟩ := call
    simp only [map_cons, sum_cons, forall_mem_cons] at fits uncapped started
    have sent := le_reservedNanos (by omega) uncapped.1
    obtain ⟨base, isBase⟩ : ∃ base, base = max schedule.nextAvailable now := ⟨_, rfl⟩
    obtain ⟨duration, isDuration⟩ :
      ∃ duration, duration = reservedNanos schedule.bytesPerSecond.toNat byteCount := ⟨_, rfl⟩
    rw [← isDuration] at sent fits
    obtain ⟨grants, granted, same, follows⟩ := ih (latest + duration)
      ⟨schedule.bytesPerSecond, base + duration⟩ positive uncapped.2
      ⟨by dsimp only; omega, fun call member => by have := started.2.2 call member; omega⟩
      (by dsimp only; omega)
    refine ⟨(byteCount, some (base + (duration - min oneSecond duration))) :: grants, ?_, ?_,
      follows.cons sent (by omega) rfl⟩
    · rw [DirectionSchedule.reserveAll, DirectionSchedule.reserve, if_neg (by omega),
        if_neg (by omega)]
      simp only [instantAfter, ← isBase, ← isDuration]
      rw [if_pos (by omega), if_pos (by omega)]
      simp [granted]
    · rw [map_cons, map_cons, same]

/-- A rate of five bytes, and three reservations. -/
theorem reserveAll_keepsCap_five :
    ∃ grants,
      DirectionSchedule.reserveAll (2 ^ 70) ⟨5, 0⟩ [(10, 0), (3, 0), (20, 1)] = some grants ∧
        grants.map Prod.fst = [10, 3, 20] ∧ KeepsCap 5 grants :=
  reserveAll_keepsCap (2 ^ 70) 1 ⟨5, 0⟩ [(10, 0), (3, 0), (20, 1)] (by decide) (by decide)
    (by decide) (by decide)

/-- At one byte for each second, reservations of which the durations are cut off are granted too
soon after each other. -/
theorem not_keepsCap_saturated :
    ∃ grants, DirectionSchedule.reserveAll (2 ^ 70) ⟨1, 0⟩
      [(18446744073709551615, 0), (18446744073709551615, 0)] = some grants ∧
        ¬ KeepsCap 1 grants := by
  refine ⟨[(18446744073709551615, some 18446744072709551615),
    (18446744073709551615, some 36893488146419103230)], by decide +kernel, fun keeps => ?_⟩
  exact absurd (keeps.window 18446744072709551615 36893488146419103230 18446744073709551615
    (by decide) (by decide)) (by decide +kernel)

end SprakCapture.Socks5
