import Mathlib.Data.List.Basic

/-!
# Pacing of one direction

A `ThrottlePacer` cuts what is to be sent into chunks of at most the MTU and draws for each
whether it is forwarded or dropped. Its delays are left out: they change neither the chunks nor
what is drawn.
-/

namespace SprakCapture.HttpProxy

def maximumSafeJavaScriptInteger : Nat := 9007199254740991
def maximumLatencyMilliseconds : Nat := 300000
def minimumMtu : Nat := 64
def maximumMtu : Nat := 65535

/-- The errors of profiles and chunks. -/
inductive ThrottlingError where
  | invalidRate
  | invalidLatency
  | invalidMtu
  | invalidReliability
  | invalidChunkSize
deriving DecidableEq

inductive ThrottleDirection where
  | upload
  | download
deriving DecidableEq

structure ThrottleProfile where
  downloadBytesPerSecond : Nat
  uploadBytesPerSecond : Nat
  latencyMilliseconds : Nat
  latencyJitterMilliseconds : Nat
  reliabilityPercent : Nat
  mtu : Nat
deriving DecidableEq

namespace ThrottleProfile

/-- The default parameters. -/
def default : ThrottleProfile where
  downloadBytesPerSecond := 12 * (1024 * 1024)
  uploadBytesPerSecond := 3 * (1024 * 1024)
  latencyMilliseconds := 50
  latencyJitterMilliseconds := 0
  reliabilityPercent := 100
  mtu := 1500

def validate (profile : ThrottleProfile) : Except ThrottlingError Unit :=
  if profile.downloadBytesPerSecond = 0 ∨ profile.uploadBytesPerSecond = 0 ∨
      maximumSafeJavaScriptInteger < profile.downloadBytesPerSecond ∨
      maximumSafeJavaScriptInteger < profile.uploadBytesPerSecond then .error .invalidRate
  else if maximumLatencyMilliseconds < profile.latencyMilliseconds ∨
      maximumLatencyMilliseconds < profile.latencyJitterMilliseconds then .error .invalidLatency
  else if 100 < profile.reliabilityPercent then .error .invalidReliability
  else if profile.mtu < minimumMtu ∨ maximumMtu < profile.mtu then .error .invalidMtu
  else .ok ()

def rateFor (profile : ThrottleProfile) : ThrottleDirection → Nat
  | .upload => profile.uploadBytesPerSecond
  | .download => profile.downloadBytesPerSecond

end ThrottleProfile

/-- The budget of one direction. The bytes that are available at a time are left out. -/
structure TokenBucket where
  rateBytesPerSecond : Nat
  capacityBytes : Nat
  mtu : minimumMtu ≤ capacityBytes ∧ capacityBytes ≤ maximumMtu

namespace TokenBucket

/-- `TokenBucket::new`. -/
def new (rateBytesPerSecond capacityBytes : Nat) : Except ThrottlingError TokenBucket :=
  if rateBytesPerSecond = 0 then .error .invalidRate
  else if mtu : minimumMtu ≤ capacityBytes ∧ capacityBytes ≤ maximumMtu then
    .ok ⟨rateBytesPerSecond, capacityBytes, mtu⟩
  else .error .invalidMtu

theorem capacityBytes_of_new {rateBytesPerSecond capacityBytes : Nat} {bucket : TokenBucket}
    (made : new rateBytesPerSecond capacityBytes = .ok bucket) :
    bucket.capacityBytes = capacityBytes := by
  grind [new]

/-- `acquire`, which waits until the bytes are available. -/
def acquire (bucket : TokenBucket) (byteCount : Nat) : Except ThrottlingError Unit :=
  if byteCount = 0 ∨ bucket.capacityBytes < byteCount then .error .invalidChunkSize else .ok ()

end TokenBucket

inductive ThrottleChunkAction where
  | forward
  | drop
deriving DecidableEq

structure ThrottleChunk where
  byteCount : Nat
  action : ThrottleChunkAction
deriving DecidableEq

/-- The pacer of one direction. -/
structure ThrottlePacer where
  profile : ThrottleProfile
  direction : ThrottleDirection
  tokenBucket : TokenBucket
  initialLatencyPending : Bool
  randomState : UInt64
  capacity : tokenBucket.capacityBytes = profile.mtu

/-- A seed that is not zero. -/
def normalizeSeed (seed : UInt64) : UInt64 := if seed = 0 then 0x9E3779B97F4A7C15 else seed

namespace ThrottlePacer

/-- `newWithSeed`. -/
def newWithSeed (profile : ThrottleProfile) (direction : ThrottleDirection) (seed : UInt64) :
    Except ThrottlingError ThrottlePacer :=
  match profile.validate with
  | .error error => .error error
  | .ok () =>
    match made : TokenBucket.new (profile.rateFor direction) profile.mtu with
    | .error error => .error error
    | .ok tokenBucket =>
      .ok
        { profile
          direction
          tokenBucket
          initialLatencyPending := true
          randomState := normalizeSeed seed
          capacity := TokenBucket.capacityBytes_of_new made }

/-- `nextRandomU64`: one round of xorshift. -/
def nextRandomU64 (pacer : ThrottlePacer) : UInt64 × ThrottlePacer :=
  let first := pacer.randomState ^^^ (pacer.randomState <<< 13)
  let second := first ^^^ (first >>> 7)
  let third := second ^^^ (second <<< 17)
  (third, { pacer with randomState := third })

/-- The delay that is drawn for the first chunk. -/
def nextJitterMilliseconds (pacer : ThrottlePacer) : Nat × ThrottlePacer :=
  if pacer.profile.latencyJitterMilliseconds = 0 then (0, pacer)
  else
    let (random, pacer) := pacer.nextRandomU64
    (random.toNat % (pacer.profile.latencyJitterMilliseconds + 1), pacer)

def applyInitialLatency (pacer : ThrottlePacer) : ThrottlePacer :=
  if pacer.initialLatencyPending then
    ({ pacer with initialLatencyPending := false }).nextJitterMilliseconds.2
  else pacer

def nextRandomPercent (pacer : ThrottlePacer) : Nat × ThrottlePacer :=
  let (random, pacer) := pacer.nextRandomU64
  (random.toNat % 100, pacer)

/-- Whether the next chunk is forwarded. -/
def nextAction (pacer : ThrottlePacer) : ThrottleChunkAction × ThrottlePacer :=
  if pacer.profile.reliabilityPercent = 100 then (.forward, pacer)
  else if pacer.profile.reliabilityPercent = 0 then (.drop, pacer)
  else
    let (percent, pacer) := pacer.nextRandomPercent
    (if percent < pacer.profile.reliabilityPercent then .forward else .drop, pacer)

/-- `nextChunk`. -/
def nextChunk (pacer : ThrottlePacer) (availableBytes : Nat) :
    Except ThrottlingError (Option ThrottleChunk) × ThrottlePacer :=
  if availableBytes = 0 then (.ok none, pacer)
  else
    let pacer := pacer.applyInitialLatency
    let byteCount := min availableBytes pacer.tokenBucket.capacityBytes
    match pacer.tokenBucket.acquire byteCount with
    | .error error => (.error error, pacer)
    | .ok () =>
      let (action, pacer) := pacer.nextAction
      (.ok (some ⟨byteCount, action⟩), pacer)

end ThrottlePacer

/-- A profile that passed its checks. -/
structure ThrottlePlan where
  profile : ThrottleProfile
  valid : profile.validate = .ok ()

namespace ThrottlePlan

/-- `createPacerWithSeed`. -/
def createPacer (plan : ThrottlePlan) (direction : ThrottleDirection) (seed : UInt64) :
    Except ThrottlingError ThrottlePacer :=
  ThrottlePacer.newWithSeed plan.profile direction seed

/-- A checked profile always has a pacer. -/
theorem createPacer_eq_ok (plan : ThrottlePlan) (direction : ThrottleDirection) (seed : UInt64) :
    ∃ pacer, plan.createPacer direction seed = .ok pacer := by
  have valid := plan.valid
  unfold ThrottleProfile.validate at valid
  split at valid
  · cases valid
  rename_i rates
  split at valid
  · cases valid
  split at valid
  · cases valid
  split at valid
  · cases valid
  have made : ∃ bucket, TokenBucket.new (plan.profile.rateFor direction) plan.profile.mtu =
      .ok bucket := by
    have rate : plan.profile.rateFor direction ≠ 0 := by
      cases direction with
      | upload => exact fun zero => rates (.inr (.inl zero))
      | download => exact fun zero => rates (.inl zero)
    rw [TokenBucket.new, if_neg rate, dif_pos (by omega)]
    exact ⟨_, rfl⟩
  unfold createPacer ThrottlePacer.newWithSeed
  rw [plan.valid]
  dsimp only
  split
  · simp_all
  · exact ⟨_, rfl⟩

end ThrottlePlan

variable (pacer : ThrottlePacer)

namespace ThrottlePacer

/-! ### What a pacer keeps -/

/-- Drawing changes neither the profile nor the bucket. -/
structure Keeps (before later : ThrottlePacer) : Prop where
  profile : later.profile = before.profile
  tokenBucket : later.tokenBucket = before.tokenBucket

theorem keeps_applyInitialLatency : pacer.Keeps pacer.applyInitialLatency := by
  unfold applyInitialLatency nextJitterMilliseconds nextRandomU64
  split
  · split <;> exact ⟨rfl, rfl⟩
  · exact ⟨rfl, rfl⟩

theorem keeps_nextAction : pacer.Keeps pacer.nextAction.2 := by
  unfold nextAction
  split
  · exact ⟨rfl, rfl⟩
  · split <;> exact ⟨rfl, rfl⟩

/-- A pacer always has a chunk for bytes that are available. -/
theorem nextChunk_of_available {availableBytes : Nat} (available : availableBytes ≠ 0) :
    ∃ action later, pacer.nextChunk availableBytes =
        (.ok (some ⟨min availableBytes pacer.profile.mtu, action⟩), later) ∧
      later.profile = pacer.profile := by
  have first := keeps_applyInitialLatency pacer
  have second := keeps_nextAction pacer.applyInitialLatency
  have capacity : pacer.applyInitialLatency.tokenBucket.capacityBytes = pacer.profile.mtu := by
    rw [first.tokenBucket, pacer.capacity]
  have positive : 0 < pacer.profile.mtu := by
    have atLeast := pacer.tokenBucket.mtu.1
    rw [pacer.capacity] at atLeast
    unfold minimumMtu at atLeast
    omega
  have acquires : pacer.applyInitialLatency.tokenBucket.acquire
      (min availableBytes pacer.profile.mtu) = .ok () := by
    rw [TokenBucket.acquire, if_neg]
    omega
  refine ⟨pacer.applyInitialLatency.nextAction.1, _, ?_, second.profile.trans first.profile⟩
  grind [nextChunk]

end ThrottlePacer

end SprakCapture.HttpProxy
