import SprakCapture.Capture.RecordingChains

/-!
# The total of the bodies

`totalBodyBytes` is what the stored bodies add up to, and both the bodies and their
total stay within the limits. The total is checked where bodies are registered; every
other edit keeps it or lowers it.
-/

namespace SprakCapture.Capture

open Data

/-- The stored bodies, their total and the limits agree. -/
structure BodyLedger (state : RecordingStateInner) : Prop where
  total : state.totalBodyBytes = state.transactions.total transactionBodyBytes
  within : state.totalBodyBytes ≤ state.limits.maxTotalBodyBytes
  small : ∀ {transactionId record}, state.transactions.get? transactionId = some record →
    ∀ body ∈ record.bodyReferences, body.handle.storedBytes ≤ state.limits.maxBodyBytes

namespace BodyLedger

open RecordingStateInner

variable {env : Environment} {state : RecordingStateInner}

variable {transactionId : Uuid}

/-- What a change of one record does to the total of a weight. -/
theorem total_withRecord {before : TransactionRecord}
    (found : state.transactions.get? transactionId = some before) (after : TransactionRecord)
    (weight : TransactionRecord → Nat) :
    (state.withRecord transactionId after).transactions.total weight + weight before =
      state.transactions.total weight + weight after := by
  have inserted := Table.total_insert state.transactions transactionId after weight
  have present := Table.total_eq_of_get? weight found
  unfold RecordingStateInner.withRecord
  dsimp only
  omega

section

variable (ledger : BodyLedger state)
include ledger

theorem congr {after : RecordingStateInner}
    (totalBodyBytes : after.totalBodyBytes = state.totalBodyBytes)
    (transactions : after.transactions = state.transactions) (limits : after.limits = state.limits) :
    BodyLedger after where
  total := by
    rw [totalBodyBytes, transactions]
    exact ledger.total
  within := by
    rw [totalBodyBytes, limits]
    exact ledger.within
  small := by
    rw [transactions, limits]
    exact ledger.small

variable (layout : Layout) {before after : TransactionRecord}

theorem withRecord (found : state.transactions.get? transactionId = some before)
    (bodies : after.bodyReferences = before.bodyReferences) :
    BodyLedger (state.withRecord transactionId after) where
  total := by
    have changed := total_withRecord found after transactionBodyBytes
    have same : transactionBodyBytes after = transactionBodyBytes before := by
      unfold transactionBodyBytes
      rw [bodies]
    have total : (state.withRecord transactionId after).totalBodyBytes = _ := ledger.total
    omega
  within := ledger.within
  small := by
    intro _ _ stored
    unfold RecordingStateInner.withRecord at stored
    rw [Table.get?_insert] at stored
    split at stored
    · cases stored
      rw [bodies]
      exact ledger.small found
    · exact ledger.small stored

theorem evict {transactionIds : List Uuid} (distinct : transactionIds.Nodup) :
    BodyLedger (state.evict layout transactionIds) := by
  have limits := (evict_frame layout state transactionIds).limits
  have lowered : (state.evict layout transactionIds).totalBodyBytes = _ :=
    (totals_removeTransactions layout distinct state).2
  have summed : _ = _ + (state.evict layout transactionIds).transactions.total
      transactionBodyBytes :=
    total_removeTransactions layout distinct state transactionBodyBytes
  have total := ledger.total
  have within := ledger.within
  refine ⟨by omega, by rw [limits]; dsimp only; omega, ?_⟩
  intro _ _ stored
  rw [limits]
  exact ledger.small (RecordingSession.get?_of_evict stored)

/-- A transaction exchanges bodies for others that fit. -/
theorem register {kept dropped added : List BodyRef}
    (found : state.transactions.get? transactionId = some before)
    (registers : Registers state.limits state.totalBodyBytes before after kept dropped added) :
    BodyLedger ({ state.withRecord transactionId after with
      totalBodyBytes := state.totalBodyBytes - storedBytes dropped +
        storedBytes added }.enqueueBodyReferences layout (dropped.map BodyRef.clone)) := by
  have weigh : ∀ {record : TransactionRecord} {bodies : List BodyRef},
      record.bodyReferences.Perm (kept ++ bodies) →
      transactionBodyBytes record = storedBytes kept + storedBytes bodies := by
    intro record bodies permuted
    unfold transactionBodyBytes storedBytes
    rw [(permuted.map _).sum_eq, List.map_append, List.sum_append]
  have weightBefore := weigh registers.bodiesBefore
  have weightAfter := weigh registers.bodiesAfter
  have changed := total_withRecord found after transactionBodyBytes
  have present := Table.total_eq_of_get? transactionBodyBytes found
  have total := ledger.total
  have within := ledger.within
  have fits := registers.fits
  refine ⟨?_, ?_, ?_⟩
  · unfold enqueueBodyReferences
    dsimp only
    omega
  · unfold enqueueBodyReferences
    have limits : (state.withRecord transactionId after).limits = state.limits := rfl
    dsimp only
    rw [limits]
    omega
  · intro _ record stored body member
    unfold enqueueBodyReferences RecordingStateInner.withRecord at stored
    rw [Table.get?_insert] at stored
    split at stored
    · cases stored
      rcases List.mem_append.mp (registers.bodiesAfter.mem_iff.mp member) with old | new
      · refine ledger.small found body (registers.bodiesBefore.mem_iff.mpr ?_)
        exact List.mem_append_left _ old
      · exact registers.small body new
    · exact ledger.small stored body member

theorem enroll {record : TransactionRecord} (fresh : state.transactions.get? transactionId = none)
    (bodiless : record.bodyReferences = []) (bytes : Nat) :
    BodyLedger (state.enroll transactionId record bytes) where
  total := by
    unfold RecordingStateInner.enroll
    rw [Table.total_insert, Table.erase_of_get?_eq_none fresh, ledger.total]
    unfold transactionBodyBytes
    rw [bodiless]
    exact (Nat.zero_add _).symm
  within := ledger.within
  small := by
    intro _ _ stored body member
    unfold RecordingStateInner.enroll at stored
    rw [Table.get?_insert] at stored
    split at stored
    · cases stored
      rw [bodiless] at member
      cases member
    · exact ledger.small stored body member

end

theorem edit {before after : RecordingSession} (edit : SessionEdit env before after)
    (shaped : before.Shaped) (ledger : BodyLedger before.state) : BodyLedger after.state := by
  cases edit with
  | evict _ evictable => exact ledger.evict env.layout evictable.distinct
  | amend transactionId _ _ found amends => exact ledger.withRecord found amends.bodyReferences
  | finish transactionId _ _ _ found finishes evictable =>
    have finished := ledger.withRecord found finishes.bodyReferences
    rw [insertResponseEntityEntry_eq]
    exact (finished.evict env.layout evictable.distinct).congr rfl rfl rfl
  | register transactionId _ _ _ _ _ _ found registers =>
    exact ledger.register env.layout found registers
  | enroll _ bytes => exact ledger.enroll (shaped.fresh env) rfl bytes
  | removeAll => exact ⟨rfl, Nat.zero_le _, nofun⟩
  | deleteFile | deleteFiles | forgetOrphans | event | abandon => exact ledger
  | _ => exact ledger.congr rfl rfl rfl

end BodyLedger

/-- In every state of every run the total is that of the stored bodies, and the limits hold. -/
theorem bodyLedger_run (env : Environment) (configuration : RecordingConfiguration)
    (startedAtMilliseconds : UInt64) (actions : List RecordingAction) :
    BodyLedger ((recordingMachine env configuration startedAtMilliseconds).run actions).state :=
  RecordingSession.edits_run ⟨rfl, Nat.zero_le _, nofun⟩ BodyLedger.edit actions

end SprakCapture.Capture
