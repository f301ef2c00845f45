import SprakCapture.Capture.RecordingChains

/-!
# Pages of the recording

The token of a page stands for the removals so far: new transactions are appended and
keep it, and every removal raises the version in it. Pages with the same token show
parts of one growing list. The version and the sequence numbers are `u64` counters that
stay at their greatest value once they have reached it.
-/

namespace SprakCapture.Capture

open Data List RecordingSession Data.Machine

/-! ### The version -/

theorem le_saturatingSucc {counter : Nat} (within : counter ≤ maximumCounter) :
    counter ≤ saturatingSucc counter := by
  unfold saturatingSucc
  omega

theorem saturatingSucc_le (counter : Nat) : saturatingSucc counter ≤ maximumCounter :=
  Nat.min_le_right ..

theorem lt_saturatingSucc {counter : Nat} (below : counter < maximumCounter) :
    counter < saturatingSucc counter := by
  unfold saturatingSucc
  omega

namespace RecordingStateInner

theorem collectionVersion_evict (layout : Layout) {state : RecordingStateInner}
    {transactionIds : List Uuid} (evictable : state.Evictable transactionIds) :
    transactionIds = [] ∨
      (state.evict layout transactionIds).collectionVersion =
        saturatingSucc state.collectionVersion := by
  cases transactionIds with
  | nil => exact .inl rfl
  | cons first rest =>
    obtain ⟨_, found, _⟩ := evictable.finished first mem_cons_self
    refine .inr ?_
    have removed : (dropRecords layout (first :: rest)
        { state with
          order := state.order.filter fun identifier =>
            !(first :: rest).contains identifier }).2.1 = true := by
      unfold dropRecords
      rw [found]
    have version := (dropRecords_frame layout (first :: rest)
      { state with
        order := state.order.filter fun identifier =>
          !(first :: rest).contains identifier }).collectionVersion
    unfold evict removeTransactions
    dsimp only [isEmpty_cons]
    rw [removed]
    exact congrArg saturatingSucc version

end RecordingStateInner

/-- What a later session still has of the pages of an earlier one. -/
structure Extends (earlier session : RecordingSession) : Prop where
  recordingSessionId : session.state.recordingSessionId = earlier.state.recordingSessionId
  bounded : session.state.collectionVersion ≤ maximumCounter
  version : earlier.state.collectionVersion ≤ session.state.collectionVersion
  order : session.state.collectionVersion = earlier.state.collectionVersion →
    earlier.state.collectionVersion < maximumCounter → earlier.state.order <+: session.state.order

namespace Extends

open RecordingStateInner

variable {env : Environment} {earlier session : RecordingSession} {after : RecordingSession}

section

variable (extend : Extends earlier session)
include extend

/-- The version stays, and transactions are at most appended. -/
theorem append
    (recordingSessionId : after.state.recordingSessionId = session.state.recordingSessionId)
    (version : after.state.collectionVersion = session.state.collectionVersion)
    (order : session.state.order <+: after.state.order) : Extends earlier after where
  recordingSessionId := recordingSessionId.trans extend.recordingSessionId
  bounded := version ▸ extend.bounded
  version := version ▸ extend.version
  order := by
    intro same below
    rw [version] at same
    exact (extend.order same below).trans order

/-- The version is raised, so that the order no longer matters. -/
theorem raise
    (recordingSessionId : after.state.recordingSessionId = session.state.recordingSessionId)
    (version : after.state.collectionVersion = saturatingSucc session.state.collectionVersion) :
    Extends earlier after := by
  have raised := le_saturatingSucc extend.bounded
  have reached := extend.version
  refine ⟨recordingSessionId.trans extend.recordingSessionId,
    version ▸ saturatingSucc_le _, by omega, ?_⟩
  by_cases saturated : session.state.collectionVersion < maximumCounter
  · have higher := lt_saturatingSucc saturated
    omega
  · omega

theorem evict {transactionIds : List Uuid} (evictable : session.state.Evictable transactionIds) :
    Extends earlier
      { session with state := session.state.evict env.layout transactionIds } := by
  have frame := evict_frame env.layout session.state transactionIds
  rcases collectionVersion_evict env.layout evictable with rfl | raised
  · exact extend.append rfl rfl (prefix_refl _)
  · exact extend.raise frame.recordingSessionId raised

end

theorem edit {before after : RecordingSession} (edit : SessionEdit env before after)
    (extend : Extends earlier before) : Extends earlier after := by
  cases edit with
  | evict _ evictable => exact extend.evict evictable
  | finish transactionId _ result _ _ _ evictable =>
    have finished : Extends earlier
        { before with state := before.state.withRecord transactionId result } :=
      extend.append rfl rfl (prefix_refl _)
    have evicted := @Extends.evict env _ _ finished _ evictable
    rw [insertResponseEntityEntry_eq]
    exact evicted.append rfl rfl (prefix_refl _)
  | enroll => exact extend.append rfl rfl (prefix_append _ _)
  | removeAll => exact extend.raise rfl rfl
  | _ => exact extend.append rfl rfl (prefix_refl _)

end Extends

/-! ### Sequence numbers -/

/-- The order of two sequence numbers. Only the greatest one can repeat. -/
def Follows (earlier later : Nat) : Prop :=
  earlier < later ∨ earlier = maximumCounter ∧ later = maximumCounter

/-- The stored transactions stand in the order of their sequence numbers, which the next one
continues. -/
structure Sequenced (state : RecordingStateInner) : Prop where
  bounded : state.nextSequence ≤ maximumCounter
  below : ∀ {transactionId record}, state.transactions.get? transactionId = some record →
    Follows record.summary.sequence state.nextSequence
  ascending : state.order.Pairwise fun earlier later =>
    ∀ {first second}, state.transactions.get? earlier = some first →
      state.transactions.get? later = some second →
      Follows first.summary.sequence second.summary.sequence

namespace Sequenced

open RecordingStateInner

variable {env : Environment} {state : RecordingStateInner}

section

variable (sequenced : Sequenced state)
include sequenced

theorem congr {after : RecordingStateInner} (nextSequence : after.nextSequence = state.nextSequence)
    (order : after.order = state.order) (transactions : after.transactions = state.transactions) :
    Sequenced after where
  bounded := nextSequence ▸ sequenced.bounded
  below := by
    rw [transactions, nextSequence]
    exact sequenced.below
  ascending := by
    rw [order, transactions]
    exact sequenced.ascending

theorem withRecord {transactionId : Uuid} {before after : TransactionRecord}
    (found : state.transactions.get? transactionId = some before)
    (same : after.summary.sequence = before.summary.sequence) :
    Sequenced (state.withRecord transactionId after) := by
  have earlier : ∀ {identifier : Uuid} {record : TransactionRecord},
      (state.withRecord transactionId after).transactions.get? identifier = some record →
      ∃ old, state.transactions.get? identifier = some old ∧
        old.summary.sequence = record.summary.sequence := by
    grind [RecordingStateInner.withRecord]
  refine ⟨sequenced.bounded, ?_, sequenced.ascending.imp ?_⟩
  · intro identifier record stored
    obtain ⟨old, oldStored, sequence⟩ := earlier stored
    rw [← sequence]
    exact sequenced.below oldStored
  · intro _ _ _ _ _ firstStored secondStored
    obtain ⟨_, _, _⟩ := earlier firstStored
    obtain ⟨_, _, _⟩ := earlier secondStored
    simp_all

theorem evict (layout : Layout) (transactionIds : List Uuid) :
    Sequenced (state.evict layout transactionIds) := by
  have next := (evict_frame layout state transactionIds).nextSequence
  refine ⟨next ▸ sequenced.bounded, ?_, ?_⟩
  · intro _ _ stored
    rw [next]
    exact sequenced.below (get?_of_evict stored)
  · rw [order_evict]
    refine (sequenced.ascending.imp ?_).filter _
    intro _ _ ordered _ _ firstStored secondStored
    exact ordered (get?_of_evict firstStored) (get?_of_evict secondStored)

theorem enroll (shaped : state.Shaped) {transactionId : Uuid} {record : TransactionRecord}
    (fresh : state.transactions.get? transactionId = none)
    (sequence : record.summary.sequence = state.nextSequence) (bytes : Nat) :
    Sequenced (state.enroll transactionId record bytes) := by
  have within := sequenced.bounded
  have old : ∀ {identifier : Uuid} {other : TransactionRecord}, identifier ∈ state.order →
      (state.enroll transactionId record bytes).transactions.get? identifier = some other →
      state.transactions.get? identifier = some other := by
    intro identifier other listed stored
    unfold RecordingStateInner.enroll at stored
    rw [Table.get?_insert, if_neg] at stored
    · exact stored
    · rintro rfl
      obtain ⟨_, found⟩ := (shaped.listed identifier).mp listed
      rw [fresh] at found
      cases found
  have next : (state.enroll transactionId record bytes).nextSequence =
      saturatingSucc state.nextSequence := rfl
  refine ⟨saturatingSucc_le _, ?_, ?_⟩
  · intro identifier other stored
    unfold RecordingStateInner.enroll at stored
    rw [Table.get?_insert] at stored
    split at stored
    · grind [Follows, saturatingSucc]
    · have below := sequenced.below stored
      unfold Follows saturatingSucc at *
      omega
  · have order : (state.enroll transactionId record bytes).order =
        state.order ++ [transactionId] := rfl
    rw [order, pairwise_append]
    refine ⟨?_, pairwise_singleton .., ?_⟩
    · refine sequenced.ascending.imp_of_mem ?_
      simp_all
    · intro _ firstListed _ last _ _ firstStored secondStored
      rw [mem_singleton.mp last] at secondStored
      have own : (state.enroll transactionId record bytes).transactions.get? transactionId =
          some record := Table.get?_insert_self ..
      rw [own] at secondStored
      cases secondStored
      rw [sequence]
      exact sequenced.below (old firstListed firstStored)

end

theorem edit {before after : RecordingSession} (edit : SessionEdit env before after)
    (shaped : before.Shaped) (sequenced : Sequenced before.state) : Sequenced after.state := by
  cases edit with
  | evict transactionIds => exact sequenced.evict env.layout transactionIds
  | amend transactionId _ _ found amends => exact sequenced.withRecord found amends.sequence
  | finish transactionId _ _ limited found finishes =>
    rw [insertResponseEntityEntry_eq]
    exact ((sequenced.withRecord found finishes.sequence).evict env.layout limited).congr rfl rfl
      rfl
  | register transactionId _ _ _ _ _ _ found registers =>
    exact (sequenced.withRecord found registers.sequence).congr rfl rfl rfl
  | enroll _ bytes => exact sequenced.enroll shaped.state (shaped.fresh env) rfl bytes
  | removeAll => exact ⟨sequenced.bounded, nofun, .nil⟩
  | _ => exact sequenced.congr rfl rfl rfl

end Sequenced

/-! ### Runs -/

/-- The order lists every stored transaction once, by sequence numbers of which only the greatest
`u64` can repeat. -/
structure OrderedBySequence (state : RecordingStateInner) : Prop where
  distinct : state.order.Nodup
  listed : ∀ transactionId, transactionId ∈ state.order ↔
    ∃ record, state.transactions.get? transactionId = some record
  ascending : state.order.Pairwise fun earlier later =>
    ∀ first second, state.transactions.get? earlier = some first →
      state.transactions.get? later = some second →
      first.summary.sequence < second.summary.sequence ∨
        first.summary.sequence = maximumCounter ∧ second.summary.sequence = maximumCounter

/-- A view carries the token of its session. -/
theorem RecordingSession.collectionToken_pageView {session : RecordingSession}
    {offset : Option Nat} {limit : Nat} {expected : Option CollectionToken}
    {view : RecordingPageView} (shown : session.pageView offset limit expected = .ok view) :
    view.collectionToken = session.collectionTokenFromState := by
  grind [pageView]

theorem RecordingSession.exists_pageView (session : RecordingSession)
    (isOpen : session.state.closed = false) (offset : Option Nat) (limit : Nat) :
    ∃ view, session.pageView offset limit none = .ok view ∧
      view.collectionToken = session.collectionTokenFromState := by
  unfold pageView RecordingStateInner.ensureOpen
  rw [isOpen]
  exact ⟨_, rfl, rfl⟩

/-- Of two pages with the same token, one taken later than the other and the version in it not
saturated, the later shows the earlier list with transactions appended at most. In every state the
list is in the order of the sequence numbers. -/
theorem pages_run (env : Environment) (configuration : RecordingConfiguration)
    (startedAtMilliseconds : UInt64) (first later : List RecordingAction) :
    (∀ offset limit expected laterOffset laterLimit laterExpected view laterView,
        ((recordingMachine env configuration startedAtMilliseconds).run first).pageView offset
            limit expected = .ok view →
        ((recordingMachine env configuration startedAtMilliseconds).run
            (first ++ later)).pageView laterOffset laterLimit laterExpected = .ok laterView →
        view.collectionToken = laterView.collectionToken →
        view.collectionToken.collectionVersion < maximumCounter →
        ((recordingMachine env configuration startedAtMilliseconds).run first).state.order <+:
          ((recordingMachine env configuration startedAtMilliseconds).run
            (first ++ later)).state.order) ∧
      OrderedBySequence
        ((recordingMachine env configuration startedAtMilliseconds).run first).state := by
  have shaped := @shaped_run env configuration startedAtMilliseconds first
  have bounded := @edits_run _ _ _
    (fun session => Extends ((recordingMachine env configuration startedAtMilliseconds).initial)
      session) ⟨rfl, Nat.zero_le _, le_rfl, fun _ _ => prefix_refl _⟩
    (fun edit _ extend => extend.edit edit) first
  have extend := @edits_runFrom env configuration startedAtMilliseconds
    (Extends ((recordingMachine env configuration startedAtMilliseconds).run first))
    (fun edit _ extend => extend.edit edit) _ shaped
    ⟨rfl, bounded.bounded, le_rfl, fun _ _ => prefix_refl _⟩ later
  rw [← run_append] at extend
  have sequenced := @edits_run env configuration startedAtMilliseconds
    _
    ⟨(by decide : 1 ≤ maximumCounter), nofun, .nil⟩ Sequenced.edit first
  refine ⟨?_, shaped.state.distinct, shaped.state.listed, ?_⟩
  · intro offset limit expected laterOffset laterLimit laterExpected view laterView shown
      laterShown same below
    rw [collectionToken_pageView shown] at same below
    rw [collectionToken_pageView laterShown] at same
    exact extend.order (congrArg CollectionToken.collectionVersion same).symm below
  · refine sequenced.ascending.imp ?_
    intro _ later ordered first _ firstStored secondStored
    exact ordered firstStored secondStored

/-- A clear whose two file operations succeed. -/
def RecordingAction.cleared : RecordingAction :=
  .clearSession [⟨[], .done, [], none, 0⟩, ⟨[], .done, [], none, 0⟩]

/-- One transaction, then a second one: the token stays and the list grows. -/
theorem pages_appended :
    ∃ view laterView,
      (smallMachine.run [.cleared, .beginTransaction .plain []]).pageView none 10 none = .ok view ∧
      (smallMachine.run ([.cleared, .beginTransaction .plain []] ++
        [.beginTransaction .plain []])).pageView none 10 none = .ok laterView ∧
      view.collectionToken = laterView.collectionToken ∧
      (smallMachine.run [.cleared, .beginTransaction .plain []]).state.order <+:
        (smallMachine.run ([.cleared, .beginTransaction .plain []] ++
          [.beginTransaction .plain []])).state.order := by
  refine ⟨_, _, rfl, rfl, by decide +kernel, ?_⟩
  exact (pages_run .counting .small 0 [.cleared, .beginTransaction .plain []]
    [.beginTransaction .plain []]).1 none 10 none none 10 none _ _ rfl rfl (by decide +kernel)
    (by decide +kernel)

/-- The small session without transactions, after some runs. -/
def emptyAt (version nextSequence : Nat) (known : List Uuid) : RecordingSession where
  state := { smallMachine.initial.state with collectionVersion := version, nextSequence }
  bodyStore := { smallMachine.initial.bodyStore with known }

/-- A transaction is begun in a session that has room for it. -/
def admitPlain (session : RecordingSession) : RecordingSession where
  state := session.state.enroll (Environment.counting.newV4 session.bodyStore.known)
    (session.state.newRecord .wide (Environment.counting.newV4 session.bodyStore.known) .plain)
    (transactionMetadataBytes .wide (session.state.newRecord .wide 0 .plain))
  bodyStore :=
    { session.bodyStore with
      known := Environment.counting.newV4 session.bodyStore.known :: session.bodyStore.known }

section

set_option maxRecDepth 20000

variable (version nextSequence : Nat) (known : List Uuid)

theorem step_cleared_emptyAt :
    smallMachine.step (emptyAt version nextSequence known) .cleared =
      emptyAt (saturatingSucc version) nextSequence known := rfl

theorem step_begin_emptyAt :
    smallMachine.step (emptyAt version nextSequence known) (.beginTransaction .plain []) =
      admitPlain (emptyAt version nextSequence known) := rfl

theorem step_begin_admitPlain :
    smallMachine.step (admitPlain (emptyAt version nextSequence known))
        (.beginTransaction .plain []) =
      admitPlain (admitPlain (emptyAt version nextSequence known)) := rfl

theorem step_cleared_admitPlain :
    smallMachine.step (admitPlain (emptyAt version nextSequence known)) .cleared =
      emptyAt (saturatingSucc version) (saturatingSucc nextSequence)
        (Environment.counting.newV4 known :: known) := rfl

end

/-- Each clear raises the version until it is saturated. -/
theorem run_cleared (count : Nat) :
    smallMachine.run (List.replicate count .cleared) =
      emptyAt (min count maximumCounter) 1 [1] := by
  induction count with
  | zero => rfl
  | succ count ih =>
    rw [replicate_succ', run_concat, ih, step_cleared_emptyAt]
    congr 1
    unfold saturatingSucc
    omega

/-- A transaction that is begun and cleared away, over and over. -/
def rounds (count : Nat) : List RecordingAction :=
  (List.replicate count [.beginTransaction .plain [], .cleared]).flatten

/-- Each transaction raises the next sequence number until it is saturated. -/
theorem run_rounds (count : Nat) :
    ∃ version known, smallMachine.run (rounds count) =
      emptyAt version (min (count + 1) maximumCounter) known := by
  induction count with
  | zero => exact ⟨0, [1], rfl⟩
  | succ count ih =>
    obtain ⟨version, known, reached⟩ := ih
    refine ⟨saturatingSucc version, Environment.counting.newV4 known :: known, ?_⟩
    have split : rounds (count + 1) =
        rounds count ++ [.beginTransaction .plain []] ++ [.cleared] := by
      unfold rounds
      rw [replicate_succ']
      simp
    rw [split, run_concat, run_concat, reached, step_begin_emptyAt, step_cleared_admitPlain]
    congr 1
    unfold saturatingSucc
    omega

/-- After 2^64 - 1 clears, a transaction is begun and cleared away: the token is the same before
and after, and the list has lost the transaction. After 2^64 - 2 transactions, the next two have
the same sequence number. -/
theorem not_pages_saturated :
    (∃ view laterView,
      (smallMachine.run (List.replicate maximumCounter .cleared ++
        [.beginTransaction .plain []])).pageView none 10 none = .ok view ∧
      (smallMachine.run (List.replicate maximumCounter .cleared ++
        [.beginTransaction .plain []] ++ [.cleared])).pageView none 10 none = .ok laterView ∧
      view.collectionToken = laterView.collectionToken ∧
      ¬ (smallMachine.run (List.replicate maximumCounter .cleared ++
          [.beginTransaction .plain []])).state.order <+:
        (smallMachine.run (List.replicate maximumCounter .cleared ++
          [.beginTransaction .plain []] ++ [.cleared])).state.order) ∧
    ¬ (smallMachine.run (rounds (maximumCounter - 1) ++ [.beginTransaction .plain []] ++
        [.beginTransaction .plain []])).state.order.Pairwise fun earlier later =>
      ∀ first second,
        (smallMachine.run (rounds (maximumCounter - 1) ++ [.beginTransaction .plain []] ++
          [.beginTransaction .plain []])).state.transactions.get? earlier = some first →
        (smallMachine.run (rounds (maximumCounter - 1) ++ [.beginTransaction .plain []] ++
          [.beginTransaction .plain []])).state.transactions.get? later = some second →
        first.summary.sequence < second.summary.sequence := by
  constructor
  · have begun : smallMachine.run (List.replicate maximumCounter .cleared ++
        [.beginTransaction .plain []]) = admitPlain (emptyAt maximumCounter 1 [1]) := by
      rw [run_concat, run_cleared, Nat.min_self, step_begin_emptyAt]
    have clearedAway : smallMachine.run (List.replicate maximumCounter .cleared ++
        [.beginTransaction .plain []] ++ [.cleared]) =
        emptyAt (saturatingSucc maximumCounter) (saturatingSucc 1)
          [Environment.counting.newV4 [1], 1] := by
      rw [run_concat, begun, step_cleared_admitPlain]
    rw [clearedAway, begun]
    obtain ⟨view, shown, token⟩ := exists_pageView
      (admitPlain (emptyAt maximumCounter 1 [1])) rfl none 10
    obtain ⟨laterView, laterShown, laterToken⟩ := exists_pageView
      (emptyAt (saturatingSucc maximumCounter) (saturatingSucc 1)
        [Environment.counting.newV4 [1], 1]) rfl none 10
    refine ⟨view, laterView, shown, laterShown, ?_, by decide +kernel⟩
    rw [token, laterToken]
    decide +kernel
  · obtain ⟨version, known, reached⟩ := run_rounds (maximumCounter - 1)
    have saturated : min (maximumCounter - 1 + 1) maximumCounter = maximumCounter := by
      decide +kernel
    have begun : smallMachine.run (rounds (maximumCounter - 1) ++ [.beginTransaction .plain []] ++
        [.beginTransaction .plain []]) =
        admitPlain (admitPlain (emptyAt version maximumCounter known)) := by
      rw [run_concat, run_concat, reached, saturated, step_begin_emptyAt, step_begin_admitPlain]
    rw [begun]
    intro ascending
    have different : Environment.counting.newV4 known ≠
        Environment.counting.newV4 (Environment.counting.newV4 known :: known) := by
      intro same
      refine Environment.counting.fresh (Environment.counting.newV4 known :: known) ?_
      rw [← same]
      exact mem_cons_self
    have apart := rel_of_pairwise_cons ascending (mem_singleton.mpr rfl)
    have firstFound := Table.get?_insert
      (Table.insert ∅ (Environment.counting.newV4 known)
        ((emptyAt version maximumCounter known).state.newRecord .wide
          (Environment.counting.newV4 known) .plain))
      (Environment.counting.newV4 (Environment.counting.newV4 known :: known))
      (Environment.counting.newV4 known)
      ((admitPlain (emptyAt version maximumCounter known)).state.newRecord .wide
        (Environment.counting.newV4 (Environment.counting.newV4 known :: known)) .plain)
    rw [if_neg different, Table.get?_insert_self] at firstFound
    have smaller : maximumCounter < saturatingSucc maximumCounter :=
      apart _ _ firstFound (Table.get?_insert_self ..)
    exact absurd smaller (Nat.not_lt.mpr (saturatingSucc_le _))

end SprakCapture.Capture
