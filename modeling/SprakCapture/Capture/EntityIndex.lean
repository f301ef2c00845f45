import SprakCapture.Capture.RecordingChains

/-!
# The index of response entities

The index holds, under each entity, exactly the stored transactions that are ranges of
it. Looking an entity up gives what a scan of all transactions gives, in the same
order.
-/

namespace SprakCapture.Capture

open Data List Option RecordingSession RecordingStateInner

/-- The range that a record contributes to an entity. -/
def rangeOf (key : ResponseEntityIndexKey) (record : TransactionRecord) :
    Option ResponseRangeCandidate :=
  (responseEntityEntry record).bind fun entry => if entry.1 = key then some entry.2 else none

/-- The ranges of an entity, by way of a scan of all transactions. -/
def RecordingSession.scanResponseRangeCandidates (session : RecordingSession)
    (urlDisplay entityTag : List Char) (totalBytes : Nat) (contentEncoding : List Char) :
    Except CaptureError (List ResponseRangeCandidate) :=
  match session.state.ensureOpen with
  | .error error => .error error
  | .ok () =>
    let key : ResponseEntityIndexKey :=
      { urlDisplay, entityTag, totalBytes, contentEncoding := toAsciiLowercase contentEncoding }
    .ok ((session.state.transactions.values.filterMap (rangeOf key)).mergeSort
      fun left right => decide (left.member ≤ right.member))

/-! ### Entries of records -/

variable {candidate : ResponseRangeCandidate} {record : TransactionRecord}

theorem rangeOf_eq_some {key : ResponseEntityIndexKey} :
    rangeOf key record = some candidate ↔ responseEntityEntry record = some (key, candidate) := by
  unfold rangeOf
  cases responseEntityEntry record with
  | none => simp
  | some entry =>
    obtain ⟨_, _⟩ := entry
    simp

theorem responseRangeCandidate_of_entry {key : ResponseEntityIndexKey}
    (entry : responseEntityEntry record = some (key, candidate)) :
    responseRangeCandidate record = some candidate := by
  obtain ⟨_, located, rest⟩ := bind_eq_some_iff.mp entry
  obtain ⟨_, _, rest⟩ := bind_eq_some_iff.mp rest
  obtain ⟨_, _, rest⟩ := map_eq_some_iff.mp rest
  cases rest
  exact located

theorem responseRangeCandidate_place (found : responseRangeCandidate record = some candidate) :
    record.summary.status = .complete ∧ candidate.transactionId = record.summary.transactionId ∧
      candidate.sequence = record.summary.sequence := by
  unfold responseRangeCandidate at found
  split at found
  · cases found
  · obtain ⟨_, _, rest⟩ := bind_eq_some_iff.mp found
    obtain ⟨_, _, rest⟩ := bind_eq_some_iff.mp rest
    grind

theorem responseEntityEntry_pending (pending : record.summary.status = .pending) :
    responseEntityEntry record = none := by
  by_contra present
  obtain ⟨_, found⟩ := ne_none_iff_exists'.mp present
  obtain ⟨complete, _⟩ := responseRangeCandidate_place (responseRangeCandidate_of_entry found)
  rw [pending] at complete
  cases complete

/-- The entry depends on what a finished transaction keeps. -/
theorem responseEntityEntry_untouched {before after : TransactionRecord}
    (untouched : Untouched before after) :
    responseEntityEntry after = responseEntityEntry before := by
  have summary := untouched.summary
  have status := untouched.status
  have statusCode : after.summary.statusCode = before.summary.statusCode := by
    have same := congrArg TransactionSummary.statusCode summary
    exact same
  have transactionId : after.summary.transactionId = before.summary.transactionId := by
    have same := congrArg TransactionSummary.transactionId summary
    exact same
  have sequence : after.summary.sequence = before.summary.sequence := by
    have same := congrArg TransactionSummary.sequence summary
    exact same
  have urlDisplay : after.summary.urlDisplay.chars = before.summary.urlDisplay.chars := by
    have same := congrArg (fun summary => summary.urlDisplay.chars) summary
    exact same
  unfold responseEntityEntry responseRangeCandidate
  rw [status, statusCode, transactionId, sequence, urlDisplay, untouched.responseHeaders,
    untouched.responseBody]

/-! ### The index and the records -/

/-- The members under a key. -/
def RecordingStateInner.membersOf (state : RecordingStateInner) (key : ResponseEntityIndexKey) :
    EntityMembers :=
  (state.responseEntityIndex.get? key).getD ∅

/-- The index lists the entries of stored records, but for those that are `exempt`. -/
def IndexedBut (exempt : Uuid → Prop) (state : RecordingStateInner) : Prop :=
  ∀ key place, (place, ()) ∈ (state.membersOf key).entries ↔
    ∃ transactionId record candidate, ¬ exempt transactionId ∧
      state.transactions.get? transactionId = some record ∧
      responseEntityEntry record = some (key, candidate) ∧ candidate.member = place

/-- The index lists the entries of all stored records. -/
def Indexed (state : RecordingStateInner) : Prop := IndexedBut (fun _ => False) state

/-- Records carry the identifiers they are stored under. -/
def Named (state : RecordingStateInner) : Prop :=
  ∀ {transactionId record}, state.transactions.get? transactionId = some record →
    record.summary.transactionId = transactionId

variable {transactionId : Uuid}

theorem member_transactionId {state : RecordingStateInner} (named : Named state)
    (found : state.transactions.get? transactionId = some record) {key : ResponseEntityIndexKey}
    (entry : responseEntityEntry record = some (key, candidate)) :
    (ofLex candidate.member).2 = transactionId := by
  obtain ⟨_, same, _⟩ := responseRangeCandidate_place (responseRangeCandidate_of_entry entry)
  exact same.trans (named found)

namespace IndexedBut

variable {exempt : Uuid → Prop} {state : RecordingStateInner}

theorem congr (indexed : IndexedBut exempt state) {after : RecordingStateInner}
    (index : after.responseEntityIndex = state.responseEntityIndex)
    (transactions : after.transactions = state.transactions) : IndexedBut exempt after := by
  intro key place
  unfold membersOf
  rw [index, transactions]
  exact indexed key place

/-- A record is replaced by one with the same entry. -/
theorem withRecord (indexed : IndexedBut exempt state) {transactionId : Uuid}
    {before after : TransactionRecord} (found : state.transactions.get? transactionId = some before)
    (same : responseEntityEntry after = responseEntityEntry before) :
    IndexedBut exempt (state.withRecord transactionId after) := by
  intro key place
  refine (indexed key place).trans ?_
  grind [RecordingStateInner.withRecord]

end IndexedBut

/-! ### Insertion and removal of entries -/

open IndexedBut

theorem mem_insertResponseEntityEntry {state : RecordingStateInner} {key : ResponseEntityIndexKey}
    {place : Nat ×ₗ Uuid} :
    (place, ()) ∈ ((insertResponseEntityEntry state transactionId).membersOf key).entries ↔
      (place, ()) ∈ (state.membersOf key).entries ∨
        ∃ record candidate, state.transactions.get? transactionId = some record ∧
          responseEntityEntry record = some (key, candidate) ∧ candidate.member = place := by
  unfold insertResponseEntityEntry
  split
  · simp_all
  rename_i entryKey entryCandidate present
  obtain ⟨record, _, _⟩ := bind_eq_some_iff.mp present
  unfold membersOf
  rw [Table.get?_insert]
  split
  · rw [getD_some, OrderedTable.mem_insert]
    grind
  grind

theorem mem_removeResponseEntityEntry {state : RecordingStateInner} {record : TransactionRecord}
    {key : ResponseEntityIndexKey} {place : Nat ×ₗ Uuid} :
    (place, ()) ∈ ((removeResponseEntityEntry state record).membersOf key).entries ↔
      (place, ()) ∈ (state.membersOf key).entries ∧
        ∀ candidate, responseEntityEntry record = some (key, candidate) →
          candidate.member ≠ place := by
  unfold removeResponseEntityEntry
  split
  · simp_all
  rename_i entryKey entryCandidate entry
  split
  · rename_i unlisted
    refine ⟨fun member => ⟨member, fun candidate other => ?_⟩, And.left⟩
    rw [entry] at other
    cases other
    unfold membersOf at member
    rw [unlisted] at member
    cases member
  · rename_i members listed
    by_cases equal : key = entryKey
    · subst equal
      -- An entity without members is dropped from the index.
      have erased : (place, ()) ∈ (members.erase entryCandidate.member).entries ↔
          (place, ()) ∈ (state.membersOf key).entries ∧
            ∀ candidate, responseEntityEntry record = some (key, candidate) →
              candidate.member ≠ place := by
        unfold membersOf
        rw [OrderedTable.mem_erase]
        grind
      refine Iff.trans ?_ erased
      unfold membersOf
      dsimp only
      split
      · simp_all
      · rw [Table.get?_insert_self]
        rfl
    · grind [membersOf]

namespace IndexedBut

open RecordingStateInner

variable {exempt : Uuid → Prop} {state : RecordingStateInner}

theorem dropRecord (indexed : IndexedBut exempt state) (named : Named state) (layout : Layout)
    (found : state.transactions.get? transactionId = some record) :
    IndexedBut exempt (state.dropRecord layout transactionId record) := by
  intro key place
  have removed := @mem_removeResponseEntityEntry
    { state with transactions := state.transactions.erase transactionId } record key place
  rw [dropRecord_eq]
  refine removed.trans ((and_congr_left' (indexed key place)).trans ?_)
  constructor
  · grind
  · rintro ⟨identifier, other, candidate, counted, stored, entry, rfl⟩
    rw [Table.get?_erase] at stored
    split at stored
    · cases stored
    rename_i different
    refine ⟨⟨identifier, other, candidate, counted, stored, entry, rfl⟩, ?_⟩
    intro _ ownEntry same
    refine different ?_
    rw [← member_transactionId named stored entry, ← same,
      member_transactionId named found ownEntry]

theorem evict (indexed : IndexedBut exempt state) (named : Named state) (layout : Layout)
    (transactionIds : List Uuid) : IndexedBut exempt (state.evict layout transactionIds) := by
  have loop : IndexedBut exempt (dropRecords layout transactionIds
        (state.unlist transactionIds)).2.2 ∧
      Named (dropRecords layout transactionIds (state.unlist transactionIds)).2.2 := by
    refine @dropRecords_preserve _ _ (fun state => IndexedBut exempt state ∧ Named state) ?_
      _ ⟨indexed.congr rfl rfl, named⟩
    rintro state _ _ found ⟨indexed, named⟩
    refine ⟨indexed.dropRecord named layout found, ?_⟩
    intro identifier _ stored
    rw [dropRecord_eq, Table.get?_erase] at stored
    split at stored
    · cases stored
    · exact named stored
  obtain ⟨_, removed⟩ := removeTransactions_eq layout state transactionIds
  rw [RecordingStateInner.evict, removed]
  exact loop.1.congr rfl rfl

theorem insertEntry (indexed : IndexedBut (· = transactionId) state) :
    Indexed (insertResponseEntityEntry state transactionId) := by
  intro key place
  have sameRecords : (insertResponseEntityEntry state transactionId).transactions =
      state.transactions := by
    rw [insertResponseEntityEntry_eq]
  rw [mem_insertResponseEntityEntry, indexed key place]
  grind

end IndexedBut

namespace Indexed

open RecordingStateInner

variable {env : Environment} {state : RecordingStateInner}

/-- A pending transaction can be taken as exempt, since it has no entry. -/
theorem finish (indexed : Indexed state) {before : TransactionRecord}
    (found : state.transactions.get? transactionId = some before)
    (pending : before.summary.status = .pending) (after : TransactionRecord) :
    IndexedBut (· = transactionId) (state.withRecord transactionId after) := by
  intro key place
  refine (indexed key place).trans ?_
  unfold RecordingStateInner.withRecord
  constructor
  · rintro ⟨identifier, record, candidate, _, _, entry, rfl⟩
    have different : identifier ≠ transactionId := by
      grind [responseEntityEntry_pending]
    refine ⟨identifier, record, candidate, different, ?_, entry, rfl⟩
    grind
  grind

theorem enroll (indexed : Indexed state) (fresh : state.transactions.get? transactionId = none)
    (pending : record.summary.status = .pending) (bytes : Nat) :
    Indexed (state.enroll transactionId record bytes) := by
  intro key place
  refine (indexed key place).trans ?_
  unfold RecordingStateInner.enroll
  constructor
  · rintro ⟨identifier, other, candidate, counted, _, entry, rfl⟩
    refine ⟨identifier, other, candidate, counted, ?_, entry, rfl⟩
    grind
  grind [responseEntityEntry_pending]

theorem edit {before after : RecordingSession} (edit : SessionEdit env before after)
    (shaped : before.Shaped) (indexed : Indexed before.state) : Indexed after.state := by
  have named : Named before.state := shaped.state.named
  cases edit with
  | charge | configure | requestClear | dequeue | cleared => exact congr indexed rfl rfl
  | evict transactionIds => exact evict indexed named env.layout transactionIds
  | amend transactionId amended result found amends =>
    refine withRecord indexed found ?_
    by_cases pending : amended.summary.status = .pending
    · rw [responseEntityEntry_pending pending,
        responseEntityEntry_pending (amends.status.trans pending)]
    · exact responseEntityEntry_untouched (amends.untouched pending)
  | finish transactionId _ result limited found finishes =>
    have namedAfter : Named (before.state.withRecord transactionId result) :=
      (shaped.state.withRecord found finishes.transactionId).named
    exact ((indexed.finish found finishes.pending result).evict namedAfter env.layout
      limited).insertEntry
  | register transactionId _ _ _ _ _ _ found registers =>
    have same := (responseEntityEntry_pending registers.stillPending).trans
      (responseEntityEntry_pending registers.pending).symm
    exact (withRecord indexed found same).congr rfl rfl
  | enroll _ bytes => exact indexed.enroll (shaped.fresh env) rfl bytes
  | removeAll =>
    intro _ _
    constructor
    · nofun
    · rintro ⟨_, _, _, _, stored, _⟩
      cases stored
  | _ => exact indexed

end Indexed

/-! ### Lookups and scans -/

section

variable {state : RecordingStateInner} {key : ResponseEntityIndexKey}

/-- What the index gives for an entity. -/
def RecordingStateInner.indexedRanges (state : RecordingStateInner)
    (key : ResponseEntityIndexKey) : List ResponseRangeCandidate :=
  ((state.membersOf key).entries.filterMap fun entry =>
    state.transactions.get? (ofLex entry.1).2).filterMap responseRangeCandidate

/-- Every member leads to one range, at its place. -/
theorem member_indexedRanges (indexed : Indexed state) (named : Named state) :
    (state.indexedRanges key).map ResponseRangeCandidate.member =
      (state.membersOf key).entries.map Prod.fst := by
  have each : ∀ entry ∈ (state.membersOf key).entries, ∃ record candidate,
      state.transactions.get? (ofLex entry.1).2 = some record ∧
        responseRangeCandidate record = some candidate ∧ candidate.member = entry.1 := by
    rintro ⟨place, _⟩ member
    obtain ⟨_, record, candidate, _, stored, entry, rfl⟩ := (indexed key place).mp member
    rw [← member_transactionId named stored entry] at stored
    exact ⟨record, candidate, stored, responseRangeCandidate_of_entry entry, rfl⟩
  unfold indexedRanges
  generalize (state.membersOf key).entries = entries at each
  induction entries with
  | nil => rfl
  | cons entry rest ih =>
    obtain ⟨record, candidate, stored, range, place⟩ := each entry mem_cons_self
    have later := ih fun other member => each other (mem_cons_of_mem _ member)
    have first : (entry :: rest).filterMap (fun entry =>
        state.transactions.get? (ofLex entry.1).2) =
        record :: rest.filterMap fun entry => state.transactions.get? (ofLex entry.1).2 :=
      filterMap_cons_some stored
    rw [first, filterMap_cons_some range, map_cons, map_cons, later, place]

theorem mem_indexedRanges (indexed : Indexed state) (named : Named state) :
    candidate ∈ state.indexedRanges key ↔
      ∃ transactionId record, state.transactions.get? transactionId = some record ∧
        responseEntityEntry record = some (key, candidate) := by
  unfold indexedRanges
  rw [mem_filterMap]
  constructor
  · rintro ⟨record, member, range⟩
    obtain ⟨⟨place, _⟩, listed, stored⟩ := mem_filterMap.mp member
    obtain ⟨identifier, _, _, _, otherStored, entry, rfl⟩ :=
      (indexed key place).mp listed
    rw [member_transactionId named otherStored entry, otherStored] at stored
    cases stored
    rw [responseRangeCandidate_of_entry entry] at range
    grind
  · rintro ⟨identifier, record, stored, entry⟩
    refine ⟨record, mem_filterMap.mpr ⟨(candidate.member, ()), ?_, ?_⟩,
      responseRangeCandidate_of_entry entry⟩
    · exact (indexed key _).mpr ⟨identifier, record, candidate, id, stored, entry, rfl⟩
    grind [member_transactionId]

theorem mem_scan :
    candidate ∈ state.transactions.values.filterMap (rangeOf key) ↔
      ∃ transactionId record, state.transactions.get? transactionId = some record ∧
        responseEntityEntry record = some (key, candidate) := by
  rw [mem_filterMap]
  constructor
  · rintro ⟨record, member, range⟩
    obtain ⟨identifier, stored⟩ := Table.mem_values.mp member
    exact ⟨identifier, record, stored, rangeOf_eq_some.mp range⟩
  · rintro ⟨identifier, record, stored, entry⟩
    exact ⟨record, Table.mem_values.mpr ⟨identifier, stored⟩, rangeOf_eq_some.mpr entry⟩

theorem nodup_scan (named : Named state) :
    (state.transactions.values.filterMap (rangeOf key)).Nodup := by
  have flat : state.transactions.values.filterMap (rangeOf key) =
      state.transactions.values.flatMap fun record => (rangeOf key record).toList :=
    filterMap_eq_flatMap_toList ..
  rw [flat]
  refine Table.nodup_flatMap_values _ _ ?_ ?_
  · grind
  · intro _ _ record _ _ stored otherStored range otherRange
    rw [Option.mem_toList, rangeOf_eq_some] at range otherRange
    rw [← member_transactionId named stored range,
      ← member_transactionId named otherStored otherRange]

theorem indexedRanges_eq_scan (indexed : Indexed state) (named : Named state) :
    state.indexedRanges key =
      (state.transactions.values.filterMap (rangeOf key)).mergeSort
        fun left right => decide (left.member ≤ right.member) := by
  have places := @member_indexedRanges _ key indexed named
  have ascending : (state.indexedRanges key).Pairwise fun left right =>
      left.member < right.member := by
    refine pairwise_map.mp ?_
    rw [places]
    exact pairwise_map.mpr (state.membersOf key).ascending
  have sorted := @pairwise_mergeSort _
    (fun left right : ResponseRangeCandidate => decide (left.member ≤ right.member))
    (fun first second _ one two => by
      rw [decide_eq_true_eq] at one two ⊢
      exact one.trans two)
    (fun first second => by
      rw [Bool.or_eq_true, decide_eq_true_eq, decide_eq_true_eq]
      exact le_total ..)
    (state.transactions.values.filterMap (rangeOf key))
  have permuted := mergeSort_perm (state.transactions.values.filterMap (rangeOf key))
    fun left right => decide (left.member ≤ right.member)
  have nodup : (state.indexedRanges key).Nodup :=
    ascending.imp fun less equal => (ne_of_lt less) (congrArg ResponseRangeCandidate.member equal)
  have same : (state.indexedRanges key).Perm
      (state.transactions.values.filterMap (rangeOf key)) := by
    grind [nodup_scan, mem_indexedRanges, mem_scan]
  refine List.Perm.eq_of_pairwise ?_ (ascending.imp fun less => decide_eq_true less.le) sorted
    (same.trans permuted.symm)
  intro first second firstMember secondMember one two
  obtain ⟨identifier, _, _, _⟩ := (mem_indexedRanges indexed named).mp firstMember
  obtain ⟨other, _, _, _⟩ :=
    mem_scan.mp (permuted.mem_iff.mp secondMember)
  have equal : identifier = other := by
    grind [member_transactionId]
  simp_all

end

/-- In every state of every run, a lookup in the index answers every query as a scan does. -/
theorem findResponseRangeCandidates_eq_scan (env : Environment)
    (configuration : RecordingConfiguration) (startedAtMilliseconds : UInt64)
    (actions : List RecordingAction) (urlDisplay entityTag : List Char) (totalBytes : Nat)
    (contentEncoding : List Char) :
    ((recordingMachine env configuration startedAtMilliseconds).run
        actions).findResponseRangeCandidates urlDisplay entityTag totalBytes contentEncoding =
      ((recordingMachine env configuration startedAtMilliseconds).run
        actions).scanResponseRangeCandidates urlDisplay entityTag totalBytes contentEncoding := by
  have named : Named ((recordingMachine env configuration startedAtMilliseconds).run
      actions).state := (shaped_run configuration startedAtMilliseconds actions).state.named
  have indexed : Indexed ((recordingMachine env configuration startedAtMilliseconds).run
      actions).state := by
    refine edits_run ?_ Indexed.edit actions
    intro _ _
    constructor
    · nofun
    · rintro ⟨_, _, _, _, stored, _⟩
      cases stored
  generalize (recordingMachine env configuration startedAtMilliseconds).run actions = session at *
  unfold findResponseRangeCandidates scanResponseRangeCandidates
  cases session.state.ensureOpen with
  | error error => rfl
  | ok =>
    dsimp only
    rw [← indexedRanges_eq_scan indexed named]
    unfold indexedRanges membersOf
    cases session.state.responseEntityIndex.get? _ with
    | none | some => rfl

end SprakCapture.Capture
