import SprakCapture.Socks5.SessionRegistry

/-!
# The counters of the session registry

`activeConnections` is a counter beside the table of sessions. `Counted` says that it
agrees with the table and that the history of ended sessions is bounded. A call keeps
this exactly if it is `Orderly`: the registry does not notice when a session ends twice
or when an update ends or revives a session.
-/

namespace SprakCapture.Socks5

open Data List Data.Table Table

namespace SessionRegistry

/-- The number of stored sessions that are active. -/
def activeSessions (registry : SessionRegistry) : Nat :=
  (registry.sessions.values.filter fun snapshot => snapshot.isActive).length

/-- The number of stored sessions that have ended. -/
def endedSessions (registry : SessionRegistry) : Nat :=
  (registry.sessions.values.filter fun snapshot => snapshot.state.isTerminal).length

/-- The counter of active sessions is exact and the history is bounded. -/
structure Counted (registry : SessionRegistry) : Prop where
  active : registry.metrics.activeConnections = registry.activeSessions
  history : registry.endedSessions ≤ registry.historyLimit

/-- An update leaves open whether the session has ended, and a session is closed once. -/
def Orderly (registry : SessionRegistry) : Call → Prop
  | .update sessionId change _ => ∀ snapshot, registry.sessions.get? sessionId = some snapshot →
      change.state.isTerminal = snapshot.state.isTerminal
  | .close sessionId _ _ => ∀ snapshot, registry.sessions.get? sessionId = some snapshot →
      snapshot.state.isTerminal = false ∨ registry.metrics.activeConnections = 0
  | _ => True

/-! ### Counting -/

/-- What a session adds to the number of active ones. -/
def activeWeight (snapshot : SessionSnapshot) : Nat := if snapshot.state.isTerminal then 0 else 1

/-- What a session adds to the number of ended ones. -/
def endedWeight (snapshot : SessionSnapshot) : Nat := if snapshot.state.isTerminal then 1 else 0

theorem activeWeight_inj {left right : SessionSnapshot} :
    activeWeight left = activeWeight right ↔ left.state.isTerminal = right.state.isTerminal := by
  grind [activeWeight]

theorem length_filter_eq_sum (sessions : List SessionSnapshot) (keep : SessionSnapshot → Bool) :
    (sessions.filter keep).length =
      (sessions.map fun snapshot => if keep snapshot then 1 else 0).sum := by
  induction sessions with
  | nil => rfl
  | cons snapshot sessions =>
    grind

variable {registry : SessionRegistry} {sessionId : String} {snapshot : SessionSnapshot}

theorem activeSessions_eq : registry.activeSessions = registry.sessions.total activeWeight := by
  rw [activeSessions, length_filter_eq_sum]
  congr 2
  grind [SessionSnapshot.isActive, activeWeight]

theorem endedSessions_eq : registry.endedSessions = registry.sessions.total endedWeight := by
  rw [endedSessions, length_filter_eq_sum]
  rfl

variable {other : SessionRegistry}

/-- Two registries with the same table, counter and limit count alike. -/
theorem Counted.congr (sessions : other.sessions = registry.sessions)
    (counter : other.metrics.activeConnections = registry.metrics.activeConnections)
    (limit : other.historyLimit = registry.historyLimit) : other.Counted ↔ registry.Counted := by
  constructor
  · rintro ⟨active, history⟩
    rw [activeSessions, sessions, counter] at active
    rw [endedSessions, sessions, limit] at history
    exact ⟨active, history⟩
  · rintro ⟨active, history⟩
    refine ⟨?_, ?_⟩
    · rw [activeSessions, sessions, counter]
      exact active
    · rw [endedSessions, sessions, limit]
      exact history

theorem Counted.keep (counted : registry.Counted) (sessions : other.sessions = registry.sessions)
    (counter : other.metrics.activeConnections = registry.metrics.activeConnections)
    (limit : other.historyLimit = registry.historyLimit) : other.Counted :=
  (Counted.congr sessions counter limit).mpr counted

theorem publish_sessions (snapshot : SessionSnapshot) :
    (registry.publish snapshot).sessions = registry.sessions := by
  unfold publish
  split <;> rfl

theorem publish_metrics (snapshot : SessionSnapshot) :
    (registry.publish snapshot).metrics = registry.metrics := by
  unfold publish
  split <;> rfl

theorem publish_historyLimit (snapshot : SessionSnapshot) :
    (registry.publish snapshot).historyLimit = registry.historyLimit := by
  unfold publish
  split <;> rfl

theorem counted_publish (snapshot : SessionSnapshot) :
    (registry.publish snapshot).Counted ↔ registry.Counted :=
  Counted.congr (publish_sessions snapshot) (by rw [publish_metrics]) (publish_historyLimit snapshot)

theorem counted_dropUnreferenced : registry.dropUnreferenced.Counted ↔ registry.Counted :=
  Counted.congr rfl rfl rfl

/-! ### Deleting ended sessions -/

/-- Deleting ended sessions leaves the active ones alone. -/
theorem deleteEnded {ids : List String} (distinct : ids.Nodup)
    (ended : ∀ id ∈ ids, ∃ snapshot, registry.sessions.get? id = some snapshot ∧
      snapshot.state.isTerminal = true) :
    (ids.foldl erase registry.sessions).total activeWeight =
        registry.sessions.total activeWeight ∧
      (ids.foldl erase registry.sessions).total endedWeight + ids.length =
        registry.sessions.total endedWeight := by
  have active := @total_foldl_erase _ _ _ _ _ activeWeight 0 distinct (by
    intro id member
    obtain ⟨snapshot, found, terminal⟩ := ended id member
    exact ⟨snapshot, found, by simp [activeWeight, terminal]⟩)
  have gone := @total_foldl_erase _ _ _ _ _ endedWeight 1 distinct (by
    intro id member
    obtain ⟨snapshot, found, terminal⟩ := ended id member
    exact ⟨snapshot, found, by simp [endedWeight, terminal]⟩)
  omega

/-- The ended sessions are listed by distinct identifiers. -/
theorem closedSessions_spec :
    (registry.closedSessions.map Prod.fst).Nodup ∧
      registry.closedSessions.length = registry.endedSessions ∧
      ∀ entry ∈ registry.closedSessions, ∃ snapshot,
        registry.sessions.get? entry.1 = some snapshot ∧ snapshot.state.isTerminal = true := by
  refine ⟨?_, ?_, ?_⟩
  · have keys : registry.closedSessions.map Prod.fst =
        (registry.sessions.toList.filter fun entry => entry.2.state.isTerminal).map Prod.fst := by
      simp [closedSessions]
    rw [keys]
    exact (nodup_keys_toList registry.sessions).sublist (filter_sublist.map Prod.fst)
  · rw [closedSessions, length_map, endedSessions]
    have values : registry.sessions.values = registry.sessions.toList.map Prod.snd := by
      simp [values, toList]
    rw [values, List.filter_map, length_map]
    rfl
  · rintro entry member
    obtain ⟨⟨_, snapshot⟩, present, rfl⟩ := List.mem_map.mp member
    obtain ⟨listed, terminal⟩ := mem_filter.mp present
    exact ⟨snapshot, mem_toList.mp listed, terminal⟩

/-- Pruning deletes ended sessions down to the limit. -/
theorem pruneClosed_cases :
    (registry.endedSessions ≤ registry.historyLimit ∧ registry.pruneClosed = registry) ∨
    ∃ ids : List String, ids.Nodup ∧
      (∀ id ∈ ids, ∃ snapshot, registry.sessions.get? id = some snapshot ∧
        snapshot.state.isTerminal = true) ∧
      ids.length + registry.historyLimit = registry.endedSessions ∧
      registry.pruneClosed =
        { registry with sessions := ids.foldl erase registry.sessions } := by
  obtain ⟨_, _, _⟩ := @closedSessions_spec registry
  unfold pruneClosed
  dsimp only
  split
  · simp_all
  right
  have permuted := mergeSort_perm registry.closedSessions fun left right => left.2 ≤ right.2
  refine ⟨((registry.closedSessions.mergeSort fun left right => left.2 ≤ right.2).take
    (registry.closedSessions.length - registry.historyLimit)).map Prod.fst, ?_, ?_, ?_, ?_⟩
  · grind
  · grind
  · rw [length_map, length_take, permuted.length_eq]
    omega
  · rw [foldl_map]

/-- Pruning keeps the count of active sessions and bounds the history. -/
theorem counted_pruneClosed
    (active : registry.metrics.activeConnections = registry.activeSessions) :
    registry.pruneClosed.Counted := by
  rcases pruneClosed_cases with ⟨within, same⟩ | ⟨_, distinct, ended, _, _⟩
  · rw [same]
    exact ⟨active, within⟩
  · obtain ⟨_, _⟩ := deleteEnded distinct ended
    refine ⟨?_, ?_⟩
    · grind [activeSessions_eq]
    grind [endedSessions_eq]

theorem activeSessions_pruneClosed :
    registry.pruneClosed.activeSessions = registry.activeSessions := by
  rcases pruneClosed_cases with ⟨-, same⟩ | ⟨_, _, _, -, _⟩
  · rw [same]
  grind [activeSessions_eq, deleteEnded]

theorem pruneClosed_metrics : registry.pruneClosed.metrics = registry.metrics := by
  rcases pruneClosed_cases with ⟨-, same⟩ | ⟨_, -, -, -, equal⟩
  · rw [same]
  · rw [equal]

variable {replaced : SessionSnapshot} (found : registry.sessions.get? sessionId = some snapshot)
include found

/-- Pruning never deletes an active session. -/
theorem get?_pruneClosed_of_active (active : snapshot.state.isTerminal = false) :
    registry.pruneClosed.sessions.get? sessionId = some snapshot := by
  rcases pruneClosed_cases with ⟨-, same⟩ | ⟨ids, -, ended, -, equal⟩
  · rw [same]
    exact found
  have kept : sessionId ∉ ids := by
    intro member
    obtain ⟨_, _, _⟩ := ended sessionId member
    simp_all
  rw [equal, get?_foldl_erase, if_neg kept]
  exact found

/-! ### The calls -/

/-- Replacing a session changes the counts by the kinds of the two snapshots. -/
theorem replace_counts :
    (registry.sessions.insert sessionId replaced).total activeWeight + activeWeight snapshot =
        registry.sessions.total activeWeight + activeWeight replaced ∧
      (registry.sessions.insert sessionId replaced).total endedWeight + endedWeight snapshot =
        registry.sessions.total endedWeight + endedWeight replaced := by
  rw [total_insert, total_insert, total_eq_of_get? activeWeight found,
    total_eq_of_get? endedWeight found]
  omega

omit found

/-- Replacing a session by one of the same kind changes no count. -/
theorem Counted.replace (counted : registry.Counted)
    (found : registry.sessions.get? sessionId = some snapshot)
    (sessions : other.sessions = registry.sessions.insert sessionId replaced)
    (counter : other.metrics.activeConnections = registry.metrics.activeConnections)
    (limit : other.historyLimit = registry.historyLimit)
    (kind : replaced.state.isTerminal = snapshot.state.isTerminal) : other.Counted := by
  obtain ⟨active, _⟩ := @replace_counts _ _ _ replaced found
  have sameActive : other.activeSessions = registry.activeSessions := by
    grind [activeWeight, activeSessions_eq]
  have sameEnded : other.endedSessions = registry.endedSessions := by
    grind [endedWeight, endedSessions_eq]
  refine ⟨?_, ?_⟩
  · rw [counter, counted.active, sameActive]
  · rw [sameEnded, limit]
    exact counted.history

variable {now : UInt64}

theorem counted_create {clientAddress : String} (counted : registry.Counted)
    (fresh : registry.sessions.get? sessionId = none) :
    (registry.create sessionId clientAddress now).Counted := by
  unfold create
  rw [counted_publish]
  obtain ⟨active, history⟩ := counted
  rw [activeSessions_eq] at active
  rw [endedSessions_eq] at history
  refine ⟨?_, ?_⟩
  · rw [activeSessions_eq]
    dsimp only
    rw [total_insert, erase_of_get?_eq_none fresh, active, Nat.add_comm]
    rfl
  · rw [endedSessions_eq, total_insert, erase_of_get?_eq_none fresh]
    simpa [endedWeight, SessionState.isTerminal] using history

theorem counted_update {change : SessionUpdate} (counted : registry.Counted) :
    (registry.update sessionId change now).Counted ↔
      registry.Orderly (.update sessionId change now) := by
  unfold update
  dsimp only [Orderly]
  split
  · simp_all
  rename_i stored found
  rw [counted_publish, found]
  constructor
  · rintro after _ same
    cases same
    obtain ⟨active, -⟩ := @replace_counts _ _ _ (change.apply now stored) found
    have exact := after.active
    rw [activeSessions_eq] at exact
    have before := counted.active
    rw [activeSessions_eq] at before
    dsimp only at exact
    have sameWeight : activeWeight (change.apply now stored) = activeWeight stored := by omega
    exact activeWeight_inj.mp sameWeight
  · intro orderly
    exact counted.replace found rfl rfl rfl (orderly stored rfl)

/-- A snapshot of a session that ends has ended. -/
theorem isTerminal_close (snapshot : SessionSnapshot) (errorMessage : String) (now : UInt64) :
    (snapshot.close errorMessage now).state.isTerminal = true := by
  unfold SessionSnapshot.close
  split <;> rfl

theorem counted_close {errorMessage : String} (counted : registry.Counted) :
    (registry.close sessionId errorMessage now).Counted ↔
      registry.Orderly (.close sessionId errorMessage now) := by
  unfold close
  dsimp only [Orderly]
  split
  · simp_all
  rename_i stored found
  rw [found]
  have ends := isTerminal_close stored errorMessage now
  obtain ⟨active, -⟩ := replace_counts found
  rw [show activeWeight (stored.close errorMessage now) = 0 by simp [activeWeight, ends]] at active
  have before := counted.active
  rw [activeSessions_eq] at before
  constructor
  · rintro after _ same
    have exact := after.active
    grind [activeWeight, pruneClosed_metrics, publish_metrics, activeSessions_pruneClosed,
      activeSessions_eq, publish_sessions]
  · intro orderly
    apply counted_pruneClosed
    rw [publish_metrics, activeSessions_eq, publish_sessions]
    dsimp only
    rcases orderly stored rfl with isActive | _
    · have weight : activeWeight stored = 1 := by simp [activeWeight, isActive]
      omega
    · omega

/-- Closing one session leaves the other active sessions alone. -/
theorem get?_close_of_active {other errorMessage : String} (different : other ≠ sessionId)
    (found : registry.sessions.get? other = some snapshot)
    (active : snapshot.state.isTerminal = false) :
    (registry.close sessionId errorMessage now).sessions.get? other = some snapshot := by
  unfold close
  split
  · exact found
  · refine get?_pruneClosed_of_active ?_ active
    rw [publish_sessions]
    grind

/-- Closing distinct active sessions one after the other. -/
theorem counted_closeAll {ids : List String} {errorMessage : String} (counted : registry.Counted)
    (distinct : ids.Nodup)
    (active : ∀ id ∈ ids, ∃ snapshot, registry.sessions.get? id = some snapshot ∧
      snapshot.state.isTerminal = false) :
    (ids.foldl (fun registry sessionId => registry.close sessionId errorMessage now)
      registry).Counted := by
  induction ids generalizing registry with
  | nil => exact counted
  | cons _ ids ih =>
    obtain ⟨fresh, distinct⟩ := nodup_cons.mp distinct
    refine ih ?_ distinct ?_
    · refine (counted_close counted).mpr ?_
      intro snapshot _
      simp_all
    intro id member
    obtain ⟨stored, present, isActive⟩ := active id (.tail _ member)
    refine ⟨stored, get?_close_of_active ?_ present isActive, isActive⟩
    rintro rfl
    exact fresh member

theorem counted_closeActive (counted : registry.Counted) (errorMessage : String) (now : UInt64) :
    (registry.closeActive errorMessage now).Counted := by
  refine counted_closeAll counted ?_ ?_
  · exact (nodup_keys_toList registry.sessions).sublist (filter_sublist.map Prod.fst)
  intro _ member
  obtain ⟨⟨_, snapshot⟩, listed, rfl⟩ := List.mem_map.mp member
  obtain ⟨present, active⟩ := mem_filter.mp listed
  exact ⟨snapshot, mem_toList.mp present, by
    simpa [SessionSnapshot.isActive] using active⟩

theorem counted_clearClosed (counted : registry.Counted) : registry.clearClosed.Counted := by
  obtain ⟨active, history⟩ := counted
  have distinct : ((registry.sessions.toList.filter fun entry =>
      entry.2.state.isTerminal).map Prod.fst).Nodup :=
    (nodup_keys_toList registry.sessions).sublist (filter_sublist.map Prod.fst)
  obtain ⟨activeKept, endedLeft⟩ := deleteEnded distinct (by
    intro _ member
    obtain ⟨⟨_, snapshot⟩, listed, rfl⟩ := List.mem_map.mp member
    obtain ⟨present, ended⟩ := mem_filter.mp listed
    exact ⟨snapshot, mem_toList.mp present, ended⟩)
  rw [activeSessions_eq] at active
  rw [endedSessions_eq] at history
  refine ⟨?_, ?_⟩
  · rw [activeSessions_eq]
    exact active.trans activeKept.symm
  · rw [endedSessions_eq]
    refine Nat.le_trans ?_ history
    rw [← endedLeft]
    exact Nat.le_add_right _ _

theorem captureTraffic_frame (captured : Option Nat) (direction : TrafficDirection)
    (payload : Bytes) (now : UInt64) :
    (registry.captureTraffic captured direction payload now).historyLimit =
      registry.historyLimit := by
  unfold captureTraffic
  split
  · rfl
  · split <;> rfl

theorem counted_addModifiedTraffic (counted : registry.Counted) (traffic : ModifiedTraffic)
    (now : UInt64) : (registry.addModifiedTraffic traffic now).Counted := by
  unfold addModifiedTraffic
  split
  · exact counted
  split
  · exact counted
  rename_i stored found
  rw [counted_publish]
  refine counted.replace found rfl ?_ ?_ ?_
  · cases traffic.direction <;> rfl
  · exact captureTraffic_frame _ _ _ _
  · cases traffic.direction <;> rfl

theorem counted_clearCapturedBytes (counted : registry.Counted) :
    registry.clearCapturedBytes.Counted := by
  obtain ⟨active, history⟩ := counted
  rw [activeSessions_eq] at active
  rw [endedSessions_eq] at history
  refine ⟨?_, ?_⟩
  · rw [activeSessions_eq]
    dsimp only [clearCapturedBytes]
    rw [total_mapValues]
    exact active
  · rw [endedSessions_eq]
    dsimp only [clearCapturedBytes]
    rw [total_mapValues]
    exact history

theorem counted_releaseCapturedBytes (counted : registry.Counted) (sessionId : String) :
    (registry.releaseCapturedBytes sessionId).Counted := by
  cases found : registry.sessions.get? sessionId with
  | none =>
    refine counted.keep ?_ rfl rfl
    simp [releaseCapturedBytes, Table.modify, found]
  | some stored =>
    have replaced : (registry.releaseCapturedBytes sessionId).sessions =
        registry.sessions.insert sessionId { stored with captured := none } := by
      simp [releaseCapturedBytes, Table.modify, found]
    exact counted.replace found replaced rfl rfl rfl

/-! ### Runs -/

/-- A call keeps the counters exact if and only if it is orderly. -/
theorem counted_step (counted : registry.Counted) (call : Call) :
    (registry.step call).Counted ↔ registry.Orderly call := by
  unfold step
  rw [counted_dropUnreferenced]
  cases call with
  | create sessionId _ now =>
    refine iff_of_true ?_ trivial
    dsimp only [perform]
    split
    · exact counted
    · rename_i fresh
      exact counted_create counted (Option.eq_none_iff_forall_ne_some.mpr (by simpa using fresh))
  | update sessionId _ now => exact counted_update counted
  | addModifiedTraffic traffic now =>
    exact iff_of_true (counted_addModifiedTraffic counted traffic now) trivial
  | close sessionId errorMessage now => exact counted_close counted
  | closeActive errorMessage now =>
    exact iff_of_true (counted_closeActive counted errorMessage now) trivial
  | clearClosed => exact iff_of_true (counted_clearClosed counted) trivial
  | clearCapturedBytes => exact iff_of_true (counted_clearCapturedBytes counted) trivial
  | releaseCapturedBytes sessionId =>
    exact iff_of_true (counted_releaseCapturedBytes counted sessionId) trivial
  | _ => exact iff_of_true (counted.keep rfl rfl rfl) trivial

theorem counted_initial (historyLimit maximumCapturedBytes : Nat) :
    (withCaptureBudget historyLimit maximumCapturedBytes).Counted :=
  ⟨rfl, Nat.zero_le _⟩

/-- The counters are exact throughout a run if and only if every call of it is orderly, and
pruning never deletes an active session. -/
theorem sessionCounters_iff_orderly (historyLimit maximumCapturedBytes : Nat) (calls : List Call) :
    ((∀ first, first <+: calls → ((machine historyLimit maximumCapturedBytes).run first).Counted) ↔
      (machine historyLimit maximumCapturedBytes).Guarded Orderly
        (withCaptureBudget historyLimit maximumCapturedBytes) calls) ∧
    ∀ (registry : SessionRegistry) (sessionId : String) (snapshot : SessionSnapshot),
      registry.sessions.get? sessionId = some snapshot → snapshot.isActive = true →
        registry.pruneClosed.sessions.get? sessionId = some snapshot := by
  constructor
  · exact @Machine.forall_prefix_iff_guarded _ _ _
      _ (fun _ => True) Counted (fun _ _ _ => trivial)
      (fun _ call _ counted => counted_step counted call) _ trivial
      (counted_initial historyLimit maximumCapturedBytes) _
  · intro registry sessionId snapshot found active
    exact get?_pruneClosed_of_active found (by simpa [SessionSnapshot.isActive] using active)

/-- Closing one of two sessions twice leaves no active connection in the counter, although
the other session is active. -/
theorem sessionCounters_closedTwice :
    ((machine 500 4096).run
      [.create "c1" "192.0.2.1:50001" 1000, .create "c2" "192.0.2.1:50002" 1001,
        .close "c1" "" 1002, .close "c1" "" 1003]).metrics.activeConnections = 0 ∧
    ¬((machine 500 4096).run
      [.create "c1" "192.0.2.1:50001" 1000, .create "c2" "192.0.2.1:50002" 1001,
        .close "c1" "" 1002, .close "c1" "" 1003]).Counted := by
  refine ⟨by decide, ?_⟩
  intro counted
  exact absurd counted.active (by decide)

end SessionRegistry

end SprakCapture.Socks5
