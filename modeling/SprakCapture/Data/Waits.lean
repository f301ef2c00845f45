import Mathlib.Data.List.Basic

/-!
# Scripts of waits

A producer waits again and again, and may have an item to hand over at a wait. A cancellation ends
it at the next wait, and a receiver that has gone ends it at the next item. `follow` is the run of
a script of waits, and `follow_ended` says where it has ended.
-/

namespace SprakCapture.Data

open List

/-- A wait, with an item to hand over or with none. -/
inductive Wait (Item : Type) where
  | pause
  | deliver (item : Item)

/-- Why a producer ends early. -/
inductive Interruption where
  | cancelled
  | closed
deriving DecidableEq

/-- What a producer has sent. The cancellation comes after a number of waits, and the receiver
goes after a number of items. -/
structure Channel (Item : Type) where
  cancelledAfter : Option Nat
  closedAfter : Option Nat
  waited : Nat
  sent : List Item

section Deliveries

variable {Item : Type}

/-- The items of a script. -/
def deliveries : List (Wait Item) → List Item
  | [] => []
  | .pause :: script => deliveries script
  | .deliver item :: script => item :: deliveries script

@[simp] theorem deliveries_nil : deliveries ([] : List (Wait Item)) = [] := rfl

@[simp] theorem deliveries_pause (script : List (Wait Item)) :
    deliveries (.pause :: script) = deliveries script := rfl

@[simp] theorem deliveries_deliver (item : Item) (script : List (Wait Item)) :
    deliveries (.deliver item :: script) = item :: deliveries script := rfl

@[simp] theorem deliveries_append (first second : List (Wait Item)) :
    deliveries (first ++ second) = deliveries first ++ deliveries second := by
  induction first with
  | nil => rfl
  | cons wait first ih => cases wait <;> simp [ih]

end Deliveries

namespace Channel

variable {Item : Type}

/-- A channel that nothing has been sent on. -/
def fresh (cancelledAfter closedAfter : Option Nat) : Channel Item where
  cancelledAfter := cancelledAfter
  closedAfter := closedAfter
  waited := 0
  sent := []

/-- The receiver has gone. -/
def IsClosed (channel : Channel Item) : Prop := channel.closedAfter = some channel.sent.length

/-- A wait, which a cancellation ends first. -/
def pause (channel : Channel Item) : Except Interruption Unit × Channel Item :=
  if channel.cancelledAfter = some channel.waited then (.error .cancelled, channel)
  else (.ok (), { channel with waited := channel.waited + 1 })

/-- Hand an item over. -/
def send (channel : Channel Item) (item : Item) : Except Interruption Unit × Channel Item :=
  if channel.closedAfter = some channel.sent.length then (.error .closed, channel)
  else (.ok (), { channel with sent := channel.sent ++ [item] })

/-- Wait, and hand an item over. -/
def deliver (channel : Channel Item) (item : Item) : Except Interruption Unit × Channel Item :=
  match channel.pause with
  | (.error interruption, channel) => (.error interruption, channel)
  | (.ok (), channel) => channel.send item

/-- One wait of a script. -/
def turn (channel : Channel Item) : Wait Item → Except Interruption Unit × Channel Item
  | .pause => channel.pause
  | .deliver item => channel.deliver item

/-- The run of a script. -/
def follow : List (Wait Item) → Channel Item → Except Interruption Unit × Channel Item
  | [], channel => (.ok (), channel)
  | wait :: script, channel =>
    match channel.turn wait with
    | (.error interruption, channel) => (.error interruption, channel)
    | (.ok (), channel) => follow script channel

/-- A script goes on where its beginning has ended. -/
theorem follow_append (first second : List (Wait Item)) (channel : Channel Item) :
    follow (first ++ second) channel = match follow first channel with
      | (.error interruption, channel) => (.error interruption, channel)
      | (.ok (), channel) => follow second channel := by
  induction first generalizing channel with
  | nil => rfl
  | cons wait first ih =>
    rw [cons_append, follow, follow]
    rcases channel.turn wait with ⟨_ | _, later⟩
    · rfl
    · exact ih later

/-- Where the run of a script has ended that had one part behind it and another before it. -/
structure Ended (channel later : Channel Item) (passed rest : List (Wait Item))
    (result : Except Interruption Unit) : Prop where
  sent : later.sent = channel.sent ++ deliveries passed
  closedAfter : later.closedAfter = channel.closedAfter
  done : result = .ok () → rest = []
  cancelled : result = .error .cancelled →
    channel.cancelledAfter = some (channel.waited + passed.length)
  closed : result = .error .closed → later.IsClosed
  uncancelled : ∀ waits, channel.cancelledAfter = some waits → channel.waited ≤ waits →
    channel.waited + passed.length ≤ waits
  room : ∀ items, channel.closedAfter = some items → channel.sent.length ≤ items →
    later.sent.length ≤ items

/-- A wait ends, or the run ends with it. -/
theorem turn_cases (channel : Channel Item) (wait : Wait Item) :
    (∃ later, channel.turn wait = (.ok (), later) ∧ later.waited = channel.waited + 1 ∧
        later.sent = channel.sent ++ deliveries [wait] ∧
        later.cancelledAfter = channel.cancelledAfter ∧
        later.closedAfter = channel.closedAfter ∧
        channel.cancelledAfter ≠ some channel.waited ∧
        (deliveries [wait] ≠ [] → ¬ channel.IsClosed)) ∨
      (channel.turn wait = (.error .cancelled, channel) ∧
        channel.cancelledAfter = some channel.waited) ∨
      ∃ later, channel.turn wait = (.error .closed, later) ∧ channel.IsClosed ∧
        later = { channel with waited := channel.waited + 1 } := by
  by_cases cancels : channel.cancelledAfter = some channel.waited
  · refine .inr (.inl ⟨?_, cancels⟩)
    cases wait <;> simp [turn, deliver, pause, cancels]
  cases wait with
  | pause =>
    refine .inl ⟨{ channel with waited := channel.waited + 1 }, ?_, rfl, ?_, rfl, rfl, cancels,
      fun missing => absurd rfl missing⟩
    · rw [turn, pause, if_neg cancels]
    · simp
  | deliver item =>
    by_cases closes : channel.IsClosed
    · refine .inr (.inr ⟨_, ?_, closes, rfl⟩)
      rw [turn, deliver, pause, if_neg cancels]
      exact if_pos closes
    refine .inl ⟨{ channel with
        waited := channel.waited + 1
        sent := channel.sent ++ [item] }, ?_, rfl, ?_, rfl, rfl, cancels, fun _ => closes⟩
    · rw [turn, deliver, pause, if_neg cancels]
      exact if_neg closes
    · simp

section

variable (script : List (Wait Item))
include script

variable (channel : Channel Item)

theorem follow_ended :
    ∃ passed rest, script = passed ++ rest ∧
      Ended channel (follow script channel).2 passed rest (follow script channel).1 := by
  induction script generalizing channel with
  | nil =>
    exact ⟨[], [], rfl, by simp [follow], rfl, fun _ => rfl, nofun, nofun,
      fun waits _ later => by simpa using later, fun items _ room => room⟩
  | cons wait script ih =>
    rw [follow]
    rcases channel.turn_cases wait with
      ⟨next, turned, waited, sent, cancelledAfter, closedAfter, cancels, closes⟩ |
      ⟨turned, cancels⟩ | ⟨next, turned, closes, rfl⟩
    · rw [turned]
      obtain ⟨passed, rest, rfl, ended⟩ := ih next
      refine ⟨wait :: passed, rest, rfl, ?_, ended.closedAfter.trans closedAfter, ended.done,
        fun stopped => ?_, ended.closed, fun waits isWaits later => ?_,
        fun items isItems room => ?_⟩
      · rw [ended.sent, sent, append_assoc, ← deliveries_append]
        rfl
      · rw [← cancelledAfter, ended.cancelled stopped, length_cons]
        congr 1
        omega
      · have apart : waits ≠ channel.waited := fun same => cancels (same ▸ isWaits)
        have passes := ended.uncancelled waits (cancelledAfter ▸ isWaits) (by omega)
        rw [length_cons]
        omega
      · refine ended.room items (closedAfter ▸ isItems) ?_
        rw [sent, length_append]
        by_cases delivers : deliveries [wait] = []
        · simpa [delivers] using room
        have apart : items ≠ channel.sent.length := by
          rintro rfl
          exact closes delivers isItems
        have one : (deliveries [wait]).length ≤ 1 := by cases wait <;> simp
        omega
    · rw [turned]
      exact ⟨[], wait :: script, rfl, by simp, rfl, nofun, fun _ => by simpa using cancels, nofun,
        fun waits _ later => by simpa using later, fun items _ room => room⟩
    · rw [turned]
      exact ⟨[], wait :: script, rfl, by simp, rfl, nofun, nofun, fun _ => closes,
        fun waits _ later => by simpa using later, fun items _ room => room⟩

theorem closedAfter_follow : (follow script channel).2.closedAfter = channel.closedAfter := by
  obtain ⟨_, _, -, ended⟩ := follow_ended script channel
  exact ended.closedAfter

variable (cancelledAfter closedAfter : Option Nat)

theorem follow_prefix :
    (follow script (fresh cancelledAfter closedAfter)).2.sent <+: deliveries script := by
  obtain ⟨_, rest, isScript, ended⟩ := follow_ended script (fresh cancelledAfter closedAfter)
  refine ⟨deliveries rest, ?_⟩
  rw [ended.sent, isScript, deliveries_append]
  rfl

/-- What has been sent of a script, on a channel that was fresh. -/
theorem follow_fresh :
    (follow script (fresh cancelledAfter closedAfter)).2.sent = deliveries script ∨
      (follow script (fresh cancelledAfter closedAfter)).2.IsClosed ∨
      ∃ waits, cancelledAfter = some waits ∧
        (follow script (fresh cancelledAfter closedAfter)).2.sent = deliveries (script.take waits) ∧
        ∀ items, closedAfter = some items → (deliveries (script.take waits)).length ≤ items := by
  obtain ⟨passed, _, isScript, ended⟩ := follow_ended script (fresh cancelledAfter closedAfter)
  have sent : (follow script (fresh cancelledAfter closedAfter)).2.sent = deliveries passed :=
    ended.sent
  rcases isResult : (follow script (fresh cancelledAfter closedAfter)).1 with interruption | _
  · cases interruption with
    | cancelled =>
      have cancels : cancelledAfter = some (0 + passed.length) := ended.cancelled isResult
      have before : script.take (0 + passed.length) = passed := by simp [isScript]
      refine .inr (.inr ⟨_, cancels, by rw [before, sent], fun items isItems => ?_⟩)
      rw [before, ← sent]
      exact ended.room items isItems (Nat.zero_le items)
    | closed => exact .inr (.inl (ended.closed isResult))
  · rw [ended.done isResult] at isScript
    simp_all

/-- A cancellation cuts a script off, if the receiver does not go before. -/
theorem follow_cut (waits : Nat)
    (stays : ∀ items, closedAfter = some items → (deliveries (script.take waits)).length < items) :
    (follow script (fresh (some waits) closedAfter)).2.sent = deliveries (script.take waits) ∧
      ¬ (follow script (fresh (some waits) closedAfter)).2.IsClosed := by
  obtain ⟨passed, rest, isScript, ended⟩ := follow_ended script (fresh (some waits) closedAfter)
  have sent : (follow script (fresh (some waits) closedAfter)).2.sent = deliveries passed :=
    ended.sent
  have passes : passed.length ≤ waits := by
    simpa [fresh] using ended.uncancelled waits rfl (Nat.zero_le waits)
  have before : script.take waits = passed ++ rest.take (waits - passed.length) := by
    rw [isScript, take_append, take_of_length_le passes]
  have stays : ∀ items, closedAfter = some items → (deliveries passed).length < items := by
    intro items isItems
    grind [deliveries_append]
  have opens : ¬ (follow script (fresh (some waits) closedAfter)).2.IsClosed := by
    intro closes
    rw [IsClosed, ended.closedAfter, sent] at closes
    exact Nat.lt_irrefl _ (stays _ closes)
  refine ⟨?_, opens⟩
  have nothing : rest.take (waits - passed.length) = [] := by
    rcases isResult : (follow script (fresh (some waits) closedAfter)).1 with interruption | _
    · cases interruption with
      | cancelled =>
        have cancels : waits = 0 + passed.length :=
          Option.some.inj (ended.cancelled isResult)
        simp_all
      | closed => exact absurd (ended.closed isResult) opens
    · rw [ended.done isResult, take_nil]
  rw [sent, before, nothing, append_nil]

end

end Channel

end SprakCapture.Data
