/-!
# Framing of a stream

A stream of symbols carries messages one after the other, and a reader that holds the
beginning of a stream either finds a whole message at its front or has to wait. A `Framing`
is such a reader; its messages do not change when more of the stream arrives. `feed` reads a
stream chunk by chunk, keeping what is left of each, and `feed_eq_parse` says that the chunks
do not matter.
-/

namespace SprakCapture.Data

open List

/-- How the messages of a stream are found. -/
structure Framing (Symbol Message : Type) where
  /-- The message at the front of the symbols, with the number of symbols it takes up. -/
  next : List Symbol → Option (Nat × Message)
  /-- A message takes up some of the symbols that are there. -/
  within : ∀ symbols count message, next symbols = some (count, message) →
    0 < count ∧ count ≤ symbols.length
  /-- A whole message stays the same when more symbols follow. -/
  whole : ∀ symbols found more, next symbols = some found → next (symbols ++ more) = some found

namespace Framing

variable {Symbol Message : Type} (framing : Framing Symbol Message)

/-- Take messages off the front, for at most a number of turns. -/
def parseWithin : Nat → List Symbol → List Message × List Symbol
  | 0, symbols => ([], symbols)
  | turns + 1, symbols =>
    match framing.next symbols with
    | none => ([], symbols)
    | some (count, message) =>
      let rest := parseWithin turns (symbols.drop count)
      (message :: rest.1, rest.2)

/-- The messages at the front of the symbols, and what is left behind them. -/
def parse (symbols : List Symbol) : List Message × List Symbol :=
  framing.parseWithin symbols.length symbols

/-- The messages read from chunks, with what is left of them carried along. -/
def feed : List Symbol → List (List Symbol) → List Message × List Symbol
  | held, [] => ([], held)
  | held, chunk :: chunks =>
    let first := framing.parse (held ++ chunk)
    let rest := feed first.2 chunks
    (first.1 ++ rest.1, rest.2)

/-- The messages of the symbols and what is left, without a bound on their number. -/
inductive Parses : List Symbol → List Message → List Symbol → Prop where
  | waits {symbols : List Symbol} (none : framing.next symbols = none) :
      Parses symbols [] symbols
  | takes {symbols rest : List Symbol} {count : Nat} {message : Message}
      {messages : List Message} (found : framing.next symbols = some (count, message))
      (others : Parses (symbols.drop count) messages rest) :
      Parses symbols (message :: messages) rest

variable {framing}

theorem next_nil : framing.next [] = none := by
  cases result : framing.next [] with
  | none => rfl
  | some found =>
    have within := framing.within [] found.1 found.2 result
    rw [length_nil] at within
    omega

/-- Enough turns find every message. -/
theorem parses_parseWithin {turns : Nat} {symbols : List Symbol} (enough : symbols.length ≤ turns) :
    framing.Parses symbols (framing.parseWithin turns symbols).1
      (framing.parseWithin turns symbols).2 := by
  induction turns generalizing symbols with
  | zero =>
    have empty : symbols = [] := eq_nil_of_length_eq_zero (Nat.le_zero.mp enough)
    subst empty
    exact .waits next_nil
  | succ turns ih =>
    unfold parseWithin
    cases result : framing.next symbols with
    | none => exact .waits result
    | some found =>
      have within := framing.within symbols found.1 found.2 result
      have shorter : (symbols.drop found.1).length ≤ turns := by
        rw [length_drop]
        omega
      exact .takes result (ih shorter)

theorem parses_parse (framing : Framing Symbol Message) (symbols : List Symbol) :
    framing.Parses symbols (framing.parse symbols).1 (framing.parse symbols).2 :=
  parses_parseWithin (Nat.le_refl _)

variable {messages others : List Message}

theorem Parses.unique {symbols rest otherRest : List Symbol}
    (parses : framing.Parses symbols messages rest)
    (other : framing.Parses symbols others otherRest) : messages = others ∧ rest = otherRest := by
  induction parses generalizing others with
  | waits none =>
    cases other with
    | waits _ => exact ⟨rfl, rfl⟩
    | takes found _ => simp [none] at found
  | takes found _ ih =>
    cases other with
    | waits none => simp [none] at found
    | takes otherFound otherRest =>
      rw [found] at otherFound
      cases otherFound
      obtain ⟨rfl, rfl⟩ := ih otherRest
      exact ⟨rfl, rfl⟩

variable {symbols rest : List Symbol}

theorem parse_eq_iff {messages : List Message} :
    framing.parse symbols = (messages, rest) ↔ framing.Parses symbols messages rest := by
  constructor
  · intro result
    have parses := framing.parses_parse symbols
    rwa [result] at parses
  · intro parses
    obtain ⟨sameMessages, sameRest⟩ := (framing.parses_parse symbols).unique parses
    exact Prod.ext sameMessages sameRest

/-- What is left begins with no whole message. -/
theorem Parses.next_rest {messages : List Message} (parses : framing.Parses symbols messages rest) :
    framing.next rest = none := by
  induction parses with
  | waits none => exact none
  | takes _ _ ih => exact ih

/-- More of the stream is read from what is left. -/
theorem Parses.append {symbols rest more last : List Symbol}
    (parses : framing.Parses symbols messages rest)
    (continued : framing.Parses (rest ++ more) others last) :
    framing.Parses (symbols ++ more) (messages ++ others) last := by
  induction parses with
  | waits _ => exact continued
  | @takes symbols _ count message _ found _ ih =>
    have within := framing.within symbols count message found
    refine .takes (framing.whole symbols _ more found) ?_
    rw [drop_append_of_le_length within.2]
    exact ih continued

theorem feed_eq_parse {held : List Symbol} (waits : framing.next held = none)
    (chunks : List (List Symbol)) :
    framing.feed held chunks = framing.parse (held ++ chunks.flatten) := by
  induction chunks generalizing held with
  | nil =>
    rw [flatten_nil, append_nil]
    exact (parse_eq_iff.mpr (.waits waits)).symm
  | cons chunk chunks ih =>
    have first := framing.parses_parse (held ++ chunk)
    have rest := framing.parses_parse ((framing.parse (held ++ chunk)).2 ++ chunks.flatten)
    rw [feed, ih first.next_rest, flatten_cons, ← append_assoc]
    exact (parse_eq_iff.mpr (first.append rest)).symm

end Framing

end SprakCapture.Data
