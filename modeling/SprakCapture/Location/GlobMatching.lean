import SprakCapture.Location.Matcher

/-!
# What the wildcard matcher accepts

The matcher is a loop over two indexes that comes back to one star, and it ends. A star that
stands in front of a star of the candidate takes just this character, so that some candidates
which a pattern describes are not accepted.
-/

namespace SprakCapture.Location

open List

/-! ### The loop -/

/-- The variables of the loop. -/
structure MatchState where
  patternIndex : Nat
  candidateIndex : Nat
  latestStar : Option Nat
  starCandidateIndex : Nat

def MatchState.start : MatchState := ⟨0, 0, none, 0⟩

/-- Come back to the latest star, which takes one more character. -/
def MatchState.backtrack (state : MatchState) : MatchState ⊕ Bool :=
  match state.latestStar with
  | none => .inr false
  | some starIndex =>
    .inl ⟨starIndex + 1, state.starCandidateIndex + 1, some starIndex, state.starCandidateIndex + 1⟩

/-- A round of the loop, or the answer; behind the candidate only stars may be left. -/
def matchRound (pattern candidate : List Char) (state : MatchState) : MatchState ⊕ Bool :=
  match candidate[state.candidateIndex]? with
  | none => .inr (onlyStars (pattern.drop state.patternIndex))
  | some char =>
    match pattern[state.patternIndex]? with
    | none => state.backtrack
    | some expected =>
      if expected = '?' ∨ expected = char then
        .inl { state with
          patternIndex := state.patternIndex + 1
          candidateIndex := state.candidateIndex + 1 }
      else if expected = '*' then
        .inl ⟨state.patternIndex + 1, state.candidateIndex, some state.patternIndex,
          state.candidateIndex⟩
      else state.backtrack

/-- The answer of the loop, if it comes within the given number of rounds. -/
def matchLoop (pattern candidate : List Char) : Nat → MatchState → Option Bool
  | 0, _ => none
  | rounds + 1, state =>
    match matchRound pattern candidate state with
    | .inl next => matchLoop pattern candidate rounds next
    | .inr answer => some answer

/-- The loop ends with an answer. -/
def LoopAnswers (pattern candidate : List Char) (answer : Bool) : Prop :=
  ∃ rounds, matchLoop pattern candidate rounds .start = some answer

/-! ### What patterns describe -/

/-- The candidate is the pattern with a text for each star and a character for each question
mark. The texts of stars are those that `takes` allows in front of what remains. -/
inductive Describes (takes : List Char → List Char → Prop) : List Char → List Char → Prop where
  | done : Describes takes [] []
  | star {pattern text rest : List Char} (taken : takes text (text ++ rest))
      (others : Describes takes pattern rest) : Describes takes ('*' :: pattern) (text ++ rest)
  | question {pattern rest : List Char} (char : Char) (others : Describes takes pattern rest) :
      Describes takes ('?' :: pattern) (char :: rest)
  | same {pattern rest : List Char} {char : Char} (noStar : char ≠ '*') (noQuestion : char ≠ '?')
      (others : Describes takes pattern rest) : Describes takes (char :: pattern) (char :: rest)

/-- A pattern describes a candidate: stars stand for any text. -/
abbrev Glob : List Char → List Char → Prop := Describes fun _ _ => True

/-- A star in front of a star stands for just this character. -/
def TakesStar (text remaining : List Char) : Prop := remaining.head? = some '*' → text = ['*']

/-- A pattern describes a candidate with each star of the candidate that a star of the pattern
meets taken as a character. -/
abbrev StarGlob : List Char → List Char → Prop := Describes TakesStar

variable {expected char : Char}

section Describing

variable {pattern candidate : List Char}

theorem StarGlob.glob (describes : StarGlob pattern candidate) : Glob pattern candidate := by
  induction describes with
  | done => exact .done
  | star _ _ ih => exact .star trivial ih
  | question char _ ih => exact .question char ih
  | same noStar noQuestion _ ih => exact .same noStar noQuestion ih

theorem starGlob_nil : StarGlob pattern [] ↔ onlyStars pattern = true := by
  induction pattern with
  | nil => exact ⟨fun _ => rfl, fun _ => .done⟩
  | cons expected pattern ih =>
    constructor
    · intro describes
      generalize empty : ([] : List Char) = candidate at describes
      cases describes with
      | star _ others =>
        obtain ⟨rfl, rfl⟩ := append_eq_nil_iff.mp empty.symm
        simpa [onlyStars] using ih.mp others
      | question | same => cases empty
    · intro stars
      simp only [onlyStars, all_cons, Bool.and_eq_true, beq_iff_eq] at stars
      obtain ⟨rfl, stars⟩ := stars
      exact @Describes.star _ _ [] [] nofun (ih.mpr stars)

/-- What the first character of a pattern leaves of a suffix is again a suffix. -/
theorem StarGlob.rest {suffix : List Char} (describes : StarGlob (expected :: pattern) suffix)
    (follows : expected = '?' ∨ expected = char) (isSuffix : suffix <:+ char :: candidate) :
    ∃ rest, rest <:+ candidate ∧ StarGlob pattern rest := by
  have shorter : ∀ {first : Char} {rest : List Char}, first :: rest <:+ char :: candidate →
      rest <:+ candidate := by
    intro first rest inside
    rcases suffix_cons_iff.mp inside with same | inside
    · exact (List.cons.inj same).2 ▸ suffix_refl _
    · exact (suffix_cons first rest).trans inside
  cases describes with
  | @star _ text rest taken others =>
    have isStar : '*' = char := follows.resolve_left (by decide)
    rcases suffix_cons_iff.mp isSuffix with whole | inside
    · obtain rfl := taken (by rw [whole, isStar]; rfl)
      exact ⟨rest, (List.cons.inj whole).2 ▸ suffix_refl _, others⟩
    · exact ⟨rest, (suffix_append text rest).trans inside, others⟩
  | question _ others | same _ _ others => exact ⟨_, shorter isSuffix, others⟩

theorem StarGlob.behind_star {text : List Char} (describes : StarGlob ('*' :: pattern) text) :
    ∃ suffix, suffix <:+ text ∧ StarGlob pattern suffix := by
  cases describes with
  | @star _ text rest _ others => exact ⟨rest, suffix_append text rest, others⟩
  | same noStar => exact absurd rfl noStar

theorem starGlob_cons_iff (follows : expected = '?' ∨ expected = char) :
    StarGlob (expected :: pattern) (char :: candidate) ↔ StarGlob pattern candidate := by
  constructor
  · intro describes
    generalize whole : char :: candidate = suffix at describes
    cases describes with
    | @star _ text rest taken others =>
      obtain rfl : '*' = char := follows.resolve_left (by decide)
      obtain rfl := taken (by rw [← whole]; rfl)
      exact (List.cons.inj whole).2 ▸ others
    | question _ others | same _ _ others => exact (List.cons.inj whole).2 ▸ others
  · intro others
    by_cases question : expected = '?'
    · exact question ▸ .question char others
    obtain rfl := follows.resolve_left question
    by_cases star : expected = '*'
    · subst star
      exact Describes.star (fun _ => rfl) others
    · exact .same star question others

/-- A star in front of another character leaves any suffix. -/
theorem starGlob_star_iff {char : Char} (differs : char ≠ '*') :
    StarGlob ('*' :: pattern) (char :: candidate) ↔
      ∃ suffix, suffix <:+ char :: candidate ∧ StarGlob pattern suffix := by
  constructor
  · exact StarGlob.behind_star
  · rintro ⟨suffix, ⟨text, whole⟩, others⟩
    rw [← whole]
    refine .star (fun first => ?_) others
    rw [whole] at first
    exact absurd (Option.some.inj first) differs

theorem not_starGlob_cons (follows : ¬ (expected = '?' ∨ expected = char)) (star : expected ≠ '*') :
    ¬ StarGlob (expected :: pattern) (char :: candidate) := by
  intro describes
  generalize whole : char :: candidate = text at describes
  cases describes with
  | star => exact star rfl
  | question => exact follows (.inl rfl)
  | same => exact follows (.inr (List.cons.inj whole).1.symm)

end Describing

/-! ### The answer of the loop -/

section Loop

variable {pattern candidate : List Char} {state : MatchState}

/-- What the loop may still find: the rest of the pattern from here on, or the part behind the
latest star from a later place on. -/
def MatchState.Open (pattern candidate : List Char) (state : MatchState) : Prop :=
  StarGlob (pattern.drop state.patternIndex) (candidate.drop state.candidateIndex) ∨
    ∃ starIndex ∈ state.latestStar, ∃ suffix,
      suffix <:+ candidate.drop (state.starCandidateIndex + 1) ∧
        StarGlob (pattern.drop (starIndex + 1)) suffix

/-- The indexes stand behind the latest star, and no place behind it is lost. -/
structure MatchState.Ordered (pattern candidate : List Char) (state : MatchState) : Prop where
  star : ∀ starIndex ∈ state.latestStar, starIndex < state.patternIndex ∧ starIndex < pattern.length
  tried : state.starCandidateIndex ≤ state.candidateIndex
  reaches : ∀ starIndex ∈ state.latestStar, ∀ suffix,
    suffix <:+ candidate.drop state.starCandidateIndex →
      StarGlob (pattern.drop (starIndex + 1)) suffix →
        ∃ rest, rest <:+ candidate.drop state.candidateIndex ∧
          StarGlob (pattern.drop state.patternIndex) rest

/-- The rounds that are left: before the next star, at the latest one, and behind it. -/
def MatchState.left (pattern candidate : List Char) (state : MatchState) : Nat × Nat × Nat :=
  (pattern.length + 1 - (state.latestStar.map (· + 1)).getD 0,
    candidate.length - state.starCandidateIndex, candidate.length - state.candidateIndex)

/-- What a round does. -/
def RoundKeeps (pattern candidate : List Char) (state : MatchState) : MatchState ⊕ Bool → Prop
  | .inl next => (next.Open pattern candidate ↔ state.Open pattern candidate) ∧
      next.Ordered pattern candidate ∧
      Prod.Lex (· < ·) (Prod.Lex (· < ·) (· < ·)) (next.left pattern candidate)
        (state.left pattern candidate)
  | .inr answer => answer = true ↔ state.Open pattern candidate

/-- A place, and those behind it. -/
theorem starGlob_drop_iff {rest : List Char} (start : Nat) :
    (StarGlob rest (candidate.drop start) ∨
        ∃ suffix, suffix <:+ candidate.drop (start + 1) ∧ StarGlob rest suffix) ↔
      ∃ suffix, suffix <:+ candidate.drop start ∧ StarGlob rest suffix := by
  have split : ∀ suffix, suffix <:+ candidate.drop start ↔
      suffix = candidate.drop start ∨ suffix <:+ candidate.drop (start + 1) := by
    rw [← drop_drop]
    cases candidate.drop start with
    | nil => simp
    | cons char rest => simp [suffix_cons_iff]
  simp [split]

/-- What the latest star may still find is not lost at the indexes. -/
theorem MatchState.Ordered.retried (ordered : state.Ordered pattern candidate)
    (found : ∃ starIndex ∈ state.latestStar, ∃ suffix,
      suffix <:+ candidate.drop (state.starCandidateIndex + 1) ∧
        StarGlob (pattern.drop (starIndex + 1)) suffix) :
    ∃ rest, rest <:+ candidate.drop state.candidateIndex ∧
      StarGlob (pattern.drop state.patternIndex) rest := by
  obtain ⟨starIndex, latest, suffix, later, describes⟩ := found
  rw [← drop_drop] at later
  exact ordered.reaches starIndex latest suffix (later.trans (drop_suffix 1 _)) describes

theorem roundKeeps_backtrack (ordered : state.Ordered pattern candidate)
    (inside : state.candidateIndex < candidate.length)
    (missed : ¬ StarGlob (pattern.drop state.patternIndex) (candidate.drop state.candidateIndex)) :
    RoundKeeps pattern candidate state state.backtrack := by
  obtain ⟨patternIndex, candidateIndex, latestStar, starCandidateIndex⟩ := state
  cases latestStar with
  | none => simp [RoundKeeps, MatchState.backtrack, MatchState.Open, missed]
  | some starIndex =>
    have within := ordered.tried
    dsimp only at within inside missed
    refine ⟨?_, ⟨fun _ same => ?_, Nat.le_refl _, fun _ same suffix inside describes => ?_⟩, ?_⟩
    · have places := @starGlob_drop_iff candidate (pattern.drop (starIndex + 1))
        (starCandidateIndex + 1)
      simpa [MatchState.Open, missed] using places
    · cases same
      exact ⟨Nat.lt_succ_self _, (ordered.star starIndex rfl).2⟩
    · cases same
      exact ⟨suffix, inside, describes⟩
    · refine .right _ (.left _ _ ?_)
      dsimp only
      omega

/-- A round keeps what may still be found, and comes closer to the answer. -/
theorem roundKeeps (ordered : state.Ordered pattern candidate) :
    RoundKeeps pattern candidate state (matchRound pattern candidate state) := by
  have within := ordered.tried
  rw [matchRound]
  split
  · next ended =>
    rw [List.getElem?_eq_none_iff] at ended
    have nothing : candidate.drop state.candidateIndex = [] := drop_eq_nil_of_le ended
    refine starGlob_nil.symm.trans ⟨fun describes => .inl (nothing ▸ describes), ?_⟩
    rintro (here | later)
    · exact nothing ▸ here
    · obtain ⟨rest, isRest, others⟩ := ordered.retried later
      rw [nothing, suffix_nil] at isRest
      exact isRest ▸ others
  · next char found =>
    obtain ⟨inside, isChar⟩ := List.getElem?_eq_some_iff.mp found
    have remains := drop_eq_getElem_cons inside
    rw [isChar] at remains
    split
    · next ended =>
      rw [List.getElem?_eq_none_iff] at ended
      refine roundKeeps_backtrack ordered inside ?_
      rw [drop_eq_nil_of_le ended, remains]
      exact nofun
    · next expected isNext =>
      obtain ⟨stands, isExpected⟩ := List.getElem?_eq_some_iff.mp isNext
      have expects := drop_eq_getElem_cons stands
      rw [isExpected] at expects
      split
      · next follows =>
        refine ⟨?_, ⟨fun starIndex latest => ?_, within.trans (Nat.le_succ _), ?_⟩, ?_⟩
        · rw [MatchState.Open, MatchState.Open, expects, remains, starGlob_cons_iff follows]
        · exact ⟨(ordered.star starIndex latest).1.trans (Nat.lt_succ_self _),
            (ordered.star starIndex latest).2⟩
        · intro starIndex latest suffix isSuffix describes
          obtain ⟨rest, isRest, others⟩ :=
            ordered.reaches starIndex latest suffix isSuffix describes
          rw [expects] at others
          rw [remains] at isRest
          exact others.rest follows isRest
        · exact .right _ (.right _ (by dsimp only; omega))
      · next differs =>
        split
        · next star =>
          subst star
          refine ⟨?_, ⟨fun starIndex latest => ?_, Nat.le_refl _, ?_⟩, .left _ _ ?_⟩
          · have here := @starGlob_star_iff (pattern.drop (state.patternIndex + 1))
              (candidate.drop (state.candidateIndex + 1)) _ fun same => differs (.inr same.symm)
            rw [← remains, ← expects] at here
            have next := @starGlob_drop_iff candidate (pattern.drop (state.patternIndex + 1))
              state.candidateIndex
            refine Iff.trans (by simpa [MatchState.Open] using next) (here.symm.trans ⟨.inl, ?_⟩)
            rintro (same | later)
            · exact same
            · obtain ⟨rest, isRest, others⟩ := ordered.retried later
              rw [expects] at others
              obtain ⟨suffix, isSuffix, behind⟩ := others.behind_star
              exact here.mpr ⟨suffix, isSuffix.trans isRest, behind⟩
          · cases latest
            exact ⟨Nat.lt_succ_self _, stands⟩
          · rintro _ ⟨⟩ suffix isSuffix describes
            exact ⟨suffix, isSuffix, describes⟩
          · cases latest : state.latestStar with
            | none =>
              exact Nat.sub_lt_sub_left (Nat.lt_succ_of_lt (Nat.zero_lt_of_lt stands))
                (Nat.succ_pos _)
            | some starIndex =>
              have before := (ordered.star starIndex latest).1
              simp only [Option.map_some, Option.getD_some]
              omega
        · next noStar =>
          refine roundKeeps_backtrack ordered inside ?_
          rw [expects, remains]
          exact not_starGlob_cons differs noStar

/-- An answer of the loop says whether its state is open. -/
theorem open_of_matchLoop {rounds : Nat} {answer : Bool} (ordered : state.Ordered pattern candidate)
    (answers : matchLoop pattern candidate rounds state = some answer) :
    answer = true ↔ state.Open pattern candidate := by
  induction rounds generalizing state with
  | zero => cases answers
  | succ rounds ih =>
    have keeps := roundKeeps ordered
    rw [matchLoop] at answers
    cases isRound : matchRound pattern candidate state with
    | inl next =>
      rw [isRound] at keeps answers
      exact (ih keeps.2.1 answers).trans keeps.1
    | inr given =>
      rw [isRound] at keeps answers
      exact Option.some.inj answers ▸ keeps

theorem exists_answer (state : MatchState) (ordered : state.Ordered pattern candidate) :
    ∃ rounds answer, matchLoop pattern candidate rounds state = some answer := by
  have keeps := roundKeeps ordered
  cases isRound : matchRound pattern candidate state with
  | inl next =>
    rw [isRound] at keeps
    obtain ⟨-, nextOrdered, closer⟩ := keeps
    obtain ⟨rounds, answer, ends⟩ := exists_answer next nextOrdered
    exact ⟨rounds + 1, answer, by rw [matchLoop, isRound]; exact ends⟩
  | inr answer => exact ⟨1, answer, by rw [matchLoop, isRound]⟩
termination_by state.left pattern candidate
decreasing_by exact closer

theorem ordered_start : MatchState.start.Ordered pattern candidate :=
  ⟨nofun, Nat.le_refl 0, nofun⟩

/-- The loop answers whether the pattern describes the candidate in this way. -/
theorem loopAnswers_iff {answer : Bool} (answers : LoopAnswers pattern candidate answer) :
    answer = true ↔ StarGlob pattern candidate := by
  obtain ⟨rounds, answers⟩ := answers
  simpa [MatchState.Open, MatchState.start] using open_of_matchLoop ordered_start answers

end Loop

/-! ### When a match is exact -/

/-- The loop ends, and with the answer whether the pattern describes the candidate. -/
def MatchesExactly (pattern candidate : List Char) : Prop :=
  ∃ answer, LoopAnswers pattern candidate answer ∧ (answer = true ↔ Glob pattern candidate)

/-- The matcher is exact unless a pattern describes the candidate only when a star stands for
more, or less, than a star of the candidate that it meets. -/
theorem matchesExactly_iff (pattern candidate : List Char) :
    MatchesExactly pattern candidate ↔ (Glob pattern candidate → StarGlob pattern candidate) := by
  constructor
  · rintro ⟨answer, answers, exactly⟩ describes
    exact (loopAnswers_iff answers).mp (exactly.mpr describes)
  · intro agrees
    obtain ⟨rounds, answer, ends⟩ := exists_answer .start ordered_start
    exact ⟨answer, ⟨rounds, ends⟩, (loopAnswers_iff ⟨rounds, ends⟩).trans ⟨StarGlob.glob, agrees⟩⟩

/-- A star in the path keeps a pattern that ends with a star from matching. -/
theorem not_matchesExactly_star : ¬ MatchesExactly ['/', '*'] ['/', '*', 'a'] := by
  rintro ⟨answer, answers, exactly⟩
  have describes : Glob ['/', '*'] ['/', '*', 'a'] :=
    .same (by decide) (by decide) (@Describes.star _ _ ['*', 'a'] [] trivial .done)
  have accepts := (loopAnswers_iff answers).mp (exactly.mpr describes)
  have refuses := loopAnswers_iff (⟨3, rfl⟩ : LoopAnswers ['/', '*'] ['/', '*', 'a'] false)
  exact absurd (refuses.mpr accepts) Bool.false_ne_true

end SprakCapture.Location
