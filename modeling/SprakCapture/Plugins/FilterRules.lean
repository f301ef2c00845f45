import SprakCapture.Plugins.PacketFilters

/-!
# What the packet filters do

The rules of a compiled configuration find the leftmost matches of their patterns and rewrite
them as `Data.Rewritten` says. No index of the scan or of the edit leaves the block, and no
rule makes a block longer.
-/

namespace SprakCapture.Plugins

open Data List CompiledBytePattern
open Outcome (ok_bind)

/-! ### The scan -/

theorem all_zip_iff_fits {pattern : List (Option UInt8)} {window : Bytes}
    (length : window.length = pattern.length) :
    ((pattern.zip window).all fun pair => pair.1.all (· == pair.2)) = true ↔
      Fits pattern window := by
  induction pattern generalizing window with
  | nil =>
    rw [eq_nil_of_length_eq_zero length]
    exact iff_of_true rfl .nil
  | cons expected pattern =>
    cases window with
    | nil => cases length
    | cons actual window =>
      have head : (expected.all (· == actual)) = true ↔
          (expected = none ∨ expected = some actual) := by
        cases expected with
        | none | some => simp
      grind [fits_cons]

/-- The leftmost matches behind a start, one of them or all that do not overlap. -/
inductive Leftmost (pattern : List (Option UInt8)) (bytes : Bytes) (every : Bool) :
    Nat → List Nat → Prop where
  | unmatched {start : Nat} (none : ∀ offset, start ≤ offset → ¬OccursAt pattern bytes offset) :
      Leftmost pattern bytes every start []
  | first {start offset : Nat} (single : every = false) (ordered : start ≤ offset)
      (occurs : OccursAt pattern bytes offset)
      (leftmost : ∀ earlier, start ≤ earlier → earlier < offset → ¬OccursAt pattern bytes earlier) :
      Leftmost pattern bytes every start [offset]
  | next {start offset : Nat} {offsets : List Nat} (all : every = true) (ordered : start ≤ offset)
      (occurs : OccursAt pattern bytes offset)
      (leftmost : ∀ earlier, start ≤ earlier → earlier < offset → ¬OccursAt pattern bytes earlier)
      (others : Leftmost pattern bytes every (offset + pattern.length) offsets) :
      Leftmost pattern bytes every start (offset :: offsets)

variable {offsets : List Nat}

section Scan

variable {pattern : List (Option UInt8)} {bytes : Bytes} {every : Bool}

/-- A start without a match at it can be left out. -/
theorem Leftmost.of_succ {start : Nat} (leftmost : Leftmost pattern bytes every (start + 1) offsets)
    (none : ¬OccursAt pattern bytes start) : Leftmost pattern bytes every start offsets := by
  have extend : ∀ offset, start ≤ offset → start + 1 ≤ offset ∨ offset = start := by
    omega
  cases leftmost with
  | unmatched others =>
    refine .unmatched fun offset ordered => ?_
    rcases extend offset ordered with later | rfl
    · exact others offset later
    · exact none
  | first single ordered occurs earlier =>
    refine .first single (by omega) occurs fun offset lower upper => ?_
    rcases extend offset lower with later | rfl
    · exact earlier offset later upper
    · exact none
  | next all ordered occurs earlier others =>
    refine .next all (by omega) occurs (fun offset lower upper => ?_) others
    rcases extend offset lower with later | rfl
    · exact earlier offset later upper
    · exact none

/-- The scan finds the leftmost matches. -/
theorem findFrom_leftmost (nonempty : pattern ≠ []) {turns start : Nat}
    (inside : start ≤ bytes.length) (enough : bytes.length < start + turns) :
    ∃ offsets, findFrom ⟨pattern⟩ bytes every turns start = .ok offsets ∧
      Leftmost pattern bytes every start offsets := by
  have positive := length_pos_iff.mpr nonempty
  induction turns generalizing start with
  | zero => omega
  | succ turns ih =>
    rw [findFrom]
    by_cases fits : start + pattern.length ≤ bytes.length
    · have window : slice bytes start (start + pattern.length) =
          (.ok ((bytes.drop start).take pattern.length) : Outcome Empty Bytes) :=
        slice_eq_ok.mpr ⟨by omega, fits, by rw [Nat.add_sub_cancel_left]⟩
      have length : ((bytes.drop start).take pattern.length).length = pattern.length := by
        rw [length_take, length_drop]
        omega
      simp only [if_pos fits, window, ok_bind]
      by_cases occurs : OccursAt pattern bytes start
      · rw [if_pos ((all_zip_iff_fits length).mpr occurs)]
        have earliest : ∀ earlier, start ≤ earlier → earlier < start →
            ¬OccursAt pattern bytes earlier := by
          omega
        cases every with
        | false => exact ⟨[start], rfl, .first rfl (Nat.le_refl _) occurs earliest⟩
        | true =>
          obtain ⟨offsets, found, leftmost⟩ :=
            @ih _ fits (by omega)
          refine ⟨start :: offsets, ?_, .next rfl (Nat.le_refl _) occurs earliest leftmost⟩
          rw [found]
          rfl
      · rw [if_neg fun matched => occurs ((all_zip_iff_fits length).mp matched)]
        obtain ⟨offsets, found, leftmost⟩ :=
          @ih (start + 1) (by omega) (by omega)
        exact ⟨offsets, found, leftmost.of_succ occurs⟩
    · rw [if_neg fits]
      refine ⟨[], rfl, .unmatched fun _ _ occurs => ?_⟩
      have within := occurs.within nonempty
      omega

theorem findOffsets_leftmost (nonempty : pattern ≠ []) :
    ∃ offsets, findOffsets ⟨pattern⟩ bytes every = .ok offsets ∧
      Leftmost pattern bytes every 0 offsets := by
  unfold findOffsets
  split
  · rename_i short
    refine ⟨[], rfl, .unmatched fun _ _ occurs => ?_⟩
    have within := occurs.within nonempty
    simp only at short
    omega
  · exact findFrom_leftmost nonempty (Nat.zero_le _) (by omega)

end Scan

/-! ### The edit -/

/-- The places of a replacement are read within the block. -/
theorem replacementAt_eq_ok {bytes : Bytes} {offset : Nat} {places : List (Option UInt8)}
    (inside : offset + places.length ≤ bytes.length) :
    replacementAt bytes offset places = .ok (fill places (bytes.drop offset)) := by
  induction places generalizing offset with
  | nil => rfl
  | cons _ places ih =>
    rw [length_cons] at inside
    have here : offset < bytes.length := by omega
    have original : byteAt bytes offset = (.ok bytes[offset] : Outcome Empty UInt8) :=
      byteAt_eq_ok.mpr (getElem?_eq_getElem here)
    rw [replacementAt, original, ih (by omega), drop_eq_getElem_cons here]
    rfl

/-- A replacement takes no more symbols of a segment than it has places. -/
theorem fill_take {replacement : List (Option UInt8)} {segment : Bytes} {count : Nat}
    (short : replacement.length ≤ count) :
    fill replacement (segment.take count) = fill replacement segment := by
  induction replacement generalizing segment count with
  | nil => rfl
  | cons _ _ ih =>
    cases segment with
    | nil => rw [take_nil]
    | cons _ segment =>
      rw [length_cons] at short
      obtain ⟨count, rfl⟩ : ∃ fewer, count = fewer + 1 := ⟨count - 1, by omega⟩
      rw [fill, fill, zipWith_cons_cons]
      exact congrArg _ (ih (by omega))

section Edit

variable {pattern replacement : List (Option UInt8)} {bytes : Bytes} {every : Bool}
  {start offset : Nat}

/-- A block behind a start is the gap before a match, the match and the rest. -/
theorem drop_eq_gap_match (bytes : Bytes) (count : Nat) (ordered : start ≤ offset) :
    bytes.drop start = (bytes.drop start).take (offset - start) ++
      (bytes.drop offset).take count ++ bytes.drop (offset + count) := by
  have behind : bytes.drop offset = (bytes.drop start).drop (offset - start) := by
    rw [drop_drop, Nat.add_sub_cancel' ordered]
  have rest : bytes.drop (offset + count) = (bytes.drop offset).drop count := by
    rw [drop_drop]
  rw [rest, append_assoc, take_append_drop, behind, take_append_drop]

theorem leftmost_drop
    (leftmost : ∀ earlier, start ≤ earlier → earlier < offset → ¬OccursAt pattern bytes earlier) :
    ∀ earlier < ((bytes.drop start).take (offset - start)).length,
      ¬OccursAt pattern (bytes.drop start) earlier := by
  intro earlier inGap occurs
  rw [length_take] at inGap
  exact leftmost (start + earlier) (by omega) (by omega) (occursAt_drop.mp occurs)

/-- The edit rewrites the leftmost matches, and what it removes is in the block. -/
theorem rebuildFrom_rewritten (nonempty : pattern ≠ [])
    (short : replacement.length ≤ pattern.length) {start : Nat} (inside : start ≤ bytes.length)
    (leftmost : Leftmost pattern bytes every start offsets) :
    start + pattern.length * offsets.length ≤ bytes.length ∧
      ∃ output, rebuildFrom bytes pattern.length replacement start offsets = .ok output ∧
        Rewritten pattern replacement every (bytes.drop start) output := by
  have tail : ∀ offset ≤ bytes.length,
      slice bytes offset bytes.length = (.ok (bytes.drop offset) : Outcome Empty Bytes) := by
    intro offset bounded
    refine slice_eq_ok.mpr ⟨bounded, Nat.le_refl _, ?_⟩
    rw [← length_drop, take_length]
  have gap : ∀ start offset, start ≤ offset → offset ≤ bytes.length →
      slice bytes start offset =
        (.ok ((bytes.drop start).take (offset - start)) : Outcome Empty Bytes) :=
    fun start offset ordered bounded => slice_eq_ok.mpr ⟨ordered, bounded, rfl⟩
  have inserted : ∀ offset, offset + pattern.length ≤ bytes.length →
      replacementAt bytes offset replacement =
        .ok (fill replacement ((bytes.drop offset).take pattern.length)) := by
    intro offset bounded
    rw [replacementAt_eq_ok (by omega), fill_take short]
  induction leftmost with
  | @unmatched start none =>
    refine ⟨by simpa using inside, bytes.drop start, tail start inside, .unmatched ?_⟩
    intro offset occurs
    exact none (start + offset) (Nat.le_add_right _ _) (occursAt_drop.mp occurs)
  | @first start offset single ordered occurs earlier =>
    have within := occurs.within nonempty
    have split := drop_eq_gap_match bytes pattern.length ordered
    have rewritten : Rewritten pattern replacement false _
        ((bytes.drop start).take (offset - start) ++
          fill replacement ((bytes.drop offset).take pattern.length) ++
          bytes.drop (offset + pattern.length)) :=
      .first occurs (by rw [← split]; exact leftmost_drop earlier)
    rw [← split, ← single] at rewritten
    refine ⟨by simp only [length_singleton]; omega, _, ?_, rewritten⟩
    rw [rebuildFrom, gap start offset ordered (by omega), inserted offset within, rebuildFrom, tail _ within]
    rfl
  | @next start offset offsets all ordered occurs earlier _ ih =>
    have within := occurs.within nonempty
    obtain ⟨_, output, rebuilt, rewritten⟩ := ih within
    have split := drop_eq_gap_match bytes pattern.length ordered
    rw [all] at rewritten
    have continued : Rewritten pattern replacement true _
        ((bytes.drop start).take (offset - start) ++
          fill replacement ((bytes.drop offset).take pattern.length) ++ output) :=
      .every occurs (by rw [← split]; exact leftmost_drop earlier) rewritten
    rw [← split, ← all] at continued
    refine ⟨?_, _, ?_, continued⟩
    · rw [length_cons, Nat.mul_succ]
      omega
    · rw [rebuildFrom, gap start offset ordered (by omega), inserted offset within, rebuilt]
      rfl

end Edit

/-! ### Rules in their order -/

/-- A rule fires: its conditions on the connection hold and its pattern, if it has one,
occurs in the block. -/
def CompiledRule.Fires (rule : CompiledRule) (metadata : ConnectionMetadata)
    (direction : StreamDirection) (bytes : Bytes) : Prop :=
  rule.matchesMetadata metadata direction bytes.length = true ∧
    ∀ pattern, rule.pattern = some pattern → ∃ offset, OccursAt pattern.bytes bytes offset

/-- The rule rewrites its matches in a block. -/
def CompiledRule.Rewrites (rule : CompiledRule) (bytes output : Bytes) : Prop :=
  ∃ pattern replacement, rule.pattern = some pattern ∧ rule.replacement = some replacement ∧
    Rewritten pattern.bytes replacement.bytes rule.replaceAll bytes output

/-- What ordered rules make of a block: each sees what the ones before made of it, until one
that fires drops the block, closes the connection or does not let the others follow. -/
inductive Applies (metadata : ConnectionMetadata) (direction : StreamDirection) :
    List CompiledRule → Bytes → PacketFilterResult → Prop where
  | done {bytes : Bytes} : Applies metadata direction [] bytes (.forward bytes)
  | passes {rule : CompiledRule} {rules : List CompiledRule} {bytes : Bytes}
      {result : PacketFilterResult} (silent : ¬rule.Fires metadata direction bytes)
      (others : Applies metadata direction rules bytes result) :
      Applies metadata direction (rule :: rules) bytes result
  | drops {rule : CompiledRule} {rules : List CompiledRule} {bytes : Bytes}
      (fires : rule.Fires metadata direction bytes) (action : rule.action = .drop) :
      Applies metadata direction (rule :: rules) bytes .drop
  | closes {rule : CompiledRule} {rules : List CompiledRule} {bytes : Bytes}
      (fires : rule.Fires metadata direction bytes) (action : rule.action = .close) :
      Applies metadata direction (rule :: rules) bytes .close
  | modifies {rule : CompiledRule} {rules : List CompiledRule} {bytes output : Bytes}
      {result : PacketFilterResult} (fires : rule.Fires metadata direction bytes)
      (action : rule.action = .modify) (rewrites : rule.Rewrites bytes output)
      (continues : rule.continueMatching = true)
      (others : Applies metadata direction rules output result) :
      Applies metadata direction (rule :: rules) bytes result
  | ends {rule : CompiledRule} {rules : List CompiledRule} {bytes output : Bytes}
      (fires : rule.Fires metadata direction bytes) (action : rule.action = .modify)
      (rewrites : rule.Rewrites bytes output) (stops : rule.continueMatching = false) :
      Applies metadata direction (rule :: rules) bytes (.forward output)

/-- What compilation guarantees of a rule: patterns are not empty, and a rule that modifies
has a pattern at least as long as its replacement. -/
structure CompiledRule.WellFormed (rule : CompiledRule) : Prop where
  nonempty : ∀ pattern, rule.pattern = some pattern → pattern.bytes ≠ []
  modifies : rule.action = .modify → ∃ pattern replacement, rule.pattern = some pattern ∧
    rule.replacement = some replacement ∧ replacement.bytes.length ≤ pattern.bytes.length

variable {rules : List CompiledRule}

section Rules

variable {metadata : ConnectionMetadata} {direction : StreamDirection}

variable {rule : CompiledRule}

theorem CompiledRule.Rewrites.unique {bytes output other : Bytes}
    (rewrites : rule.Rewrites bytes output) (others : rule.Rewrites bytes other) :
    output = other := by
  obtain ⟨_, _, hasPattern, hasReplacement, rewritten⟩ := rewrites
  obtain ⟨_, _, samePattern, sameReplacement, otherRewritten⟩ := others
  rw [hasPattern] at samePattern
  rw [hasReplacement] at sameReplacement
  cases samePattern
  cases sameReplacement
  exact rewritten.unique otherRewritten

variable {bytes : Bytes}

theorem Leftmost.nonempty_iff {pattern : List (Option UInt8)} {every : Bool}
    (leftmost : Leftmost pattern bytes every 0 offsets) :
    offsets ≠ [] ↔ ∃ offset, OccursAt pattern bytes offset := by
  cases leftmost with
  | unmatched =>
    simp_all
  | first _ _ occurs | next _ _ occurs => exact iff_of_true (cons_ne_nil _ _) ⟨_, occurs⟩

/-- A rule finds offsets exactly if it fires. -/
theorem matchingOffsets_cases (wellFormed : rule.WellFormed) (bytes : Bytes) :
    (¬rule.Fires metadata direction bytes ∧
        rule.matchingOffsets metadata direction bytes = .ok none) ∨
      (rule.Fires metadata direction bytes ∧
        ∃ offsets, rule.matchingOffsets metadata direction bytes = .ok (some offsets) ∧
          ∀ pattern, rule.pattern = some pattern →
            Leftmost pattern.bytes bytes rule.replaceAll 0 offsets) := by
  unfold CompiledRule.matchingOffsets CompiledRule.Fires
  by_cases conditions : rule.matchesMetadata metadata direction bytes.length = true
  · rw [conditions]
    cases hasPattern : rule.pattern with
    | none =>
      refine .inr ⟨⟨rfl, nofun⟩, [0], rfl, ?_⟩
      exact nofun
    | some pattern =>
      obtain ⟨offsets, found, leftmost⟩ := @findOffsets_leftmost _ bytes rule.replaceAll
        (wellFormed.nonempty pattern hasPattern)
      simp only [found, ok_bind]
      by_cases empty : offsets = []
      · refine .inl ⟨fun fires => ?_, by simp [empty]; rfl⟩
        exact leftmost.nonempty_iff.mpr (fires.2 pattern rfl) empty
      refine .inr ⟨⟨trivial, ?_⟩, offsets, by simp [empty]; rfl, ?_⟩
      · rintro _ same
        cases same
        exact leftmost.nonempty_iff.mp empty
      simp_all
  · have fails : rule.matchesMetadata metadata direction bytes.length = false := by
      simpa using conditions
    refine .inl ⟨fun fires => conditions fires.1, ?_⟩
    rw [fails]
    rfl

/-- A rule that modifies rewrites its matches, within the block. -/
theorem applyReplacement_rewrites (wellFormed : rule.WellFormed) (modifies : rule.action = .modify)
    (found : ∀ pattern, rule.pattern = some pattern →
      Leftmost pattern.bytes bytes rule.replaceAll 0 offsets) :
    ∃ output, rule.applyReplacement bytes offsets = .ok output ∧ rule.Rewrites bytes output ∧
      output.length ≤ bytes.length := by
  obtain ⟨pattern, replacement, hasPattern, hasReplacement, short⟩ := wellFormed.modifies modifies
  obtain ⟨removed, output, rebuilt, rewritten⟩ := rebuildFrom_rewritten
    (wellFormed.nonempty pattern hasPattern) short (Nat.zero_le _) (found pattern hasPattern)
  rw [Nat.zero_add] at removed
  refine ⟨output, ?_, ⟨pattern, replacement, hasPattern, hasReplacement, rewritten⟩,
    rewritten.length_le short⟩
  simp [CompiledRule.applyReplacement, hasPattern, hasReplacement, Outcome.checkedSub_of_le removed, rebuilt]

theorem processRules_applies (wellFormed : ∀ rule ∈ rules, rule.WellFormed) (bytes : Bytes) :
    ∃ result, processRules metadata direction rules bytes = .ok result ∧
      Applies metadata direction rules bytes result ∧
      ∀ output, result = .forward output → output.length ≤ bytes.length := by
  induction rules generalizing bytes with
  | nil =>
    refine ⟨.forward bytes, rfl, .done, ?_⟩
    rintro output ⟨⟩
    exact Nat.le_refl _
  | cons rule rules ih =>
    have wellFormedRule := wellFormed rule mem_cons_self
    have applies := ih fun other member =>
      wellFormed other (mem_cons_of_mem _ member)
    rw [processRules]
    rcases matchingOffsets_cases wellFormedRule bytes with
      ⟨silent, none⟩ | ⟨fires, _, found, leftmost⟩
    · obtain ⟨result, processed, others, shorter⟩ := applies bytes
      rw [none]
      exact ⟨result, processed, .passes silent others, shorter⟩
    rw [found]
    cases action : rule.action with
    | drop => exact ⟨.drop, rfl, .drops fires action, nofun⟩
    | close => exact ⟨.close, rfl, .closes fires action, nofun⟩
    | modify =>
      obtain ⟨output, replaced, rewrites, notLonger⟩ :=
        applyReplacement_rewrites wellFormedRule action leftmost
      simp only [replaced, ok_bind]
      cases continues : rule.continueMatching with
      | true =>
        obtain ⟨result, processed, others, shorter⟩ := applies output
        refine ⟨result, processed, .modifies fires action rewrites continues others, ?_⟩
        grind
      | false =>
        refine ⟨.forward output, rfl, .ends fires action rewrites continues, ?_⟩
        rintro _ ⟨⟩
        exact notLonger

/-- The rules and the block determine the result. -/
theorem Applies.unique {result other : PacketFilterResult}
    (applies : Applies metadata direction rules bytes result)
    (others : Applies metadata direction rules bytes other) : result = other := by
  induction applies generalizing other with
  | done =>
    cases others
    rfl
  | passes silent _ ih =>
    cases others with
    | passes _ rest => exact ih rest
    | drops fires _ | closes fires _ | modifies fires _ _ _ _ | ends fires _ _ _ =>
      exact absurd fires silent
  | drops fires action =>
    cases others with
    | passes silent _ => exact absurd fires silent
    | drops _ _ => rfl
    | closes _ otherAction | modifies _ otherAction _ _ _ | ends _ otherAction _ _ =>
      simp [action] at otherAction
  | closes fires action =>
    cases others with
    | passes silent _ => exact absurd fires silent
    | drops _ otherAction | modifies _ otherAction _ _ _ | ends _ otherAction _ _ =>
      simp [action] at otherAction
    | closes _ _ => rfl
  | modifies fires action rewrites continues _ ih =>
    cases others with
    | passes silent _ => exact absurd fires silent
    | drops _ otherAction | closes _ otherAction => simp [action] at otherAction
    | modifies _ _ otherRewrites _ rest =>
      cases rewrites.unique otherRewrites
      exact ih rest
    | ends _ _ _ stops => simp [continues] at stops
  | ends fires action rewrites stops =>
    cases others with
    | passes silent _ => exact absurd fires silent
    | drops _ otherAction | closes _ otherAction => simp [action] at otherAction
    | modifies _ _ _ continues _ => simp [stops] at continues
    | ends _ _ otherRewrites _ => rw [rewrites.unique otherRewrites]

end Rules

/-! ### Compiled configurations -/

/-- A compiled rule carries what its source says: the pattern of a rule that modifies is
extended with wildcards to the length of its replacement. -/
structure CompiledRule.Carries (rule : CompiledRule) (source : PacketFilterRule) : Prop where
  host : rule.host = normalizeHost source.host.toList
  conditions : rule.transport = source.transport ∧ rule.direction = source.direction ∧
    rule.port = source.port ∧ rule.minimumLength = source.minimumLength ∧
    rule.maximumLength = source.maximumLength
  effects : rule.action = source.action ∧ rule.replaceAll = source.replaceAll ∧
    rule.continueMatching = source.continueMatching
  searches : source.action ≠ .modify → ∃ pattern,
    parseBytePattern source.pattern.toList true = .ok pattern ∧
      rule.pattern = pattern.map CompiledBytePattern.mk ∧ rule.replacement = none
  rewrites : source.action = .modify → ∃ pattern replacement,
    parseBytePattern source.pattern.toList true = .ok (some pattern) ∧
      parseBytePattern source.replacement.toList true = .ok (some replacement) ∧
      rule.pattern = some ⟨resizePattern pattern replacement.length⟩ ∧
      rule.replacement = some ⟨replacement⟩

theorem parseBytePattern_nonempty {value : List Char} {allowWildcard : Bool}
    {bytes : List (Option UInt8)}
    (parsed : parseBytePattern value allowWildcard = .ok (some bytes)) : bytes ≠ [] := by
  unfold parseBytePattern at parsed
  simp only at parsed
  split at parsed
  · cases parsed
  cases tokens : Text.splitAsciiWhitespace (Text.trim value) with
  | nil => simp [tokens] at parsed
  | cons token others =>
    rw [tokens] at parsed
    split at parsed
    · cases parsed
    split at parsed
    · rename_i collected
      cases parsed
      rintro rfl
      cases first : parseByteToken allowWildcard token with
      | none => simp [first] at collected
      | some =>
        cases rest : others.mapM (parseByteToken allowWildcard) with
        | none => simp [rest] at collected
        | some => simp [first, rest] at collected
    · cases parsed

/-- What the patterns of an accepted rule are. -/
theorem compileBytePatterns_cases {rule : PacketFilterRule}
    {patterns : Option CompiledBytePattern × Option CompiledBytePattern}
    (compiled : compileBytePatterns rule = .ok patterns) :
    (rule.action ≠ .modify ∧ ∃ pattern, parseBytePattern rule.pattern.toList true = .ok pattern ∧
        patterns = (pattern.map CompiledBytePattern.mk, none)) ∨
      (rule.action = .modify ∧ ∃ pattern replacement,
        parseBytePattern rule.pattern.toList true = .ok (some pattern) ∧
        parseBytePattern rule.replacement.toList true = .ok (some replacement) ∧
        patterns = (some ⟨resizePattern pattern replacement.length⟩, some ⟨replacement⟩)) := by
  unfold compileBytePatterns parsePattern at compiled
  cases parsed : parseBytePattern rule.pattern.toList true with
  | error nothing =>
    rw [parsed] at compiled
    cases compiled
  | ok pattern =>
    rw [parsed] at compiled
    simp only [bind, Except.bind] at compiled
    by_cases action : rule.action = .modify
    · rw [if_neg (not_not_intro action)] at compiled
      cases pattern with
      | none => cases compiled
      | some =>
        cases replaced : parseBytePattern rule.replacement.toList true with
        | error nothing =>
          rw [replaced] at compiled
          cases compiled
        | ok replacement =>
          rw [replaced] at compiled
          cases replacement with
          | none => cases compiled
          | some =>
            grind [resizePattern]
    grind

variable {source : PacketFilterRule} {rule : CompiledRule}

/-- An accepted rule is compiled as it says. -/
theorem carries_of_compileRule (compiled : compileRule source = .ok rule) :
    rule.Carries source := by
  unfold compileRule at compiled
  split at compiled
  · cases compiled
  cases host : validateHost source.host.toList with
  | error error => simp [host, bind, Except.bind] at compiled
  | ok normalized =>
    have same : normalized = normalizeHost source.host.toList := by
      grind [validateHost]
    cases lengths : validateLengths source.minimumLength source.maximumLength with
    | error error => simp [host, lengths, bind, Except.bind] at compiled
    | ok =>
      cases patterns : compileBytePatterns source with
      | error error => simp [host, lengths, patterns, bind, Except.bind] at compiled
      | ok =>
        simp only [host, lengths, patterns, bind, Except.bind, Except.ok.injEq] at compiled
        subst compiled
        have cases := compileBytePatterns_cases patterns
        refine ⟨same, ⟨rfl, rfl, rfl, rfl, rfl⟩, ⟨rfl, rfl, rfl⟩, fun action => ?_,
          fun action => ?_⟩
        · obtain ⟨pattern, parsed, rfl⟩ := (cases.resolve_right fun other =>
            action other.1).2
          exact ⟨pattern, parsed, rfl, rfl⟩
        · obtain ⟨pattern, _, parsed, _, rfl⟩ :=
            (cases.resolve_left fun other => other.1 action).2
          simp_all

theorem le_length_resizePattern (bytes : List (Option UInt8)) (length : Nat) :
    length ≤ (resizePattern bytes length).length := by
  grind [resizePattern]

theorem CompiledRule.Carries.wellFormed (carries : rule.Carries source) :
    rule.WellFormed := by
  by_cases action : source.action = .modify
  · obtain ⟨pattern, _, parsed, _, hasPattern, hasReplacement⟩ := carries.rewrites action
    refine ⟨?_, fun _ => ⟨_, _, hasPattern, hasReplacement, le_length_resizePattern _ _⟩⟩
    intro other same
    rw [hasPattern] at same
    cases same
    have nonempty := parseBytePattern_nonempty parsed
    simp [resizePattern, nonempty]
  · obtain ⟨pattern, parsed, hasPattern, _⟩ := carries.searches action
    refine ⟨?_, fun modifies => absurd (carries.effects.1.symm.trans modifies) action⟩
    intro other same
    rw [hasPattern] at same
    obtain ⟨_, rfl, rfl⟩ := Option.map_eq_some_iff.mp same
    exact parseBytePattern_nonempty parsed

variable {sources : List PacketFilterRule}

theorem wellFormed_of_forall₂
    (carries : List.Forall₂ (fun source rule => CompiledRule.Carries rule source) sources rules) :
    ∀ rule ∈ rules, rule.WellFormed := by
  induction carries with
  | nil => exact forall_mem_nil _
  | cons first _ ih => exact forall_mem_cons.mpr ⟨first.wellFormed, ih⟩

/-- The compiled rules are the enabled ones of the source, in their order. -/
theorem forall₂_of_compileRules {identifiers : List String}
    (compiled : compileRules identifiers sources = .ok rules) :
    List.Forall₂ (fun source rule => rule.Carries source) (sources.filter (·.enabled)) rules := by
  induction sources generalizing identifiers rules with
  | nil =>
    cases compiled
    exact .nil
  | cons source sources ih =>
    rw [compileRules] at compiled
    split at compiled
    · cases compiled
    split at compiled
    · cases compiled
    cases first : compileRule source with
    | error error => simp [first, bind, Except.bind] at compiled
    | ok rule =>
      cases rest : compileRules (source.id :: identifiers) sources with
      | error error => simp [first, rest, bind, Except.bind] at compiled
      | ok =>
        simp only [first, rest, bind, Except.bind, Except.ok.injEq] at compiled
        subst compiled
        have carriesOthers := ih rest
        cases enabled : source.enabled with
        | false => simpa [enabled] using carriesOthers
        | true => simpa [enabled] using ⟨carries_of_compileRule first, carriesOthers⟩

/-- What the filters do with a block under an accepted configuration. The compiled rules carry
the enabled rules of the configuration in their order; processing indexes nothing outside the
block and gives the one result of applying them in that order; and forwarded bytes are no
longer than the block, so the capture of datagrams finds no expansion. -/
theorem packetFilters_apply {configuration : PacketFilterConfiguration}
    {compiled : CompiledConfiguration} (accepted : compileConfiguration configuration = .ok compiled)
    (metadata : ConnectionMetadata) (direction : StreamDirection) (bytes : Bytes) :
    List.Forall₂ (fun source rule => rule.Carries source)
        (configuration.rules.filter (·.enabled)) compiled.rules ∧
      ∃ result, compiled.process metadata direction bytes = .ok result ∧
        Applies metadata direction (if configuration.enabled then compiled.rules else []) bytes
          result ∧
        (∀ other, Applies metadata direction
          (if configuration.enabled then compiled.rules else []) bytes other → other = result) ∧
        ∀ output, result = .forward output → output.length ≤ bytes.length ∧
          ∀ (event : ProcessCapture.UdpDatagramEvent)
            (modifications : List ProcessCapture.UdpDatagramModification), event.payload = bytes →
            ¬(ProcessCapture.UdpDatagramDecision.forward output modifications).Expands event := by
  unfold compileConfiguration at accepted
  split at accepted
  · cases accepted
  cases rulesCompiled : compileRules [] configuration.rules with
  | error error => simp [rulesCompiled, bind, Except.bind] at accepted
  | ok rules =>
    simp only [rulesCompiled, bind, Except.bind, Except.ok.injEq] at accepted
    subst accepted
    have carries := forall₂_of_compileRules rulesCompiled
    have wellFormed := wellFormed_of_forall₂ carries
    have processed : ∃ result,
        CompiledConfiguration.process ⟨configuration, rules⟩ metadata direction bytes =
            .ok result ∧
          Applies metadata direction (if configuration.enabled then rules else []) bytes result ∧
          ∀ output, result = .forward output → output.length ≤ bytes.length := by
      unfold CompiledConfiguration.process
      cases enabled : configuration.enabled with
      | false =>
        refine ⟨.forward bytes, rfl, .done, ?_⟩
        rintro output ⟨⟩
        exact Nat.le_refl _
      | true => exact processRules_applies wellFormed bytes
    obtain ⟨result, returned, applies, shorter⟩ := processed
    refine ⟨carries, result, returned, applies, fun other others => others.unique applies, ?_⟩
    intro output forwarded
    refine ⟨shorter output forwarded, ?_⟩
    rintro event modifications rfl
    exact Nat.not_lt_of_le (shorter output forwarded)

/-- A rule that puts one byte in the place of two. -/
def shorteningConfiguration : PacketFilterConfiguration where
  enabled := true
  rules := [{ id := "r", name := "r", enabled := true, pattern := "41 ??", replacement := "42",
              replaceAll := true }]

def shorteningRule : CompiledRule where
  transport := .any
  direction := .any
  host := []
  port := none
  minimumLength := none
  maximumLength := none
  pattern := some ⟨[some 0x41, none]⟩
  replacement := some ⟨[some 0x42]⟩
  action := .modify
  replaceAll := true
  continueMatching := false

def filteredConnection : ConnectionMetadata where
  transport := .udp
  clientAddress := "127.0.0.1:5000"
  targetHost := "example.test"
  targetPort := 53

theorem packetFilters_apply_shortening :
    ∃ result, CompiledConfiguration.process ⟨shorteningConfiguration, [shorteningRule]⟩
        filteredConnection .clientToServer [0x41, 0, 0x41] = .ok result ∧
      Applies filteredConnection .clientToServer [shorteningRule] [0x41, 0, 0x41] result := by
  have accepted : compileConfiguration shorteningConfiguration =
      .ok ⟨shorteningConfiguration, [shorteningRule]⟩ := by rfl
  obtain ⟨_, result, returned, applies, _⟩ :=
    packetFilters_apply accepted filteredConnection .clientToServer [0x41, 0, 0x41]
  exact ⟨result, returned, applies⟩

end SprakCapture.Plugins
