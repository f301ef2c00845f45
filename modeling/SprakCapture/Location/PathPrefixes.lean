import SprakCapture.Location.Matcher

/-!
# Path patterns as prefixes of segments

A path pattern without wildcards matches the paths whose segments begin with its own. The root
is an exception: what stands behind its slash would have to begin with another slash.
-/

namespace SprakCapture.Location

open Data List Data.Text

/-- The segments of a path between its slashes, without those at its end. -/
def pathSegments (path : List Char) : List (List Char) :=
  (trimEndWith (· == '/') path).splitOn '/'

/-- A pattern matches the paths whose segments begin with its segments. -/
def MatchesSegments (pattern path : List Char) : Prop :=
  matchesPath pattern path LocationMatchOptions.default.normalizePath = true ↔
    pathSegments pattern <+: pathSegments path

def onlySlashes (path : List Char) : Bool := path.all (· == '/')

theorem intercalate_append {first : List (List Char)} (nonempty : first ≠ [])
    (segment : List Char) (segments : List (List Char)) :
    ['/'].intercalate (first ++ segment :: segments) =
      ['/'].intercalate first ++ '/' :: ['/'].intercalate (segment :: segments) := by
  induction first with
  | nil => exact absurd rfl nonempty
  | cons _ first ih =>
    cases first with
    | nil => simp
    | cons _ first => simpa using ih (cons_ne_nil _ _)

theorem splitOn_prefix_iff {first second : List Char} :
    first.splitOn '/' <+: second.splitOn '/' ↔ second = first ∨ first ++ ['/'] <+: second := by
  constructor
  · rintro ⟨segments, split⟩
    have whole := @intercalate_splitOn _ second _ _ '/'
    rw [← split] at whole
    cases segments with
    | nil =>
      rw [append_nil, intercalate_splitOn] at whole
      exact .inl whole.symm
    | cons segment segments =>
      right
      rw [intercalate_append (splitOn_ne_nil _ _)] at whole
      exact ⟨['/'].intercalate (segment :: segments), by simpa using whole⟩
  · rintro (rfl | ⟨_, rfl⟩)
    · exact prefix_refl _
    · rw [append_assoc, singleton_append, splitOn_append_cons_self]
      exact prefix_append _ _

section Trimmed

variable {path : List Char}

theorem trimmed_eq_nil : trimEndWith (· == '/') path = [] ↔ onlySlashes path = true := by
  simp [trimEndWith, onlySlashes]

/-- A trimmed path does not end with a slash. -/
theorem getLast?_trimmed : (trimEndWith (· == '/') path).getLast? ≠ some '/' := by
  rw [trimEndWith]
  have first := head?_dropWhile_not (· == '/') path.reverse
  cases dropped : path.reverse.dropWhile (· == '/') with
  | nil => simp
  | cons =>
    rw [dropped] at first
    simpa using first

theorem normalizedPath_eq : normalizedPath path true =
    if onlySlashes path then ['/'] else trimEndWith (· == '/') path := by
  unfold normalizedPath
  split
  · next isRoot =>
    obtain rfl : path = ['/'] := by simpa using isRoot
    rfl
  · simp [trimmed_eq_nil]

/-- Trimming keeps the beginning of a path up to its last other character. -/
theorem doubleSlash_prefix_trimmed (more : onlySlashes path = false) :
    ['/', '/'] <+: trimEndWith (· == '/') path ↔ ['/', '/'] <+: path := by
  have inside : trimEndWith (· == '/') path <+: path := rdropWhile_prefix _ _
  refine ⟨fun starts => starts.trans inside, fun starts => ?_⟩
  rcases prefix_or_prefix_of_prefix starts inside with within | short
  · exact within
  have last := @getLast?_trimmed path
  have nonempty : trimEndWith (· == '/') path ≠ [] := by
    rw [Ne, trimmed_eq_nil, more]
    exact Bool.false_ne_true
  have slash := short.mem (getLast_mem nonempty)
  rw [getLast?_eq_some_getLast nonempty] at last
  simp_all

end Trimmed

theorem trimmed_request {path : List Char} (request : path = [] ∨ path.head? = some '/')
    (more : onlySlashes path = false) : ['/'] <+: trimEndWith (· == '/') path := by
  obtain ⟨rest, whole⟩ : trimEndWith (· == '/') path <+: path := rdropWhile_prefix _ _
  cases trimmed : trimEndWith (· == '/') path with
  | nil => rw [trimmed_eq_nil, more] at trimmed; cases trimmed
  | cons =>
    rw [trimmed] at whole
    subst whole
    simp_all

theorem hasWildcard_normalizedPath {pattern : List Char} (plain : hasWildcard pattern = false) :
    hasWildcard (normalizedPath pattern true) = false := by
  rw [normalizedPath_eq]
  split
  · rfl
  have inside : trimEndWith (· == '/') pattern ⊆ pattern :=
    (List.rdropWhile_prefix _ _).subset
  simp only [hasWildcard, Bool.or_eq_false_iff, contains_eq_mem, decide_eq_false_iff_not] at plain ⊢
  exact ⟨fun star => plain.1 (inside star), fun question => plain.2 (inside question)⟩

/-- A request path matches by its segments, unless the pattern is the root and the path goes on
from the root with a segment that is not empty. -/
theorem matchesSegments_iff {pattern path : List Char} (valid : validatePath pattern = .ok ())
    (plain : hasWildcard pattern = false) (request : path = [] ∨ path.head? = some '/') :
    MatchesSegments pattern path ↔
      (onlySlashes pattern = true → pattern ≠ [] →
        onlySlashes path = true ∨ ['/', '/'] <+: path) := by
  rw [MatchesSegments, pathSegments, pathSegments, splitOn_prefix_iff, matchesPath]
  have noStar : pattern ≠ ['*'] := by
    rintro rfl
    cases plain
  by_cases blank : pattern = []
  · subst blank
    cases more : onlySlashes path with
    | true => simp [trimmed_eq_nil.mpr more, trimmed_eq_nil.mpr (rfl : onlySlashes [] = true)]
    | false => simpa using .inr (trimmed_request request more)
  have stays := hasWildcard_normalizedPath plain
  have last := @getLast?_trimmed
  simp only [List.isEmpty_iff, blank, noStar, LocationMatchOptions.default, stays]
  rw [normalizedPath_eq, normalizedPath_eq]
  cases isRoot : onlySlashes pattern with
  | true =>
    rw [trimmed_eq_nil.mpr isRoot]
    cases more : onlySlashes path with
    | true => simp [trimmed_eq_nil.mpr more]
    | false =>
      have notRoot : trimEndWith (· == '/') path ≠ ['/'] :=
        fun root => last (by rw [root]; rfl)
      simp [notRoot, trimmed_request request more, doubleSlash_prefix_trimmed more, blank]
  | false =>
    have nonempty : trimEndWith (· == '/') pattern ≠ [] := by
      simp [trimmed_eq_nil, isRoot]
    cases more : onlySlashes path with
    | true =>
      have notRoot : ['/'] ≠ trimEndWith (· == '/') pattern :=
        fun root => last (by rw [← root]; rfl)
      simp [trimmed_eq_nil.mpr more, notRoot, prefix_cons_iff]
    | false => simp

theorem matchesSegments_iff_api :
    MatchesSegments "/api/".toList "/api/v1".toList ↔
      (onlySlashes "/api/".toList = true → "/api/".toList ≠ [] →
        onlySlashes "/api/v1".toList = true ∨ ['/', '/'] <+: "/api/v1".toList) :=
  matchesSegments_iff rfl rfl (.inr rfl)

/-- The root does not match what lies below it. -/
theorem not_matchesSegments_root : ¬ MatchesSegments ['/'] ['/', 'a'] := by
  intro agrees
  exact absurd (agrees.mpr ⟨[['a']], rfl⟩) (by decide)

end SprakCapture.Location
