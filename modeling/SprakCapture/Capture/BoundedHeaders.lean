import SprakCapture.Capture.RecordingCalls

/-!
# Headers within a budget

`boundHeaders` keeps the headers at the front that fit, and of the first that does not fit it keeps
the characters of the value that do. It then counts the capacities that the headers kept have and
drops headers from the end until these fit as well.
-/

namespace SprakCapture.Capture

open List

/-- The texts of a header. -/
def HeaderField.texts (header : HeaderField) : List Char × List Char :=
  (header.name.chars, header.value.chars)

/-- A prefix of a list of headers, but the value of the last one may be cut between characters. -/
inductive Shortened (headers : List HeaderField) : List HeaderField → Prop where
  | whole {kept : List HeaderField} (initial : kept <+: headers) : Shortened headers kept
  | cut {front : List HeaderField} {header : HeaderField} {value : Text}
    (initial : front ++ [header] <+: headers) (shorter : value.chars <+: header.value.chars) :
    Shortened headers (front ++ [{ header with value }])

/-- What keeping headers within a budget promises. -/
structure HeadersBounded (layout : Layout) (headers : List HeaderField) (availableBytes : Nat)
    (bounded : BoundedHeaders) : Prop where
  /-- The size is the one that the session accounts for. -/
  accounted : bounded.storedBytes =
    headerStorageBytes layout bounded.headers.items bounded.headers.capacity
  within : bounded.storedBytes ≤ availableBytes
  shortened : Shortened headers bounded.headers.items
  truncated : bounded.truncated = true ↔
    bounded.headers.items.map HeaderField.texts ≠ headers.map HeaderField.texts

/-! ### Cut texts -/

theorem fittingChars_spec {maximumBytes used : Nat} (fits : used ≤ maximumBytes)
    (chars : List Char) :
    fittingChars maximumBytes used chars <+: chars ∧
      used + utf8Bytes (fittingChars maximumBytes used chars) ≤ maximumBytes ∧
      (maximumBytes < used + utf8Bytes chars →
        maximumBytes < used + utf8Bytes (fittingChars maximumBytes used chars) + 4) := by
  induction chars generalizing used with
  | nil =>
    simp only [utf8Bytes, map_nil, sum_nil]
    exact ⟨prefix_rfl, fits, fun _ => by omega⟩
  | cons char rest ih =>
    have small := char.utf8Size_le_four
    unfold fittingChars
    split
    · refine ⟨List.nil_prefix, fits, fun _ => ?_⟩
      omega
    · obtain ⟨initial, within, full⟩ := ih (Nat.le_of_not_lt ‹_›)
      simp only [utf8Bytes, map_cons, sum_cons] at within full ⊢
      exact ⟨(prefix_cons_inj char).mpr initial, by omega, fun long => by omega⟩

/-- A text that is too long is cut within a character of the bound. -/
theorem boundString_spec (value : Text) (maximumBytes : Nat) :
    (value.len ≤ maximumBytes ∧ boundString value maximumBytes = (value, false)) ∨
      (maximumBytes < value.len ∧ (boundString value maximumBytes).2 = true ∧
        (boundString value maximumBytes).1.chars <+: value.chars ∧
        (boundString value maximumBytes).1.len ≤ maximumBytes ∧
        maximumBytes < (boundString value maximumBytes).1.len + 4) := by
  unfold boundString
  split
  · exact .inl ⟨‹_›, rfl⟩
  · have long := Nat.lt_of_not_le ‹_›
    obtain ⟨initial, within, full⟩ := fittingChars_spec (Nat.zero_le maximumBytes) value.chars
    simp only [Nat.zero_add] at within full
    exact .inr ⟨long, rfl, initial, within, full long⟩

/-! ### The scan -/

/-- How the scan of headers ends. -/
inductive ScanEnd (headers : List HeaderField) : HeaderScan → Prop where
  | complete {logicalBytes : Nat} : ScanEnd headers ⟨headers, logicalBytes, false⟩
  | stopped {kept rest : List HeaderField} {logicalBytes : Nat} (split : kept ++ rest = headers)
    (more : rest ≠ []) : ScanEnd headers ⟨kept, logicalBytes, true⟩
  | cut {front rest : List HeaderField} {header : HeaderField} {value : Text} {logicalBytes : Nat}
    (split : front ++ header :: rest = headers) (shorter : value.chars <+: header.value.chars)
    (lost : value.len < header.value.len) :
    ScanEnd headers ⟨front ++ [{ header with value }], logicalBytes, true⟩

variable {layout : Layout} {maximumBytes : Nat} {headers : List HeaderField}

/-- No header fits where less than the bytes of its structure are left. -/
theorem scanHeaders_full {scan : HeaderScan} (truncated : scan.truncated = true)
    (full : maximumBytes < scan.logicalBytes + layout.sizeOfHeaderField) (count : Nat) :
    scanHeaders layout maximumBytes count headers scan = scan := by
  obtain ⟨_, _, _⟩ := scan
  cases headers with
  | nil => rfl
  | cons header rest =>
    dsimp only at full truncated
    unfold scanHeaders
    dsimp only
    rw [if_pos (by omega), truncated]

theorem scanHeaders_end (room : 3 < layout.sizeOfHeaderField)
    (bound : maximumBytes ≤ maximumSafeInteger) {kept rest : List HeaderField} {logicalBytes : Nat}
    (split : kept ++ rest = headers) :
    ScanEnd headers
      (scanHeaders layout maximumBytes headers.length rest ⟨kept, logicalBytes, false⟩) := by
  induction rest generalizing kept logicalBytes with
  | nil =>
    rw [append_nil] at split
    subst split
    exact .complete
  | cons header rest ih =>
    unfold scanHeaders
    dsimp only
    split
    · exact .stopped split (cons_ne_nil _ _)
    rename_i fits
    -- A name or a value of more bytes than any budget would not have fitted.
    have name : boundString header.name maximumHeaderNameBytes = (header.name, false) := by
      rcases boundString_spec header.name maximumHeaderNameBytes with
        ⟨_, whole⟩ | ⟨_, _, _, _, full⟩
      · exact whole
      · unfold maximumHeaderNameBytes at fits full
        omega
    rw [name] at fits ⊢
    dsimp only at fits ⊢
    split
    · set value := (boundString header.value maximumHeaderValueBytes).1
      have initial : value.chars <+: header.value.chars ∧ value.len ≤ header.value.len := by
        rcases boundString_spec header.value maximumHeaderValueBytes with
          ⟨_, whole⟩ | ⟨long, _, initial, within, _⟩
        · simp [value, whole]
        · exact ⟨initial, Nat.le_trans within (Nat.le_of_lt long)⟩
      rcases boundString_spec value (maximumBytes - logicalBytes -
        (layout.sizeOfHeaderField + header.name.len)) with ⟨_, _⟩ | ⟨_, _, shorter, within, full⟩
      · omega
      have ends : ∀ bytes, ScanEnd headers ⟨kept ++ [⟨header.name, (boundString value
          (maximumBytes - logicalBytes - (layout.sizeOfHeaderField + header.name.len))).1⟩],
          bytes, true⟩ :=
        fun _ => .cut split (shorter.trans initial.1) (by omega)
      split
      · exact ends _
      · rw [scanHeaders_full rfl (by dsimp only; omega)]
        exact ends _
    · rename_i short
      have value : boundString header.value maximumHeaderValueBytes = (header.value, false) := by
        rcases boundString_spec header.value maximumHeaderValueBytes with
          ⟨_, whole⟩ | ⟨_, _, _, _, full⟩
        · exact whole
        · unfold maximumHeaderValueBytes at short full
          omega
      rw [value]
      have next : kept ++ [header] ++ rest = headers := by rw [append_assoc, singleton_append, split]
      split
      · cases rest with
        | nil =>
          rw [append_nil] at next
          subst next
          simp only [Nat.lt_irrefl]
          exact .complete
        | cons later rest =>
          have fewer : (kept ++ [header]).length < headers.length := by
            rw [← next, @length_append _ _ (later :: rest), length_cons]
            omega
          simp only [fewer]
          exact .stopped next (cons_ne_nil _ _)
      · exact ih next

/-! ### The headers kept -/

theorem headerStorageBytes_reverse (headers : List HeaderField) (slots : Nat) :
    headerStorageBytes layout headers.reverse slots = headerStorageBytes layout headers slots := by
  rw [headerStorageBytes, headerStorageBytes, map_reverse, sum_reverse]

/-- Headers are dropped from the end, until those that are left fit. -/
theorem trimHeaders_spec (reversed : List HeaderField) :
    (trimHeaders layout maximumBytes reversed).1 <+: reversed.reverse ∧
      headerStorageBytes layout (trimHeaders layout maximumBytes reversed).1
        (trimHeaders layout maximumBytes reversed).1.length ≤ maximumBytes ∧
      ((trimHeaders layout maximumBytes reversed).2 = true ↔
        (trimHeaders layout maximumBytes reversed).1.length < reversed.length) := by
  induction reversed with
  | nil => simp [trimHeaders, headerStorageBytes]
  | cons last others ih =>
    obtain ⟨initial, within, _⟩ := ih
    have shorter := initial.length_le
    unfold trimHeaders
    split
    · rw [reverse_cons]
      rw [length_reverse] at shorter
      exact ⟨initial.trans (prefix_append _ _), within, by simp [Nat.lt_succ_of_le shorter]⟩
    · rename_i fits
      refine ⟨prefix_rfl, ?_, by simp⟩
      rw [headerStorageBytes_reverse, length_reverse]
      exact Nat.le_of_not_lt fits

section

variable {scan : HeaderScan} {kept : List HeaderField}

theorem ScanEnd.shortened (ended : ScanEnd headers scan) (initial : kept <+: scan.kept) :
    Shortened headers kept := by
  cases ended with
  | complete => exact .whole initial
  | stopped split => exact .whole (initial.trans ⟨_, split⟩)
  | @cut front rest header value _ split shorter =>
    rcases prefix_concat_iff.mp initial with rfl | front
    · exact .cut ⟨rest, by rw [append_assoc, singleton_append, split]⟩ shorter
    · exact .whole (front.trans ⟨_, split⟩)

/-- Texts are missing exactly when the scan is cut or headers are dropped after it. -/
theorem ScanEnd.lost_iff (ended : ScanEnd headers scan) (initial : kept <+: scan.kept) :
    kept.map HeaderField.texts ≠ headers.map HeaderField.texts ↔
      (scan.truncated = true ∨ scan.kept.length < headers.length) ∨
        kept.length < scan.kept.length := by
  have count : scan.kept.length ≤ headers.length := by
    cases ended with
    | complete => exact Nat.le_refl _
    | stopped split | cut split => simp [← split]
  by_cases dropped : kept.length < scan.kept.length
  · refine iff_of_true (fun same => ?_) (.inr dropped)
    have := congrArg length same
    simp only [length_map] at this
    omega
  · rw [initial.eq_of_length_le (Nat.le_of_not_lt dropped)]
    cases ended with
    | complete => simp
    | @stopped kept rest _ split more => simp [← split, more]
    | cut split _ lost =>
      refine iff_of_true (fun same => ?_) (.inl (.inl rfl))
      simp only [← split, map_append, map_cons, append_cancel_left_eq, cons.injEq,
        HeaderField.texts, Prod.mk.injEq] at same
      simp [Text.len, same.1.2] at lost

end

variable (layout)

end SprakCapture.Capture
