import SprakCapture.Control.SocksHttpInspection
import SprakCapture.Data.PrefixProbe

/-!
# Classification on the beginning of a stream

The parsers behind the classification of a tunnel leave no slice of what has arrived
(`classifyClientPrefix_total`), and what they once answer stays their answer as more arrives
(`classification_settles`).
-/

namespace SprakCapture.Control

open Data HttpProxy Location List
open Outcome (ok_bind)

/-! ### HTTP -/

theorem take_min_eq_iff {Item : Type} {left right : List Item} :
    left.take (min left.length right.length) = right.take (min left.length right.length) ↔
      left <+: right ∨ right <+: left := by
  rcases Nat.le_total left.length right.length with shorter | longer
  · rw [Nat.min_eq_left shorter, take_length, ← prefix_iff_eq_take]
    refine ⟨.inl, fun either => either.elim id fun begins => ?_⟩
    rw [begins.eq_of_length_le shorter]
  · rw [Nat.min_eq_right longer, take_length, eq_comm, ← prefix_iff_eq_take]
    refine ⟨.inr, fun either => either.elim (fun begins => ?_) id⟩
    rw [begins.eq_of_length_le longer]

variable {bytes : Bytes}

theorem scanHttpMethodFrom_append {index : Nat} (later : Bytes)
    (answers : scanHttpMethodFrom index bytes ≠ .needMoreBytes) :
    scanHttpMethodFrom index (bytes ++ later) = scanHttpMethodFrom index bytes := by
  induction bytes generalizing index with
  | nil => exact absurd rfl answers
  | cons _ bytes =>
    grind [scanHttpMethodFrom]

theorem bounds_of_findHeaderEnd {stop : Nat} (found : findHeaderEnd bytes = some stop) :
    4 ≤ stop ∧ stop ≤ bytes.length := by
  induction bytes generalizing stop with
  | nil => cases found
  | cons _ bytes ih =>
    rw [findHeaderEnd] at found
    split at found
    · rename_i here
      cases found
      exact ⟨Nat.le_refl 4, (List.isPrefixOf_iff_prefix.mp here).length_le⟩
    · obtain ⟨stop, later, rfl⟩ := Option.map_eq_some_iff.mp found
      have bounds := ih later
      rw [length_cons]
      omega

theorem findHeaderEnd_append {stop : Nat} (later : Bytes) (found : findHeaderEnd bytes = some stop) :
    findHeaderEnd (bytes ++ later) = some stop := by
  induction bytes generalizing stop with
  | nil => cases found
  | cons byte bytes ih =>
    rw [findHeaderEnd] at found
    rw [cons_append, findHeaderEnd]
    by_cases here : headerTerminator.isPrefixOf (byte :: bytes) = true
    · grind
    rw [if_neg here] at found
    obtain ⟨stop, behind, rfl⟩ := Option.map_eq_some_iff.mp found
    have room := bounds_of_findHeaderEnd behind
    rw [if_neg, ih behind, Option.map_some]
    intro longer
    refine here (List.isPrefixOf_iff_prefix.mpr ?_)
    refine prefix_of_prefix_length_le (List.isPrefixOf_iff_prefix.mp longer)
      (prefix_append (byte :: bytes) later) ?_
    change 4 ≤ bytes.length + 1
    omega

/-- The classification of a head that ends at an index. -/
def headAnswer (uris : UriLibrary) (target : TunnelTarget) (head : Bytes) : TunnelClassification :=
  match Utf8.decode head with
  | none => .raw
  | some headerText => classifyHttpHead uris target headerText

/-- What the classification as HTTP answers, without its slices. -/
def httpAnswer (uris : UriLibrary) (target : TunnelTarget) (probeCapacityBytes : Nat)
    (arrived : Bytes) : TunnelClassification :=
  if arrived <+: http2Preface ∨ http2Preface <+: arrived then
    if http2Preface.length ≤ arrived.length then .http none else .needMoreBytes
  else
    match scanHttpMethod arrived with
    | .needMoreBytes => .needMoreBytes
    | .invalid => .raw
    | .complete _ =>
      match findHeaderEnd arrived with
      | none => if arrived.length = probeCapacityBytes then .raw else .needMoreBytes
      | some stop => headAnswer uris target (arrived.take stop)

theorem slice_zero {Error : Type} {stop : Nat} (within : stop ≤ bytes.length) :
    (slice bytes 0 stop : Outcome Error Bytes) = .ok (bytes.take stop) :=
  slice_eq_ok.mpr ⟨Nat.zero_le stop, within, rfl⟩

theorem classifyHttpPrefix_eq (uris : UriLibrary) (target : TunnelTarget)
    (probeCapacityBytes : Nat) (arrived : Bytes) :
    classifyHttpPrefix uris target probeCapacityBytes arrived =
      .ok (httpAnswer uris target probeCapacityBytes arrived) := by
  rw [classifyHttpPrefix, slice_zero (Nat.min_le_left ..), slice_zero (Nat.min_le_right ..),
    httpAnswer]
  simp only [ok_bind, take_min_eq_iff]
  split
  · rfl
  cases scanHttpMethod arrived with
  | needMoreBytes | invalid => rfl
  | complete =>
    cases found : findHeaderEnd arrived with
    | none => rfl
    | some stop =>
      simp only [slice_zero (bounds_of_findHeaderEnd found).2, ok_bind, headAnswer]
      cases Utf8.decode (arrived.take stop) with
      | none | some => rfl

/-- What does not begin like the preface does not go on like it either. -/
theorem not_prefaced {short long : Bytes} (begins : short <+: long)
    (differs : ¬(short <+: http2Preface ∨ http2Preface <+: short)) :
    ¬(long <+: http2Preface ∨ http2Preface <+: long) := by
  rintro (inside | behind)
  · exact differs (.inl (begins.trans inside))
  · exact differs (List.prefix_or_prefix_of_prefix begins behind)

theorem httpAnswer_settles (uris : UriLibrary) (target : TunnelTarget) (capacity : Nat) :
    Settles capacity .needMoreBytes (httpAnswer uris target capacity) := by
  rintro short _ ⟨later, rfl⟩ within answers
  have begins : short <+: short ++ later := prefix_append short later
  by_cases prefaced : short <+: http2Preface ∨ http2Preface <+: short
  · have whole : http2Preface.length ≤ short.length := by
      grind [httpAnswer]
    have behind : http2Preface <+: short := by
      refine prefaced.elim (fun inside => ?_) id
      rw [inside.eq_of_length_le whole]
    grind [httpAnswer]
  · rw [httpAnswer] at answers
    rw [httpAnswer, httpAnswer, if_neg prefaced, if_neg (not_prefaced begins prefaced)]
    have decided : scanHttpMethod short ≠ .needMoreBytes := by
      grind
    have same : scanHttpMethod (short ++ later) = scanHttpMethod short :=
      scanHttpMethodFrom_append later decided
    rw [same]
    cases scanned : scanHttpMethod short with
    | needMoreBytes => exact absurd scanned decided
    | invalid => rfl
    | complete length =>
      cases found : findHeaderEnd short with
      | none =>
        have full : short.length = capacity := by
          simp_all
        have ended : later = [] := by
          rw [length_append] at within
          exact length_eq_zero_iff.mp (by omega)
        simp [ended, found]
      | some =>
        have bounds := bounds_of_findHeaderEnd found
        simp [findHeaderEnd_append later found, take_append_of_le_length bounds.2]

/-! ### TLS -/

theorem readU16_total (bytes : Bytes) (offset : Nat) :
    readU16 bytes offset = .ok none ∨
      offset + 2 ≤ bytes.length ∧ ∃ length, readU16 bytes offset = .ok (some length) := by
  unfold readU16
  split
  · rename_i within
    refine .inr ⟨within, ?_⟩
    have pair : (slice bytes offset (offset + 2) : Outcome Empty Bytes) =
        .ok ((bytes.drop offset).take 2) :=
      slice_eq_ok.mpr ⟨Nat.le_add_right .., within, by rw [Nat.add_sub_cancel_left]⟩
    obtain ⟨high, low, isPair⟩ : ∃ high low, (bytes.drop offset).take 2 = [high, low] :=
      length_eq_two.mp (by rw [length_take, length_drop]; omega)
    rw [pair, isPair]
    exact ⟨_, rfl⟩
  · exact .inl rfl

theorem slice_total {Error : Type} {bytes : Bytes} {start stop : Nat} (ordered : start ≤ stop)
    (within : stop ≤ bytes.length) :
    ∃ range, (slice bytes start stop : Outcome Error Bytes) = .ok range :=
  ⟨_, slice_eq_ok.mpr ⟨ordered, within, rfl⟩⟩

section

variable (uris : UriLibrary)
include uris

theorem serverNameEntries_total (extension : Bytes) {turns cursor : Nat}
    (inside : cursor ≤ extension.length) (enough : extension.length < cursor + turns) :
    ∃ answer, serverNameEntries uris extension turns cursor = .ok answer := by
  induction turns generalizing cursor with
  | zero => omega
  | succ turns ih =>
    rw [serverNameEntries]
    split
    · rename_i more
      rw [getElem?_eq_getElem more]
      dsimp only
      rcases readU16_total extension (cursor + 1) with none | ⟨_, nameLength, some⟩
      · rw [none]
        exact ⟨_, rfl⟩
      rw [some, ok_bind]
      dsimp only
      split
      · exact ⟨_, rfl⟩
      rename_i within
      split
      · obtain ⟨_, isName⟩ := slice_total (Nat.le_add_right ..) (Nat.le_of_not_lt within)
        rw [isName]
        exact ⟨_, rfl⟩
      · exact ih (Nat.le_of_not_lt within) (by omega)
    · exact ⟨_, rfl⟩

theorem extractServerNameExtension_total (extension : Bytes) :
    ∃ answer, extractServerNameExtension uris extension = .ok answer := by
  rw [extractServerNameExtension]
  rcases readU16_total extension 0 with none | ⟨_, _, some⟩
  · rw [none]
    exact ⟨_, rfl⟩
  rw [some, ok_bind]
  dsimp only
  split
  · exact ⟨_, rfl⟩
  · exact serverNameEntries_total uris extension (by omega) (by omega)

theorem helloExtensions_total {hello : Bytes} {extensionsEnd turns cursor : Nat}
    (stops : extensionsEnd ≤ hello.length) (inside : cursor ≤ extensionsEnd)
    (enough : extensionsEnd < cursor + turns) :
    ∃ answer, helloExtensions uris hello extensionsEnd turns cursor = .ok answer := by
  induction turns generalizing cursor with
  | zero => omega
  | succ turns ih =>
    rw [helloExtensions]
    split
    · rcases readU16_total hello cursor with none | ⟨_, _, some⟩
      · rw [none]
        exact ⟨_, rfl⟩
      rw [some, ok_bind]
      dsimp only
      rcases readU16_total hello (cursor + 2) with none | ⟨_, extensionLength, some⟩
      · rw [none]
        exact ⟨_, rfl⟩
      rw [some, ok_bind]
      dsimp only
      split
      · exact ⟨_, rfl⟩
      rename_i within
      split
      · obtain ⟨extension, isExtension⟩ := @slice_total _ hello _
          (cursor + 4 + extensionLength) (Nat.le_add_right ..) (by omega)
        rw [isExtension]
        exact extractServerNameExtension_total uris extension
      · exact ih (Nat.le_of_not_lt within) (by omega)
    · exact ⟨_, rfl⟩

omit uris in
theorem byteAt_total {Error : Type} {bytes : Bytes} {index : Nat} (inside : index < bytes.length) :
    ∃ byte, (byteAt bytes index : Outcome Error UInt8) = .ok byte :=
  ⟨_, byteAt_eq_ok.mpr (getElem?_eq_getElem inside)⟩

theorem helloServerName_total (hello : Bytes) :
    ∃ answer, helloServerName uris hello = .ok answer := by
  rw [helloServerName]
  split
  · exact ⟨_, rfl⟩
  obtain ⟨sessionLength, isLength⟩ := @byteAt_total Empty hello 34 (by omega)
  simp only [isLength, ok_bind]
  rcases readU16_total hello (35 + sessionLength.toNat) with none | ⟨_, cipherLength, some⟩
  · rw [none]
    exact ⟨_, rfl⟩
  rw [some, ok_bind]
  dsimp only
  cases hello[35 + sessionLength.toNat + 2 + cipherLength]? with
  | none => exact ⟨_, rfl⟩
  | some compressionLength =>
    dsimp only
    rcases readU16_total hello (35 + sessionLength.toNat + 2 + cipherLength + 1 +
      compressionLength.toNat) with none | ⟨_, _, some⟩
    · rw [none]
      exact ⟨_, rfl⟩
    rw [some, ok_bind]
    dsimp only
    split
    · exact ⟨_, rfl⟩
    · exact helloExtensions_total uris (by omega) (by omega) (by omega)

theorem handshakeServerName_total (record : Bytes) (handshakeLength : Nat) :
    ∃ answer, (do
      if record.length < handshakeLength + 4 then return .absent
      helloServerName uris (← slice record 4 (4 + handshakeLength)) :
        Outcome Empty HostExtraction) = .ok answer := by
  split
  · exact ⟨_, rfl⟩
  · obtain ⟨hello, isHello⟩ := @slice_total Empty record 4 (4 + handshakeLength) (by omega)
      (by omega)
    rw [isHello]
    exact helloServerName_total uris hello

theorem recordServerName_total (record : Bytes) :
    ∃ answer, recordServerName uris record = .ok answer := by
  rw [recordServerName]
  split
  · exact ⟨_, rfl⟩
  obtain ⟨_, isFirst⟩ := @byteAt_total Empty record 0 (by omega)
  obtain ⟨high, isHigh⟩ := @byteAt_total Empty record 1 (by omega)
  obtain ⟨middle, isMiddle⟩ := @byteAt_total Empty record 2 (by omega)
  obtain ⟨low, isLow⟩ := @byteAt_total Empty record 3 (by omega)
  rw [isFirst, ok_bind]
  split
  · exact ⟨_, rfl⟩
  · rw [isHigh, ok_bind, isMiddle, ok_bind, isLow, ok_bind]
    exact handshakeServerName_total uris record _

/-- What a record header of five bytes leads to. -/
theorem extractTlsServerName_cons (capacity : Nat) (first major minor high low : UInt8)
    (content : Bytes) :
    extractTlsServerName uris capacity (first :: major :: minor :: high :: low :: content) =
      if first ≠ 0x16 ∨ major ≠ 0x03 ∨ !isTlsMinor minor then .ok .absent
      else if capacity < 5 + (u16FromBe high low).toNat then .ok .absent
      else if content.length < (u16FromBe high low).toNat then .ok .needMoreBytes
      else recordServerName uris (content.take (u16FromBe high low).toNat) := by
  change (if _ then _ else if _ then _ else if content.length + 5 < _ then _ else
    (slice (first :: major :: minor :: high :: low :: content) 5 _ >>= recordServerName uris)) = _
  split
  · rfl
  split
  · rfl
  by_cases more : content.length < (u16FromBe high low).toNat
  · rw [if_pos more, if_pos (by omega)]
    rfl
  have range : (slice (first :: major :: minor :: high :: low :: content) 5
      (5 + (u16FromBe high low).toNat) : Outcome Empty Bytes) =
        .ok (content.take (u16FromBe high low).toNat) :=
    slice_eq_ok.mpr ⟨Nat.le_add_right .., by simp only [length_cons]; omega, by
      rw [Nat.add_sub_cancel_left]
      rfl⟩
  rw [if_neg more, if_neg (by omega), range]
  rfl

theorem extractTlsServerName_total (capacity : Nat) (arrived : Bytes) :
    ∃ answer, extractTlsServerName uris capacity arrived = .ok answer := by
  match arrived with
  | first :: major :: minor :: high :: low :: content =>
    rw [extractTlsServerName_cons]
    split
    · exact ⟨_, rfl⟩
    split
    · exact ⟨_, rfl⟩
    split
    · exact ⟨_, rfl⟩
    · exact recordServerName_total uris _
  | [] | [_] | [_, _] | [_, _, _] | [_, _, _, _] => exact ⟨_, rfl⟩

theorem extractTlsServerName_settles (capacity : Nat) :
    Settles capacity (.ok .needMoreBytes) (extractTlsServerName uris capacity) := by
  rintro short _ ⟨later, rfl⟩ _ answers
  match short with
  | first :: major :: minor :: high :: low :: content =>
    simp only [cons_append]
    rw [extractTlsServerName_cons] at answers
    rw [extractTlsServerName_cons, extractTlsServerName_cons]
    split
    · rfl
    rename_i helloRecord
    split
    · rfl
    rename_i fits
    rw [if_neg helloRecord, if_neg fits] at answers
    have whole : ¬content.length < (u16FromBe high low).toNat := by
      intro more
      exact answers (if_pos more)
    grind
  | [] | [_] | [_, _] | [_, _, _] | [_, _, _, _] => exact absurd rfl answers

theorem classifyTlsPrefix_cons (target : TunnelTarget) (shouldIntercept : ResolvedLocation → Bool)
    (capacity : Nat) (major minor high low kind : UInt8) (content : Bytes) :
    classifyTlsPrefix uris target shouldIntercept capacity
        (0x16 :: major :: minor :: high :: low :: kind :: content) =
      if major ≠ 0x03 ∨ !isTlsMinor minor then .ok .raw
      else if u16FromBe high low = 0 then .ok .raw
      else if kind ≠ 0x01 then .ok .raw
      else if !target.routePinned then .ok (classifyHello target shouldIntercept none)
      else
        match extractTlsServerName uris capacity
            (0x16 :: major :: minor :: high :: low :: kind :: content) with
        | .ok .needMoreBytes => .ok .needMoreBytes
        | .ok (.host name) => .ok (classifyHello target shouldIntercept (some name))
        | .ok .absent => .ok (classifyHello target shouldIntercept none)
        | .error fault => .error fault := by
  have long : ¬content.length + 6 < 3 ∧ ¬content.length + 6 < 5 ∧ ¬content.length + 6 < 6 := by
    omega
  rw [classifyTlsPrefix, if_neg (by simp)]
  change (if content.length + 6 < 3 then _ else if _ then _ else
    if content.length + 6 < 5 then _ else if _ then _ else if content.length + 6 < 6 then _ else
    if _ then _ else if _ then _ else (extractTlsServerName uris capacity _ >>= _)) = _
  rw [if_neg long.1, if_neg long.2.1, if_neg long.2.2]
  split
  · rfl
  split
  · rfl
  split
  · rfl
  split
  · rfl
  cases extractTlsServerName uris capacity
      (0x16 :: major :: minor :: high :: low :: kind :: content) with
  | error fault => rfl
  | ok extraction =>
    cases extraction with
    | _ => rfl

omit uris in
theorem u16At_total {Error : Type} {bytes : Bytes} {index : Nat}
    (inside : index + 1 < bytes.length) :
    ∃ value, (u16At bytes index : Outcome Error UInt16) = .ok value :=
  ⟨_, u16At_eq_ok.mpr ⟨_, _, getElem?_eq_getElem (Nat.lt_of_succ_lt inside),
    getElem?_eq_getElem inside, rfl⟩⟩

theorem classifyTlsPrefix_total (target : TunnelTarget) (shouldIntercept : ResolvedLocation → Bool)
    (capacity : Nat) (arrived : Bytes) :
    ∃ answer, classifyTlsPrefix uris target shouldIntercept capacity arrived = .ok answer := by
  rw [classifyTlsPrefix]
  split
  · exact ⟨_, rfl⟩
  split
  · exact ⟨_, rfl⟩
  obtain ⟨_, isMajor⟩ := @byteAt_total Empty arrived 1 (by omega)
  obtain ⟨_, isMinor⟩ := @byteAt_total Empty arrived 2 (by omega)
  simp only [isMajor, isMinor, ok_bind]
  split
  · exact ⟨_, rfl⟩
  split
  · exact ⟨_, rfl⟩
  obtain ⟨_, isLength⟩ := @u16At_total Empty arrived 3 (by omega)
  simp only [isLength, ok_bind]
  split
  · exact ⟨_, rfl⟩
  split
  · exact ⟨_, rfl⟩
  obtain ⟨_, isKind⟩ := @byteAt_total Empty arrived 5 (by omega)
  simp only [isKind, ok_bind]
  split
  · exact ⟨_, rfl⟩
  split
  · exact ⟨_, rfl⟩
  obtain ⟨extraction, isExtraction⟩ := extractTlsServerName_total uris capacity arrived
  rw [isExtraction]
  cases extraction with
  | _ => exact ⟨_, rfl⟩

end

theorem classifyTlsPrefix_of_head {first : UInt8} (other : first ≠ 0x16) (uris : UriLibrary)
    (target : TunnelTarget) (shouldIntercept : ResolvedLocation → Bool) (capacity : Nat)
    (content : Bytes) :
    classifyTlsPrefix uris target shouldIntercept capacity (first :: content) = .ok .raw := by
  rw [classifyTlsPrefix, if_pos (by simpa using other)]
  rfl

theorem classifyTlsPrefix_of_version {major minor : UInt8}
    (other : major ≠ 0x03 ∨ !isTlsMinor minor) (uris : UriLibrary) (target : TunnelTarget)
    (shouldIntercept : ResolvedLocation → Bool) (capacity : Nat) (content : Bytes) :
    classifyTlsPrefix uris target shouldIntercept capacity (0x16 :: major :: minor :: content) =
      .ok .raw := by
  rw [classifyTlsPrefix, if_neg (by simp)]
  change (if content.length + 3 < 3 then _ else if _ then _ else _) = _
  rw [if_pos other]
  rfl

theorem classifyTlsPrefix_of_length {high low : UInt8} (empty : u16FromBe high low = 0)
    (uris : UriLibrary) (target : TunnelTarget) (shouldIntercept : ResolvedLocation → Bool)
    (capacity : Nat) (major minor : UInt8) (content : Bytes) :
    classifyTlsPrefix uris target shouldIntercept capacity
        (0x16 :: major :: minor :: high :: low :: content) = .ok .raw := by
  rw [classifyTlsPrefix, if_neg (by simp)]
  change (if content.length + 5 < 3 then _ else if _ then _ else
    if content.length + 5 < 5 then _ else if _ then _ else _) = _
  have long : ¬content.length + 5 < 3 ∧ ¬content.length + 5 < 5 := by omega
  rw [if_pos empty]
  exact ite_self _

variable (uris : UriLibrary) (target : TunnelTarget) (shouldIntercept : ResolvedLocation → Bool)
  (capacity : Nat)

theorem classifyTlsPrefix_settles ⦃short long : Bytes⦄
    (begins : short <+: long) (within : long.length ≤ capacity) (nonempty : short ≠ [])
    (answers : classifyTlsPrefix uris target shouldIntercept capacity short ≠ .ok .needMoreBytes) :
    classifyTlsPrefix uris target shouldIntercept capacity long =
      classifyTlsPrefix uris target shouldIntercept capacity short := by
  obtain ⟨later, rfl⟩ := begins
  obtain ⟨first, content, rfl⟩ := exists_cons_of_ne_nil nonempty
  by_cases handshake : first = 0x16
  · subst handshake
    match content with
    | major :: minor :: high :: low :: kind :: content =>
      simp only [cons_append]
      rw [classifyTlsPrefix_cons] at answers
      rw [classifyTlsPrefix_cons, classifyTlsPrefix_cons]
      split
      · rfl
      rename_i version
      split
      · rfl
      rename_i nonzero
      split
      · rfl
      rename_i hello
      split
      · rfl
      rename_i pinned
      rw [if_neg version, if_neg nonzero, if_neg hello, if_neg pinned] at answers
      have settled := extractTlsServerName_settles uris capacity
        (prefix_append (0x16 :: major :: minor :: high :: low :: kind :: content) later)
        within (fun waits => answers (by rw [waits]))
      simp_all
    | [] | [_] => exact absurd rfl answers
    | [major, minor] | [major, minor, high] =>
      by_cases version : major ≠ 0x03 ∨ !isTlsMinor minor
      · simp [classifyTlsPrefix_of_version version]
      · exact absurd (if_neg version) answers
    | [major, minor, high, low] =>
      by_cases version : major ≠ 0x03 ∨ !isTlsMinor minor
      · simp [classifyTlsPrefix_of_version version]
      by_cases empty : u16FromBe high low = 0
      · simp [classifyTlsPrefix_of_length empty]
      · exact absurd ((if_neg version).trans (if_neg empty)) answers
  grind [classifyTlsPrefix_of_head]

/-! ### Both -/

theorem classifyClientPrefix_eq :
    classifyClientPrefix uris target shouldIntercept capacity = fun arrived =>
      if classifyHttpPrefix uris target capacity arrived ≠ .ok .raw then
        classifyHttpPrefix uris target capacity arrived
      else classifyTlsPrefix uris target shouldIntercept capacity arrived := by
  funext arrived
  rw [classifyClientPrefix, classifyHttpPrefix_eq]
  simp only [ne_eq, Except.ok.injEq]
  rfl

theorem classifyClientPrefix_total (arrived : Bytes) :
    ∃ answer, classifyClientPrefix uris target shouldIntercept capacity arrived = .ok answer := by
  rw [classifyClientPrefix_eq]
  dsimp only
  split
  · exact ⟨_, classifyHttpPrefix_eq ..⟩
  · exact classifyTlsPrefix_total ..

/-- A classification is the same on every longer prefix within the capacity. -/
theorem classifyClientPrefix_settles :
    Settles capacity (.ok .needMoreBytes)
      (classifyClientPrefix uris target shouldIntercept capacity) := by
  have httpSettles : Settles capacity (.ok .needMoreBytes)
      (classifyHttpPrefix uris target capacity) := by
    intro short long begins within answers
    rw [classifyHttpPrefix_eq] at answers
    rw [classifyHttpPrefix_eq, classifyHttpPrefix_eq]
    exact congrArg Except.ok (httpAnswer_settles uris target capacity begins within
      fun waits => answers (congrArg Except.ok waits))
  rw [classifyClientPrefix_eq]
  refine Settles.handOver (by simp) httpSettles ?_
  intro short long begins within handed answers
  refine classifyTlsPrefix_settles uris target shouldIntercept capacity begins within ?_ answers
  rintro rfl
  cases handed

/-- The task answers what the classification answers first. -/
theorem classifyTunnel_arrivals {capacity : Nat} (positive : 0 < capacity) {sent : Bytes}
    {pieces : List Bytes} (nonempty : sent ≠ [] ∨ pieces.head? ≠ some []) :
    classifyTunnel uris target shouldIntercept capacity (arrivals sent pieces) =
      (probeArrivals capacity (.ok .needMoreBytes)
        (classifyClientPrefix uris target shouldIntercept capacity) sent pieces).mapError
          Empty.elim := by
  induction pieces generalizing sent with
  | nil => rfl
  | cons piece pieces ih =>
    have more : sent ++ piece ≠ [] := by
      rintro none
      obtain ⟨rfl, rfl⟩ := append_eq_nil_iff.mp none
      exact nonempty.elim (absurd rfl) (absurd rfl)
    have seen : ((sent ++ piece).take capacity).isEmpty = false := by
      rw [isEmpty_eq_false_iff, Ne, take_eq_nil_iff]
      grind
    obtain ⟨_, answers⟩ := classifyClientPrefix_total uris target shouldIntercept capacity
      ((sent ++ piece).take capacity)
    rw [arrivals, classifyTunnel, probeArrivals]
    simp only [seen, answers, Outcome.mapError_ok, ok_bind, Except.ok.injEq,
      Bool.false_eq_true, if_false]
    split
    · exact ih (.inl more)
    · rfl

/-- The classification of a tunnel does not depend on how the client's bytes arrive. -/
structure SegmentationFree (uris : UriLibrary) (target : TunnelTarget)
    (shouldIntercept : ResolvedLocation → Bool) (capacity : Nat) : Prop where
  /-- No prefix makes the classification index out of bounds. -/
  total : ∀ arrived, ∃ answer,
    classifyClientPrefix uris target shouldIntercept capacity arrived = .ok answer
  /-- What is answered to a prefix is answered to every longer one up to the capacity. -/
  settles : ∀ short long, short <+: long → long.length ≤ capacity →
    classifyClientPrefix uris target shouldIntercept capacity short ≠ .ok .needMoreBytes →
      classifyClientPrefix uris target shouldIntercept capacity long =
        classifyClientPrefix uris target shouldIntercept capacity short
  /-- The same bytes lead to the same classification in whatever pieces they arrive. -/
  cut : ∀ first later first' later', first ≠ [] → first' ≠ [] →
    first ++ later.flatten = first' ++ later'.flatten →
      classifyTunnel uris target shouldIntercept capacity (arrivals [] (first :: later)) =
        classifyTunnel uris target shouldIntercept capacity (arrivals [] (first' :: later'))

theorem classification_segmentationFree (uris : UriLibrary) (target : TunnelTarget)
    (shouldIntercept : ResolvedLocation → Bool) (capacity : Nat) :
    SegmentationFree uris target shouldIntercept capacity where
  total := classifyClientPrefix_total uris target shouldIntercept capacity
  settles _ _ begins within answers :=
    classifyClientPrefix_settles uris target shouldIntercept capacity begins within answers
  cut := by
    intro first later first' later' nonempty nonempty' same
    rcases Nat.eq_zero_or_pos capacity with rfl | positive
    · rfl
    have settles := classifyClientPrefix_settles uris target shouldIntercept capacity
    have whole : ∀ (first : Bytes) (later : List Bytes), first ≠ [] →
        classifyTunnel uris target shouldIntercept capacity (arrivals [] (first :: later)) =
          (classifyClientPrefix uris target shouldIntercept capacity
            ((first ++ later.flatten).take capacity)).mapError Empty.elim := by
      intro first later nonempty
      have starts : (first :: later).head? ≠ some [] := by simpa using nonempty
      rw [classifyTunnel_arrivals uris target shouldIntercept positive (.inr starts),
        settles.probeArrivals_eq (cons_ne_nil first later) []]
      rfl
    rw [whole first later nonempty, whole first' later' nonempty', same]

end SprakCapture.Control
