import SprakCapture.Client.NativeText

/-!
# Questions of DNS messages

`dnsTransactionMatches` decides whether a response belongs to a query. It compares names as
dotted texts. `NameAt` is the meaning of a name in a message, a list of labels, and
`dnsTransactionMatches_sound` says what a match is worth in its terms: the names are the same up
to case if their texts are cut into labels alike.
-/

namespace SprakCapture.Client

open Data List Option

/-! ### The parser -/

/-- Two bytes in network order. -/
def readUint16 (packet : Bytes) (offset : Nat) : Option Nat :=
  match packet[offset]?, packet[offset + 1]? with
  | some high, some low => some (high.toNat * 256 + low.toNat)
  | _, _ => none

/-- Put a label behind what was parsed. -/
def appendLabel (parsed label : Bytes) : Bytes :=
  (if parsed.isEmpty then parsed else parsed ++ [46]) ++ label

/-- The bytes of a message from one offset on. -/
def packetSlice (packet : Bytes) (position length : Nat) : Bytes :=
  (packet.drop position).take length

/-- The loop of `ReadName`. `after` is the offset behind the name, once a pointer was followed. -/
def readNameLoop (packet : Bytes) : Nat → Nat → Nat → Option Nat → Bytes → Option (Bytes × Nat)
  | 0, _, _, _, _ => none
  | turns + 1, position, jumps, after, parsed =>
    match packet[position]? with
    | none => none
    | some length =>
      if length = 0 then
        if parsed.isEmpty then none else some (parsed, after.getD (position + 1))
      else if 192 ≤ length.toNat then
        match packet[position + 1]? with
        | none => none
        | some low =>
          let pointer := length.toNat % 64 * 256 + low.toNat
          if 16 < jumps + 1 ∨ packet.length ≤ pointer then none
          else readNameLoop packet turns pointer (jumps + 1)
            (some (after.getD (position + 2))) parsed
      else if 64 ≤ length.toNat ∨ packet.length - (position + 1) < length.toNat then none
      else
        readNameLoop packet turns (position + 1 + length.toNat) jumps after
          (appendLabel parsed (packetSlice packet (position + 1) length.toNat))

/-- The turns that the loop can take: a label moves it on, and at most 16 pointers move it back. -/
def readNameTurns (packet : Bytes) : Nat := 17 * (packet.length + 1) + 1

/-- A name, and the offset behind it. -/
def readName (packet : Bytes) (offset : Nat) : Option (Bytes × Nat) :=
  readNameLoop packet (readNameTurns packet) offset 0 none []

def isLetterByte (byte : UInt8) : Bool :=
  (97 ≤ byte && byte ≤ 122) || (65 ≤ byte && byte ≤ 90)

/-- What `NormalizeDnsDomain` keeps while it reads characters. -/
structure DomainScan where
  labelLength : Nat
  labelStart : Bool
  previous : UInt8

/-- The loop of `NormalizeDnsDomain`. -/
def normalizeDnsLoop : DomainScan → Bytes → Option Bytes
  | scan, [] => if !scan.labelStart && scan.previous != 45 then some [] else none
  | scan, raw :: rest =>
    if raw = 46 then
      if scan.labelStart || 63 < scan.labelLength || scan.previous == 45 then none
      else (normalizeDnsLoop ⟨0, true, raw⟩ rest).map (raw :: ·)
    else if (!isLetterByte raw && !isDigitByte raw && raw != 45) ||
        (scan.labelStart && raw == 45) then none
    else if 63 < scan.labelLength + 1 then none
    else
      (normalizeDnsLoop ⟨scan.labelLength + 1, false, lowerByte raw⟩ rest).map
        (lowerByte raw :: ·)

/-- A host name in lower case. -/
def normalizeDnsDomain (domain : Bytes) : Option Bytes :=
  if domain.isEmpty || 253 < domain.length then none else normalizeDnsLoop ⟨0, true, 0⟩ domain

/-- A message with one question: the normalised name, and its type and class. -/
def readQuestion (packet : Bytes) : Option (Bytes × Bytes) := do
  let (name, stop) ← readName packet 12
  if packet.length - stop < 4 then none
  let domain ← normalizeDnsDomain name
  some (domain, packetSlice packet stop 4)

/-- Compare the transaction and the question of a query and a response. -/
def dnsTransactionMatches (query response : Bytes) : Bool :=
  if query.length < 16 ∨ response.length < 16 ∨ query[0]? ≠ response[0]? ∨
      query[1]? ≠ response[1]? ∨ (response[2]?.getD 0).toNat < 128 then false
  else if readUint16 query 4 ≠ some 1 ∨ readUint16 response 4 ≠ some 1 then false
  else
    match readQuestion query, readQuestion response with
    | some asked, some answered => asked = answered
    | _, _ => false

/-- The transaction that a message names in its first two bytes. -/
def transactionOf (packet : Bytes) : Option Nat := readUint16 packet 0

/-! ### The loop ends -/

/-! ### What a name means -/

/-- The labels of the name at an offset of a message, and the offset behind the name. -/
inductive NameAt (packet : Bytes) : Nat → List Bytes → Nat → Prop where
  | root {position : Nat} (isRoot : packet[position]? = some 0) :
      NameAt packet position [] (position + 1)
  | label {position stop : Nat} {length : UInt8} {labels : List Bytes}
      (isLength : packet[position]? = some length) (positive : length ≠ 0)
      (short : length.toNat < 64) (within : position + 1 + length.toNat ≤ packet.length)
      (rest : NameAt packet (position + 1 + length.toNat) labels stop) :
      NameAt packet position (packetSlice packet (position + 1) length.toNat :: labels) stop
  | pointer {position stop : Nat} {high low : UInt8} {labels : List Bytes}
      (isPointer : packet[position]? = some high) (marked : 192 ≤ high.toNat)
      (isLow : packet[position + 1]? = some low)
      (target : NameAt packet (high.toNat % 64 * 256 + low.toNat) labels stop) :
      NameAt packet position labels (position + 2)

variable {labels labels' : List Bytes}

variable {query response packet domain normal parsed : Bytes} {position stop : Nat}

/-- A message has one name at an offset. -/
theorem NameAt.unique {stop' : Nat} (first : NameAt packet position labels stop)
    (second : NameAt packet position labels' stop') : labels = labels' ∧ stop = stop' := by
  induction first generalizing labels' stop' with
  | root isRoot =>
    cases second with
    | root => exact ⟨rfl, rfl⟩
    | label isLength positive | pointer isPointer marked => simp_all
  | label isLength positive short _ _ ih =>
    cases second with
    | root isRoot =>
      simp_all
    | label isLength' _ _ _ rest' =>
      rw [isLength] at isLength'
      cases isLength'
      obtain ⟨rfl, rfl⟩ := ih rest'
      exact ⟨rfl, rfl⟩
    | pointer isPointer marked =>
      grind
  | pointer isPointer marked _ _ ih =>
    cases second with
    | root isRoot =>
      rw [isPointer] at isRoot
      simp_all
    | label isLength _ short | pointer => grind

theorem NameAt.nonempty {labels : List Bytes} (name : NameAt packet position labels stop) :
    ∀ label ∈ labels, label ≠ [] := by
  induction name with
  | root => exact nofun
  | @label position stop length labels _ positive _ _ _ ih =>
    intro label member
    rcases mem_cons.mp member with rfl | later
    · intro empty
      have zero : length.toNat = 0 := by
        have size := congrArg List.length empty
        grind [packetSlice]
      exact positive (UInt8.toNat_inj.mp zero)
    · exact ih label later
  | pointer _ _ _ _ ih => exact ih

/-- Labels with dots between them, in the way the loop puts them together. -/
def dottedFrom (parsed : Bytes) (labels : List Bytes) : Bytes := labels.foldl appendLabel parsed

theorem readNameLoop_sound {turns position jumps : Nat} {after : Option Nat} {parsed domain : Bytes}
    {stop : Nat}
    (read : readNameLoop packet turns position jumps after parsed = some (domain, stop)) :
    ∃ labels behind, NameAt packet position labels behind ∧
      domain = dottedFrom parsed labels ∧ stop = after.getD behind := by
  induction turns generalizing position jumps after parsed with
  | zero => cases read
  | succ turns ih =>
    rw [readNameLoop] at read
    split at read
    · cases read
    rename_i length isLength
    split at read
    · rename_i zero
      split at read
      · cases read
      · cases read
        exact ⟨[], position + 1, .root (zero ▸ isLength), rfl, rfl⟩
    rename_i positive
    split at read
    · rename_i marked
      split at read
      · cases read
      rename_i low isLow
      dsimp only at read
      split at read
      · cases read
      · obtain ⟨labels, behind, name, text, offset⟩ := ih read
        exact ⟨labels, position + 2, .pointer isLength marked isLow name, text, offset⟩
    split at read
    · cases read
    · obtain ⟨labels, behind, name, text, offset⟩ := ih read
      have inside := (List.getElem?_eq_some_iff.mp isLength).1
      exact ⟨_, behind, .label isLength positive (by omega) (by omega) name, text, offset⟩

theorem dottedFrom_cons (nonempty : parsed ≠ []) (labels : List Bytes) :
    dottedFrom parsed labels = parsed ++ labels.flatMap fun label => 46 :: label := by
  induction labels generalizing parsed with
  | nil => simp [dottedFrom]
  | cons label labels ih =>
    have longer : appendLabel parsed label = parsed ++ 46 :: label := by
      simp [appendLabel, nonempty]
    have step := @ih (appendLabel parsed label) (by
      rw [longer]
      simp)
    rw [dottedFrom, foldl_cons, ← dottedFrom, step, longer]
    simp

/-- The text of a name whose first label is known. -/
theorem dottedFrom_nil {label : Bytes} (nonempty : label ≠ []) (labels : List Bytes) :
    dottedFrom [] (label :: labels) = label ++ labels.flatMap fun label => 46 :: label := by
  rw [dottedFrom, foldl_cons, ← dottedFrom, show appendLabel [] label = label from rfl,
    dottedFrom_cons nonempty]

/-! ### Matching questions -/

/-- Names whose labels differ at most in the case of letters. -/
def SameName (labels labels' : List Bytes) : Prop :=
  labels.map (List.map lowerByte) = labels'.map (List.map lowerByte)

instance (labels labels' : List Bytes) : Decidable (SameName labels labels') :=
  inferInstanceAs (Decidable (_ = _))

/-- Texts of labels of the same lengths tell the labels. -/
theorem flatMap_dotted_inj (lengths : labels.map List.length = labels'.map List.length)
    (texts : (labels.flatMap fun label => 46 :: label).map lowerByte =
      (labels'.flatMap fun label => 46 :: label).map lowerByte) : SameName labels labels' := by
  induction labels generalizing labels' with
  | nil =>
    cases labels' with
    | nil => rfl
    | cons label' labels' => cases lengths
  | cons label labels =>
    cases labels' with
    | nil => cases lengths
    | cons label' labels' =>
      obtain ⟨sameLength, _⟩ := List.cons.inj lengths
      simp only [flatMap_cons, map_append] at texts
      obtain ⟨_, _⟩ := append_inj texts (by simpa using sameLength)
      grind [SameName]

theorem sameName_of_dotted (nonempty : ∀ label ∈ labels, label ≠ [])
    (nonempty' : ∀ label ∈ labels', label ≠ [])
    (lengths : labels.map List.length = labels'.map List.length)
    (texts : (dottedFrom [] labels).map lowerByte = (dottedFrom [] labels').map lowerByte) :
    SameName labels labels' := by
  cases labels with
  | nil =>
    cases labels' with
    | nil => rfl
    | cons label' labels' => cases lengths
  | cons label labels =>
    cases labels' with
    | nil => cases lengths
    | cons label' labels' =>
      obtain ⟨sameLength, sameLengths⟩ := List.cons.inj lengths
      rw [dottedFrom_nil (nonempty label mem_cons_self),
        dottedFrom_nil (nonempty' label' mem_cons_self), map_append,
        map_append] at texts
      obtain ⟨first, rest⟩ := append_inj texts (by simpa using sameLength)
      rw [SameName, map_cons, map_cons, first, flatMap_dotted_inj sameLengths rest]

theorem normalizeDnsLoop_eq {scan : DomainScan} {domain normal : Bytes}
    (normalized : normalizeDnsLoop scan domain = some normal) : normal = domain.map lowerByte := by
  induction domain generalizing scan normal with
  | nil =>
    rw [normalizeDnsLoop] at normalized
    split at normalized <;> cases normalized
    rfl
  | cons _ _ ih =>
    rw [normalizeDnsLoop] at normalized
    split at normalized
    · rename_i isDot
      split at normalized
      · cases normalized
      · obtain ⟨tail, found, rfl⟩ := map_eq_some_iff.mp normalized
        rw [ih found, isDot]
        rfl
    · split at normalized
      · cases normalized
      split at normalized
      · cases normalized
      · obtain ⟨tail, found, rfl⟩ := map_eq_some_iff.mp normalized
        rw [map_cons, ih found]

/-- A name that is accepted is changed in the case of its letters only. -/
theorem normalizeDnsDomain_eq (normalized : normalizeDnsDomain domain = some normal) :
    normal = domain.map lowerByte := by
  unfold normalizeDnsDomain at normalized
  split at normalized
  · cases normalized
  · exact normalizeDnsLoop_eq normalized

theorem readQuestion_sound {fields : Bytes} (read : readQuestion packet = some (domain, fields)) :
    ∃ labels stop, NameAt packet 12 labels stop ∧
      domain = (dottedFrom [] labels).map lowerByte ∧ fields = packetSlice packet stop 4 ∧
      fields.length = 4 := by
  simp only [readQuestion, bind_eq_bind, bind_eq_some_iff] at read
  obtain ⟨⟨_, stop⟩, named, rest⟩ := read
  split at rest
  · cases rest
  simp only [bind_eq_some_iff] at rest
  obtain ⟨_, normalized, rfl, rfl⟩ := rest
  obtain ⟨labels, _, isName, text, offset⟩ := readNameLoop_sound named
  subst text offset
  refine ⟨labels, _, isName, normalizeDnsDomain_eq normalized, rfl, ?_⟩
  rw [packetSlice, length_take, length_drop]
  omega

/-- A response answers the question of a query: it has the transaction, the name up to case, the
type and the class of the query. -/
def Answers (query response : Bytes) : Prop :=
  query.take 2 = response.take 2 ∧ query.length ≥ 2 ∧ 128 ≤ (response[2]?.getD 0).toNat ∧
    ∃ labels stop labels' stop', NameAt query 12 labels stop ∧ NameAt response 12 labels' stop' ∧
      SameName labels labels' ∧ packetSlice query stop 4 = packetSlice response stop' 4 ∧
      (packetSlice query stop 4).length = 4

/-- Names with the same text are cut into labels at the same places. -/
def CutAlike (query response : Bytes) : Prop :=
  ∀ labels stop labels' stop', NameAt query 12 labels stop → NameAt response 12 labels' stop' →
    (dottedFrom [] labels).map lowerByte = (dottedFrom [] labels').map lowerByte →
    labels.map List.length = labels'.map List.length

theorem take_two (queryLong : 16 ≤ query.length) (responseLong : 16 ≤ response.length)
    (first : query[0]? = response[0]?) (second : query[1]? = response[1]?) :
    query.take 2 = response.take 2 := by
  obtain ⟨a, b, query, rfl⟩ : ∃ a b rest, query = a :: b :: rest := by
    match query, queryLong with
    | a :: b :: rest, _ => exact ⟨a, b, rest, rfl⟩
  obtain ⟨c, d, response, rfl⟩ : ∃ c d rest, response = c :: d :: rest := by
    match response, responseLong with
    | c :: d :: rest, _ => exact ⟨c, d, rest, rfl⟩
  simp_all

/-- A match is an answer exactly if the names are cut alike. -/
theorem dnsTransactionMatches_answers_iff (accepted : dnsTransactionMatches query response = true) :
    Answers query response ↔ CutAlike query response := by
  unfold dnsTransactionMatches at accepted
  split at accepted
  · cases accepted
  rename_i header
  split at accepted
  · cases accepted
  split at accepted
  · rename_i asked answered askedRead answeredRead
    simp only [decide_eq_true_eq] at accepted
    subst accepted
    simp only [not_or, Nat.not_lt, not_not] at header
    obtain ⟨queryLong, responseLong, first, second, isResponse⟩ := header
    obtain ⟨labels, stop, name, text, slice, size⟩ := readQuestion_sound askedRead
    obtain ⟨labels', stop', name', text', slice', -⟩ := readQuestion_sound answeredRead
    constructor
    · rintro ⟨-, -, -, _, _, _, _, name₁, name₂, same, -⟩
      intro _ _ _ _ name₃ name₄ _
      obtain ⟨rfl, rfl⟩ := name₃.unique name₁
      obtain ⟨rfl, rfl⟩ := name₄.unique name₂
      have lengths := congrArg (List.map List.length) same
      simpa [Function.comp_def] using lengths
    · intro cut
      refine ⟨take_two queryLong responseLong first second, by omega, isResponse, labels, stop,
        labels', stop', name, name', ?_, slice.symm.trans slice', by rw [← slice]; exact size⟩
      have texts := text.symm.trans text'
      exact sameName_of_dotted name.nonempty name'.nonempty
        (cut labels stop labels' stop' name name' texts) texts
  · cases accepted

end SprakCapture.Client
