import SprakCapture.Data.Outcome

/-!
# Byte strings

Integers in both byte orders, checked reads and in-place writes over byte lists. A read
or a write outside the string is the fault `outOfBounds`. `getElem?_splice`
is the frame rule for writes: a write changes its own range and nothing else.
-/

namespace SprakCapture.Data

open List Outcome

/-- A byte string. -/
abbrev Bytes := List UInt8

/-- A byte string of a fixed width. -/
structure Octets (count : Nat) where
  bytes : Bytes
  width : bytes.length = count
deriving DecidableEq

/-- Four octets. -/
def Octets.quad (first second third fourth : UInt8) : Octets 4 :=
  ⟨[first, second, third, fourth], rfl⟩

@[ext] theorem Octets.ext {count : Nat} {left right : Octets count}
    (bytes : left.bytes = right.bytes) : left = right := by
  cases right
  cases bytes
  rfl

@[simp] theorem Octets.length_bytes {count : Nat} (octets : Octets count) :
    octets.bytes.length = count :=
  octets.width

/-! ### Network-order integers -/

/-- The 16-bit value of two bytes, most significant first. -/
def u16FromBe (high low : UInt8) : UInt16 := UInt16.ofNat (high.toNat * 256 + low.toNat)

/-- The two bytes of a 16-bit value, most significant first. -/
def u16ToBe (value : UInt16) : Bytes :=
  [UInt8.ofNat (value.toNat / 256), UInt8.ofNat (value.toNat % 256)]

/-- The 32-bit value of four bytes, most significant first. -/
def u32FromBe (first second third fourth : UInt8) : UInt32 :=
  UInt32.ofNat (((first.toNat * 256 + second.toNat) * 256 + third.toNat) * 256 + fourth.toNat)

/-- The four bytes of a 32-bit value, most significant first. -/
def u32ToBe (value : UInt32) : Bytes :=
  [UInt8.ofNat (value.toNat / 16777216), UInt8.ofNat (value.toNat / 65536 % 256),
    UInt8.ofNat (value.toNat / 256 % 256), UInt8.ofNat (value.toNat % 256)]

@[simp] theorem length_u16ToBe (value : UInt16) : (u16ToBe value).length = 2 := rfl

variable (value : UInt32)

@[simp] theorem length_u32ToBe : (u32ToBe value).length = 4 := rfl

@[simp] theorem toNat_u16FromBe (high low : UInt8) :
    (u16FromBe high low).toNat = high.toNat * 256 + low.toNat := by
  have highBound := high.toNat_lt
  have lowBound := low.toNat_lt
  unfold u16FromBe
  rw [UInt16.toNat_ofNat']
  omega

/-- Writing a 16-bit value and reading it back gives the value. -/
theorem u16FromBe_toBe (value : UInt16) :
    u16FromBe (UInt8.ofNat (value.toNat / 256)) (UInt8.ofNat (value.toNat % 256)) = value := by
  have bound := value.toNat_lt
  apply UInt16.toNat_inj.mp
  rw [toNat_u16FromBe, UInt8.toNat_ofNat', UInt8.toNat_ofNat']
  omega

theorem u16ToBe_fromBe (high low : UInt8) : u16ToBe (u16FromBe high low) = [high, low] := by
  have highBound := high.toNat_lt
  have lowBound := low.toNat_lt
  have highPart : UInt8.ofNat ((high.toNat * 256 + low.toNat) / 256) = high := by
    apply UInt8.toNat_inj.mp
    rw [UInt8.toNat_ofNat']
    omega
  have lowPart : UInt8.ofNat ((high.toNat * 256 + low.toNat) % 256) = low := by
    simp
  rw [u16ToBe, toNat_u16FromBe, highPart, lowPart]

theorem u32FromBe_toBe :
    u32FromBe (UInt8.ofNat (value.toNat / 16777216)) (UInt8.ofNat (value.toNat / 65536 % 256))
      (UInt8.ofNat (value.toNat / 256 % 256)) (UInt8.ofNat (value.toNat % 256)) = value := by
  have bound := value.toNat_lt
  apply UInt32.toNat_inj.mp
  unfold u32FromBe
  simp only [UInt8.toNat_ofNat', UInt32.toNat_ofNat']
  omega

/-! ### Little-endian integers -/

/-- The 32-bit value of four bytes, least significant first. -/
def u32FromLe (first second third fourth : UInt8) : UInt32 :=
  u32FromBe fourth third second first

/-- The four bytes of a 32-bit value, least significant first. -/
def u32ToLe (value : UInt32) : Bytes := (u32ToBe value).reverse

@[simp] theorem length_u32ToLe : (u32ToLe value).length = 4 := rfl

/-- Four bytes that were written from a value give the value back. -/
theorem exists_u32ToLe :
    ∃ first second third fourth, u32ToLe value = [first, second, third, fourth] ∧
      u32FromLe first second third fourth = value :=
  ⟨_, _, _, _, rfl, u32FromBe_toBe value⟩

/-! ### Checked reads -/

variable {start stop : Nat}

section Reads

variable {Error : Type}

/-- The byte at an index. -/
def byteAt (bytes : Bytes) (index : Nat) : Outcome Error UInt8 :=
  match bytes[index]? with
  | some byte => .ok byte
  | none => .error .outOfBounds

/-- The network-order 16-bit value at an index. -/
def u16At (bytes : Bytes) (index : Nat) : Outcome Error UInt16 := do
  let high ← byteAt bytes index
  let low ← byteAt bytes (index + 1)
  pure (u16FromBe high low)

/-- The network-order 32-bit value at an index. -/
def u32At (bytes : Bytes) (index : Nat) : Outcome Error UInt32 := do
  let first ← byteAt bytes index
  let second ← byteAt bytes (index + 1)
  let third ← byteAt bytes (index + 2)
  let fourth ← byteAt bytes (index + 3)
  pure (u32FromBe first second third fourth)

/-- The bytes of a half-open range. -/
def slice (bytes : Bytes) (start stop : Nat) : Outcome Error Bytes :=
  if start ≤ stop ∧ stop ≤ bytes.length then .ok ((bytes.drop start).take (stop - start))
  else .error .outOfBounds

theorem length_take_drop {bytes : Bytes} {start count : Nat}
    (inside : start + count ≤ bytes.length) : ((bytes.drop start).take count).length = count := by
  rw [length_take, length_drop]
  omega

/-- A fixed number of bytes at an index. -/
def octetsAt (count : Nat) (bytes : Bytes) (index : Nat) : Outcome Error (Octets count) :=
  if inside : index + count ≤ bytes.length then
    .ok ⟨(bytes.drop index).take count, length_take_drop inside⟩
  else .error .outOfBounds

variable {index : Nat} {bytes : Bytes}

theorem byteAt_eq_ok {byte : UInt8} :
    (byteAt bytes index : Outcome Error UInt8) = .ok byte ↔ bytes[index]? = some byte := by
  grind [byteAt]

theorem u16At_eq_ok {value : UInt16} :
    (u16At bytes index : Outcome Error UInt16) = .ok value ↔
      ∃ high low, bytes[index]? = some high ∧ bytes[index + 1]? = some low ∧
        value = u16FromBe high low := by
  unfold u16At
  simp only [Outcome.bind_eq_ok, byteAt_eq_ok]
  constructor
  · rintro ⟨high, first, low, second, result⟩
    cases result
    exact ⟨high, low, first, second, rfl⟩
  · rintro ⟨high, low, first, second, rfl⟩
    exact ⟨high, first, low, second, rfl⟩

variable {count : Nat} {octets : Octets count}

theorem octetsAt_eq_ok :
    (octetsAt count bytes index : Outcome Error (Octets count)) = .ok octets ↔
      index + count ≤ bytes.length ∧ octets.bytes = (bytes.drop index).take count := by
  unfold octetsAt
  split
  · rename_i inside
    simp only [Except.ok.injEq, inside, true_and]
    constructor
    · rintro rfl
      rfl
    · intro same
      exact Octets.ext same.symm
  · rename_i outside
    simp [outside]

theorem slice_eq_ok {range : Bytes} :
    (slice bytes start stop : Outcome Error Bytes) = .ok range ↔
      start ≤ stop ∧ stop ≤ bytes.length ∧ range = (bytes.drop start).take (stop - start) := by
  grind [slice]

variable {first second : Bytes}

/-- Reads depend only on the bytes they read. -/
theorem byteAt_congr (same : second[index]? = first[index]?) :
    (byteAt second index : Outcome Error UInt8) = byteAt first index := by
  unfold byteAt
  rw [same]

theorem u16At_congr
    (same : ∀ other, index ≤ other → other < index + 2 → second[other]? = first[other]?) :
    (u16At second index : Outcome Error UInt16) = u16At first index := by
  grind [u16At, byteAt_congr]

theorem u32At_congr
    (same : ∀ other, index ≤ other → other < index + 4 → second[other]? = first[other]?) :
    (u32At second index : Outcome Error UInt32) = u32At first index := by
  grind [u32At, byteAt_congr]

theorem octetsAt_congr
    (found : (octetsAt count first index : Outcome Error (Octets count)) = .ok octets)
    (inside : index + count ≤ second.length)
    (same : ∀ other, index ≤ other → other < index + count → second[other]? = first[other]?) :
    (octetsAt count second index : Outcome Error (Octets count)) = .ok octets := by
  obtain ⟨-, isRange⟩ := octetsAt_eq_ok.1 found
  refine octetsAt_eq_ok.2 ⟨inside, isRange.trans ?_⟩
  apply ext_getElem?
  grind

/-- The two bytes of a value that is read are those that are written for it. -/
theorem take_drop_of_u16At {value : UInt16}
    (found : (u16At bytes index : Outcome Error UInt16) = .ok value) :
    index + 2 ≤ bytes.length ∧ (bytes.drop index).take 2 = u16ToBe value := by
  obtain ⟨_, _, isHigh, isLow, rfl⟩ := u16At_eq_ok.1 found
  obtain ⟨inside, -⟩ := List.getElem?_eq_some_iff.mp isLow
  refine ⟨inside, ?_⟩
  rw [u16ToBe_fromBe]
  apply ext_getElem?
  intro other
  rw [getElem?_take, getElem?_drop]
  match other with
  | 0 => exact isHigh
  | 1 => exact isLow
  | other + 2 => rw [if_neg (by omega)]; rfl

/-! A field is read where its bytes stand. -/

variable {head tail : Bytes}

theorem byteAt_append (byte : UInt8) (length : head.length = index) :
    (byteAt (head ++ byte :: tail) index : Outcome Error UInt8) = .ok byte := by
  subst length
  rw [byteAt_eq_ok]
  simp

theorem u16At_append (value : UInt16) (length : head.length = index) :
    (u16At (head ++ (u16ToBe value ++ tail)) index : Outcome Error UInt16) = .ok value := by
  subst length
  refine u16At_eq_ok.2 ⟨_, _, ?_, ?_, (u16FromBe_toBe value).symm⟩
  · simp [u16ToBe]
  · simp [u16ToBe]

theorem u32At_append (length : head.length = index) :
    (u32At (head ++ (u32ToBe value ++ tail)) index : Outcome Error UInt32) = .ok value := by
  subst length
  unfold u32At
  have read : ∀ offset byte, (u32ToBe value)[offset]? = some byte →
      (byteAt (head ++ (u32ToBe value ++ tail)) (head.length + offset) : Outcome Error UInt8) =
        .ok byte := by
    intro offset byte found
    rw [byteAt_eq_ok, getElem?_append_right (by omega), Nat.add_sub_cancel_left,
      getElem?_append_left (List.getElem?_eq_some_iff.mp found).1, found]
  have first := read 0 _ rfl
  rw [Nat.add_zero] at first
  rw [first, Outcome.ok_bind, read 1 _ rfl, Outcome.ok_bind, read 2 _ rfl, Outcome.ok_bind,
    read 3 _ rfl, Outcome.ok_bind, u32FromBe_toBe]
  rfl

theorem octetsAt_append (octets : Octets count) (length : head.length = index) :
    (octetsAt count (head ++ (octets.bytes ++ tail)) index : Outcome Error (Octets count)) =
      .ok octets := by
  subst length
  refine octetsAt_eq_ok.2 ⟨?_, ?_⟩
  · simp
  · rw [drop_left, take_left' octets.width]

theorem slice_append (range : Bytes) (startLength : head.length = start)
    (stopLength : head.length + range.length = stop) :
    (slice (head ++ (range ++ tail)) start stop : Outcome Error Bytes) = .ok range := by
  subst startLength
  subst stopLength
  refine slice_eq_ok.2 ⟨by omega, ?_, ?_⟩
  · simp
  · rw [drop_left, take_left' (by omega)]

theorem safe_byteAt (inside : index < bytes.length) :
    Safe (byteAt bytes index : Outcome Error UInt8) := by
  unfold byteAt
  rw [getElem?_eq_getElem inside]
  exact safe_ok _

theorem safe_u16At (inside : index + 1 < bytes.length) :
    Safe (u16At bytes index : Outcome Error UInt16) :=
  safe_bind (safe_byteAt (by omega)) fun _ _ =>
    safe_bind (safe_byteAt inside) fun _ _ => safe_pure _

theorem safe_u32At (inside : index + 3 < bytes.length) :
    Safe (u32At bytes index : Outcome Error UInt32) :=
  safe_bind (safe_byteAt (by omega)) fun _ _ =>
    safe_bind (safe_byteAt (by omega)) fun _ _ =>
      safe_bind (safe_byteAt (by omega)) fun _ _ =>
        safe_bind (safe_byteAt inside) fun _ _ => safe_pure _

theorem safe_slice (ordered : start ≤ stop) (inside : stop ≤ bytes.length) :
    Safe (slice bytes start stop : Outcome Error Bytes) := by
  unfold slice
  rw [if_pos ⟨ordered, inside⟩]
  exact safe_ok _

theorem safe_octetsAt (inside : index + count ≤ bytes.length) :
    Safe (octetsAt count bytes index : Outcome Error (Octets count)) := by
  unfold octetsAt
  rw [dif_pos inside]
  exact safe_ok _

end Reads

/-! ### In-place writes -/

/-- Replace the bytes at an offset by a patch of the same extent. -/
def splice (bytes : Bytes) (offset : Nat) (patch : Bytes) : Bytes :=
  bytes.take offset ++ patch ++ bytes.drop (offset + patch.length)

/-- Replace the bytes at an offset by a patch that has to fit. -/
def overwrite {Error : Type} (bytes : Bytes) (offset : Nat) (patch : Bytes) : Outcome Error Bytes :=
  if offset + patch.length ≤ bytes.length then .ok (splice bytes offset patch)
  else .error .outOfBounds

variable {offset : Nat} {patch : Bytes} {bytes : Bytes}

@[simp] theorem length_splice (fits : offset + patch.length ≤ bytes.length) :
    (splice bytes offset patch).length = bytes.length := by
  grind [splice]

/-- A splice changes its own range and nothing else. -/
theorem getElem?_splice (fits : offset + patch.length ≤ bytes.length) (index : Nat) :
    (splice bytes offset patch)[index]? =
      if offset ≤ index ∧ index < offset + patch.length then patch[index - offset]?
      else bytes[index]? := by
  have takeLength : (bytes.take offset).length = offset := by
    rw [length_take]
    omega
  unfold splice
  split
  · grind
  by_cases before : index < offset
  · grind
  have appendLength : (bytes.take offset ++ patch).length = offset + patch.length := by
    rw [length_append, takeLength]
  rw [getElem?_append_right (by omega), getElem?_drop]
  congr 1
  omega

theorem splice_eq_self (same : (bytes.drop offset).take patch.length = patch) :
    splice bytes offset patch = bytes := by
  have rest := take_append_drop patch.length (bytes.drop offset)
  rw [same, drop_drop] at rest
  rw [splice, append_assoc, rest, take_append_drop]

variable {Error : Type}

theorem u16At_splice {value : UInt16} (fits : offset + 2 ≤ bytes.length) :
    (u16At (splice bytes offset (u16ToBe value)) offset : Outcome Error UInt16) = .ok value := by
  have length : (bytes.take offset).length = offset := by
    rw [length_take]
    omega
  rw [splice, append_assoc]
  exact u16At_append value length

theorem overwrite_of_fits (fits : offset + patch.length ≤ bytes.length) :
    (overwrite bytes offset patch : Outcome Error Bytes) = .ok (splice bytes offset patch) :=
  if_pos fits

/-- A range is known by its bytes. -/
theorem take_drop_eq {bytes range : Bytes}
    (same : ∀ index < range.length, bytes[offset + index]? = range[index]?) :
    (bytes.drop offset).take range.length = range := by
  apply ext_getElem?
  grind

/-- A field is written where its bytes stand. -/
theorem overwrite_append {head field tail patch : Bytes} (length : head.length = offset)
    (width : field.length = patch.length) :
    (overwrite (head ++ (field ++ tail)) offset patch : Outcome Error Bytes) =
      .ok (head ++ (patch ++ tail)) := by
  subst length
  rw [overwrite_of_fits (by simp [width]), splice, take_left, ← width,
    ← drop_drop, drop_left, drop_left, append_assoc]

end SprakCapture.Data
