import SprakCapture.Data.OnesComplement
import SprakCapture.ProcessCapture.FragmentRewrite

/-!
# The UDP checksum

`udpChecksum` adds a pseudo header, the UDP header without its checksum and the payload in one
accumulator of 64 bits and folds the carries at the end. `udpChecksum_checks` says that its result
makes the ones' complement sum of the pseudo header and the datagram come out as all ones.
-/

namespace SprakCapture.ProcessCapture

open Data List

/-- The pseudo header that a datagram is checked with, for addresses of one family. -/
def pseudoHeader (sourceAddress destinationAddress : IpAddr) (udpLength : UInt16) : Bytes :=
  sourceAddress.octets ++ destinationAddress.octets ++
    if sourceAddress.isIpv4 then [0, udpProtocol] ++ u16ToBe udpLength
    else [0, 0] ++ u16ToBe udpLength ++ [0, 0, 0, udpProtocol]

/-- The words that are added for a datagram, in the order of the additions. -/
def checksumTerms (sourceAddress : IpAddr) (sourcePort : UInt16) (destinationAddress : IpAddr)
    (destinationPort udpLength : UInt16) (payload : Bytes) : List Nat :=
  words sourceAddress.octets ++ words destinationAddress.octets ++
    (if sourceAddress.isIpv4 then [udpProtocol.toNat, udpLength.toNat]
      else [udpLength.toNat, udpProtocol.toNat]) ++
    words (u16ToBe sourcePort) ++ words (u16ToBe destinationPort) ++ words (u16ToBe udpLength) ++
      words [0, 0] ++ words payload

/-! ### The accumulator -/

theorem addChecksumBytes_eq (sum : Nat) (bytes : Bytes) :
    addChecksumBytes sum bytes = sum + (words bytes).sum := by
  fun_induction addChecksumBytes sum bytes with
  | case1 => rfl
  | case2 sum high => simp [words]
  | case3 sum high _ _ ih => rw [ih, words, sum_cons, toNat_u16FromBe, Nat.add_assoc]

@[simp] theorem words_u16ToBe (value : UInt16) : words (u16ToBe value) = [value.toNat] := by
  have bound := value.toNat_lt
  have high : (UInt8.ofNat (value.toNat / 256)).toNat = value.toNat / 256 := by
    rw [UInt8.toNat_ofNat']
    omega
  have low : (UInt8.ofNat (value.toNat % 256)).toNat = value.toNat % 256 := by
    rw [UInt8.toNat_ofNat']
    omega
  rw [u16ToBe, words, words, high, low]
  have whole : value.toNat / 256 * 256 + value.toNat % 256 = value.toNat := by omega
  rw [whole]

section Terms

variable (sourceAddress destinationAddress : IpAddr)
  (sourcePort destinationPort udpLength checksum : UInt16) (payload : Bytes)

theorem lt_of_mem_checksumTerms : ∀ word ∈ checksumTerms sourceAddress sourcePort
    destinationAddress destinationPort udpLength payload, word < 0x10000 := by
  intro word member
  have lengthBound := udpLength.toNat_lt
  have protocolBound : udpProtocol.toNat < 0x10000 := by decide
  simp only [checksumTerms, mem_append] at member
  rcases member with ((((((inSource | inDestination) | inLength) | inPort) | inPort) | inLength) |
    inZero) | inPayload
  · exact lt_of_mem_words word inSource
  · exact lt_of_mem_words word inDestination
  · grind
  · exact lt_of_mem_words word inPort
  · exact lt_of_mem_words word inPort
  · exact lt_of_mem_words word inLength
  · exact lt_of_mem_words word inZero
  · exact lt_of_mem_words word inPayload

theorem length_checksumTerms_le : (checksumTerms sourceAddress sourcePort destinationAddress
    destinationPort udpLength payload).length ≤ 38 + payload.length := by
  have source := length_words_le sourceAddress.octets
  have destination := length_words_le destinationAddress.octets
  have rest := length_words_le payload
  have sourceWidth := sourceAddress.length_octets
  have destinationWidth := destinationAddress.length_octets
  have widths (address : IpAddr) : (if address.isIpv4 then 4 else 16) ≤ 16 := by
    split <;> omega
  have sourceBound := widths sourceAddress
  have destinationBound := widths destinationAddress
  have lengths : (if sourceAddress.isIpv4 then [udpProtocol.toNat, udpLength.toNat]
      else [udpLength.toNat, udpProtocol.toNat]).length = 2 := by
    split <;> rfl
  simp only [checksumTerms, length_append, words_u16ToBe, length_singleton]
  have zeros : (words [0, 0]).length = 1 := rfl
  omega

/-- The pseudo header and the datagram have the words that are added, and the checksum. -/
theorem sum_words_datagram :
    (words (pseudoHeader sourceAddress destinationAddress udpLength ++
        (udpHeaderBytes sourcePort destinationPort udpLength checksum ++ payload))).sum =
      (checksumTerms sourceAddress sourcePort destinationAddress destinationPort udpLength
        payload).sum + checksum.toNat := by
  have even (address : IpAddr) : address.octets.length % 2 = 0 := by
    rw [address.length_octets]
    split <;> rfl
  have port (value : UInt16) (rest : Bytes) :
      (words (u16ToBe value ++ rest)).sum = value.toNat + (words rest).sum := by
    rw [sum_words_append rest (by rw [length_u16ToBe]), words_u16ToBe, sum_singleton]
  have zeros : words [0, 0] = [0] := rfl
  have protocol : words [0, udpProtocol] = [udpProtocol.toNat] := rfl
  have widened : words [0, 0, 0, udpProtocol] = [0, udpProtocol.toNat] := rfl
  simp only [pseudoHeader, udpHeaderBytes, checksumTerms, append_assoc, sum_append,
    words_u16ToBe, zeros]
  rw [sum_words_append _ (even sourceAddress), sum_words_append _ (even destinationAddress)]
  by_cases isIpv4 : sourceAddress.isIpv4 = true
  · rw [if_pos isIpv4, if_pos isIpv4, append_assoc, sum_words_append _ (by rfl), protocol,
      port, port, port, port, port]
    simp only [sum_cons, sum_nil]
    omega
  · rw [if_neg isIpv4, if_neg isIpv4, append_assoc, append_assoc,
      sum_words_append _ (by rfl), zeros, port, sum_words_append _ (by rfl), widened, port, port,
      port, port]
    simp only [sum_cons, sum_nil]
    omega

end Terms

/-! ### The result -/

variable {Error : Type}

/-- Folding the carries gives the word that the accumulator stands for. -/
theorem foldCarries_eq (sum : Nat) :
    (foldCarries sum : Outcome Error Nat) = .ok (onesValue sum) := by
  unfold foldCarries
  have bound : sum < sum + 1 := Nat.lt_succ_self sum
  generalize sum + 1 = turns at bound
  induction turns generalizing sum with
  | zero => exact absurd bound (Nat.not_lt_zero _)
  | succ turns =>
    rw [Outcome.loop]
    by_cases wide : 0xffff < sum
    · grind [onesValue_fold]
    · rw [if_neg wide, onesValue_of_lt (by omega)]
      rfl

variable {sourceAddress destinationAddress : IpAddr}

theorem pseudoHeaderSum_eq (family : sourceAddress.isIpv4 = destinationAddress.isIpv4)
    (udpLength : UInt16) :
    (pseudoHeaderSum sourceAddress destinationAddress udpLength : Outcome Error Nat) =
      .ok (words sourceAddress.octets ++ words destinationAddress.octets ++
        if sourceAddress.isIpv4 then [udpProtocol.toNat, udpLength.toNat]
        else [udpLength.toNat, udpProtocol.toNat]).sum := by
  cases sourceAddress with
  | v4 source =>
    cases destinationAddress with
    | v4 destination =>
      simp only [pseudoHeaderSum, addChecksumBytes_eq, IpAddr.isIpv4, if_true,
        sum_append, sum_cons, Nat.zero_add, ← Nat.add_assoc]
      rfl
    | v6 destination => cases family
  | v6 source =>
    cases destinationAddress with
    | v4 destination => cases family
    | v6 destination =>
      simp only [pseudoHeaderSum, addChecksumBytes_eq, IpAddr.isIpv4,
        Bool.false_eq_true, if_false, sum_append, sum_cons, Nat.zero_add, ← Nat.add_assoc]
      rfl

/-- The checksum, from the terms that are added. -/
theorem udpChecksum_eq (family : sourceAddress.isIpv4 = destinationAddress.isIpv4)
    (sourcePort destinationPort : UInt16) {payload : Bytes} (bounded : payload.length + 8 < 65536) :
    (udpChecksum sourceAddress sourcePort destinationAddress destinationPort payload :
      Outcome Error UInt16) =
      .ok (let checksum := ~~~(UInt16.ofNat (onesValue (checksumTerms sourceAddress sourcePort
          destinationAddress destinationPort (UInt16.ofNat (payload.length + 8)) payload).sum))
        if checksum = 0 then 0xffff else checksum) := by
  unfold udpChecksum
  rw [if_pos bounded, Outcome.expect_some, Outcome.ok_bind, pseudoHeaderSum_eq family]
  simp only [addChecksumBytes_eq, foldCarries_eq, checksumTerms, sum_append, append_assoc]
  simp only [← Nat.add_assoc]
  rfl

/-- No accumulator of a checksum overflows, the checksum is not zero, and with it the ones'
complement sum of the pseudo header and the datagram is all ones. -/
theorem udpChecksum_checks {Error : Type} {sourceAddress destinationAddress : IpAddr}
    (family : sourceAddress.isIpv4 = destinationAddress.isIpv4)
    (sourcePort destinationPort : UInt16) {payload : Bytes} (bounded : payload.length + 8 ≤ 65535) :
    (∀ additions, ((checksumTerms sourceAddress sourcePort destinationAddress destinationPort
      (UInt16.ofNat (payload.length + 8)) payload).take additions).sum < 2 ^ 64) ∧
    ∃ checksum, (udpChecksum sourceAddress sourcePort destinationAddress destinationPort payload :
        Outcome Error UInt16) = .ok checksum ∧ checksum ≠ 0 ∧
      onesSum (words (pseudoHeader sourceAddress destinationAddress
          (UInt16.ofNat (payload.length + 8)) ++
        (udpHeaderBytes sourcePort destinationPort (UInt16.ofNat (payload.length + 8)) checksum ++
          payload))) = 0xffff := by
  refine ⟨fun additions => ?_, _, udpChecksum_eq family sourcePort destinationPort (by omega),
    ?_, ?_⟩
  · have small := lt_of_mem_checksumTerms sourceAddress destinationAddress sourcePort
      destinationPort (UInt16.ofNat (payload.length + 8)) payload
    have count := length_checksumTerms_le sourceAddress destinationAddress sourcePort
      destinationPort (UInt16.ofNat (payload.length + 8)) payload
    have total := sum_take_words_le small additions
    omega
  · grind
  · rw [onesSum_eq lt_of_mem_words, sum_words_datagram]
    refine onesValue_add_complement ?_
    have below := onesValue_lt (checksumTerms sourceAddress sourcePort destinationAddress
      destinationPort (UInt16.ofNat (payload.length + 8)) payload).sum
    generalize onesValue (checksumTerms sourceAddress sourcePort destinationAddress
      destinationPort (UInt16.ofNat (payload.length + 8)) payload).sum = word at below
    have complement : (~~~(UInt16.ofNat word)).toNat = 0xffff - word := by
      rw [UInt16.toNat_not, UInt16.toNat_ofNat_of_lt' below]
      rfl
    dsimp only
    split
    · rename_i isZero
      have full : 0xffff - word = 0 := by
        rw [← complement, isZero]
        rfl
      exact .inr ⟨by omega, rfl⟩
    · exact .inl complement

/-- An odd payload between two IPv4 addresses. -/
theorem udpChecksum_checks_odd :
    ∃ checksum, (udpChecksum (.ipv4 10 0 0 1) 53 (.ipv4 10 0 0 2) 4000 [1, 2, 255] :
        Outcome Unit UInt16) = .ok checksum ∧ checksum ≠ 0 ∧
      onesSum (words (pseudoHeader (.ipv4 10 0 0 1) (.ipv4 10 0 0 2)
          (UInt16.ofNat (([1, 2, 255] : Bytes).length + 8)) ++
        (udpHeaderBytes 53 4000 (UInt16.ofNat (([1, 2, 255] : Bytes).length + 8)) checksum ++
          [1, 2, 255]))) = 0xffff :=
  (@udpChecksum_checks _ (.ipv4 10 0 0 1) (.ipv4 10 0 0 2) rfl 53 _ _ (by decide)).2

end SprakCapture.ProcessCapture
