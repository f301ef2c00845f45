import SprakCapture.Data.Bytes

/-!
# IPv6 extension headers

Every walker of an extension chain skips headers the same way: the first octet of
a header names the next one and the second octet gives its length. Walkers differ
in where they stop, in the bounds they check and in the errors they report.
-/

namespace SprakCapture.ProcessCapture

open Data Data.Outcome

def fragmentHeader : UInt8 := 44

/-- How the length octet of a header is read. -/
inductive ExtensionKind where
  /-- Hop-by-hop options, routing and destination options count units of eight octets. -/
  | options
  /-- The authentication header counts units of four octets. -/
  | authentication
deriving DecidableEq

/-- The headers that walkers skip: `0 | 43 | 60` and `51`. -/
def extensionKind? (nextHeader : UInt8) : Option ExtensionKind :=
  if nextHeader = 0 ∨ nextHeader = 43 ∨ nextHeader = 60 then some .options
  else if nextHeader = 51 then some .authentication
  else none

/-- The extent of a header by its length octet. -/
def ExtensionKind.extent (kind : ExtensionKind) (lengthOctet : UInt8) : Nat :=
  match kind with
  | .options => (lengthOctet.toNat + 1) * 8
  | .authentication => (lengthOctet.toNat + 2) * 4

theorem ExtensionKind.eight_le_extent (kind : ExtensionKind) (lengthOctet : UInt8) :
    8 ≤ kind.extent lengthOctet := by
  cases kind with
  | options | authentication => simp only [extent]; omega

/-- Where a walker stands in a chain. -/
structure ChainPosition where
  nextHeader : UInt8
  offset : Nat
deriving DecidableEq

/-- The header at an offset is skipped to a position. -/
def Skips (kind : ExtensionKind) (packet : Bytes) (offset : Nat) (next : ChainPosition) : Prop :=
  ∃ nextHeader lengthOctet, packet[offset]? = some nextHeader ∧
    packet[offset + 1]? = some lengthOctet ∧ next = ⟨nextHeader, offset + kind.extent lengthOctet⟩

variable {next : ChainPosition}

variable {kind : ExtensionKind} {packet : Bytes} {offset : Nat}

/-- Skipping a header moves a walker by at least eight octets. -/
theorem Skips.advances (skips : Skips kind packet offset next) : offset + 8 ≤ next.offset := by
  obtain ⟨_, lengthOctet, _, _, rfl⟩ := skips
  have wide := kind.eight_le_extent lengthOctet
  dsimp only
  omega

theorem Skips.inside (skips : Skips kind packet offset next) : offset + 2 ≤ packet.length := by
  obtain ⟨_, _, _, second, _⟩ := skips
  exact (List.getElem?_eq_some_iff.mp second).1

/-- A turn of a walker over a header it skips, within a bound on where the header ends. -/
structure SkipsWithin (packet : Bytes) (bound : Nat) (position next : ChainPosition) : Prop where
  skips : ∃ kind, extensionKind? position.nextHeader = some kind ∧
    Skips kind packet position.offset next
  bounded : next.offset ≤ bound

theorem SkipsWithin.advances {bound : Nat} {position next : ChainPosition}
    (step : SkipsWithin packet bound position next) : position.offset + 8 ≤ next.offset := by
  obtain ⟨_, _, skips⟩ := step.skips
  exact skips.advances

section

variable {Error : Type}

/-- Read the header at a position and move behind it. -/
def skipExtension (kind : ExtensionKind) (packet : Bytes) (offset : Nat) :
    Outcome Error ChainPosition := do
  let nextHeader ← byteAt packet offset
  let lengthOctet ← byteAt packet (offset + 1)
  pure { nextHeader, offset := offset + kind.extent lengthOctet }

variable {kind : ExtensionKind} {packet : Bytes}

theorem skipExtension_eq_ok {offset : Nat} {position : ChainPosition} :
    (skipExtension kind packet offset : Outcome Error ChainPosition) = .ok position ↔
      Skips kind packet offset position := by
  unfold skipExtension Skips
  simp only [Outcome.bind_eq_ok, byteAt_eq_ok]
  constructor
  · rintro ⟨nextHeader, first, lengthOctet, second, result⟩
    cases result
    simp_all
  · rintro ⟨nextHeader, lengthOctet, first, second, rfl⟩
    exact ⟨nextHeader, first, lengthOctet, second, rfl⟩

theorem safe_skipExtension {offset : Nat} (inside : offset + 2 ≤ packet.length) :
    Safe (skipExtension kind packet offset : Outcome Error ChainPosition) :=
  safe_bind (safe_byteAt (by omega)) fun _ _ =>
    safe_bind (safe_byteAt (by omega)) fun _ _ => safe_pure _

variable {guard : Outcome Error Unit} {offset bound : Nat} {error : Error} {Value : Type}

/-- The common turn of the walkers: a header is skipped if it ends within a bound. A guard
that every such header passes adds nothing. -/
theorem skipTurn_eq_ok
    (passed : ∀ reached, Skips kind packet offset reached → reached.offset ≤ bound →
      guard = .ok ()) :
    (do
      guard
      let reached ← skipExtension kind packet offset
      raiseIf (bound < reached.offset) error
      pure (.inl reached) : Outcome Error (ChainPosition ⊕ Value)) = .ok (.inl next) ↔
      Skips kind packet offset next ∧ next.offset ≤ bound := by
  simp only [Outcome.bind_eq_ok, skipExtension_eq_ok, raiseIf_eq_ok, Nat.not_lt]
  constructor
  · rintro ⟨_, _, reached, skips, _, bounded, result⟩
    cases result
    exact ⟨skips, bounded⟩
  · rintro ⟨skips, bounded⟩
    exact ⟨(), passed next skips bounded, next, skips, (), bounded, rfl⟩

/-- The common turn never ends a walk. -/
theorem skipTurn_ne_done {value : Value} :
    (do
      guard
      let reached ← skipExtension kind packet offset
      raiseIf (bound < reached.offset) error
      pure (.inl reached) : Outcome Error (ChainPosition ⊕ Value)) ≠ .ok (.inr value) := by
  simp only [ne_eq, Outcome.bind_eq_ok]
  nofun

theorem safe_skipTurn (guardSafe : guard.Safe)
    (inside : guard = .ok () → offset + 2 ≤ packet.length) :
    Safe (do
      guard
      let reached ← skipExtension kind packet offset
      raiseIf (bound < reached.offset) error
      pure (.inl reached) : Outcome Error (ChainPosition ⊕ Value)) :=
  safe_bind guardSafe fun _ passed =>
    safe_bind (safe_skipExtension (inside passed)) fun _ _ =>
      safe_bind (safe_raiseIf _ _) fun _ _ => safe_pure _

end

end SprakCapture.ProcessCapture
