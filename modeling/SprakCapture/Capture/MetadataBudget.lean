import SprakCapture.Capture.Model

/-!
# What the metadata of a transaction occupies

The session charges every transaction for the structures and allocations it holds.
The sizes of the structures are a matter of the compiler and are collected in
`Layout`. They measure live memory, so their sums stay far below the range of `usize`
and the saturating additions of the program are additions.
-/

namespace SprakCapture.Capture

/-- The sizes of the types that are charged for. -/
structure Layout where
  sizeOfUsize : Nat
  sizeOfString : Nat
  sizeOfHeaderField : Nat
  sizeOfStringPair : Nat
  sizeOfTransactionError : Nat
  sizeOfTransactionSummary : Nat
  sizeOfTransactionRecord : Nat
  sizeOfStreamPacket : Nat
  sizeOfBodyRef : Nat
  sizeOfIndexKey : Nat
  sizeOfIndexMember : Nat

/-- The greatest integer that JavaScript represents exactly. -/
def maximumSafeInteger : Nat := 9007199254740991

def maximumTransactionSummaryBytes : Nat := maximumSafeInteger

def minimumMetadataMemoryBudgetBytes : Nat := 64 * 1024

def maximumStoredHeaderSideBytes : Nat := maximumSafeInteger

def maximumHeaderNameBytes : Nat := maximumSafeInteger

def maximumHeaderValueBytes : Nat := maximumSafeInteger

/-! ### Headers -/

/-- The characters that fit behind `used` bytes. -/
def fittingChars (maximumBytes : Nat) : Nat → List Char → List Char
  | _, [] => []
  | used, char :: rest =>
    if used + char.utf8Size > maximumBytes then []
    else char :: fittingChars maximumBytes (used + char.utf8Size) rest

/-- Cut a string at a character boundary. One that fits keeps its allocation. -/
def boundString (value : Text) (maximumBytes : Nat) : Text × Bool :=
  if value.len ≤ maximumBytes then (value, false)
  else (⟨fittingChars maximumBytes 0 value.chars, 0⟩, true)

def headerStorageBytes (layout : Layout) (headers : List HeaderField) (allocatedSlots : Nat) :
    Nat :=
  allocatedSlots * layout.sizeOfHeaderField +
    (headers.map fun header => header.name.capacity + header.value.capacity).sum

structure BoundedHeaders where
  headers : Buffer HeaderField
  storedBytes : Nat
  truncated : Bool

/-- The loop of `boundHeaders`: the headers kept so far, their length, and whether something was
cut. -/
structure HeaderScan where
  kept : List HeaderField
  logicalBytes : Nat
  truncated : Bool

def scanHeaders (layout : Layout) (maximumBytes originalCount : Nat) :
    List HeaderField → HeaderScan → HeaderScan
  | [], scan => scan
  | header :: rest, scan =>
    let (name, nameTruncated) := boundString header.name maximumHeaderNameBytes
    let (value, valueTruncated) := boundString header.value maximumHeaderValueBytes
    let truncated := scan.truncated || nameTruncated || valueTruncated
    let fixedBytes := layout.sizeOfHeaderField + name.len
    if scan.logicalBytes + fixedBytes > maximumBytes then { scan with truncated := true }
    else
      let remainingValueBytes := maximumBytes - scan.logicalBytes - fixedBytes
      let (value, truncated) :=
        if value.len > remainingValueBytes then ((boundString value remainingValueBytes).1, true)
        else (value, truncated)
      let logicalBytes := scan.logicalBytes + fixedBytes + value.len
      let kept := scan.kept ++ [{ name, value }]
      if logicalBytes = maximumBytes then
        { kept, logicalBytes, truncated := truncated || decide (kept.length < originalCount) }
      else scanHeaders layout maximumBytes originalCount rest { kept, logicalBytes, truncated }

/-- Drop headers from the end until the rest fits. The list is given from its end. -/
def trimHeaders (layout : Layout) (maximumBytes : Nat) : List HeaderField → List HeaderField × Bool
  | [] => ([], false)
  | last :: others =>
    if headerStorageBytes layout (last :: others) (last :: others).length > maximumBytes then
      ((trimHeaders layout maximumBytes others).1, true)
    else ((last :: others).reverse, false)

/-- Keep as many headers as the budget admits, in their order. -/
def boundHeaders (layout : Layout) (headers : List HeaderField) (availableBytes : Nat) :
    BoundedHeaders :=
  let maximumBytes := min availableBytes maximumStoredHeaderSideBytes
  let scan := scanHeaders layout maximumBytes headers.length headers ⟨[], 0, false⟩
  let (kept, popped) := trimHeaders layout maximumBytes scan.kept.reverse
  { headers := ⟨kept, 0⟩
    storedBytes := headerStorageBytes layout kept kept.length
    truncated := scan.truncated || decide (scan.kept.length < headers.length) || popped }

/-! ### Summaries -/

def stringListStorageBytes (layout : Layout) (values : Buffer Text) : Nat :=
  values.capacity * layout.sizeOfString + (values.items.map Text.capacity).sum

def errorStorageBytes (layout : Layout) (error : TransactionError) : Nat :=
  layout.sizeOfTransactionError + error.code.capacity + error.messageKey.capacity +
    (error.params.map fun param =>
      layout.sizeOfStringPair + param.1.capacity + param.2.capacity).sum

def summaryStorageBytes (layout : Layout) (summary : TransactionSummary) : Nat :=
  layout.sizeOfTransactionSummary + uuidBytes + uuidBytes + summary.method.capacity +
    summary.host.capacity + summary.path.capacity + summary.query.capacity +
    summary.urlDisplay.capacity + summary.clientAddress.capacity + summary.contentType.capacity +
    summary.notes.capacity + summary.clientProcessName.elim 0 Text.capacity +
    stringListStorageBytes layout summary.tags +
    stringListStorageBytes layout summary.appliedTools +
    summary.error.elim 0 (errorStorageBytes layout)

end SprakCapture.Capture
