import Duskcue.Base64
import Duskcue.M3uPlaylist

/-! Catalog values at rest. Each is sealed for its record and for a digest of everything that
the row, the receipt and the purpose say; the digest and the associated data are of bytes put
one after the other. -/
namespace Duskcue.Imports
open Text

/-! ## Bytes -/

/-- The last bytes of a number, the highest first. -/
def beBytes : Nat → Nat → List UInt8
  | 0, _ => []
  | width + 1, n => beBytes width (n / 256) ++ [UInt8.ofNat n]

/-- `as_bytes`. -/
def utf8 (text : List Char) : List UInt8 := (String.ofList text).toUTF8.data.toList

/-- `String::from_utf8`. -/
def fromUtf8 (bytes : List UInt8) : Option (List Char) := (String.fromUTF8? ⟨bytes.toArray⟩).map String.toList

/-! ## Records -/

structure RecordContext where
  nameSpace : List Char
  owner : Uuid
  record : Uuid
  field : List Char

inductive EncryptionError where
  | invalidFormat
  | invalidBase64
  | invalidCiphertextLength
  | randomGenerationFailed
  | encryptionFailed
  | decryptionFailed
  | invalidUtf8
  deriving DecidableEq

/-- The libraries: `ring` with one key, and `base64`. -/
structure Crypto where
  sha256 : List UInt8 → List UInt8
  sealInPlace : List UInt8 → List UInt8 → List UInt8 → Option (List UInt8)
  openInPlace : List UInt8 → List UInt8 → List UInt8 → Option (List UInt8)
  encode : List UInt8 → List Char
  decode : List Char → Option (List UInt8)
  encodeUrl : List UInt8 → List Char

def recordSecretPrefix : List Char := "duskcue-secret:v1:".toList
def maxRecordSecretBytes : Nat := 4096
def maxRecordEnvelopeBytes : Nat := 5518
def nonceLen : Nat := 12
def tagLen : Nat := 16

/-- `associated_data`. -/
def RecordContext.associatedData (context : RecordContext) : Except EncryptionError (List UInt8) :=
  if utf8 context.nameSpace = [] ∨ 128 < (utf8 context.nameSpace).length then .error .invalidFormat
  else if utf8 context.field = [] ∨ 128 < (utf8 context.field).length then .error .invalidFormat
  else .ok (utf8 "duskcue-record-secret\x00\x01".toList ++
    beBytes 2 (utf8 context.nameSpace).length ++ utf8 context.nameSpace ++
    beBytes 2 (utf8 context.field).length ++ utf8 context.field ++ context.owner.bytes ++ context.record.bytes)

/-- `seal_record`, with the nonce that was drawn. -/
def sealRecord (crypto : Crypto) (nonce : Option (List UInt8)) (value : List Char) (context : RecordContext) :
    Except EncryptionError (List Char) := do
  if utf8 value = [] ∨ maxRecordSecretBytes < (utf8 value).length then throw .invalidFormat
  let aad ← context.associatedData
  match nonce with
  | none => throw .randomGenerationFailed
  | some nonce =>
    match crypto.sealInPlace nonce aad (utf8 value) with
    | none => throw .encryptionFailed
    | some bytes => return recordSecretPrefix ++ crypto.encode (nonce ++ bytes)

/-- `open_record`. -/
def openRecord (crypto : Crypto) (value : List Char) (context : RecordContext) : Except EncryptionError (List Char) :=
  if maxRecordEnvelopeBytes < (utf8 value).length then .error .invalidFormat
  else match stripPrefix recordSecretPrefix value with
    | none => .error .invalidFormat
    | some encoded =>
      match crypto.decode encoded with
      | none => .error .invalidBase64
      | some bytes =>
        if bytes.length ≤ nonceLen + tagLen ∨ nonceLen + tagLen + maxRecordSecretBytes < bytes.length then
          .error .invalidCiphertextLength
        else match context.associatedData with
          | .error failure => .error failure
          | .ok aad =>
            match crypto.openInPlace (bytes.take nonceLen) aad (bytes.drop nonceLen) with
            | none => .error .decryptionFailed
            | some plaintext =>
              match fromUtf8 plaintext with
              | none => .error .invalidUtf8
              | some value => .ok value

/-! ## Catalog rows -/

/-- An instant as an import and the database hold it: whole microseconds, within the range of
`chrono`, and no leap second. -/
structure Instant where
  seconds : Int
  nanos : Nat
  range : -8334601228800 ≤ seconds ∧ seconds ≤ 8210266876799
  regular : nanos < 1000000000
  whole : nanos % 1000 = 0
  deriving DecidableEq

/-- `timestamp_micros`. -/
def Instant.timestampMicros (instant : Instant) : BitVec 64 :=
  BitVec.ofInt 64 (instant.seconds * 1000000 + (instant.nanos / 1000 : Nat))

structure Fence where
  user : Uuid
  assignment : Uuid
  generation : BitVec 64

structure Receipt where
  fence : Fence
  attempt : Uuid
  sequence : BitVec 64
  snapshot : Uuid
  importedAt : Instant

/-- `SealedRow`, without what has been sealed. -/
structure SealedRow where
  id : Uuid
  guide : Option Uuid
  channelKey : Option (List UInt8)
  start : Option Instant
  stop : Option Instant
  flags : BitVec 32

/-- What `encode` seals. -/
inductive Purpose where
  | manifest
  | channelMetadata
  | channelStream
  | channelLogo
  | guideMetadata
  | programmeMetadata

def Purpose.kind : Purpose → List Char
  | .manifest => "snapshot".toList
  | .channelMetadata | .channelStream | .channelLogo => "channel".toList
  | .guideMetadata => "guide".toList
  | .programmeMetadata => "programme".toList

def Purpose.purpose : Purpose → List Char
  | .manifest => "manifest".toList
  | .channelMetadata | .guideMetadata | .programmeMetadata => "metadata".toList
  | .channelStream => "stream".toList
  | .channelLogo => "logo".toList

/-- `Uuid::nil`. -/
def Uuid.nil : Uuid := ⟨List.replicate 16 0, by decide⟩

/-- What a value is sealed for. -/
structure Binding where
  receipt : Receipt
  row : SealedRow
  purpose : Purpose

/-- The time, or `i64::MIN`. -/
def micros (value : Option Instant) : BitVec 64 := (value.map Instant.timestampMicros).getD (BitVec.ofNat 64 (2 ^ 63))

/-- The bytes that `field` hashes. -/
def Binding.input (binding : Binding) : List UInt8 :=
  utf8 "duskcue-catalog-binding\x00\x01".toList ++ binding.receipt.fence.assignment.bytes ++
    binding.receipt.snapshot.bytes ++
    beBytes 8 binding.receipt.fence.generation.toNat ++ binding.receipt.attempt.bytes ++
    beBytes 8 binding.receipt.sequence.toNat ++ beBytes 8 binding.receipt.importedAt.timestampMicros.toNat ++
    utf8 binding.purpose.kind ++ utf8 binding.purpose.purpose ++ (binding.row.guide.getD Uuid.nil).bytes ++
    binding.row.channelKey.getD [] ++ beBytes 8 (micros binding.row.start).toNat ++
      beBytes 8 (micros binding.row.stop).toNat ++
    beBytes 4 binding.row.flags.toNat

/-- `field`. -/
def Binding.field (crypto : Crypto) (binding : Binding) : List Char :=
  "v1:".toList ++ crypto.encodeUrl (crypto.sha256 binding.input)

def Binding.context (crypto : Crypto) (binding : Binding) : RecordContext where
  nameSpace := "live-tv-catalog".toList
  owner := binding.receipt.fence.user
  record := binding.row.id
  field := binding.field crypto

def storage {α : Type} : Except EncryptionError α → Except ImportError α
  | .ok value => .ok value
  | .error _ => .error .storage

/-- `seal`. -/
def Binding.seal (crypto : Crypto) (nonce : Option (List UInt8)) (binding : Binding) (value : List Char) :
    Except ImportError (List Char) :=
  storage (sealRecord crypto nonce value (binding.context crypto))

/-- `open`. -/
def Binding.unseal (crypto : Crypto) (binding : Binding) (value : List Char) : Except ImportError (List Char) :=
  storage (openRecord crypto value (binding.context crypto))

/-! ## Bytes are read back -/

theorem length_beBytes (width n : Nat) : (beBytes width n).length = width := by
  induction width generalizing n with
  | zero => rfl
  | succ _ ih => simp [beBytes, ih]

theorem beBytes_injective (small : n < 256 ^ width) (small' : m < 256 ^ width)
    (same : beBytes width n = beBytes width m) : n = m := by
  induction width generalizing n m with
  | zero =>
    rw [Nat.pow_zero] at small small'
    omega
  | succ _ ih =>
    obtain ⟨front, last⟩ := List.append_inj' same rfl
    have high := ih (Nat.div_lt_of_lt_mul (by rwa [← Nat.pow_succ']))
      (Nat.div_lt_of_lt_mul (by rwa [← Nat.pow_succ'])) front
    have low := congrArg UInt8.toNat (List.cons.inj last).1
    simp only [UInt8.toNat_ofNat'] at low
    omega

theorem utf8_append (a b : List Char) : utf8 (a ++ b) = utf8 a ++ utf8 b := by
  unfold utf8
  rw [String.ofList_append]
  show ((String.ofList a ++ String.ofList b).toByteArray).data.toList = _
  rw [String.toByteArray_append, ByteArray.data_append, Array.toList_append]
  rfl

theorem utf8_injective (same : utf8 a = utf8 b) : a = b := by
  apply String.ofList_injective
  apply String.toByteArray_inj.mp
  apply ByteArray.ext
  exact Array.toList_inj.mp same

theorem fromUtf8_utf8 (text : List Char) : fromUtf8 (utf8 text) = some text := by
  have bytes : (⟨(utf8 text).toArray⟩ : ByteArray) = (String.ofList text).toUTF8 := by
    unfold utf8
    rw [Array.toArray_toList]
  unfold fromUtf8
  rw [bytes, fromUTF8_toUTF8, Option.map_some, String.toList_ofList]

/-! ## Associated data -/

theorem Uuid.ext_bytes {a b : Uuid} (same : a.bytes = b.bytes) : a = b := by
  cases a
  cases b
  cases same
  rfl

/-- The lengths in front of the names say where they end. -/
theorem associatedData_injective {a b : RecordContext} (left : a.associatedData = .ok data)
    (right : b.associatedData = .ok data) : a = b := by
  have shape {context : RecordContext} (held : context.associatedData = .ok data) :
      data = utf8 "duskcue-record-secret\x00\x01".toList ++ (beBytes 2 (utf8 context.nameSpace).length ++
        (utf8 context.nameSpace ++ (beBytes 2 (utf8 context.field).length ++
          (utf8 context.field ++ (context.owner.bytes ++ context.record.bytes))))) ∧
      (utf8 context.nameSpace).length ≤ 128 ∧ (utf8 context.field).length ≤ 128 := by
    unfold RecordContext.associatedData at held
    split at held
    · cases held
    · rename_i first
      split at held
      · cases held
      · rename_i second
        rw [not_or, Nat.not_lt] at first second
        refine ⟨?_, first.2, second.2⟩
        rw [← Except.ok.inj held]
        simp only [List.append_assoc]
  obtain ⟨leftShape, leftName, leftField⟩ := shape left
  obtain ⟨rightShape, rightName, rightField⟩ := shape right
  have same := List.append_cancel_left (leftShape.symm.trans rightShape)
  obtain ⟨lengths, same⟩ := List.append_inj same (by rw [length_beBytes, length_beBytes])
  have lengths := beBytes_injective (by omega) (by omega) lengths
  obtain ⟨names, same⟩ := List.append_inj same lengths
  obtain ⟨lengths, same⟩ := List.append_inj same (by rw [length_beBytes, length_beBytes])
  have lengths := beBytes_injective (by omega) (by omega) lengths
  obtain ⟨fields, same⟩ := List.append_inj same lengths
  obtain ⟨owners, records⟩ := List.append_inj same (by rw [a.owner.length, b.owner.length])
  cases a
  cases b
  rw [RecordContext.mk.injEq]
  exact ⟨utf8_injective names, Uuid.ext_bytes owners, Uuid.ext_bytes records, utf8_injective fields⟩

/-! ## Bindings -/

theorem Instant.micros_bounds (instant : Instant) :
    -2 ^ 63 < instant.seconds * 1000000 + (instant.nanos / 1000 : Nat) ∧
      instant.seconds * 1000000 + (instant.nanos / 1000 : Nat) < 2 ^ 63 := by
  obtain ⟨low, high⟩ := instant.range
  have regular := instant.regular
  omega

theorem timestampMicros_toInt (instant : Instant) :
    instant.timestampMicros.toInt = instant.seconds * 1000000 + (instant.nanos / 1000 : Nat) := by
  have bounds := instant.micros_bounds
  unfold Instant.timestampMicros
  rw [BitVec.toInt_ofInt]
  exact Int.bmod_eq_of_le (by omega) (by omega)

theorem timestampMicros_injective {a b : Instant} (same : a.timestampMicros = b.timestampMicros) : a = b := by
  have equal := congrArg BitVec.toInt same
  rw [timestampMicros_toInt, timestampMicros_toInt] at equal
  have regular := a.regular
  have regular' := b.regular
  have whole := a.whole
  have whole' := b.whole
  cases a
  cases b
  simp only at equal regular regular' whole whole'
  rw [Instant.mk.injEq]
  omega

theorem micros_injective (same : micros a = micros b) : a = b := by
  have apart (instant : Instant) : instant.timestampMicros ≠ BitVec.ofNat 64 (2 ^ 63) := by
    intro equal
    have least := congrArg BitVec.toInt equal
    have value : (BitVec.ofNat 64 (2 ^ 63)).toInt = -2 ^ 63 := by decide
    rw [timestampMicros_toInt, value] at least
    have bounds := instant.micros_bounds
    omega
  cases a with
  | none =>
    cases b with
    | none => rfl
    | some b => exact (apart b same.symm).elim
  | some a =>
    cases b with
    | none => exact (apart a same).elim
    | some => rw [timestampMicros_injective same]

/-- The row has the shape that `encode` gives it. -/
def SealedRow.Valid (row : SealedRow) : Prop :=
  (∀ key ∈ row.channelKey, key.length = 32) ∧ row.guide ≠ some Uuid.nil

/-- Two values are sealed for the same, but for the household and the record. -/
def Binding.Same (a b : Binding) : Prop :=
  a.receipt.fence.assignment = b.receipt.fence.assignment ∧ a.receipt.snapshot = b.receipt.snapshot ∧
    a.receipt.fence.generation = b.receipt.fence.generation ∧ a.receipt.attempt = b.receipt.attempt ∧
    a.receipt.sequence = b.receipt.sequence ∧ a.receipt.importedAt = b.receipt.importedAt ∧
      a.purpose.kind = b.purpose.kind ∧
    a.purpose.purpose = b.purpose.purpose ∧ a.row.guide = b.row.guide ∧ a.row.channelKey = b.row.channelKey ∧
    a.row.start = b.row.start ∧ a.row.stop = b.row.stop ∧ a.row.flags = b.row.flags

/-- What is hashed of the purpose. -/
def Purpose.bytes (purpose : Purpose) : List UInt8 := utf8 purpose.kind ++ utf8 purpose.purpose

theorem Purpose.bytes_length (purpose : Purpose) : purpose.bytes.length =
    match purpose with
    | .manifest => 16
    | .channelMetadata => 15
    | .channelStream => 13
    | .channelLogo => 11
    | .guideMetadata => 13
    | .programmeMetadata => 17 := by
  cases purpose <;> decide

theorem Purpose.bytes_injective {a b : Purpose} (same : a.bytes = b.bytes) : a = b := by
  cases a <;> cases b <;> first | rfl | exact absurd same (by decide)

/-- A key has 32 bytes, and so the lengths tell whether there is one. -/
theorem key_split {a b : Binding} (left : a.row.Valid) (right : b.row.Valid)
    (same : a.purpose.bytes ++ ((a.row.guide.getD Uuid.nil).bytes ++ a.row.channelKey.getD []) =
      b.purpose.bytes ++ ((b.row.guide.getD Uuid.nil).bytes ++ b.row.channelKey.getD [])) :
    a.purpose = b.purpose ∧ a.row.guide.getD Uuid.nil = b.row.guide.getD Uuid.nil ∧
      a.row.channelKey = b.row.channelKey := by
  have key {row : SealedRow} (valid : row.Valid) :
      (row.channelKey = none ∧ (row.channelKey.getD []).length = 0) ∨ (row.channelKey.getD []).length = 32 := by
    cases held : row.channelKey with
    | none => exact .inl ⟨rfl, rfl⟩
    | some key => exact .inr (valid.1 key held)
  have purpose (purpose : Purpose) : 11 ≤ purpose.bytes.length ∧ purpose.bytes.length ≤ 17 := by
    rw [Purpose.bytes_length]
    cases purpose <;> decide
  have lengths := congrArg List.length same
  simp only [List.length_append, Uuid.length] at lengths
  have first := purpose a.purpose
  have second := purpose b.purpose
  have equal : a.purpose.bytes.length = b.purpose.bytes.length := by
    rcases key left with ⟨-, none⟩ | long <;> rcases key right with ⟨-, none'⟩ | long' <;> omega
  obtain ⟨purposes, same⟩ := List.append_inj same equal
  obtain ⟨guides, keys⟩ := List.append_inj same (by rw [Uuid.length, Uuid.length])
  refine ⟨Purpose.bytes_injective purposes, Uuid.ext_bytes guides, ?_⟩
  cases held : a.row.channelKey with
  | none =>
    cases held' : b.row.channelKey with
    | none => rfl
    | some key' =>
      rw [held, held', Option.getD_none, Option.getD_some] at keys
      have length := right.1 key' held'
      rw [← keys] at length
      cases length
  | some key =>
    cases held' : b.row.channelKey with
    | none =>
      rw [held, held', Option.getD_none, Option.getD_some] at keys
      have length := left.1 key held
      rw [keys] at length
      cases length
    | some =>
      rw [held, held', Option.getD_some, Option.getD_some] at keys
      rw [keys]

theorem guide_of_getD (left : a ≠ some Uuid.nil) (right : b ≠ some Uuid.nil)
    (same : a.getD Uuid.nil = b.getD Uuid.nil) : a = b := by
  cases a with
  | none =>
    cases b with
    | none => rfl
    | some => exact (right (congrArg some same.symm)).elim
  | some =>
    cases b with
    | none => exact (left (congrArg some same)).elim
    | some => exact congrArg some same

/-- What is hashed says everything. -/
theorem input_injective {a b : Binding} (left : a.row.Valid) (right : b.row.Valid) (same : a.input = b.input) :
    a.Same b := by
  have word {x y : BitVec 64} (same : beBytes 8 x.toNat = beBytes 8 y.toNat) : x = y :=
    BitVec.eq_of_toNat_eq (beBytes_injective x.isLt y.isLt same)
  unfold Binding.input at same
  obtain ⟨same, flags⟩ := List.append_inj' same (by rw [length_beBytes, length_beBytes])
  obtain ⟨same, stops⟩ := List.append_inj' same (by rw [length_beBytes, length_beBytes])
  obtain ⟨same, starts⟩ := List.append_inj' same (by rw [length_beBytes, length_beBytes])
  simp only [List.append_assoc] at same
  have same := List.append_cancel_left same
  obtain ⟨assignments, same⟩ := List.append_inj same (by rw [Uuid.length, Uuid.length])
  obtain ⟨snapshots, same⟩ := List.append_inj same (by rw [Uuid.length, Uuid.length])
  obtain ⟨generations, same⟩ := List.append_inj same (by rw [length_beBytes, length_beBytes])
  obtain ⟨attempts, same⟩ := List.append_inj same (by rw [Uuid.length, Uuid.length])
  obtain ⟨sequences, same⟩ := List.append_inj same (by rw [length_beBytes, length_beBytes])
  obtain ⟨times, same⟩ := List.append_inj same (by rw [length_beBytes, length_beBytes])
  obtain ⟨purposes, guides, keys⟩ := key_split left right (by simpa only [Purpose.bytes, List.append_assoc] using same)
  exact ⟨Uuid.ext_bytes assignments, Uuid.ext_bytes snapshots, word generations, Uuid.ext_bytes attempts,
    word sequences,
    timestampMicros_injective (word times), by rw [purposes], by rw [purposes], guide_of_getD left.2 right.2 guides,
      keys,
    micros_injective (word starts), micros_injective (word stops),
    BitVec.eq_of_toNat_eq (beBytes_injective a.row.flags.isLt b.row.flags.isLt flags)⟩

/-! ## Sealed values -/

/-- What the documentation of `base64` and SHA-256 says. -/
structure Crypto.Documented (crypto : Crypto) : Prop where
  decoded : ∀ bytes, crypto.decode (crypto.encode bytes) = some bytes
  length : ∀ bytes, (utf8 (crypto.encode bytes)).length = 4 * ((bytes.length + 2) / 3)
  urlInjective : Function.Injective crypto.encodeUrl
  urlLength : ∀ bytes, (utf8 (crypto.encodeUrl bytes)).length = (4 * bytes.length + 2) / 3
  digest : ∀ bytes, (crypto.sha256 bytes).length = 32

/-- SHA-256 tells the two bindings apart, if there is anything to tell. -/
def Crypto.Separates (crypto : Crypto) (a b : Binding) : Prop :=
  crypto.sha256 a.input = crypto.sha256 b.input → a.input = b.input

/-- An ideal cipher, of which the log says what was sealed with its key: nothing else can be
opened, and no two values look alike under one nonce. -/
structure Crypto.Ideal (crypto : Crypto) (log : List (List UInt8 × List UInt8 × List UInt8)) : Prop where
  seals : ∀ nonce aad plain, (nonce, aad, plain) ∈ log →
    ∃ bytes, crypto.sealInPlace nonce aad plain = some bytes ∧ bytes.length = plain.length + tagLen
  opens : ∀ nonce aad bytes plain, crypto.openInPlace nonce aad bytes = some plain ↔
    (nonce, aad, plain) ∈ log ∧ crypto.sealInPlace nonce aad plain = some bytes
  apart : ∀ nonce aad plain aad' plain', (nonce, aad, plain) ∈ log → (nonce, aad', plain') ∈ log →
    crypto.sealInPlace nonce aad plain = crypto.sealInPlace nonce aad' plain' → aad = aad' ∧ plain = plain'

/-- The two bindings are of one household and one record, and otherwise the same. -/
def Binding.Alike (a b : Binding) : Prop :=
  a.Same b ∧ a.receipt.fence.user = b.receipt.fence.user ∧ a.row.id = b.row.id

variable {crypto : Crypto} {a b : Binding}

theorem Binding.Same.input (same : a.Same b) : a.input = b.input := by
  obtain ⟨assignment, snapshot, generation, attempt, sequence, importedAt, kind, purpose, guide, key, start, stop,
    flags⟩ := same
  unfold Binding.input
  rw [assignment, snapshot, generation, attempt, sequence, importedAt, kind, purpose, guide, key, start, stop, flags]

theorem field_injective (documented : crypto.Documented) (left : a.row.Valid) (right : b.row.Valid)
    (separates : crypto.Separates a b) (same : a.field crypto = b.field crypto) : a.Same b :=
  input_injective left right (separates (documented.urlInjective (List.append_cancel_left same)))

theorem context_eq_iff (documented : crypto.Documented) (left : a.row.Valid) (right : b.row.Valid)
    (separates : crypto.Separates a b) : a.context crypto = b.context crypto ↔ a.Alike b := by
  unfold Binding.context
  rw [RecordContext.mk.injEq]
  constructor
  · rintro ⟨-, users, records, fields⟩
    exact ⟨field_injective documented left right separates fields, users, records⟩
  · rintro ⟨same, users, records⟩
    exact ⟨rfl, users, records, by rw [Binding.field, Binding.field, same.input]⟩

/-- A field is short enough to be bound. -/
theorem associatedData_ok (documented : crypto.Documented) (binding : Binding) :
    ∃ aad, (binding.context crypto).associatedData = .ok aad := by
  have length : (utf8 (binding.field crypto)).length = 46 := by
    rw [Binding.field, utf8_append, List.length_append, documented.urlLength, documented.digest]
    decide
  have field : ¬ (utf8 (binding.field crypto) = [] ∨ 128 < (utf8 (binding.field crypto)).length) := by
    rw [← List.length_eq_zero_iff, length]
    decide
  have name : ¬ (utf8 "live-tv-catalog".toList = [] ∨ 128 < (utf8 "live-tv-catalog".toList).length) := by decide
  unfold RecordContext.associatedData
  exact ⟨_, (if_neg name).trans (if_neg field)⟩

theorem openRecord_ok (documented : crypto.Documented) {nonce bytes : List UInt8} {context : RecordContext} {aad : List UInt8}
    {value : List Char} (drawn : nonce.length = nonceLen) (filled : tagLen < bytes.length)
    (short : bytes.length ≤ tagLen + maxRecordSecretBytes) (data : context.associatedData = .ok aad) :
    openRecord crypto (recordSecretPrefix ++ crypto.encode (nonce ++ bytes)) context = .ok value ↔
      ∃ plain, crypto.openInPlace nonce aad bytes = some plain ∧ fromUtf8 plain = some value := by
  have envelope : ¬ maxRecordEnvelopeBytes < (utf8 (recordSecretPrefix ++ crypto.encode (nonce ++ bytes))).length := by
    have front : (utf8 recordSecretPrefix).length = 18 := by decide
    rw [utf8_append, List.length_append, front, documented.length, List.length_append, drawn]
    unfold maxRecordEnvelopeBytes nonceLen
    unfold tagLen maxRecordSecretBytes at short
    omega
  have inside : ¬ ((nonce ++ bytes).length ≤ nonceLen + tagLen ∨
      nonceLen + tagLen + maxRecordSecretBytes < (nonce ++ bytes).length) := by
    rw [List.length_append, drawn]
    omega
  have parts : (nonce ++ bytes).take nonceLen = nonce ∧ (nonce ++ bytes).drop nonceLen = bytes := by
    rw [← drawn]
    exact ⟨List.take_left, List.drop_left⟩
  unfold openRecord
  rw [if_neg envelope, stripPrefix_eq_some.mpr rfl]
  simp only [documented.decoded]
  rw [if_neg inside, data, parts.1, parts.2]
  simp only
  cases crypto.openInPlace nonce aad bytes with
  | none => simp
  | some plain => cases read : fromUtf8 plain <;> simp [read]

theorem storage_ok {α : Type} {result : Except EncryptionError α} {value : α} :
    storage result = .ok value ↔ result = .ok value := by
  cases result <;> simp [storage]

theorem sealRecord_eq {context : RecordContext} (filled : value ≠ [])
    (short : (utf8 value).length ≤ maxRecordSecretBytes) (data : context.associatedData = .ok aad)
    (sealed : crypto.sealInPlace nonce aad (utf8 value) = some bytes) :
    sealRecord crypto (some nonce) value context = .ok (recordSecretPrefix ++ crypto.encode (nonce ++ bytes)) := by
  have allowed : ¬ (utf8 value = [] ∨ maxRecordSecretBytes < (utf8 value).length) := by
    rw [not_or, Nat.not_lt]
    exact ⟨fun empty => filled (utf8_injective (empty.trans (show [] = utf8 [] by decide))), short⟩
  unfold sealRecord
  rw [if_neg allowed, data]
  show (match crypto.sealInPlace nonce aad (utf8 value) with
    | none => throw EncryptionError.encryptionFailed
    | some bytes => pure (recordSecretPrefix ++ crypto.encode (nonce ++ bytes))) = _
  rw [sealed]
  rfl

/-- Contexts are told apart by their associated data and bindings by their fields; so a value
can be sealed, and opened with what it was sealed for, and with nothing else. -/
theorem catalog_sealed (documented : crypto.Documented) :
    (∀ (a b : RecordContext) data, a.associatedData = .ok data → b.associatedData = .ok data → a = b) ∧
    (∀ a b : Binding, a.row.Valid → b.row.Valid → crypto.Separates a b → a.field crypto = b.field crypto → a.Same b) ∧
    ∀ log, crypto.Ideal log → ∀ (a : Binding) aad nonce value, a.row.Valid →
      (a.context crypto).associatedData = .ok aad →
      value ≠ [] → (utf8 value).length ≤ maxRecordSecretBytes → nonce.length = nonceLen →
        (nonce, aad, utf8 value) ∈ log →
      ∃ envelope, a.seal crypto (some nonce) value = .ok envelope ∧ (utf8 envelope).length ≤ maxRecordEnvelopeBytes ∧
        a.unseal crypto envelope = .ok value ∧
        ∀ (b : Binding) value', b.row.Valid → crypto.Separates a b →
          (b.unseal crypto envelope = .ok value' ↔ a.Alike b ∧ value' = value) := by
  refine ⟨fun a b data => associatedData_injective, fun a b left right => field_injective documented left right, ?_⟩
  intro log ideal a aad nonce value valid data filled short drawn member
  obtain ⟨bytes, sealed, length⟩ := ideal.seals _ _ _ member
  have nonempty : 0 < (utf8 value).length := by
    rw [List.length_pos_iff]
    exact fun empty => filled (utf8_injective (empty.trans (show [] = utf8 [] by decide)))
  have opens (b : Binding) {aad' : List UInt8} {value' : List Char}
    (data' : (b.context crypto).associatedData = .ok aad') :=
    @openRecord_ok crypto documented nonce bytes _ _ value' drawn (by omega) (by omega) data'
  refine ⟨recordSecretPrefix ++ crypto.encode (nonce ++ bytes), ?_, ?_, ?_, ?_⟩
  · unfold Binding.seal
    rw [storage_ok]
    exact sealRecord_eq filled short data sealed
  · have front : (utf8 recordSecretPrefix).length = 18 := by decide
    rw [utf8_append, List.length_append, front, documented.length, List.length_append, drawn, length]
    unfold maxRecordEnvelopeBytes nonceLen tagLen
    unfold maxRecordSecretBytes at short
    omega
  · unfold Binding.unseal
    rw [storage_ok, opens a data]
    exact ⟨utf8 value, (ideal.opens _ _ _ _).mpr ⟨member, sealed⟩, fromUtf8_utf8 value⟩
  · intro b value' valid' separates
    obtain ⟨aad', data'⟩ := associatedData_ok documented b
    unfold Binding.unseal
    rw [storage_ok, opens b data', ← context_eq_iff documented valid valid' separates]
    constructor
    · rintro ⟨plain, opened, read⟩
      obtain ⟨member', sealed'⟩ := (ideal.opens _ _ _ _).mp opened
      obtain ⟨rfl, rfl⟩ := ideal.apart _ _ _ _ _ member member' (sealed.trans sealed'.symm)
      rw [fromUtf8_utf8] at read
      exact ⟨associatedData_injective data data', (Option.some.inj read).symm⟩
    · rintro ⟨same, rfl⟩
      rw [← same, data] at data'
      cases data'
      exact ⟨utf8 value', (ideal.opens _ _ _ _).mpr ⟨member, sealed⟩, fromUtf8_utf8 value'⟩

/-! ## An example -/

theorem length_utf8_ascii {text : List Char} (ascii : ∀ c ∈ text, c.utf8Size = 1) :
    (utf8 text).length = text.length := by
  induction text with
  | nil => decide
  | cons c text ih =>
    have single : (utf8 [c]).length = 1 := by
      unfold utf8
      show ((String.ofList [c]).toByteArray).data.toList.length = 1
      rw [String.toByteArray_ofList]
      simp [List.utf8Encode, ascii c (by simp)]
    rw [show c :: text = [c] ++ text from rfl, utf8_append, List.length_append, single,
      ih fun other member => ascii other (by simp [member])]
    simp [Nat.add_comm]

namespace Sample

def alphabet : List Char := "ABCDEFGHIJKLMNOPQRSTUVWXYZ".toList ++ "abcdefghijklmnopqrstuvwxyz".toList ++
    "0123456789+/".toList
def alphabetUrl : List Char :=
  "ABCDEFGHIJKLMNOPQRSTUVWXYZ".toList ++ "abcdefghijklmnopqrstuvwxyz".toList ++ "0123456789-_".toList

def sixteen (byte : UInt8) : Uuid := ⟨List.replicate 16 byte, rfl⟩

def programme : Binding where
  receipt :=
    { fence := ⟨sixteen 1, sixteen 2, 1⟩, attempt := sixteen 4, sequence := 1, snapshot := sixteen 3,
      importedAt := ⟨1, 0, by decide, by decide, by decide⟩ }
  row := ⟨sixteen 5, some (sixteen 6), none, none, none, 0⟩
  purpose := .programmeMetadata

/-- The same row with another flag. -/
def flagged : Binding := { programme with row := { programme.row with flags := 1 } }

def programmeDigest : List UInt8 := [26, 241, 204, 4, 71, 139, 212, 59, 77, 207, 69, 216, 68, 243, 102, 164, 177, 173,
    51, 39, 247,
  179, 48, 137, 34, 187, 104, 195, 20, 64, 4, 233]
def flaggedDigest : List UInt8 := [242, 64, 244, 245, 225, 136, 0, 149, 101, 94, 233, 69, 95, 223, 66, 219, 50, 46,
    75, 223, 180,
  254, 59, 178, 115, 161, 23, 208, 218, 46, 189, 80]

def nonce : List UInt8 := [0, 1, 2, 3, 4, 5, 6, 7, 8, 9, 10, 11]

/-- AES-256-GCM with a key of zeros, for the one value that is sealed. -/
def ciphertext : List UInt8 := [220, 157, 23, 230, 121, 76, 173, 176, 17, 208, 23, 39, 252, 50, 135, 91, 159, 75]

def associated : List UInt8 :=
  utf8 "duskcue-record-secret\x00\x01".toList ++ [0, 15] ++ utf8 "live-tv-catalog".toList ++ [0, 46] ++
    utf8 ("v1:".toList ++ Base64.encode alphabetUrl programmeDigest) ++ (sixteen 1).bytes ++ (sixteen 5).bytes

def cipher : Crypto where
  sha256 input := if input = programme.input then programmeDigest else if input = flagged.input then flaggedDigest
    else List.replicate 32 0
  sealInPlace nonce' aad plain :=
    if (nonce', aad, plain) = (nonce, associated, utf8 "TV".toList) then some ciphertext
    else some (plain ++ List.replicate 16 0)
  openInPlace nonce' aad bytes :=
    if (nonce', aad, bytes) = (nonce, associated, ciphertext) then some (utf8 "TV".toList) else none
  encode := Base64.encodePadded alphabet
  decode text := some (Base64.decode alphabet text)
  encodeUrl := Base64.encode alphabetUrl

end Sample

theorem sample_documented : Sample.cipher.Documented := by
  have whole : Sample.alphabet.length = 64 := rfl
  have wholeUrl : Sample.alphabetUrl.length = 64 := rfl
  have ascii : (Sample.alphabet.all fun c => c.utf8Size == 1) = true := by decide +kernel
  have asciiUrl : (Sample.alphabetUrl.all fun c => c.utf8Size == 1) = true := by decide +kernel
  refine ⟨?_, ?_, ?_, ?_, ?_⟩
  · intro bytes
    exact congrArg some (Base64.decode_encode whole (by decide +kernel) (by decide +kernel) bytes _)
  · intro bytes
    show (utf8 (Base64.encodePadded Sample.alphabet bytes)).length = _
    rw [length_utf8_ascii, Base64.length_encodePadded]
    intro c member
    rcases List.mem_append.mp member with letter | padding
    · exact beq_iff_eq.mp (List.all_eq_true.mp ascii c (Base64.mem_alphabet whole letter))
    · rw [List.eq_of_mem_replicate padding]
      decide
  · exact Base64.encode_injective wholeUrl (by decide +kernel) (by decide +kernel)
  · intro bytes
    show (utf8 (Base64.encode Sample.alphabetUrl bytes)).length = _
    rw [length_utf8_ascii, Base64.length_encode]
    intro c member
    exact beq_iff_eq.mp (List.all_eq_true.mp asciiUrl c (Base64.mem_alphabet wholeUrl member))
  · intro bytes
    show (if bytes = Sample.programme.input then Sample.programmeDigest else if bytes = Sample.flagged.input then
      Sample.flaggedDigest else List.replicate 32 0).length = 32
    split
    · rfl
    · split <;> rfl

theorem sample_ideal : Sample.cipher.Ideal [(Sample.nonce, Sample.associated, utf8 "TV".toList)] := by
  have sealed : Sample.cipher.sealInPlace Sample.nonce Sample.associated (utf8 "TV".toList) =
    some Sample.ciphertext := by
    show (if (Sample.nonce, Sample.associated, utf8 "TV".toList) =
      (Sample.nonce, Sample.associated, utf8 "TV".toList) then
      some Sample.ciphertext else some (utf8 "TV".toList ++ List.replicate 16 0)) = _
    rw [if_pos rfl]
  refine ⟨?_, ?_, ?_⟩
  · intro nonce aad plain member
    obtain ⟨rfl, rfl, rfl⟩ : nonce = Sample.nonce ∧ aad = Sample.associated ∧ plain = utf8 "TV".toList := by
      simpa using member
    exact ⟨_, sealed, by decide⟩
  · intro nonce aad bytes plain
    show (if (nonce, aad, bytes) = (Sample.nonce, Sample.associated, Sample.ciphertext) then
      some (utf8 "TV".toList) else none) = some plain ↔ _
    rw [List.mem_singleton]
    constructor
    · intro opened
      split at opened
      · rename_i same
        cases same
        cases opened
        exact ⟨rfl, sealed⟩
      · cases opened
    · rintro ⟨same, known⟩
      cases same
      rw [sealed] at known
      cases known
      exact if_pos rfl
  · intro nonce aad plain aad' plain' member member' _
    rw [List.mem_singleton] at member member'
    cases member
    cases member'
    exact ⟨rfl, rfl⟩

/-- A value is opened for its own row, and not for the same row with another flag. -/
theorem sample_sealed : ∃ envelope, Sample.programme.seal Sample.cipher (some Sample.nonce) "TV".toList = .ok envelope ∧
    (utf8 envelope).length ≤ maxRecordEnvelopeBytes ∧ Sample.programme.unseal Sample.cipher envelope = .ok "TV".toList ∧
    Sample.flagged.unseal Sample.cipher envelope ≠ .ok "TV".toList := by
  have valid : Sample.programme.row.Valid := ⟨by simp [Sample.programme], by decide⟩
  have data : (Sample.programme.context Sample.cipher).associatedData = .ok Sample.associated := by
    decide +kernel
  obtain ⟨envelope, sealed, short, opened, others⟩ :=
    (catalog_sealed sample_documented).2.2 _ sample_ideal Sample.programme
    Sample.associated Sample.nonce "TV".toList valid data (by decide) (by decide) (by decide) (by simp)
  refine ⟨envelope, sealed, short, opened, ?_⟩
  have valid' : Sample.flagged.row.Valid := ⟨by simp [Sample.flagged, Sample.programme], by decide⟩
  have separates : Sample.cipher.Separates Sample.programme Sample.flagged := by
    intro same
    exact absurd same (by decide +kernel)
  rw [ne_eq, others Sample.flagged _ valid' separates]
  rintro ⟨same, -⟩
  exact absurd same.1 (by unfold Binding.Same; decide)

end Duskcue.Imports
