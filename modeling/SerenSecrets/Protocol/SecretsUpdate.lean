import SerenSecrets.Lib.Codec
import SerenSecrets.Lib.Timestamp
import SerenSecrets.Protocol.Signatures

set_option autoImplicit false

/-! # Replacing the account secrets

The secrets of an account are replaced as a whole. The client signs a proof that names the user, the
time and a digest of the new row; the service recomputes the digest from the row it got, and takes
proofs of a limited age only. The two parameter fields are JSON, and both sides bring them into
canonical form before they are hashed.

What the service stores is read off the history of what was signed and put (`storedRow`). Whatever
is put by whom: the row that is stored for a user was signed by the holder of the user's key, as this
very row, within the age limit before it was taken (`storedRow_was_signed`). So a captured proof
brings an old row back only as long as it is fresh. -/

namespace SerenSecrets

/-! ## Fresh proofs -/

section Proofs

variable (S : SignatureScheme) (timestampText : Jiff.Timestamp → String)

def verifyUpdateProofFresh (publicKey : IdentitySigningPublicKey)
    (proof : AccountSecretsUpdateProof Jiff.Timestamp) (signature : Bytes) (now : Jiff.Timestamp)
    (maxAge : Jiff.SignedDuration) : CryptoResult Unit := do
  verifyUpdateProof S timestampText publicKey proof signature
  rejectIf (maxAge.nanoseconds < 0 ∨ now.nanoseconds < proof.issuedAt.nanoseconds) .invalidSignature
  match proof.issuedAt.checkedAdd maxAge with
  | none => .error .invalidSignature
  | some expiresAt => rejectIf (expiresAt.nanoseconds < now.nanoseconds) .invalidSignature

variable {S timestampText}

/-- A proof is fresh from its time on until the limit, which must lie within the calendar. -/
theorem verifyUpdateProofFresh_eq_ok {publicKey : IdentitySigningPublicKey}
    {proof : AccountSecretsUpdateProof Jiff.Timestamp} {signature : Bytes} {now : Jiff.Timestamp}
    {maxAge : Jiff.SignedDuration} :
    verifyUpdateProofFresh S timestampText publicKey proof signature now maxAge = .ok () ↔
      verifyUpdateProof S timestampText publicKey proof signature = .ok () ∧
      0 ≤ maxAge.nanoseconds ∧ proof.issuedAt.nanoseconds ≤ now.nanoseconds ∧
      now.nanoseconds ≤ proof.issuedAt.nanoseconds + maxAge.nanoseconds ∧
      proof.issuedAt.nanoseconds + maxAge.nanoseconds ≤ Jiff.maxNanoseconds := by
  simp only [verifyUpdateProofFresh, Except.bind_unit_eq_ok, rejectIf_eq_ok, not_or, not_lt]
  refine and_congr_right fun _ => ?_
  constructor
  · rintro ⟨⟨hage, hissued⟩, h⟩
    split at h
    · exact absurd h (by simp)
    · rename_i expiresAt hexpires
      rw [Jiff.Timestamp.checkedAdd_eq_some] at hexpires
      rw [rejectIf_eq_ok, not_lt] at h
      exact ⟨hage, hissued, hexpires ▸ h, hexpires ▸ expiresAt.le_max⟩
  · rintro ⟨hage, hissued, hfresh, hrange⟩
    refine ⟨⟨hage, hissued⟩, ?_⟩
    have hmin := proof.issuedAt.min_le
    have hexpires : proof.issuedAt.checkedAdd maxAge
        = some ⟨proof.issuedAt.nanoseconds + maxAge.nanoseconds, by omega, hrange⟩ :=
      Jiff.Timestamp.checkedAdd_eq_some.mpr rfl
    rw [hexpires]
    exact rejectIf_eq_ok.mpr (not_lt.mpr hfresh)

end Proofs

/-! ## Rows -/

/-- The fields of the account secrets that an update replaces. -/
structure SecretsRow where
  kdfParams : JsonValue
  recoveryKdfParams : JsonValue
  accountKeyWrap : Bytes
  accountKemPrivateWrap : Bytes
  accountSigningPrivateWrap : Bytes
  recoveryKeyWrap : Bytes

/-- The blob of a row, with its parameters in canonical form. -/
def SecretsRow.blob (row : SecretsRow) : CryptoResult AccountSecretsBlob := do
  let kdfBytes ← canonicalJsonBytes row.kdfParams.json
  let recoveryKdfBytes ← canonicalJsonBytes row.recoveryKdfParams.json
  return {
    kdfParamsJson := kdfBytes
    recoveryKdfParamsJson := recoveryKdfBytes
    accountKeyWrap := row.accountKeyWrap
    accountKemPrivateWrap := row.accountKemPrivateWrap
    accountSigningPrivateWrap := row.accountSigningPrivateWrap
    recoveryKeyWrap := row.recoveryKeyWrap }

/-- The proof that a client makes for a row. -/
def updateProof (sha256 : Bytes → FixedBytes 32) (userId : Uuid) (issuedAt : Jiff.Timestamp)
    (row : SecretsRow) : CryptoResult (AccountSecretsUpdateProof Jiff.Timestamp) := do
  let blob ← row.blob
  return ⟨userId, issuedAt, digestAccountSecretsBlob sha256 blob⟩

theorem JsonValue.eq_of_canonicalJsonBytes_eq {v w : JsonValue} {out : Bytes}
    (hv : canonicalJsonBytes v.json = .ok out) (hw : canonicalJsonBytes w.json = .ok out) :
    v = w := by
  have hreordered := reordered_of_canonicalJsonBytes_eq (Json.distinctKeys_of_isSorted v.sorted)
    (Json.distinctKeys_of_isSorted w.sorted) hv hw
  exact JsonValue.codec.eq_of_reordered hreordered

/-- A row is known from its blob. -/
theorem SecretsRow.eq_of_blob_eq {row row' : SecretsRow} {blob : AccountSecretsBlob}
    (h : row.blob = .ok blob) (h' : row'.blob = .ok blob) : row = row' := by
  simp only [SecretsRow.blob, Except.bind_eq_ok, Except.pure_eq_ok] at h h'
  obtain ⟨kdf, hkdf, recovery, hrecovery, rfl⟩ := h
  obtain ⟨kdf', hkdf', recovery', hrecovery', heq⟩ := h'
  obtain ⟨rfl, rfl, hkey, hkem, hsigning, hwrap⟩ := AccountSecretsBlob.mk.inj heq
  obtain ⟨_, _, _, _, _, _⟩ := row
  obtain ⟨_, _, _, _, _, _⟩ := row'
  cases JsonValue.eq_of_canonicalJsonBytes_eq hkdf hkdf'
  cases JsonValue.eq_of_canonicalJsonBytes_eq hrecovery hrecovery'
  cases hkey
  cases hkem
  cases hsigning
  cases hwrap
  rfl

theorem updateProof_eq_ok {sha256 : Bytes → FixedBytes 32} {userId : Uuid}
    {issuedAt : Jiff.Timestamp} {row : SecretsRow}
    {proof : AccountSecretsUpdateProof Jiff.Timestamp} :
    updateProof sha256 userId issuedAt row = .ok proof ↔
      ∃ blob, row.blob = .ok blob ∧
        ⟨userId, issuedAt, digestAccountSecretsBlob sha256 blob⟩ = proof := by
  simp only [updateProof, Except.bind_eq_ok, Except.pure_eq_ok]

theorem issuedAt_of_updateProof {sha256 : Bytes → FixedBytes 32} {userId : Uuid}
    {issuedAt : Jiff.Timestamp} {row : SecretsRow}
    {proof : AccountSecretsUpdateProof Jiff.Timestamp}
    (h : updateProof sha256 userId issuedAt row = .ok proof) : proof.issuedAt = issuedAt := by
  obtain ⟨blob, -, rfl⟩ := updateProof_eq_ok.mp h
  rfl

/-! ## The service -/

/-- What happens around the service: a holder of a key signs an update of the secrets or a statement
    of another kind, or somebody puts a row at some time, in the name of a user. -/
inductive UpdateEvent where
  | sign (privateKey : IdentitySigningPrivateKey) (input : SignedInput Jiff.Timestamp)
      (other : input.kind ≠ .accountSecretsUpdate)
  | signUpdate (privateKey : IdentitySigningPrivateKey) (userId : Uuid) (issuedAt : Jiff.Timestamp)
      (row : SecretsRow)
  | put (now : Jiff.Timestamp) (userId : Uuid) (issuedAt : Jiff.Timestamp) (row : SecretsRow)
      (signature : Bytes)

/-- The public keys of the users, and how old a proof may be. -/
structure UpdateService where
  signingPublic : Uuid → Option IdentitySigningPublicKey
  maxAge : Jiff.SignedDuration

section Service

variable (S : SignatureScheme) (timestampText : Jiff.Timestamp → String)
  (sha256 : Bytes → FixedBytes 32) (service : UpdateService)

/-- Whether the service takes a row for a user. -/
def UpdateService.accepts (now : Jiff.Timestamp) (userId : Uuid) (issuedAt : Jiff.Timestamp)
    (row : SecretsRow) (signature : Bytes) : Bool :=
  match service.signingPublic userId, updateProof sha256 userId issuedAt row with
  | some publicKey, .ok proof =>
      decide (verifyUpdateProofFresh S timestampText publicKey proof signature now service.maxAge
        = .ok ())
  | _, _ => false

/-- The row that is stored for a user: the last one that was taken. -/
def storedRow (userId : Uuid) : List UpdateEvent → Option SecretsRow
  | [] => none
  | .put now userId' issuedAt row signature :: past =>
      if userId' = userId
          ∧ service.accepts S timestampText sha256 now userId' issuedAt row signature = true then
        some row
      else storedRow userId past
  | _ :: past => storedRow userId past

def UpdateEvent.row? : UpdateEvent → Option SecretsRow
  | sign .. => none
  | signUpdate _ _ _ row | put _ _ _ row _ => some row

/-- The blobs of the rows in a history. -/
def blobsOf (events : List UpdateEvent) : Set AccountSecretsBlob :=
  {blob | ∃ event ∈ events, ∃ row, event.row? = some row ∧ row.blob = .ok blob}

/-- No two blobs of the history collide under the hash, and their lengths fit in 64 bits. -/
structure HashSeparates (events : List UpdateEvent) : Prop where
  short : ∀ blob ∈ blobsOf events, blob.Short
  injOn : Set.InjOn sha256 (AccountSecretsBlob.digestInput '' blobsOf events)

/-- What the events sign, and what they show under the key that is registered for the user. -/
def UpdateEvent.view : StatementView UpdateEvent Jiff.Timestamp where
  signs
    | sign privateKey input _ => some (privateKey, input)
    | signUpdate privateKey userId issuedAt row => do
        let proof ← (updateProof sha256 userId issuedAt row).toOption
        return (privateKey, .accountSecretsUpdate proof)
    | put .. => none
  shows
    | put _ userId issuedAt row signature => do
        let publicKey ← service.signingPublic userId
        let proof ← (updateProof sha256 userId issuedAt row).toOption
        return (publicKey, .accountSecretsUpdate proof, signature)
    | _ => none

/-- The row was put within the age limit, after the holder of the key had signed it for this user at
    this time. -/
def SignedThenPut (publicOf : FixedBytes 32 → FixedBytes 32)
    (publicKey : IdentitySigningPublicKey) (userId : Uuid) (row : SecretsRow)
    (events : List UpdateEvent) : Prop :=
  ∃ now issuedAt signature past, .put now userId issuedAt row signature :: past <:+ events ∧
    issuedAt.nanoseconds ≤ now.nanoseconds ∧
    now.nanoseconds ≤ issuedAt.nanoseconds + service.maxAge.nanoseconds ∧
    ∃ privateKey, .signUpdate privateKey userId issuedAt row ∈ past ∧
      publicOf privateKey.asBytes = publicKey.asBytes

end Service

/-! ## What is stored -/

section Stored

variable {S : SignatureScheme} {timestampText : Jiff.Timestamp → String}
  {sha256 : Bytes → FixedBytes 32} {service : UpdateService}
  {publicOf : FixedBytes 32 → FixedBytes 32} {honest : Set (FixedBytes 32)} {unstable : Sorter}

theorem UpdateService.accepts_iff {now : Jiff.Timestamp} {userId : Uuid}
    {issuedAt : Jiff.Timestamp} {row : SecretsRow} {signature : Bytes} :
    service.accepts S timestampText sha256 now userId issuedAt row signature = true ↔
      ∃ publicKey proof, service.signingPublic userId = some publicKey ∧
        updateProof sha256 userId issuedAt row = .ok proof ∧
        verifyUpdateProofFresh S timestampText publicKey proof signature now service.maxAge
          = .ok () := by
  unfold accepts
  split
  · rename_i publicKey proof hkey hproof
    rw [decide_eq_true_eq]
    constructor
    · intro hfresh
      exact ⟨publicKey, proof, hkey, hproof, hfresh⟩
    · rintro ⟨publicKey', proof', hkey', hproof', hfresh⟩
      cases hkey.symm.trans hkey'
      cases hproof.symm.trans hproof'
      exact hfresh
  · rename_i hmissing
    simp only [Bool.false_eq_true, false_iff]
    rintro ⟨publicKey, proof, hkey, hproof, -⟩
    exact hmissing publicKey proof hkey hproof

theorem SignedThenPut.cons {publicKey : IdentitySigningPublicKey} {userId : Uuid}
    {row : SecretsRow} {events : List UpdateEvent}
    (h : SignedThenPut service publicOf publicKey userId row events) (event : UpdateEvent) :
    SignedThenPut service publicOf publicKey userId row (event :: events) := by
  obtain ⟨now, issuedAt, signature, past, hpast, hrest⟩ := h
  exact ⟨now, issuedAt, signature, past, hpast.trans (List.suffix_cons event events), hrest⟩

theorem HashSeparates.tail {event : UpdateEvent} {past : List UpdateEvent}
    (h : HashSeparates sha256 (event :: past)) : HashSeparates sha256 past := by
  have hsubset : blobsOf past ⊆ blobsOf (event :: past) := by
    rintro blob ⟨event', hmem, hblob⟩
    exact ⟨event', List.mem_cons_of_mem event hmem, hblob⟩
  exact ⟨fun blob hblob => h.short blob (hsubset hblob), h.injOn.mono (Set.image_mono hsubset)⟩

/-- Rows of a history with the same digest are the same row. -/
theorem HashSeparates.eq_of_updateProof_eq {events : List UpdateEvent}
    (h : HashSeparates sha256 events) {event event' : UpdateEvent} (hmem : event ∈ events)
    (hmem' : event' ∈ events) {row row' : SecretsRow} (hrow : event.row? = some row)
    (hrow' : event'.row? = some row') {userId userId' : Uuid} {issuedAt issuedAt' : Jiff.Timestamp}
    {proof : AccountSecretsUpdateProof Jiff.Timestamp}
    (hproof : updateProof sha256 userId issuedAt row = .ok proof)
    (hproof' : updateProof sha256 userId' issuedAt' row' = .ok proof) :
    userId = userId' ∧ issuedAt = issuedAt' ∧ row = row' := by
  obtain ⟨blob, hblob, rfl⟩ := updateProof_eq_ok.mp hproof
  obtain ⟨blob', hblob', heq⟩ := updateProof_eq_ok.mp hproof'
  obtain ⟨huser, hissued, hdigest⟩ := AccountSecretsUpdateProof.mk.inj heq
  have hin : blob ∈ blobsOf events := ⟨event, hmem, row, hrow, hblob⟩
  have hin' : blob' ∈ blobsOf events := ⟨event', hmem', row', hrow', hblob'⟩
  have hinput : blob'.digestInput = blob.digestInput :=
    h.injOn (Set.mem_image_of_mem _ hin') (Set.mem_image_of_mem _ hin) hdigest
  obtain rfl := AccountSecretsBlob.eq_of_digestInput_eq (h.short _ hin') (h.short _ hin) hinput
  exact ⟨huser.symm, hissued.symm, SecretsRow.eq_of_blob_eq hblob hblob'⟩

/-- A row that is taken for an honest user was signed for it. -/
theorem signedThenPut_of_accepts (hinj : Function.Injective timestampText)
    (hnl : ∀ t, '\n' ∉ (timestampText t).toList) {now : Jiff.Timestamp} {userId : Uuid}
    {issuedAt : Jiff.Timestamp} {row : SecretsRow} {signature : Bytes} {past : List UpdateEvent}
    (hevents : S.Unforgeable honest
      ((UpdateEvent.view sha256 service).messages timestampText unstable publicOf)
      (.put now userId issuedAt row signature :: past))
    (hhash : HashSeparates sha256 (.put now userId issuedAt row signature :: past))
    {publicKey : IdentitySigningPublicKey} (hkey : service.signingPublic userId = some publicKey)
    (hhonest : publicKey.asBytes ∈ honest)
    (haccepts : service.accepts S timestampText sha256 now userId issuedAt row signature = true) :
    SignedThenPut service publicOf publicKey userId row
      (.put now userId issuedAt row signature :: past) := by
  obtain ⟨publicKey', proof, hkey', hproof, hfresh⟩ := UpdateService.accepts_iff.mp haccepts
  cases hkey.symm.trans hkey'
  obtain ⟨hverify, -, hissued, hage, -⟩ := verifyUpdateProofFresh_eq_ok.mp hfresh
  rw [issuedAt_of_updateProof hproof] at hissued hage
  have hshows : (UpdateEvent.view sha256 service).shows (.put now userId issuedAt row signature)
      = some (publicKey, .accountSecretsUpdate proof, signature) := by
    simp only [UpdateEvent.view, hkey, hproof, Option.bind_eq_bind, Option.bind_some,
      Except.toOption, Option.pure_def]
  obtain ⟨signing, hmem, privateKey, signed, hsigned, hpublic, hsays⟩ :=
    StatementView.signed_before hinj hnl hevents (List.suffix_refl _) hshows hhonest hverify
  obtain rfl := hsays.eq (by simp [SignedInput.kind])
  cases signing with
  | put => exact absurd hsigned (by simp [UpdateEvent.view])
  | sign privateKey' input other =>
      cases hsigned
      exact absurd rfl other
  | signUpdate privateKey' userId' issuedAt' row' =>
      simp only [UpdateEvent.view, Option.bind_eq_bind, Option.bind_eq_some_iff,
        Except.toOption_eq_some, Option.pure_def, Option.some.injEq, Prod.mk.injEq,
        SignedInput.accountSecretsUpdate.injEq] at hsigned
      obtain ⟨proof', hproof', rfl, rfl⟩ := hsigned
      obtain ⟨rfl, rfl, rfl⟩ := hhash.eq_of_updateProof_eq List.mem_cons_self
        (List.mem_cons_of_mem _ hmem) rfl rfl hproof hproof'
      exact ⟨now, issuedAt, signature, past, List.suffix_refl _, hissued, hage, privateKey', hmem,
        hpublic⟩

/-- What is stored for an honest user was signed for it. -/
theorem signedThenPut_of_storedRow (hinj : Function.Injective timestampText)
    (hnl : ∀ t, '\n' ∉ (timestampText t).toList) {events : List UpdateEvent}
    (hevents : S.Unforgeable honest
      ((UpdateEvent.view sha256 service).messages timestampText unstable publicOf) events)
    (hhash : HashSeparates sha256 events) {userId : Uuid} {publicKey : IdentitySigningPublicKey}
    (hkey : service.signingPublic userId = some publicKey) (hhonest : publicKey.asBytes ∈ honest)
    {row : SecretsRow} (hrow : storedRow S timestampText sha256 service userId events = some row) :
    SignedThenPut service publicOf publicKey userId row events := by
  induction events with
  | nil => exact absurd hrow (by simp [storedRow])
  | cons event past ih =>
      cases event with
      | sign privateKey input other => exact (ih hevents.1 hhash.tail hrow).cons _
      | signUpdate privateKey userId' issuedAt row' => exact (ih hevents.1 hhash.tail hrow).cons _
      | put now userId' issuedAt row' signature =>
          rw [storedRow] at hrow
          split at hrow
          · rename_i htaken
            obtain ⟨rfl, haccepts⟩ := htaken
            cases hrow
            exact signedThenPut_of_accepts hinj hnl hevents hhash hkey hhonest haccepts
          · exact (ih hevents.1 hhash.tail hrow).cons _

/-- The row that a client signs is taken within the age limit. -/
theorem accepts_buildUpdateProof (hS : S.Correct publicOf) {privateKey : IdentitySigningPrivateKey}
    {userId : Uuid} {issuedAt now : Jiff.Timestamp} {row : SecretsRow}
    {proof : AccountSecretsUpdateProof Jiff.Timestamp}
    (hkey : service.signingPublic userId = some ⟨publicOf privateKey.asBytes⟩)
    (hproof : updateProof sha256 userId issuedAt row = .ok proof)
    (hissued : issuedAt.nanoseconds ≤ now.nanoseconds)
    (hage : now.nanoseconds ≤ issuedAt.nanoseconds + service.maxAge.nanoseconds)
    (hrange : issuedAt.nanoseconds + service.maxAge.nanoseconds ≤ Jiff.maxNanoseconds) :
    service.accepts S timestampText sha256 now userId issuedAt row
      (buildUpdateProof S timestampText privateKey proof) = true := by
  refine UpdateService.accepts_iff.mpr ⟨_, proof, hkey, hproof, ?_⟩
  refine verifyUpdateProofFresh_eq_ok.mpr ⟨?_, by omega, ?_⟩
  · exact Signing.verify_sign hS privateKey _
  · rw [issuedAt_of_updateProof hproof]
    exact ⟨hissued, hage, hrange⟩

/-- **Only what the user signed is stored, and only while it is fresh.** In every history without
    forgeries and collisions, the row that is stored for an honest user was signed by the holder of
    its key as this very row, for this user, and was put within the age limit. The next row that the
    holder signs is stored if it is put within the limit, and puts in the name of others change
    nothing. -/
theorem storedRow_was_signed (hS : S.Correct publicOf) (hinj : Function.Injective timestampText)
    (hnl : ∀ t, '\n' ∉ (timestampText t).toList) {events : List UpdateEvent}
    (hevents : S.Unforgeable honest
      ((UpdateEvent.view sha256 service).messages timestampText unstable publicOf) events)
    (hhash : HashSeparates sha256 events) (userId : Uuid) :
    (∀ publicKey row, service.signingPublic userId = some publicKey → publicKey.asBytes ∈ honest →
      storedRow S timestampText sha256 service userId events = some row →
        SignedThenPut service publicOf publicKey userId row events) ∧
    (∀ privateKey issuedAt now row proof,
      service.signingPublic userId = some ⟨publicOf privateKey.asBytes⟩ →
      updateProof sha256 userId issuedAt row = .ok proof →
      issuedAt.nanoseconds ≤ now.nanoseconds →
      now.nanoseconds ≤ issuedAt.nanoseconds + service.maxAge.nanoseconds →
      issuedAt.nanoseconds + service.maxAge.nanoseconds ≤ Jiff.maxNanoseconds →
        storedRow S timestampText sha256 service userId
          (.put now userId issuedAt row (buildUpdateProof S timestampText privateKey proof) :: events)
            = some row) ∧
    ∀ now userId' issuedAt row signature, userId' ≠ userId →
      storedRow S timestampText sha256 service userId
        (.put now userId' issuedAt row signature :: events)
          = storedRow S timestampText sha256 service userId events := by
  refine ⟨?_, ?_, ?_⟩
  · intro publicKey row hkey hhonest hrow
    exact signedThenPut_of_storedRow hinj hnl hevents hhash hkey hhonest hrow
  · intro privateKey issuedAt now row proof hkey hproof hissued hage hrange
    rw [storedRow, if_pos ⟨rfl, accepts_buildUpdateProof hS hkey hproof hissued hage hrange⟩]
  · intro now userId' issuedAt row signature huser
    rw [storedRow, if_neg fun h => huser h.1]

end Stored

/-! ## A history -/

/-- The text of the epoch, and a text of its own for every other instant. -/
def exampleTimestampText (t : Jiff.Timestamp) : String :=
  (if t.nanoseconds = 0 then "" else (t.nanoseconds - Jiff.minNanoseconds).toNat.repr)
    ++ "1970-01-01T00:00:00Z"

theorem exampleTimestampText_injective : Function.Injective exampleTimestampText := by
  rintro ⟨a, hmin, hmax⟩ ⟨b, hmin', hmax'⟩ h
  have hdigits : ∀ n : ℕ, n.repr ≠ "" := fun n hn => natRepr_ne_nil n (by rw [hn]; rfl)
  rw [exampleTimestampText, exampleTimestampText, ← String.toList_inj, String.toList_append,
    String.toList_append, List.append_cancel_right_eq, String.toList_inj] at h
  split_ifs at h with ha hb hb
  · cases ha
    cases hb
    rfl
  · exact absurd h.symm (hdigits _)
  · exact absurd h (hdigits _)
  · have hnat := natRepr_injective h
    rw [Jiff.Timestamp.mk.injEq]
    dsimp only at hnat
    omega

theorem newline_notMem_exampleTimestampText (t : Jiff.Timestamp) :
    '\n' ∉ (exampleTimestampText t).toList := by
  have hdigits : ∀ n : ℕ, '\n' ∉ n.repr.toList := by
    intro n hn
    rw [Nat.toList_repr] at hn
    exact absurd (Nat.isDigit_of_mem_toDigits (by decide) (by decide) hn) (by decide)
  rw [exampleTimestampText, String.toList_append, List.mem_append]
  rintro (h | h)
  · split at h
    · exact absurd h (by decide)
    · exact hdigits _ h
  · exact absurd h (by decide)

/-- A hash for the example. -/
def exampleSha256 (input : Bytes) : FixedBytes 32 := .replicate 32 (UInt8.ofNat input.length)

def exampleRow : SecretsRow where
  kdfParams := .null
  recoveryKdfParams := .null
  accountKeyWrap := [1]
  accountKemPrivateWrap := [2]
  accountSigningPrivateWrap := [3]
  recoveryKeyWrap := [4]

def epoch : Jiff.Timestamp := ⟨0, by decide, by decide⟩

/-- A service with one user that takes proofs of up to a minute. -/
def exampleUpdateService : UpdateService where
  signingPublic userId := if userId = .replicate 16 1 then some ⟨.replicate 32 7⟩ else none
  maxAge := ⟨60 * 10 ^ 9, by decide, by decide⟩

/-- A row is signed at the epoch, and put with its proof. -/
def putHistory (privateKey : IdentitySigningPrivateKey) (userId : Uuid) (row : SecretsRow)
    (proof : AccountSecretsUpdateProof Jiff.Timestamp) : List UpdateEvent :=
  [.put epoch userId epoch row (buildUpdateProof .checksum exampleTimestampText privateKey proof),
    .signUpdate privateKey userId epoch row]

/-- There is only one blob in the history of one row. -/
theorem hashSeparates_of_row {sha256 : Bytes → FixedBytes 32} {events : List UpdateEvent}
    {row : SecretsRow} {blob : AccountSecretsBlob} (hblob : row.blob = .ok blob)
    (hshort : blob.Short) (hrows : ∀ event ∈ events, event.row? = some row) :
    HashSeparates sha256 events := by
  have honly : blobsOf events ⊆ {blob} := by
    rintro blob' ⟨event, hmem, row', hrow, hblob'⟩
    cases (hrows event hmem).symm.trans hrow
    exact (Except.ok.inj (hblob.symm.trans hblob')).symm
  refine ⟨fun blob' hblob' => honly hblob' ▸ hshort, ?_⟩
  exact (Set.subsingleton_singleton.anti honly).image _ |>.injOn _

section PutHistory

variable {service : UpdateService} {privateKey : IdentitySigningPrivateKey} {userId : Uuid}
  {row : SecretsRow} {proof : AccountSecretsUpdateProof Jiff.Timestamp}

theorem unforgeable_putHistory
    (hkey : service.signingPublic userId = some ⟨privateKey.asBytes⟩)
    (hproof : updateProof exampleSha256 userId epoch row = .ok proof) :
    SignatureScheme.checksum.Unforgeable {privateKey.asBytes}
      ((UpdateEvent.view exampleSha256 service).messages exampleTimestampText .stable id)
      (putHistory privateKey userId row proof) := by
  refine ⟨⟨trivial, nofun⟩, ?_⟩
  intro publicKey message signature hshows hhonest _
  refine ⟨_, List.mem_cons_self, ?_⟩
  simp only [StatementView.messages, UpdateEvent.view, Option.bind_eq_bind, hproof, hkey,
    Option.bind_eq_some_iff, Prod.exists, Option.pure_def, Option.some.injEq, Prod.mk.injEq,
    Except.toOption_eq_some, Except.ok.injEq] at hshows ⊢
  obtain ⟨_, _, _, ⟨_, -, _, rfl, rfl, rfl, rfl⟩, _, hmessage, _, -, rfl, rfl, rfl⟩ := hshows
  exact ⟨_, _, ⟨_, rfl, rfl, rfl⟩, _, hmessage, hhonest.symm, rfl⟩

theorem storedRow_putHistory
    (hkey : service.signingPublic userId = some ⟨privateKey.asBytes⟩)
    (hproof : updateProof exampleSha256 userId epoch row = .ok proof)
    (hage : 0 ≤ service.maxAge.nanoseconds)
    (hrange : service.maxAge.nanoseconds ≤ Jiff.maxNanoseconds) :
    storedRow .checksum exampleTimestampText exampleSha256 service userId
      (putHistory privateKey userId row proof) = some row := by
  have hepoch : epoch.nanoseconds = 0 := rfl
  rw [putHistory, storedRow, if_pos ⟨rfl, accepts_buildUpdateProof SignatureScheme.checksum_correct
    hkey hproof le_rfl (by omega) (by omega)⟩]

end PutHistory

theorem storedRow_was_signed_put :
    ∃ proof, updateProof exampleSha256 (.replicate 16 1) epoch exampleRow = .ok proof ∧
      storedRow .checksum exampleTimestampText exampleSha256 exampleUpdateService (.replicate 16 1)
          (putHistory ⟨.replicate 32 7⟩ (.replicate 16 1) exampleRow proof) = some exampleRow ∧
      SignedThenPut exampleUpdateService id ⟨.replicate 32 7⟩ (.replicate 16 1) exampleRow
        (putHistory ⟨.replicate 32 7⟩ (.replicate 16 1) exampleRow proof) := by
  have hproof : ∃ proof, updateProof exampleSha256 (.replicate 16 1) epoch exampleRow
      = .ok proof := ⟨_, rfl⟩
  obtain ⟨proof, hproof⟩ := hproof
  have hblob : ∃ blob, exampleRow.blob = .ok blob ∧ blob.Short := ⟨_, rfl, by decide⟩
  obtain ⟨blob, hblob, hshort⟩ := hblob
  have hkey : exampleUpdateService.signingPublic (.replicate 16 1)
      = some ⟨(IdentitySigningPrivateKey.mk (.replicate 32 7)).asBytes⟩ := rfl
  have hstored := storedRow_putHistory hkey hproof (by decide) (by decide)
  obtain ⟨hsigned, -, -⟩ := storedRow_was_signed SignatureScheme.checksum_correct
    exampleTimestampText_injective newline_notMem_exampleTimestampText
    (unforgeable_putHistory hkey hproof)
    (hashSeparates_of_row hblob hshort (by simp [putHistory, UpdateEvent.row?])) (.replicate 16 1)
  exact ⟨proof, hproof, hstored, hsigned ⟨.replicate 32 7⟩ exampleRow rfl rfl hstored⟩

end SerenSecrets
