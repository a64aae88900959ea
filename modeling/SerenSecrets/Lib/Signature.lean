import SerenSecrets.Lib.Bytes
import Mathlib.Data.Set.Defs

set_option autoImplicit false

/-! # Signatures, and histories without forgeries

`SignatureScheme` is the interface of a signature with 32-byte keys and 64-byte signatures; its law
`Correct` says that what was signed verifies.

That nobody forges is not a law of the scheme. For every message there are bytes that verify, it is
only hard to find them. So it is said of a history, the list of what has happened so far with the
newest event first: it is `Unforgeable` if nothing that verifies under the key of an honest holder
was ever shown before the holder had signed that message. Which events sign and which show something
is up to the protocol (`SignatureView`). -/

structure SignatureScheme where
  keyValid (publicKey : FixedBytes 32) : Bool
  sign (secret : FixedBytes 32) (message : Bytes) : FixedBytes 64
  verifyStrict (publicKey : FixedBytes 32) (message : Bytes) (signature : FixedBytes 64) : Bool

/-- What was signed verifies under the public half of the key. -/
structure SignatureScheme.Correct (S : SignatureScheme)
    (publicOf : FixedBytes 32 → FixedBytes 32) : Prop where
  keyValid_publicOf : ∀ secret, S.keyValid (publicOf secret) = true
  verify_sign : ∀ secret message,
    S.verifyStrict (publicOf secret) message (S.sign secret message) = true

/-! ## Histories -/

/-- What the events of a protocol have to do with signatures: the message that one signs, with the
    public half of the key, and the message that one shows with a signature under a public key. -/
structure SignatureView (Event : Type) where
  signs : Event → Option (FixedBytes 32 × Bytes)
  shows : Event → Option (FixedBytes 32 × Bytes × FixedBytes 64)

variable {Event : Type}

/-- Nothing was shown under an honest key that its holder had not signed before. -/
def SignatureScheme.Unforgeable (S : SignatureScheme) (honest : Set (FixedBytes 32))
    (V : SignatureView Event) : List Event → Prop
  | [] => True
  | event :: past => S.Unforgeable honest V past ∧
      ∀ publicKey message signature, V.shows event = some (publicKey, message, signature) →
        publicKey ∈ honest → S.verifyStrict publicKey message signature = true →
          ∃ signing ∈ past, V.signs signing = some (publicKey, message)

namespace SignatureScheme.Unforgeable

variable {S : SignatureScheme} {honest : Set (FixedBytes 32)} {V : SignatureView Event}

theorem of_suffix {past events : List Event} (h : S.Unforgeable honest V events)
    (hpast : past <:+ events) : S.Unforgeable honest V past := by
  induction events with
  | nil =>
      rw [List.suffix_nil.mp hpast]
      exact trivial
  | cons event events ih =>
      rcases List.suffix_cons_iff.mp hpast with rfl | hpast
      · exact h
      · exact ih h.1 hpast

/-- Whenever something was shown that verifies, its message had been signed. -/
theorem signed_before {event : Event} {past events : List Event} (h : S.Unforgeable honest V events)
    (hpast : event :: past <:+ events) {publicKey : FixedBytes 32} {message : Bytes}
    {signature : FixedBytes 64} (hshows : V.shows event = some (publicKey, message, signature))
    (hhonest : publicKey ∈ honest) (hverify : S.verifyStrict publicKey message signature = true) :
    ∃ signing ∈ past, V.signs signing = some (publicKey, message) :=
  (h.of_suffix hpast).2 publicKey message signature hshows hhonest hverify

end SignatureScheme.Unforgeable

/-! ## The laws can be met -/

/-- The scheme whose signatures are a checksum: the message, padded or cut to 32 bytes, behind the
    key. -/
def SignatureScheme.checksum : SignatureScheme where
  keyValid _ := true
  sign secret message := ⟨secret.toBytes ++ (message ++ List.replicate 32 0).take 32, by simp⟩
  verifyStrict publicKey message signature :=
    signature.toBytes == publicKey.toBytes ++ (message ++ List.replicate 32 0).take 32

theorem SignatureScheme.checksum_correct : SignatureScheme.checksum.Correct id where
  keyValid_publicOf _ := rfl
  verify_sign _ _ := beq_self_eq_true _
