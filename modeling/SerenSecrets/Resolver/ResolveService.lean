import SerenSecrets.Protocol.Signatures
import SerenSecrets.Resolver.Resolution

set_option autoImplicit false

/-! # Resolve requests and what is granted for them

Every call of the resolver signs one request, with a time and a nonce, and sends it. The service hands
out wrapped keys for a signed request, and whoever has seen one can show it again. The service is not
part of this development. It may be any service of which holds what the documentation of the signed
request says (`DocumentedGrants`): it verifies signatures, grants within a window of time, and does
not take the nonce of a request again while the request is still within the window.

What follows for the callers: whatever is granted in the name of an identity belongs to a call that
was made with its key, for the same reference, and no call is granted twice, however often its request
is shown (`grants_belong_to_calls`). -/

namespace SerenSecrets

/-! ## Histories -/

/-- What happens around the service: a call of the resolver, a signature under a statement of another
    kind, or a request that is granted in the name of a caller. -/
inductive ResolveEvent (Timestamp : Type) where
  | resolve (resolver : SerenSecretsResolver) (call : ResolveCall Timestamp) (uri : String)
  | sign (privateKey : IdentitySigningPrivateKey) (input : SignedInput Timestamp)
      (other : input.kind ≠ .resolve)
  | grant (now : Timestamp) (caller : Uuid) (body : ResolveBody Timestamp)

/-- The request that a body makes in the name of a caller. -/
def ResolveBody.request {Timestamp : Type} (body : ResolveBody Timestamp) (caller : Uuid) :
    ResolveRequest Timestamp :=
  ⟨body.uri, caller, body.issuedAt, body.nonce⟩

/-- The request that a call makes. -/
def ResolveCall.request {Timestamp : Type} (call : ResolveCall Timestamp)
    (resolver : SerenSecretsResolver) (uri : String) : ResolveRequest Timestamp :=
  ⟨uri, resolver.callerIdentityId, call.issuedAt, call.nonce⟩

section Histories

variable {Timestamp : Type} (S : SignatureScheme) (timestampText : Timestamp → String)
  (signingPublic : Uuid → Option IdentitySigningPublicKey) (fresh : Timestamp → Timestamp → Bool)

/-- A call signs its request once it has read the reference, and a grant shows the request under the
    key that is registered for the caller. -/
def ResolveEvent.view : StatementView (ResolveEvent Timestamp) Timestamp where
  signs
    | resolve resolver call uri => (parseSerenSecretsUri uri).toOption.map fun _ =>
        (resolver.signingPrivate, .resolve (call.request resolver uri))
    | sign privateKey input _ => some (privateKey, input)
    | grant .. => none
  shows
    | grant _ caller body => do
        let publicKey ← signingPublic caller
        let signature ← Base64.decode body.requestSignature
        return (publicKey, .resolve (body.request caller), signature)
    | _ => none

/-- What is documented of the service. `fresh issuedAt now` says that a request is within the window;
    the documented service never takes a nonce again, here it may do so once the earlier request has
    left the window. -/
structure DocumentedGrants (events : List (ResolveEvent Timestamp)) : Prop where
  verified : ∀ now caller body past, .grant now caller body :: past <:+ events →
    ∃ publicKey signature, signingPublic caller = some publicKey ∧
      Base64.decode body.requestSignature = some signature ∧
      verifyResolveSignature S timestampText publicKey (body.request caller) signature = .ok ()
  inWindow : ∀ now caller body past, .grant now caller body :: past <:+ events →
    fresh body.issuedAt now = true
  consumed : ∀ now caller body past, .grant now caller body :: past <:+ events →
    ∀ now' body', .grant now' caller body' ∈ past → body'.nonce = body.nonce →
      fresh body'.issuedAt now = false

/-- The requests that are granted in the name of a caller. -/
def grantedTo (caller : Uuid) : List (ResolveEvent Timestamp) → List (ResolveRequest Timestamp)
  | [] => []
  | .grant _ caller' body :: past =>
      if caller' = caller then body.request caller :: grantedTo caller past
      else grantedTo caller past
  | _ :: past => grantedTo caller past

/-- The requests of the calls that are made with a key. -/
def calledWith (publicOf : FixedBytes 32 → FixedBytes 32) (publicKey : IdentitySigningPublicKey) :
    List (ResolveEvent Timestamp) → List (ResolveRequest Timestamp)
  | [] => []
  | .resolve resolver call uri :: past =>
      if publicOf resolver.signingPrivate.asBytes = publicKey.asBytes then
        call.request resolver uri :: calledWith publicOf publicKey past
      else calledWith publicOf publicKey past
  | _ :: past => calledWith publicOf publicKey past

end Histories

/-! ## Grants and calls -/

section Grants

variable {Timestamp : Type} {S : SignatureScheme} {timestampText : Timestamp → String}
  {signingPublic : Uuid → Option IdentitySigningPublicKey} {fresh : Timestamp → Timestamp → Bool}
  {publicOf : FixedBytes 32 → FixedBytes 32} {honest : Set (FixedBytes 32)} {unstable : Sorter}
  {events : List (ResolveEvent Timestamp)} {caller : Uuid} {publicKey : IdentitySigningPublicKey}

theorem DocumentedGrants.of_suffix {past : List (ResolveEvent Timestamp)}
    (h : DocumentedGrants S timestampText signingPublic fresh events) (hpast : past <:+ events) :
    DocumentedGrants S timestampText signingPublic fresh past where
  verified now caller body before hbefore := h.verified now caller body before (hbefore.trans hpast)
  inWindow now caller body before hbefore := h.inWindow now caller body before (hbefore.trans hpast)
  consumed now caller body before hbefore := h.consumed now caller body before (hbefore.trans hpast)

theorem mem_grantedTo {request : ResolveRequest Timestamp} :
    request ∈ grantedTo caller events ↔
      ∃ now body, .grant now caller body ∈ events ∧ body.request caller = request := by
  induction events with
  | nil => simp [grantedTo]
  | cons event past ih =>
      cases event with
      | resolve resolver call uri => simp [grantedTo, ih]
      | sign privateKey input other => simp [grantedTo, ih]
      | grant now caller' body =>
          rw [grantedTo]
          split
          · rename_i hcaller
            subst hcaller
            simp only [List.mem_cons, ih, ResolveEvent.grant.injEq, true_and]
            constructor
            · rintro (rfl | ⟨now', body', hmem, rfl⟩)
              · exact ⟨now, body, .inl ⟨rfl, rfl⟩, rfl⟩
              · exact ⟨now', body', .inr hmem, rfl⟩
            · rintro ⟨now', body', ⟨-, rfl⟩ | hmem, rfl⟩
              · exact .inl rfl
              · exact .inr ⟨now', body', hmem, rfl⟩
          · rename_i hcaller
            rw [ih]
            simp [Ne.symm hcaller]

theorem mem_calledWith {resolver : SerenSecretsResolver} {call : ResolveCall Timestamp}
    {uri : String} (hmem : .resolve resolver call uri ∈ events)
    (hkey : publicOf resolver.signingPrivate.asBytes = publicKey.asBytes) :
    call.request resolver uri ∈ calledWith publicOf publicKey events := by
  induction events with
  | nil => exact absurd hmem List.not_mem_nil
  | cons event past ih =>
      rcases List.mem_cons.mp hmem with rfl | hpast
      · rw [calledWith, if_pos hkey]
        exact List.mem_cons_self
      · cases event with
        | sign privateKey input other => exact ih hpast
        | grant now caller' body => exact ih hpast
        | resolve resolver' call' uri' =>
            rw [calledWith]
            split
            · exact List.mem_cons_of_mem _ (ih hpast)
            · exact ih hpast

/-- A request that was granted is refused for as long as it would be taken. -/
theorem nodup_grantedTo (h : DocumentedGrants S timestampText signingPublic fresh events) :
    (grantedTo caller events).Nodup := by
  induction events with
  | nil => exact List.nodup_nil
  | cons event past ih =>
      have hpast := ih (h.of_suffix (List.suffix_cons _ _))
      cases event with
      | resolve resolver call uri => exact hpast
      | sign privateKey input other => exact hpast
      | grant now caller' body =>
          rw [grantedTo]
          split
          · rename_i hcaller
            subst hcaller
            refine List.nodup_cons.mpr ⟨?_, hpast⟩
            intro hmem
            obtain ⟨now', body', hgrant, hsame⟩ := mem_grantedTo.mp hmem
            have hnonce : body'.nonce = body.nonce := congrArg ResolveRequest.nonce hsame
            have hissued : body'.issuedAt = body.issuedAt := congrArg ResolveRequest.issuedAt hsame
            have hfresh := h.inWindow now caller' body past (List.suffix_refl _)
            have hstale := h.consumed now caller' body past (List.suffix_refl _) now' body' hgrant
              hnonce
            rw [hissued, hfresh] at hstale
            cases hstale
          · exact hpast

/-- What is granted in the name of an honest identity was called for with its key. -/
theorem called_of_grant (hinj : Function.Injective timestampText)
    (hnl : ∀ t, '\n' ∉ (timestampText t).toList)
    (hevents : S.Unforgeable honest
      ((ResolveEvent.view signingPublic).messages timestampText unstable publicOf) events)
    (hservice : DocumentedGrants S timestampText signingPublic fresh events)
    (hkey : signingPublic caller = some publicKey) (hhonest : publicKey.asBytes ∈ honest)
    {now : Timestamp} {body : ResolveBody Timestamp} {past : List (ResolveEvent Timestamp)}
    (hgrant : .grant now caller body :: past <:+ events) :
    ∃ resolver call vault item field, .resolve resolver call body.uri ∈ past ∧
      publicOf resolver.signingPrivate.asBytes = publicKey.asBytes ∧
      call.request resolver body.uri = body.request caller ∧
      IsReference body.uri vault item field := by
  obtain ⟨publicKey', signature, hkey', hsignature, hverify⟩ :=
    hservice.verified now caller body past hgrant
  cases hkey.symm.trans hkey'
  have hshows : (ResolveEvent.view signingPublic).shows (.grant now caller body)
      = some (publicKey, .resolve (body.request caller), signature) := by
    simp only [ResolveEvent.view, hkey, hsignature, Option.bind_eq_bind, Option.bind_some,
      Option.pure_def]
  obtain ⟨signing, hmem, privateKey, signed, hsigned, hpublic, hsays⟩ :=
    StatementView.signed_before hinj hnl hevents hgrant hshows hhonest hverify
  obtain rfl := hsays.eq (by simp [SignedInput.kind])
  cases signing with
  | grant => exact absurd hsigned (by simp [ResolveEvent.view])
  | sign privateKey' input other =>
      cases hsigned
      exact absurd rfl other
  | resolve resolver call uri =>
      obtain ⟨⟨vault, item, field⟩, hparse, hrequest⟩ := Option.map_eq_some_iff.mp hsigned
      obtain ⟨rfl, hstatement⟩ := Prod.mk.inj hrequest
      have hsame : call.request resolver uri = body.request caller :=
        SignedInput.resolve.inj hstatement
      obtain rfl : uri = body.uri := congrArg ResolveRequest.uri hsame
      exact ⟨resolver, call, vault, item, field, hmem, hpublic, hsame,
        parseSerenSecretsUri_eq_ok.mp (Except.toOption_eq_some.mp hparse)⟩

/-- **Grants belong to calls.** In every history without forgeries, with any service that does what is
    documented of it: what is granted in the name of an honest identity was called for before with the
    key of the identity, by the same reference, at the same time and under the same nonce; no request
    is granted twice, and so there are never more grants than calls. And what a call sends verifies
    under the public half of its key. -/
theorem grants_belong_to_calls (hS : S.Correct publicOf) (hinj : Function.Injective timestampText)
    (hnl : ∀ t, '\n' ∉ (timestampText t).toList)
    (hevents : S.Unforgeable honest
      ((ResolveEvent.view signingPublic).messages timestampText unstable publicOf) events)
    (hservice : DocumentedGrants S timestampText signingPublic fresh events)
    (hkey : signingPublic caller = some publicKey) (hhonest : publicKey.asBytes ∈ honest) :
    (∀ now body past, .grant now caller body :: past <:+ events →
      ∃ resolver call vault item field, .resolve resolver call body.uri ∈ past ∧
        publicOf resolver.signingPrivate.asBytes = publicKey.asBytes ∧
        call.request resolver body.uri = body.request caller ∧
        IsReference body.uri vault item field) ∧
    (grantedTo caller events).Nodup ∧
    (grantedTo caller events).length ≤ (calledWith publicOf publicKey events).length ∧
    ∀ (resolver : SerenSecretsResolver) (call : ResolveCall Timestamp) uri body,
      call.Requests (Signing.sign S) timestampText resolver uri body →
      body.request resolver.callerIdentityId = call.request resolver uri ∧
      ∃ signature, Base64.decode body.requestSignature = some signature ∧
        verifyResolveSignature S timestampText ⟨publicOf resolver.signingPrivate.asBytes⟩
          (body.request resolver.callerIdentityId) signature = .ok () := by
  have hcalled : ∀ now body past, .grant now caller body :: past <:+ events → _ :=
    fun now body past hgrant => called_of_grant hinj hnl hevents hservice hkey hhonest hgrant
  refine ⟨hcalled, nodup_grantedTo hservice, ?_, ?_⟩
  · refine (List.subperm_of_subset (nodup_grantedTo hservice) ?_).length_le
    intro request hrequest
    obtain ⟨now, body, hmem, rfl⟩ := mem_grantedTo.mp hrequest
    obtain ⟨newer, past, rfl⟩ := List.append_of_mem hmem
    obtain ⟨resolver, call, -, -, -, hcall, hpublic, hsame, -⟩ :=
      hcalled now body past (List.suffix_append _ _)
    rw [← hsame]
    exact mem_calledWith (List.mem_append_right _ (List.mem_cons_of_mem _ hcall)) hpublic
  · rintro resolver call uri body ⟨canonical, hcanonical, rfl⟩
    refine ⟨rfl, _, Base64.decode_encode _, ?_⟩
    simp only [verifyResolveSignature, verifyCanonical, ResolveBody.request, hcanonical]
    exact Signing.verify_sign hS resolver.signingPrivate canonical

end Grants

/-! ## Two calls -/

/-- One identity is registered. -/
def exampleSigningPublic (identity : Uuid) : Option IdentitySigningPublicKey :=
  if identity = .replicate 16 1 then some ⟨.replicate 32 7⟩ else none

/-- A request is taken for three seconds. -/
def exampleFresh (issuedAt now : Fin 10) : Bool := issuedAt ≤ now ∧ now.val < issuedAt.val + 3

/-- Three seconds, one after the other. -/
def secondFive : Fin 10 := ⟨5, by decide⟩

def secondSix : Fin 10 := ⟨6, by decide⟩

def secondSeven : Fin 10 := ⟨7, by decide⟩

def exampleResolver : SerenSecretsResolver where
  callerIdentityId := .replicate 16 1
  signingPrivate := ⟨.replicate 32 7⟩
  kemPrivate := ⟨.replicate 32 8⟩

def exampleResolveCall (issuedAt : Fin 10) (nonce : Uuid) : ResolveCall (Fin 10) :=
  ⟨issuedAt, nonce, fun _ => .failed .other⟩

/-- Both calls are made, and the requests that they send are granted. -/
def exampleGrants (first second : ResolveBody (Fin 10)) : List (ResolveEvent (Fin 10)) :=
  [.grant secondSeven (.replicate 16 1) second,
    .resolve exampleResolver (exampleResolveCall secondSix (.replicate 16 3)) lowerReference,
    .grant secondSix (.replicate 16 1) first,
    .resolve exampleResolver (exampleResolveCall secondFive (.replicate 16 2)) lowerReference]

section Example

variable {first second : ResolveBody (Fin 10)}

/-- The body of a call passes the checks of its signature. -/
theorem verified_exampleResolveCall {issuedAt : Fin 10} {nonce : Uuid}
    {body : ResolveBody (Fin 10)}
    (h : (exampleResolveCall issuedAt nonce).Requests (Signing.sign .checksum) epochSecondText
      exampleResolver lowerReference body) :
    ∃ publicKey signature, exampleSigningPublic (.replicate 16 1) = some publicKey ∧
      Base64.decode body.requestSignature = some signature ∧
      verifyResolveSignature .checksum epochSecondText publicKey (body.request (.replicate 16 1))
        signature = .ok () := by
  obtain ⟨canonical, hcanonical, rfl⟩ := h
  refine ⟨⟨.replicate 32 7⟩, _, rfl, Base64.decode_encode _, ?_⟩
  have hbytes : resolveCanonical epochSecondText
      ⟨lowerReference, .replicate 16 1, issuedAt, nonce⟩ = .ok canonical := hcanonical
  simp only [verifyResolveSignature, verifyCanonical, ResolveBody.request, exampleResolveCall, hbytes]
  exact Signing.verify_sign SignatureScheme.checksum_correct ⟨.replicate 32 7⟩ canonical

theorem documented_exampleGrants
    (hfirst : (exampleResolveCall secondFive (.replicate 16 2)).Requests (Signing.sign .checksum)
      epochSecondText exampleResolver lowerReference first)
    (hsecond : (exampleResolveCall secondSix (.replicate 16 3)).Requests (Signing.sign .checksum)
      epochSecondText exampleResolver lowerReference second) :
    DocumentedGrants .checksum epochSecondText exampleSigningPublic exampleFresh
      (exampleGrants first second) := by
  have hcases : ∀ {now caller body past},
      .grant now caller body :: past <:+ exampleGrants first second →
      caller = .replicate 16 1 ∧
        (now = secondSeven ∧ body = second ∧ past = (exampleGrants first second).tail ∨
          now = secondSix ∧ body = first ∧ past = [.resolve exampleResolver
            (exampleResolveCall secondFive (.replicate 16 2)) lowerReference]) := by
    intro now caller body past h
    simp only [exampleGrants, List.suffix_cons_iff, List.cons.injEq, ResolveEvent.grant.injEq,
      reduceCtorEq, false_and, List.suffix_nil, or_false, false_or] at h
    rcases h with ⟨⟨rfl, rfl, rfl⟩, rfl⟩ | ⟨⟨rfl, rfl, rfl⟩, rfl⟩
    · exact ⟨rfl, .inl ⟨rfl, rfl, rfl⟩⟩
    · exact ⟨rfl, .inr ⟨rfl, rfl, rfl⟩⟩
  have hissued : first.issuedAt = secondFive ∧ first.nonce = .replicate 16 2 ∧
      second.issuedAt = secondSix ∧ second.nonce = .replicate 16 3 := by
    obtain ⟨_, -, rfl⟩ := hfirst
    obtain ⟨_, -, rfl⟩ := hsecond
    exact ⟨rfl, rfl, rfl, rfl⟩
  obtain ⟨hissued₁, hnonce₁, hissued₂, hnonce₂⟩ := hissued
  constructor
  · intro now caller body past h
    obtain ⟨rfl, ⟨-, rfl, -⟩ | ⟨-, rfl, -⟩⟩ := hcases h
    · exact verified_exampleResolveCall hsecond
    · exact verified_exampleResolveCall hfirst
  · intro now caller body past h
    obtain ⟨rfl, ⟨rfl, rfl, -⟩ | ⟨rfl, rfl, -⟩⟩ := hcases h
    · rw [hissued₂]
      rfl
    · rw [hissued₁]
      rfl
  · intro now caller body past h now' body' hmem hnonce
    obtain ⟨rfl, ⟨rfl, rfl, rfl⟩ | ⟨rfl, rfl, rfl⟩⟩ := hcases h
    · simp only [exampleGrants, List.tail_cons, List.mem_cons, reduceCtorEq, false_or,
        ResolveEvent.grant.injEq, List.not_mem_nil, or_false] at hmem
      obtain ⟨-, -, rfl⟩ := hmem
      rw [hnonce₁, hnonce₂] at hnonce
      exact absurd hnonce (by decide)
    · simp at hmem

/-- Each grant shows what the call before it has signed. -/
theorem unforgeable_exampleGrants
    (hfirst : (exampleResolveCall secondFive (.replicate 16 2)).Requests (Signing.sign .checksum)
      epochSecondText exampleResolver lowerReference first)
    (hsecond : (exampleResolveCall secondSix (.replicate 16 3)).Requests (Signing.sign .checksum)
      epochSecondText exampleResolver lowerReference second) :
    SignatureScheme.checksum.Unforgeable {.replicate 32 7}
      ((ResolveEvent.view exampleSigningPublic).messages epochSecondText .stable id)
      (exampleGrants first second) := by
  have hshown : ∀ {now issuedAt : Fin 10} {nonce : Uuid} {body : ResolveBody (Fin 10)}
      {past : List (ResolveEvent (Fin 10))},
      (exampleResolveCall issuedAt nonce).Requests (Signing.sign .checksum) epochSecondText
        exampleResolver lowerReference body →
      ∀ publicKey message signature,
        ((ResolveEvent.view exampleSigningPublic).messages epochSecondText .stable id).shows
          (.grant now (.replicate 16 1) body) = some (publicKey, message, signature) →
        ∃ signing ∈ .resolve exampleResolver (exampleResolveCall issuedAt nonce) lowerReference
            :: past,
          ((ResolveEvent.view exampleSigningPublic).messages epochSecondText .stable id).signs
            signing = some (publicKey, message) := by
    intro now issuedAt nonce body past hbody publicKey message signature hshows
    refine ⟨_, List.mem_cons_self, ?_⟩
    obtain ⟨canonical, hcanonical, rfl⟩ := hbody
    simp only [StatementView.messages, ResolveEvent.view, Option.bind_eq_bind,
      Option.bind_eq_some_iff, Prod.exists, Option.pure_def, Option.some.injEq, Prod.mk.injEq,
      Except.toOption_eq_some, Option.map_eq_some_iff] at hshows ⊢
    obtain ⟨_, _, _, ⟨_, hkey, _, -, rfl, rfl, rfl⟩, _, hmessage, _, -, rfl, rfl, rfl⟩ := hshows
    cases hkey
    exact ⟨_, _, ⟨_, _, _, parseSerenSecretsUri_lowerReference, rfl, rfl⟩, _, hmessage, rfl, rfl⟩
  -- A call shows no signature, and a grant the one of its call.
  refine ⟨⟨⟨⟨trivial, ?_⟩, ?_⟩, ?_⟩, ?_⟩
  · intro publicKey message signature hshows
    cases hshows
  · intro publicKey message signature hshows _ _
    exact hshown hfirst _ _ _ hshows
  · intro publicKey message signature hshows
    cases hshows
  · intro publicKey message signature hshows _ _
    exact hshown hsecond _ _ _ hshows

end Example

/-- Two calls and a grant for each: the grants are two requests, and belong to the calls. -/
theorem grants_belong_to_calls_two :
    ∃ first second : ResolveBody (Fin 10),
      (grantedTo (.replicate 16 1) (exampleGrants first second)).length = 2 ∧
      (grantedTo (.replicate 16 1) (exampleGrants first second)).Nodup ∧
      (calledWith id ⟨.replicate 32 7⟩ (exampleGrants first second)).length = 2 ∧
      ∃ resolver call, .resolve resolver call second.uri ∈ (exampleGrants first second).tail ∧
        call.request resolver second.uri = second.request (.replicate 16 1) := by
  have href := parseSerenSecretsUri_eq_ok.mp parseSerenSecretsUri_lowerReference
  obtain ⟨first, hfirst⟩ : ∃ body, (exampleResolveCall secondFive (.replicate 16 2)).Requests
      (Signing.sign .checksum) epochSecondText exampleResolver lowerReference body :=
    href.exists_requests
  obtain ⟨second, hsecond⟩ : ∃ body, (exampleResolveCall secondSix (.replicate 16 3)).Requests
      (Signing.sign .checksum) epochSecondText exampleResolver lowerReference body :=
    href.exists_requests
  have hkey : exampleSigningPublic (.replicate 16 1) = some ⟨.replicate 32 7⟩ := rfl
  obtain ⟨hcalled, hnodup, -, -⟩ := grants_belong_to_calls SignatureScheme.checksum_correct
    epochSecondText_injective (by decide) (unforgeable_exampleGrants hfirst hsecond)
    (documented_exampleGrants hfirst hsecond) hkey rfl
  obtain ⟨resolver, call, -, -, -, hmem, -, hsame, -⟩ :=
    hcalled secondSeven second _ (List.suffix_refl _)
  exact ⟨first, second, rfl, hnodup, rfl, resolver, call, hmem, hsame⟩

end SerenSecrets
