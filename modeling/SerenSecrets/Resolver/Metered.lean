import SerenSecrets.Resolver.Http

set_option autoImplicit false

/-! # The metered envelope

`unwrapMetered` tells the gateway's envelope from the service's own by the keys it finds. A payload
comes out of the metered envelope as it is, whatever it holds; out of the direct one it does unless
it looks like an envelope itself (`unwrapMetered_envelopes`).

The envelope of a refusal always gives an error. The service's status is read as a 64-bit number and
kept in 16 bits, so the error has the status that was sent exactly for the statuses that fit
(`unwrapMetered_keepsStatus_iff`). -/

namespace SerenSecrets

/-! ## Payloads -/

/-- The gateway's envelope around the service's reply, with a status of success and any other members
    beside it. -/
structure MeteredEnvelope (payload value : Json) : Prop where
  parts : ∃ (outer body : Json) (status : ℕ), value.get? "data" = some outer ∧
    outer.get? "status" = some (.int status) ∧ 200 ≤ status ∧ status < 300 ∧
    outer.get? "body" = some body ∧ body.get? "data" = some payload

/-- The service's own envelope. -/
def directEnvelope (payload : Json) : Json := .obj [("data", payload)]

/-- A payload that does not look like an envelope: it has no `body` and no `data`, and no number as a
    `status` that would be one of a refusal. -/
structure PlainPayload (payload : Json) : Prop where
  noBody : payload.get? "body" = none
  noData : payload.get? "data" = none
  noRefusal : ∀ status, (payload.get? "status").bind Json.asU64? = some status →
    200 ≤ status ∧ status < 300

theorem MeteredEnvelope.unwrap {payload value : Json} (h : MeteredEnvelope payload value) :
    unwrapMetered value = .ok payload := by
  obtain ⟨outer, body, status, houter, hstatus, hlow, hhigh, hbody, hdata⟩ := h
  have hu64 : (outer.get? "status").bind Json.asU64? = some status := by
    rw [hstatus, Option.bind_some]
    exact Json.asU64?_eq_some.mpr ⟨rfl, by omega⟩
  simp only [unwrapMetered, houter, hu64, hlow, hhigh, and_self, if_true, hbody, hdata,
    Option.getD_some]

theorem PlainPayload.unwrap {payload : Json} (h : PlainPayload payload) :
    unwrapMetered (directEnvelope payload) = .ok payload := by
  have hdata : (directEnvelope payload).get? "data" = some payload := rfl
  simp only [unwrapMetered, hdata, h.noBody, h.noData, Option.getD_none]
  cases hstatus : (payload.get? "status").bind Json.asU64? with
  | none => rfl
  | some status => exact if_pos (h.noRefusal status hstatus)

/-- **Payloads come out of their envelopes.** The metered envelope gives up any payload, the direct
    one any that is plain; and a plain payload is the same to the client in both. -/
theorem unwrapMetered_envelopes (payload : Json) :
    (∀ value, MeteredEnvelope payload value → unwrapMetered value = .ok payload) ∧
      (PlainPayload payload → unwrapMetered (directEnvelope payload) = .ok payload ∧
        ∀ value, MeteredEnvelope payload value →
          unwrapMetered value = unwrapMetered (directEnvelope payload)) := by
  refine ⟨fun _ hmetered => hmetered.unwrap, ?_⟩
  intro hplain
  refine ⟨hplain.unwrap, ?_⟩
  intro value hmetered
  rw [hmetered.unwrap, hplain.unwrap]

/-- An approval record, whose own `status` is a text. -/
theorem unwrapMetered_envelopes_approval :
    unwrapMetered (.obj [("data", .obj [("cost", .int 1), ("status", .int 200),
        ("body", .obj [("data", .obj [("status", .str "pending")])])])])
      = unwrapMetered (directEnvelope (.obj [("status", .str "pending")])) := by
  refine ((unwrapMetered_envelopes _).2 ⟨rfl, rfl, ?_⟩).2 _
    ⟨_, _, 200, rfl, rfl, by decide, by decide, rfl, rfl⟩
  intro status hstatus
  exact absurd hstatus (by simp [Json.get?, Json.asU64?])

/-! ## Refusals -/

/-- The error body of an envelope, which is the envelope's content itself when that has no `body`. -/
def refusalBody (outer : Json) : Json := (outer.get? "body").getD outer

/-- The error says what the envelope said: an approval request that a 403 names, or the status. -/
def KeepsStatus (outer : Json) (status : ℕ) (error : ResolverError) : Prop :=
  (∃ requestId, error = .approvalRequired requestId ∧ status = 403 ∧
    approvalRequestIdFromValue (refusalBody outer) = some requestId) ∨
  ∃ kept text, error = .serverError kept text ∧ kept.toNat = status

/-- What the client makes of the envelope of a refusal. -/
theorem unwrapMetered_refusal {value outer : Json} {status : ℕ}
    (houter : value.get? "data" = some outer)
    (hstatus : (outer.get? "status").bind Json.asU64? = some status)
    (hrefusal : ¬ (200 ≤ status ∧ status < 300)) :
    unwrapMetered value =
      .error (match if status = 403 then approvalRequestIdFromValue (refusalBody outer) else none with
        | some requestId => .approvalRequired requestId
        | none => .serverError (UInt16.ofNat status)
            (truncateErrorBody (refusalBody outer).toText)) := by
  simp only [unwrapMetered, houter, hstatus, hrefusal, if_false, refusalBody]
  cases (if status = 403 then approvalRequestIdFromValue ((outer.get? "body").getD outer) else none)
    with
  | none => rfl
  | some requestId => rfl

/-- **When the status of a refusal is kept.** Its envelope gives an error, and the error has the
    status that was sent, or is the approval request that a 403 names, if and only if the status fits
    in 16 bits. -/
theorem unwrapMetered_keepsStatus_iff {value outer : Json} {status : ℕ}
    (houter : value.get? "data" = some outer)
    (hstatus : (outer.get? "status").bind Json.asU64? = some status)
    (hrefusal : ¬ (200 ≤ status ∧ status < 300)) :
    ∃ error, unwrapMetered value = .error error ∧
      (KeepsStatus outer status error ↔ status < 2 ^ 16) := by
  refine ⟨_, unwrapMetered_refusal houter hstatus hrefusal, ?_⟩
  have hkept : (UInt16.ofNat status).toNat = status ↔ status < 2 ^ 16 := by
    rw [UInt16.toNat_ofNat']
    omega
  split
  · rename_i requestId hid
    rw [Option.ite_none_right_eq_some] at hid
    obtain ⟨h403, hid⟩ := hid
    have hfits : status < 2 ^ 16 := by omega
    simp only [hfits, iff_true]
    exact .inl ⟨requestId, rfl, h403, hid⟩
  · rw [← hkept]
    constructor
    · rintro (⟨requestId, hother, -⟩ | ⟨kept, text, hserver, hsame⟩)
      · cases hother
      · obtain ⟨rfl, -⟩ := ResolverError.serverError.inj hserver
        exact hsame
    · intro hsame
      exact .inr ⟨_, _, rfl, hsame⟩

/-- A status as the service sends them. -/
theorem unwrapMetered_keepsStatus_stale :
    ∃ error, unwrapMetered (.obj [("data", .obj [("status", .int 412)])]) = .error error ∧
      KeepsStatus (.obj [("status", .int 412)]) 412 error := by
  obtain ⟨error, herror, hkeeps⟩ := @unwrapMetered_keepsStatus_iff
    (.obj [("data", .obj [("status", .int 412)])]) _ 412 rfl rfl (by decide)
  exact ⟨error, herror, hkeeps.mpr (by decide)⟩

/-- **A refusal that looks like a success**: 65736 is kept as 200. -/
theorem unwrapMetered_not_keepsStatus :
    ¬ ∀ (value outer : Json) (status : ℕ), value.get? "data" = some outer →
      (outer.get? "status").bind Json.asU64? = some status → ¬ (200 ≤ status ∧ status < 300) →
      ∃ error, unwrapMetered value = .error error ∧ KeepsStatus outer status error := by
  intro hclaim
  obtain ⟨error, herror, hkeeps⟩ := hclaim (.obj [("data", .obj [("status", .int 65736)])]) _ 65736
    rfl rfl (by decide)
  rw [unwrapMetered_refusal rfl rfl (by decide)] at herror
  obtain rfl := Except.error.inj herror
  rcases hkeeps with ⟨requestId, -, h403, -⟩ | ⟨kept, text, hserver, hsame⟩
  · exact absurd h403 (by decide)
  · obtain ⟨rfl, -⟩ := ResolverError.serverError.inj hserver
    exact absurd hsame (by decide)

end SerenSecrets
