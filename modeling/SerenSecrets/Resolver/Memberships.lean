import SerenSecrets.Resolver.Vaults

set_option autoImplicit false

/-! # What membership rows can do to the caller's access

`SyncResponse.ofJson` skips the membership rows that it cannot read, and `callerAccess` takes the
lowest level of the rows that are left. A reply with damaged rows is still read. But the rows of one
caller in one vault may disagree, and then a damaged row can be the one that held the level down:
the access falls or stays if and only if all active rows are damaged, or an active row of the lowest
level is not (`callerAccess_le_iff`). -/

namespace SerenSecrets

/-! ## The order of levels -/

instance : LE VaultAccessLevel := ⟨fun a b => a.rank ≤ b.rank⟩

theorem VaultAccessLevel.le_iff {a b : VaultAccessLevel} : a ≤ b ↔ a.rank ≤ b.rank := Iff.rfl

theorem VaultAccessLevel.rank_injective : Function.Injective VaultAccessLevel.rank := by
  intro a b h
  cases a <;> cases b <;> first | rfl | cases h

theorem VaultAccessLevel.min_eq (a b : VaultAccessLevel) :
    min a b = if a.rank ≤ b.rank then a else b := rfl

theorem VaultAccessLevel.le_min_iff (a b c : VaultAccessLevel) : a ≤ min b c ↔ a ≤ b ∧ a ≤ c := by
  rw [min_eq]
  split <;> simp only [le_iff] <;> omega

instance : Std.IsLinearOrder VaultAccessLevel where
  le_refl a := Nat.le_refl a.rank
  le_trans _ _ _ h h' := Nat.le_trans h h'
  le_antisymm _ _ h h' := VaultAccessLevel.rank_injective (Nat.le_antisymm h h')
  le_total a b := Nat.le_total a.rank b.rank

instance : Std.LawfulOrderMin VaultAccessLevel where
  min_eq_or _ _ := ite_eq_or_eq ..
  le_min_iff := VaultAccessLevel.le_min_iff

/-- How far an access goes; no access is less than any level. -/
def accessRank : Option VaultAccessLevel → ℕ
  | none => 0
  | some level => level.rank + 1

/-- Leaving levels out raises the lowest one, unless one of the lowest is kept or none at all. -/
theorem accessRank_min?_le_iff {levels levels' : List VaultAccessLevel}
    (hsub : ∀ level ∈ levels', level ∈ levels) :
    accessRank levels'.min? ≤ accessRank levels.min? ↔
      levels' = [] ∨ ∃ low ∈ levels', ∀ level ∈ levels, low ≤ level := by
  cases hmin' : levels'.min? with
  | none => simp [accessRank, List.min?_eq_none_iff.mp hmin']
  | some low' =>
    obtain ⟨hmem', hlow'⟩ := List.min?_eq_some_iff.mp hmin'
    have hne : levels' ≠ [] := List.ne_nil_of_mem hmem'
    cases hmin : levels.min? with
    | none =>
      have hmem := hsub low' hmem'
      simp [List.min?_eq_none_iff.mp hmin] at hmem
    | some low =>
      obtain ⟨hmem, hlow⟩ := List.min?_eq_some_iff.mp hmin
      simp only [accessRank, Nat.add_le_add_iff_right, ← VaultAccessLevel.le_iff, hne, false_or]
      constructor
      · intro hle
        exact ⟨low', hmem', fun level hlevel => Std.IsPreorder.le_trans _ _ _ hle
          (hlow level hlevel)⟩
      · rintro ⟨lowest, hlowest, hall⟩
        exact Std.IsPreorder.le_trans _ _ _ (hlow' lowest hlowest) (hall low hmem)

/-! ## Rows -/

section Rows

variable (P : Parsers) (caller vault : Uuid)

/-- The level that a row gives to the caller in a vault: that of an unrevoked row of the caller's in
    the vault which can be read. -/
def levelOfRow (row : Json) : Option VaultAccessLevel :=
  ((SyncMembership.ofJson P row).filter fun m => m.identityId == caller && m.vaultId == vault
    && m.revokedAt.isNone).map SyncMembership.accessLevel

/-- The reported level is the lowest of those that the single rows give. -/
theorem callerAccess_filterMap (rows : List Json) :
    callerAccess (rows.filterMap (SyncMembership.ofJson P)) caller vault
      = (rows.filterMap (levelOfRow P caller vault)).min? := by
  rw [callerAccess, List.filter_filterMap, List.map_filterMap]
  rfl

/-- The row is as before, or it cannot be read any more. -/
def RowDamaged (row row' : Json) : Prop :=
  row' = row ∨ SyncMembership.ofJson P row' = none

variable {P caller vault}

theorem levelOfRow_of_unreadable {row : Json} (h : SyncMembership.ofJson P row = none) :
    levelOfRow P caller vault row = none := by
  rw [levelOfRow, h]
  rfl

/-- What the damaged rows give, the rows gave before. -/
theorem mem_levels_of_damaged {rows rows' : List Json}
    (h : List.Forall₂ (RowDamaged P) rows rows') {level : VaultAccessLevel}
    (hlevel : level ∈ rows'.filterMap (levelOfRow P caller vault)) :
    level ∈ rows.filterMap (levelOfRow P caller vault) := by
  obtain ⟨row', hrow', hgives⟩ := List.mem_filterMap.mp hlevel
  obtain ⟨row, hrow, hdamaged⟩ := h.exists_of_mem_right hrow'
  rcases hdamaged with rfl | hunreadable
  · exact List.mem_filterMap.mpr ⟨_, hrow, hgives⟩
  · rw [levelOfRow_of_unreadable hunreadable] at hgives
    cases hgives

end Rows

/-! ## Replies -/

/-- The fields of a `/sync` reply. -/
def syncFields : List String :=
  ["vaults", "item_overviews", "identities", "memberships", "server_time"]

/-- The second reply has the given membership rows in place of those of the first, and is else the
    same. -/
structure RowsReplaced (value value' : Json) (rows rows' : List Json) : Prop where
  fields : ∃ fields fields', value.record? syncFields = some fields ∧
    value'.record? syncFields = some fields' ∧
    fields "memberships" = some (.arr rows) ∧ fields' "memberships" = some (.arr rows') ∧
    ∀ name ≠ "memberships", fields' name = fields name

/-- A reply with other membership rows is read as before, but for the rows. -/
theorem syncResponse_of_rowsReplaced {P : Parsers} {value value' : Json} {rows rows' : List Json}
    {sync : SyncResponse} (h : RowsReplaced value value' rows rows')
    (hsync : SyncResponse.ofJson P value = some sync) :
    sync.memberships = rows.filterMap (SyncMembership.ofJson P) ∧
      SyncResponse.ofJson P value'
        = some { sync with memberships := rows'.filterMap (SyncMembership.ofJson P) } := by
  obtain ⟨fields, fields', hfields, hfields', hrows, hrows', hothers⟩ := h
  simp only [syncFields] at hfields hfields'
  simp only [SyncResponse.ofJson, hfields, hfields', Option.bind_eq_bind, Option.bind_some,
    Json.field, Json.fieldOr, hrows, hrows', readableMemberships] at hsync ⊢
  rw [hothers "vaults" (by decide), hothers "item_overviews" (by decide),
    hothers "identities" (by decide), hothers "server_time" (by decide)]
  simp only [Option.bind_eq_some_iff, Option.pure_def, Option.some.injEq] at hsync ⊢
  obtain ⟨vaults, hvaults, overviews, hoverviews, identities, hidentities, time, htime, rfl⟩ :=
    hsync
  exact ⟨rfl, vaults, hvaults, overviews, hoverviews, identities, hidentities, time, htime, rfl⟩

/-- The reply with the damaged rows can be read, and gives the caller no more access to the vault than
    the reply before. -/
def OnlyWithholds (P : Parsers) (sync : SyncResponse) (value' : Json) (caller vault : Uuid) : Prop :=
  ∃ sync', SyncResponse.ofJson P value' = some sync' ∧
    accessRank (callerAccess sync'.memberships caller vault)
      ≤ accessRank (callerAccess sync.memberships caller vault)

/-- **When damaged rows only withhold access.** They do exactly where they are all the rows that give
    the caller a level in the vault, or where a row of the lowest level is not among them. -/
theorem callerAccess_le_iff {P : Parsers} {value value' : Json} {rows rows' : List Json}
    {sync : SyncResponse} (hreplaced : RowsReplaced value value' rows rows')
    (hdamaged : List.Forall₂ (RowDamaged P) rows rows')
    (hsync : SyncResponse.ofJson P value = some sync) (caller vault : Uuid) :
    OnlyWithholds P sync value' caller vault ↔
      (∀ row ∈ rows', levelOfRow P caller vault row = none) ∨
      ∃ row' ∈ rows', ∃ low, levelOfRow P caller vault row' = some low ∧
        ∀ row ∈ rows, ∀ level, levelOfRow P caller vault row = some level → low ≤ level := by
  obtain ⟨hmemberships, hsync'⟩ := syncResponse_of_rowsReplaced hreplaced hsync
  have hrank := accessRank_min?_le_iff fun _ hlevel =>
    @mem_levels_of_damaged P caller vault rows rows' hdamaged _ hlevel
  simp only [OnlyWithholds, hsync', Option.some.injEq, exists_eq_left', hmemberships,
    callerAccess_filterMap, hrank, List.filterMap_eq_nil_iff, List.mem_filterMap]
  refine or_congr_right ?_
  constructor
  · rintro ⟨low, ⟨row', hrow', hlow⟩, hall⟩
    exact ⟨row', hrow', low, hlow, fun row hrow level hlevel => hall level ⟨row, hrow, hlevel⟩⟩
  · rintro ⟨row', hrow', low, hlow, hall⟩
    exact ⟨low, ⟨row', hrow', hlow⟩, fun level ⟨row, hrow, hlevel⟩ => hall row hrow level hlevel⟩

/-! ## Rows that disagree -/

/-- A row for identity 2 in vault 1. -/
def membershipRow (level : String) : Json :=
  .obj [("vault_id", .uuid (.replicate 16 1)), ("identity_id", .uuid (.replicate 16 2)),
    ("access_level", .str level), ("revoked_at", .null)]

theorem membershipRow_read (P : Parsers) :
    SyncMembership.ofJson P (membershipRow "read")
      = some ⟨.replicate 16 1, .replicate 16 2, .read, none⟩ := by
  rfl

theorem membershipRow_write (P : Parsers) :
    SyncMembership.ofJson P (membershipRow "write")
      = some ⟨.replicate 16 1, .replicate 16 2, .write, none⟩ := by
  rfl

/-- A level that the client does not know. -/
theorem membershipRow_none (P : Parsers) :
    SyncMembership.ofJson P (membershipRow "none") = none := by
  rfl

/-- A reply without vaults, with the given rows. -/
def membershipReply (rows : List Json) : Json :=
  .obj [("item_overviews", .arr []), ("memberships", .arr rows), ("vaults", .arr [])]

theorem syncResponse_membershipReply (P : Parsers) (rows : List Json) :
    SyncResponse.ofJson P (membershipReply rows)
      = some ⟨[], [], [], rows.filterMap (SyncMembership.ofJson P), ""⟩ := by
  rfl

theorem rowsReplaced_membershipReply (rows rows' : List Json) :
    RowsReplaced (membershipReply rows) (membershipReply rows') rows rows' := by
  refine ⟨_, _, rfl, rfl, rfl, rfl, ?_⟩
  intro name hname
  simp [Json.get?, List.find?_cons, hname.symm]

theorem levelOfRow_membershipRow (P : Parsers) :
    levelOfRow P (.replicate 16 2) (.replicate 16 1) (membershipRow "read") = some .read ∧
      levelOfRow P (.replicate 16 2) (.replicate 16 1) (membershipRow "write") = some .write ∧
      levelOfRow P (.replicate 16 2) (.replicate 16 1) (membershipRow "none") = none := by
  simp only [levelOfRow, membershipRow_read, membershipRow_write, membershipRow_none]
  exact ⟨rfl, rfl, rfl⟩

/-- Of two rows that disagree, the higher one is damaged: the access stays. -/
theorem onlyWithholds_higher_damaged :
    OnlyWithholds .compact
      ⟨[], [], [], [⟨.replicate 16 1, .replicate 16 2, .read, none⟩,
        ⟨.replicate 16 1, .replicate 16 2, .write, none⟩], ""⟩
      (membershipReply [membershipRow "read", membershipRow "none"])
      (.replicate 16 2) (.replicate 16 1) := by
  have hsync := syncResponse_membershipReply .compact [membershipRow "read", membershipRow "write"]
  simp only [List.filterMap_cons, membershipRow_read, membershipRow_write,
    List.filterMap_nil] at hsync
  obtain ⟨hread, hwrite, hnone⟩ := levelOfRow_membershipRow .compact
  refine (callerAccess_le_iff (rowsReplaced_membershipReply _ _)
    (.cons (.inl rfl) (.cons (.inr (membershipRow_none _)) .nil)) hsync _ _).mpr (.inr ?_)
  refine ⟨_, List.mem_cons_self, .read, hread, ?_⟩
  intro row hrow level hlevel
  exact Nat.zero_le _

/-- **Damage that gives access**: of two rows that disagree, the lower one is damaged, and the caller
    is reported to be allowed to write. -/
theorem not_onlyWithholds_lower_damaged :
    ¬ ∀ (P : Parsers) (value value' : Json) (rows rows' : List Json) (sync : SyncResponse)
      (caller vault : Uuid), RowsReplaced value value' rows rows' →
      List.Forall₂ (RowDamaged P) rows rows' → SyncResponse.ofJson P value = some sync →
      OnlyWithholds P sync value' caller vault := by
  intro hclaim
  obtain ⟨sync', hsync', hle⟩ := hclaim .compact _ _
    [membershipRow "read", membershipRow "write"] [membershipRow "none", membershipRow "write"] _
    (.replicate 16 2) (.replicate 16 1) (rowsReplaced_membershipReply _ _)
    (.cons (.inr (membershipRow_none _)) (.cons (.inl rfl) .nil))
    (syncResponse_membershipReply _ _)
  rw [syncResponse_membershipReply] at hsync'
  obtain rfl := Option.some.inj hsync'
  simp only [List.filterMap_cons, membershipRow_read, membershipRow_write, membershipRow_none,
    List.filterMap_nil] at hle
  exact absurd hle (by decide)

end SerenSecrets
