import CredentialService.Sequential.Sound

/-!
# Sequential/Allocation — one credential per slot of a status list

A revocable or suspendable credential holds a *slot*: its triple and an index in the triple's
list.  Issuance draws the index outside the triple's pool and adds it there, and names the
triple's list — the stored one, or one it creates with an empty pool on the triple's first use:

    pool ∌ i    ──issue──▸    pool' = i :: pool,   record ⟨t, i, uri⟩,   list(t).id = uri

`Store.Allocated` is the invariant this keeps: every credential names its triple's stored list and
holds an index of the triple's pool, and no two records hold one slot.  Status updates store their
target again and replace a list under the same URI (`Write.Restamps`), so they change nothing the
invariant reads (`Store.SameLedger`); deletes only remove records.

A batch issuance runs every closure against the store it began with.  Two closures of one
triple therefore draw from the same pool and, on the triple's first use, each create a list; the
invariant holds for batches whose requests with a status name distinct triples
(`runCreateFuncs_allocated`), and `one_credential_per_status_slot` is the result for every store
such calls reach.
-/

namespace CredentialService

/-! ## What issuance writes -/

namespace Service

variable {s : Service} {σ : Store} {entropy : Entropy} {request : CreateCredentialRequest}

theorem run_statusListCredentialURI_ok {t : StatusTriple} {existing : Option StoredCredential}
    {uri : String} {ws : List Write}
    (h : (s.statusListCredentialURI entropy request t existing).run σ = .ok uri ws) :
    (existing.map (·.credential.id) = some uri ∧ ws = []) ∨
      (existing = none ∧ uri = s.servicePath ++ "/status/" ++ entropy.statusListID ∧
        ∃ slc : StoredCredential, slc.credential.id = uri ∧
          ws = [.statusListCredential t slc, .statusListIndexPool t [],
            .statusListCurrentIndex t 0]) := by
  cases existing with
  | some slc =>
    simp only [statusListCredentialURI, Body.pure_eq, Body.run_pure, Result.ok.injEq] at h
    exact .inl ⟨by simp [h.1], h.2.symm⟩
  | none =>
    simp only [statusListCredentialURI, Body.bind_eq, Body.run_bind] at h
    cases hg : generateStatusList2021Credential s.now
        (s.servicePath ++ "/status/" ++ entropy.statusListID) request.issuer
        request.statusPurpose [] with
    | error e => simp [hg] at h
    | ok vc =>
      cases hj : s.signCredentialJWT request.fullyQualifiedVerificationMethodID vc with
      | error e => simp [hg, hj] at h
      | ok jwt =>
        simp [hg, hj, Body.put] at h
        have hid : vc.id = s.servicePath ++ "/status/" ++ entropy.statusListID := by
          rw [(generateStatusList2021Credential_eq.mp hg).2]
          rfl
        exact .inr ⟨rfl, h.1.symm, _, hid.trans h.1, h.2.symm⟩

theorem run_claimStatusListIndex_ok {credID uri : String} {t : StatusTriple} {pool : List Nat}
    {cursor : Nat} {e : StatusList2021Entry} {ws : List Write}
    (h : (claimStatusListIndex entropy credID request t uri pool cursor).run σ = .ok e ws) :
    drawIndex pool entropy.draws = some e.statusListIndex ∧
      e.statusPurpose = request.statusPurpose ∧ e.statusListCredential = uri ∧
      ws = [.statusListIndexPool t (e.statusListIndex :: pool),
        .statusListCurrentIndex t (cursor + 1)] := by
  unfold claimStatusListIndex at h
  split at h
  · cases h
  · simp only [Body.bind_eq, Body.pure_eq, Body.put_bind, Body.run_write, Body.run_pure,
      Result.prepend_ok, List.singleton_append, List.append_nil, Result.ok.injEq] at h
    obtain ⟨rfl, rfl⟩ := h
    exact ⟨‹_›, rfl, rfl, rfl⟩

theorem run_createStatusListEntryForCredential_ok {credID : String}
    {m : StatusListCredentialMetadata} {e : StatusList2021Entry} {ws : List Write}
    (h : (s.createStatusListEntryForCredential entropy credID request m).run σ = .ok e ws) :
    ∃ pre, e.statusPurpose = request.statusPurpose ∧
      e.statusListIndex ∉ (σ.statusListIndexPools m.triple).getD [] ∧
      ws = pre ++ [.statusListIndexPool m.triple
          (e.statusListIndex :: (σ.statusListIndexPools m.triple).getD []),
        .statusListCurrentIndex m.triple ((σ.statusListCurrentIndices m.triple).getD 0 + 1)] ∧
      (((σ.statusListCredentials request.triple).map (·.credential.id) =
          some e.statusListCredential ∧ pre = []) ∨
        (σ.statusListCredentials request.triple = none ∧
          e.statusListCredential = s.servicePath ++ "/status/" ++ entropy.statusListID ∧
          ∃ slc : StoredCredential, slc.credential.id = e.statusListCredential ∧
            pre = [.statusListCredential m.triple slc, .statusListIndexPool m.triple [],
              .statusListCurrentIndex m.triple 0])) := by
  simp only [createStatusListEntryForCredential, Storage.getStatusListCredentialKeyData,
    Body.bind_eq, Body.run_bind, Body.run_get, Result.ok_andThen, Result.prepend_nil] at h
  rw [Result.andThen_eq_ok] at h
  obtain ⟨uri, ws₁, ws₂, hu, hc, rfl⟩ := h
  obtain ⟨hd, hp, rfl, rfl⟩ := run_claimStatusListIndex_ok hc
  refine ⟨ws₁, hp, drawIndex_not_mem hd, rfl, ?_⟩
  exact run_statusListCredentialURI_ok hu

/-- The schema `createCredential` sets is the request's schema id, or none for an empty id. -/
theorem credentialSchemaFor_ok {schemaID : String} {cs : Option CredentialSchema}
    (h : s.credentialSchemaFor schemaID = .ok cs) : (cs.map (·.id)).getD "" = schemaID := by
  unfold credentialSchemaFor at h
  split_ifs at h with h0
  · cases h
    exact h0.symm
  · split at h <;> cases h
    rfl

theorem run_createCredential_ok {m : StatusListCredentialMetadata}
    {resp : CreateCredentialResponse} {ws : List Write}
    (h : (s.createCredential entropy request m).run σ = .ok resp ws) :
    ∃ wsStatus, (s.credentialStatusFor entropy (s.servicePath ++ "/" ++ entropy.credentialID)
        request m).run σ = .ok resp.container.credential.credentialStatus wsStatus ∧
      request.isStatusValid = true ∧
      (buildStoredCredential resp.container).issuer = request.issuer ∧
      (buildStoredCredential resp.container).schema = request.schemaID ∧
      resp.container = ⟨entropy.credentialID, request.fullyQualifiedVerificationMethodID,
        resp.container.credential, resp.container.credentialJWT, false, false⟩ ∧
      ws = wsStatus ++ [.credential (buildStoredCredential resp.container)] := by
  simp only [createCredential, Body.bind_eq, Body.pure_eq, Body.check_bind, Body.run_ite,
    Body.run_bind, Body.run_throw] at h
  generalize (if request.context = "" then [credentialsContext]
    else [credentialsContext, request.context]) = context at h
  split at h
  · cases h
  rw [Result.andThen_eq_ok] at h
  obtain ⟨_, _, _, hsc, h, rfl⟩ := h
  rw [Result.andThen_eq_ok] at h
  obtain ⟨cs, _, _, hcs, h, rfl⟩ := h
  split at h
  · cases h
  rw [Result.andThen_eq_ok] at h
  obtain ⟨st, wsSt, _, hst, h, rfl⟩ := h
  rw [Result.andThen_eq_ok] at h
  obtain ⟨_, _, _, hev, h, rfl⟩ := h
  split at h
  · cases h
  rw [Result.andThen_eq_ok] at h
  obtain ⟨jwt, _, _, hj, h, rfl⟩ := h
  rw [Result.andThen_eq_ok] at h
  obtain ⟨_, _, _, hput, h, rfl⟩ := h
  obtain ⟨-, rfl⟩ := Body.ofError_eq_ok.mp hsc
  obtain ⟨hcs, rfl⟩ := Body.ofExcept_eq_ok.mp hcs
  obtain ⟨-, rfl⟩ := Body.ofError_eq_ok.mp hev
  obtain ⟨-, rfl⟩ := Body.ofExcept_eq_ok.mp ((Body.wrapError_eq_ok _).mp hj)
  simp only [Body.wrapError_put, Storage.storeCredentialTx, Body.put, Body.run_write, Body.run_pure,
    Result.prepend_ok, List.singleton_append, Result.ok.injEq] at hput h
  obtain ⟨rfl, rfl⟩ := h
  obtain ⟨-, rfl⟩ := hput
  refine ⟨wsSt, hst, by simpa using ‹¬(!request.isStatusValid) = true›, rfl,
    credentialSchemaFor_ok ‹_›, rfl, by simp⟩

theorem run_credentialStatusFor_ok {credentialURI : String} {m : StatusListCredentialMetadata}
    {st : Option StatusList2021Entry} {ws : List Write}
    (h : (s.credentialStatusFor entropy credentialURI request m).run σ = .ok st ws) :
    (request.hasStatus = false ∧ st = none ∧ ws = []) ∨ (request.hasStatus = true ∧ ∃ e,
      st = some e ∧ (s.createStatusListEntryForCredential entropy credentialURI request m).run σ =
        .ok e ws) := by
  unfold credentialStatusFor at h
  split at h
  · obtain ⟨e, he, rfl⟩ := (Body.run_map_eq_ok _ _ _).mp h
    exact .inr ⟨‹_›, e, rfl, (Body.wrapError_eq_ok _).mp he⟩
  · simp only [Body.pure_eq, Body.run_pure, Result.ok.injEq] at h
    exact .inl ⟨by simpa using ‹¬request.hasStatus = true›, h.1.symm, h.2.symm⟩

end Service

/-! ## The invariant -/

namespace StoredCredential

/-- The slot a credential holds: its triple and its index in the triple's list. -/
def slot (sc : StoredCredential) : Option (StatusTriple × Nat) :=
  sc.credential.credentialStatus.map fun e =>
    (⟨sc.issuer, sc.schema, e.statusPurpose⟩, e.statusListIndex)

/-- The list a credential names: its triple and the URI of its `statusListCredential`. -/
def listing (sc : StoredCredential) : Option (StatusTriple × String) :=
  sc.credential.credentialStatus.map fun e =>
    (⟨sc.issuer, sc.schema, e.statusPurpose⟩, e.statusListCredential)

end StoredCredential

/-- **The allocator's invariant**: a credential names its triple's stored list and holds an index
of the triple's pool, and no two records hold one slot. -/
structure Store.Allocated (σ : Store) : Prop where
  listed : ∀ sc ∈ σ.credentials, ∀ t uri, sc.listing = some (t, uri) →
    (σ.statusListCredentials t).map (·.credential.id) = some uri
  pooled : ∀ sc ∈ σ.credentials, ∀ t i, sc.slot = some (t, i) →
    ∃ pool, σ.statusListIndexPools t = some pool ∧ i ∈ pool
  distinct : ∀ sc ∈ σ.credentials, ∀ sc' ∈ σ.credentials, ∀ p, sc.slot = some p →
    sc'.slot = some p → sc.localCredentialID = sc'.localCredentialID

/-! ## Status updates change nothing it reads -/

namespace StoredCredential

/-- What the invariant reads of a record: its local id and its credential. -/
def ledgerEntry (sc : StoredCredential) : String × VerifiableCredential :=
  (sc.localCredentialID, sc.credential)

theorem slot_eq_of_ledgerEntry {sc sc' : StoredCredential}
    (h : sc.ledgerEntry = sc'.ledgerEntry) : sc.slot = sc'.slot := by
  simp only [ledgerEntry, Prod.mk.injEq] at h
  simp [slot, issuer, schema, h.2]

theorem listing_eq_of_ledgerEntry {sc sc' : StoredCredential}
    (h : sc.ledgerEntry = sc'.ledgerEntry) : sc.listing = sc'.listing := by
  simp only [ledgerEntry, Prod.mk.injEq] at h
  simp [listing, issuer, schema, h.2]

end StoredCredential

/-- A write that leaves what the invariant reads as `σ` has it: a record stored again with its
credential, or a triple's list replaced by one under the same URI. -/
def Write.Restamps (σ : Store) : Write → Prop
  | .credential sc => ∃ g ∈ σ.credentials, g.ledgerEntry = sc.ledgerEntry
  | .statusListCredential t slc =>
    (σ.statusListCredentials t).map (·.credential.id) = some slc.credential.id
  | _ => False

namespace Store

variable {τ : Store}

/-- Two stores the invariant cannot tell apart: the same records up to their flags, and the same
list URI and pool for every triple. -/
structure SameLedger (σ τ : Store) : Prop where
  entries : τ.credentials.map StoredCredential.ledgerEntry =
    σ.credentials.map StoredCredential.ledgerEntry
  uris : ∀ t, (τ.statusListCredentials t).map (·.credential.id) =
    (σ.statusListCredentials t).map (·.credential.id)
  pools : τ.statusListIndexPools = σ.statusListIndexPools

theorem SameLedger.exists_of_mem {σ : Store} (h : σ.SameLedger τ) {c : StoredCredential}
    (hc : c ∈ τ.credentials) : ∃ c' ∈ σ.credentials, c'.ledgerEntry = c.ledgerEntry :=
  List.mem_map.mp (h.entries ▸ List.mem_map_of_mem _ hc)

theorem SameLedger.allocated {σ : Store} (h : σ.SameLedger τ) (hσ : σ.Allocated) :
    τ.Allocated := by
  refine ⟨fun c hc t uri hl => ?_, fun c hc t i hs => ?_, fun c hc d hd p hs hs' => ?_⟩
  · obtain ⟨c', hc', he⟩ := h.exists_of_mem hc
    rw [h.uris]
    exact hσ.listed c' hc' t uri (StoredCredential.listing_eq_of_ledgerEntry he ▸ hl)
  · obtain ⟨c', hc', he⟩ := h.exists_of_mem hc
    rw [h.pools]
    exact hσ.pooled c' hc' t i (StoredCredential.slot_eq_of_ledgerEntry he ▸ hs)
  · obtain ⟨c', hc', he⟩ := h.exists_of_mem hc
    obtain ⟨d', hd', he'⟩ := h.exists_of_mem hd
    have hid := hσ.distinct c' hc' d' hd' p (StoredCredential.slot_eq_of_ledgerEntry he ▸ hs)
      (StoredCredential.slot_eq_of_ledgerEntry he' ▸ hs')
    simp only [StoredCredential.ledgerEntry, Prod.mk.injEq] at he he'
    rw [← he.1, ← he'.1, hid]

theorem SameLedger.apply {σ : Store} (hnd : σ.Nodup) (h : σ.SameLedger τ) {w : Write}
    (hw : w.Restamps σ) : σ.SameLedger (τ.apply w) := by
  cases w with
  | credential sc =>
    obtain ⟨g, hg, hge⟩ := hw
    obtain ⟨c₀, hc₀, hce⟩ := List.mem_map.mp (h.entries.symm ▸ List.mem_map_of_mem _ hg :
      g.ledgerEntry ∈ τ.credentials.map StoredCredential.ledgerEntry)
    have hid₀ : c₀.localCredentialID = sc.localCredentialID := congrArg Prod.fst (hce.trans hge)
    -- the local ids of `τ` are those of `σ`, so distinct
    have hτnd : (τ.credentials.map (·.localCredentialID)).Nodup := by
      have := congrArg (List.map Prod.fst) h.entries
      simp only [List.map_map] at this
      exact this ▸ hnd
    refine ⟨(map_putCredential_eq _ ⟨c₀, hc₀, hid₀⟩ fun c hc hid => ?_).trans h.entries, h.uris,
      h.pools⟩
    rw [List.inj_on_of_nodup_map hτnd hc hc₀ (hid.trans hid₀.symm), hce, hge]
  | statusListCredential t slc =>
    refine ⟨h.entries, fun t' => ?_, h.pools⟩
    simp only [statusListCredentials_apply_statusListCredential, Function.update_apply]
    split_ifs with ht
    · subst ht
      exact hw.symm
    · exact h.uris t'
  | _ => exact hw.elim

theorem sameLedger_commit {σ : Store} (hnd : σ.Nodup) {ws : List Write}
    (hws : ∀ w ∈ ws, w.Restamps σ) : σ.SameLedger (σ.commit ws) := by
  suffices ∀ τ, σ.SameLedger τ → σ.SameLedger (τ.commit ws) from
    this σ ⟨rfl, fun _ => rfl, rfl⟩
  induction ws with
  | nil => exact fun _ h => h
  | cons w ws ih =>
    exact fun τ h => ih (fun w' hw' => hws w' (List.mem_cons_of_mem _ hw')) _
      (h.apply hnd (hws w (List.mem_cons_self _ _)))

/-! ## Issuance keeps it -/

/-- **One issuance keeps the invariant**: the new record's index is not in the pool and its list is
the triple's, stored before or created with it. -/
theorem Allocated.issue (hτ : τ.Allocated) {σ' : Store} {sc : StoredCredential}
    {t : StatusTriple} {i : Nat} {uri : String} (hslot : sc.slot = some (t, i))
    (hlisting : sc.listing = some (t, uri)) (hfresh : i ∉ (τ.statusListIndexPools t).getD [])
    (hlist : (τ.statusListCredentials t).map (·.credential.id) = some uri ∨
      τ.statusListCredentials t = none)
    (hcreds : σ'.credentials = putCredential τ.credentials sc)
    (huris : ∀ t', (σ'.statusListCredentials t').map (·.credential.id) =
      if t' = t then some uri else (τ.statusListCredentials t').map (·.credential.id))
    (hpools : ∀ t', σ'.statusListIndexPools t' =
      if t' = t then some (i :: (τ.statusListIndexPools t).getD [])
      else τ.statusListIndexPools t') :
    σ'.Allocated := by
  -- an earlier record of the triple holds an index of the pool, so not the new one
  have hold : ∀ c ∈ τ.credentials, c.slot ≠ some (t, i) := fun c hc hc' => by
    obtain ⟨pool, hp, hi⟩ := hτ.pooled c hc t i hc'
    exact hfresh (by simpa [hp] using hi)
  refine ⟨fun c hc t' uri' hl => ?_, fun c hc t' i' hs => ?_, fun c hc c' hc' p hs hs' => ?_⟩
  all_goals rw [hcreds] at *
  · rw [huris]
    rcases mem_putCredential_cases hc with rfl | ⟨hc, -⟩
    · rw [hlisting] at hl
      cases hl
      simp
    · have h₀ := hτ.listed c hc t' uri' hl
      split_ifs with ht
      · subst ht
        rcases hlist with hu | hn
        · exact hu.symm.trans h₀
        · simp [hn] at h₀
      · exact h₀
  · rw [hpools]
    rcases mem_putCredential_cases hc with rfl | ⟨hc, -⟩
    · rw [hslot] at hs
      cases hs
      simp
    · obtain ⟨pool, hp, hi⟩ := hτ.pooled c hc t' i' hs
      split_ifs with ht
      · subst ht
        simp [hp, hi]
      · exact ⟨pool, hp, hi⟩
  · rcases mem_putCredential_cases hc with rfl | ⟨hco, -⟩ <;>
      rcases mem_putCredential_cases hc' with rfl | ⟨hco', -⟩
    · rfl
    · exact absurd (hs'.trans (hslot ▸ hs).symm) (hold c' hco')
    · exact absurd (hs.trans (hslot ▸ hs').symm) (hold c hco)
    · exact hτ.distinct c hco c' hco' p hs hs'

/-- A record without a status entry holds no slot: storing it keeps the invariant. -/
theorem Allocated.put_unlisted (hτ : τ.Allocated) {sc : StoredCredential}
    (hsc : sc.credential.credentialStatus = none) : (τ.apply (.credential sc)).Allocated := by
  have hs : sc.slot = none := by simp [StoredCredential.slot, hsc]
  have hl : sc.listing = none := by simp [StoredCredential.listing, hsc]
  refine ⟨fun c hc t uri h => ?_, fun c hc t i h => ?_, fun c hc c' hc' p h h' => ?_⟩
  · rcases mem_putCredential_cases hc with rfl | ⟨hc, -⟩
    · simp [hl] at h
    · exact hτ.listed c hc t uri h
  · rcases mem_putCredential_cases hc with rfl | ⟨hc, -⟩
    · simp [hs] at h
    · exact hτ.pooled c hc t i h
  · rcases mem_putCredential_cases hc with rfl | ⟨hco, -⟩
    · simp [hs] at h
    rcases mem_putCredential_cases hc' with rfl | ⟨hco', -⟩
    · simp [hs] at h'
    · exact hτ.distinct c hco c' hco' p h h'

/-- Two stores with the same list, pool and cursor for triple `t`: what an issuance in `t` reads,
and the keys it watches. -/
def SameAllocation (t : StatusTriple) (σ τ : Store) : Prop :=
  σ.statusListCredentials t = τ.statusListCredentials t ∧
    σ.statusListIndexPools t = τ.statusListIndexPools t ∧
    σ.statusListCurrentIndices t = τ.statusListCurrentIndices t

theorem SameAllocation.symm {t : StatusTriple} {σ : Store} (h : SameAllocation t σ τ) :
    SameAllocation t τ σ :=
  ⟨h.1.symm, h.2.1.symm, h.2.2.symm⟩

theorem SameAllocation.trans {t : StatusTriple} {σ υ : Store} (h₁ : SameAllocation t σ τ)
    (h₂ : SameAllocation t τ υ) : SameAllocation t σ υ :=
  ⟨h₁.1.trans h₂.1, h₁.2.1.trans h₂.2.1, h₁.2.2.trans h₂.2.2⟩

end Store

/-- The later entries of a list with pairwise distinct keys among those `f` selects: still
distinct, and none with the key of the first when `f` selects it. -/
theorem nodup_filter_map_cons {α β : Type} {f : α → Bool} {g : α → β} {a : α} {l : List α}
    (h : (((a :: l).filter f).map g).Nodup) :
    ((l.filter f).map g).Nodup ∧ (f a = true → ∀ b ∈ l, f b = true → g b ≠ g a) := by
  cases hfa : f a <;> simp only [List.filter_cons, hfa, if_false, if_true, Bool.false_eq_true,
    List.map_cons, List.nodup_cons] at h
  · exact ⟨h, nofun⟩
  · exact ⟨h.2, fun _ b hb hfb heq =>
      h.1 (List.mem_map.mpr ⟨b, List.mem_filter.mpr ⟨hb, hfb⟩, heq⟩)⟩

namespace Service

variable {s : Service} {σ : Store} {entropy : Entropy} {request : CreateCredentialRequest}

/-- **An issuance body keeps the invariant** of every store that agrees with the store it read on
the request's triple. -/
theorem createCredential_allocated {m : StatusListCredentialMetadata}
    {resp : CreateCredentialResponse} {ws : List Write}
    (hm : request.hasStatus = true → request.isStatusValid = true → m.triple = request.triple)
    {τ : Store} (hτ : τ.Allocated)
    (hagree : request.hasStatus = true → Store.SameAllocation request.triple τ σ)
    (h : (s.createCredential entropy request m).run σ = .ok resp ws) : (τ.commit ws).Allocated := by
  obtain ⟨wsSt, hst, hv, hiss, hsch, -, rfl⟩ := run_createCredential_ok h
  rcases run_credentialStatusFor_ok hst with ⟨-, hnone, rfl⟩ | ⟨hs, e, he, halloc⟩
  · exact hτ.put_unlisted hnone
  obtain ⟨pre, hp, hfresh, rfl, hpre⟩ := run_createStatusListEntryForCredential_ok halloc
  obtain ⟨hslc, hpool, -⟩ := hagree hs
  have ht := hm hs hv
  rw [ht] at hfresh hpre
  have hcred : (buildStoredCredential resp.container).credential.credentialStatus = some e := he
  have hslot : (buildStoredCredential resp.container).slot =
      some (request.triple, e.statusListIndex) := by
    rw [StoredCredential.slot, hiss, hsch, hcred, Option.map_some', hp]
    rfl
  have hlisting : (buildStoredCredential resp.container).listing =
      some (request.triple, e.statusListCredential) := by
    rw [StoredCredential.listing, hiss, hsch, hcred, Option.map_some', hp]
    rfl
  rw [← hslc] at hpre
  rw [← hpool] at hfresh
  rw [ht, ← hpool]
  rcases hpre with ⟨hl, rfl⟩ | ⟨hn, -, slc, hid, rfl⟩
  · refine hτ.issue hslot hlisting hfresh (.inl hl) rfl (fun t' => ?_) (fun t' => ?_)
    · show (τ.statusListCredentials t').map _ = _
      split_ifs with h
      · exact h ▸ hl
      · rfl
    · exact Function.update_apply _ _ _ _
  · refine hτ.issue hslot hlisting hfresh (.inr hn) rfl (fun t' => ?_) (fun t' => ?_)
    · show (Function.update τ.statusListCredentials request.triple (some slc) t').map _ = _
      rw [Function.update_apply]
      split_ifs <;> simp [hid]
    · show Function.update (Function.update τ.statusListIndexPools request.triple (some []))
        _ _ t' = _
      rw [Function.update_idem, Function.update_apply]

/-- **An issuance body leaves every other triple's list, pool and cursor as they were**, and all of
them when the request asks for no status. -/
theorem createCredential_sameAllocation {m : StatusListCredentialMetadata}
    {resp : CreateCredentialResponse} {ws : List Write}
    (hm : request.hasStatus = true → request.isStatusValid = true → m.triple = request.triple)
    (h : (s.createCredential entropy request m).run σ = .ok resp ws) {t : StatusTriple}
    (ht : request.hasStatus = true → t ≠ request.triple) (τ : Store) :
    Store.SameAllocation t (τ.commit ws) τ := by
  obtain ⟨wsSt, hst, hv, -, -, -, rfl⟩ := run_createCredential_ok h
  have hkeys : ∀ w ∈ wsSt ++ [.credential (buildStoredCredential resp.container)],
      w.key ≠ .statusListCredential t ∧ w.key ≠ .statusListIndexPool t ∧
        w.key ≠ .statusListCurrentIndex t := by
    rcases run_credentialStatusFor_ok hst with ⟨-, -, rfl⟩ | ⟨hs, e, -, halloc⟩
    · simp [Write.key]
    obtain ⟨pre, -, -, rfl, hpre⟩ := run_createStatusListEntryForCredential_ok halloc
    have hne : m.triple ≠ t := hm hs hv ▸ (ht hs).symm
    rcases hpre with ⟨-, rfl⟩ | ⟨-, -, slc, -, rfl⟩ <;> simp [Write.key, hne]
  exact ⟨Store.statusListCredentials_commit_of_key_ne fun w hw => (hkeys w hw).1,
    Store.statusListIndexPools_commit_of_key_ne fun w hw => (hkeys w hw).2.1,
    Store.statusListCurrentIndices_commit_of_key_ne fun w hw => (hkeys w hw).2.2⟩

/-- The closures of a batch succeed when the first does and the rest do, each against the store
the batch began with. -/
theorem run_runCreateFuncs_cons_eq_ok {entropy : Nat → Entropy} {i : Nat}
    {m : StatusListCredentialMetadata}
    {rest : List (CreateCredentialRequest × StatusListCredentialMetadata)}
    {credentials : List Container} {ws : List Write}
    (h : (s.runCreateFuncs entropy i ((request, m) :: rest)).run σ = .ok credentials ws) :
    ∃ resp ws₁ rest' ws₂, (s.createCredentialFunc (entropy i) request m).run σ = .ok resp ws₁ ∧
      (s.runCreateFuncs entropy (i + 1) rest).run σ = .ok rest' ws₂ ∧
      credentials = resp.container :: rest' ∧ ws = ws₁ ++ ws₂ := by
  simp only [runCreateFuncs, Body.bind_eq, Body.pure_eq, Body.run_bind, Body.run_pure,
    Result.andThen_eq_ok] at h
  obtain ⟨resp, ws₁, _, h₁, ⟨rest', ws₂, _, h₂, h₃, rfl⟩, rfl⟩ := h
  obtain ⟨rfl, rfl⟩ := Result.ok.inj h₃
  exact ⟨resp, ws₁, rest', ws₂, h₁, h₂, rfl, by simp⟩

/-- **The issuance closures of a batch keep the invariant when no two of them issue in one
triple**: each reads the store the batch began with, and the closures before it wrote only other
triples' lists and pools. -/
theorem runCreateFuncs_allocated (entropy : Nat → Entropy) :
    ∀ (prepared : List (CreateCredentialRequest × StatusListCredentialMetadata)) (i : Nat)
      {τ : Store} {credentials : List Container} {ws : List Write},
      (∀ p ∈ prepared, p.1.hasStatus = true → p.1.isStatusValid = true → p.2.triple = p.1.triple) →
      ((prepared.filter (·.1.hasStatus)).map (·.1.triple)).Nodup →
      τ.Allocated →
      (∀ p ∈ prepared, p.1.hasStatus = true → Store.SameAllocation p.1.triple τ σ) →
      (s.runCreateFuncs entropy i prepared).run σ = .ok credentials ws → (τ.commit ws).Allocated
  | [], _, _, _, _, _, _, hτ, _, h => by
    cases h
    exact hτ
  | (request, m) :: rest, i, τ, _, _, hm, hnodup, hτ, hagree, h => by
    obtain ⟨resp, ws₁, _, ws₂, h₁, h₂, -, rfl⟩ := run_runCreateFuncs_cons_eq_ok h
    have hm₁ := hm (request, m) (List.mem_cons_self _ _)
    -- the later requests name other triples than this one's
    obtain ⟨hnodup, hrest⟩ := nodup_filter_map_cons hnodup
    rw [Store.commit_append]
    exact runCreateFuncs_allocated entropy rest (i + 1)
      (fun p hp => hm p (List.mem_cons_of_mem _ hp)) hnodup
      (createCredential_allocated hm₁ hτ (hagree _ (List.mem_cons_self _ _)) h₁)
      (fun p hp hps => (createCredential_sameAllocation hm₁ h₁
        (fun hs => hrest hs p hp hps) τ).trans (hagree p (List.mem_cons_of_mem _ hp) hps)) h₂

theorem run_CreateCredential_ok {tr : Transaction CreateCredentialResponse} {ws : List Write}
    (h : (s.CreateCredential entropy request).run σ = .ok tr ws) :
    tr = ⟨(statusWatchKeys request).1,
      s.createCredentialFunc entropy request (statusWatchKeys request).2⟩ := by
  simp only [CreateCredential, Body.bind_eq, Body.pure_eq, Body.run_bind, Result.andThen_eq_ok] at h
  obtain ⟨_, _, _, -, h, -⟩ := h
  exact (by simpa [eq_comm] using h : _ ∧ _).1

/-- The metadata `CreateCredential` hands its closure names the request's triple. -/
theorem statusWatchKeys_triple (hs : request.hasStatus = true) (hv : request.isStatusValid = true) :
    (statusWatchKeys request).2.triple = request.triple := by
  simp [statusWatchKeys, hs, hv]

/-- **A status update keeps what the invariant reads**: it stores its target again with new
flags, and its triple's list under the URI the target names. -/
theorem updateCredentialStatusBusinessLogic_restamps (hA : σ.Allocated)
    {request : UpdateCredentialStatusRequest} {m : StatusListCredentialMetadata}
    {resp : UpdateCredentialStatusResponse} {ws : List Write}
    (h : (s.updateCredentialStatusBusinessLogic request m).run σ = .ok resp ws)
    (ht : ∀ g, σ.getCredential request.id = some g → g.triple = some m.triple) :
    ∀ w ∈ ws, w.Restamps σ := by
  obtain ⟨-, g, hg, -, ⟨-, -, rfl, -⟩ | ⟨-, hu, -⟩⟩ := run_updateCredentialStatusBusinessLogic_ok h
  · simp
  obtain ⟨e, vc, slc, he, hgen, hslc, -, rfl⟩ := run_updateCredentialStatus_ok hu
  have hmem := (findCredential_mem hg).1
  have hlisting : g.listing = some (m.triple, e.statusListCredential) := by
    have := ht g hg
    simp only [StoredCredential.triple, he, Option.map_some', Option.some.injEq] at this
    simp [StoredCredential.listing, he, this]
  have hid : slc.credential.id = e.statusListCredential := by
    rw [hslc, (generateStatusList2021Credential_eq.mp hgen).2]
    rfl
  simp only [List.mem_cons, List.mem_singleton, List.not_mem_nil, or_false, forall_eq_or_imp,
    forall_eq, Write.Restamps]
  exact ⟨⟨g, hmem, rfl⟩, hid ▸ hA.listed g hmem _ _ hlisting⟩

end Service

/-! ## An issued credential, read back -/

/-- **An issued credential reads back without its verification method**: after a successful
`CreateCredential`, `GetCredential` of the id the call returned finds the container the call
returned, except its fully-qualified verification-method id, which the call took from the request
and `GetCredential` leaves empty. -/
theorem getCredential_after_issuance {s : Service} {σ σ' : Store} {entropy : Entropy}
    {request : CreateCredentialRequest} {resp : CreateCredentialResponse}
    (hid : entropy.credentialID ≠ "")
    (h : serve σ (s.CreateCredential entropy request) = (.ok resp, σ')) :
    resp.container.fullyQualifiedVerificationMethodID = request.fullyQualifiedVerificationMethodID ∧
      (Service.getCredential ⟨resp.container.id⟩).run σ' =
        .ok { resp.container with fullyQualifiedVerificationMethodID := "" } [] := by
  obtain ⟨tr, ws₀, ws, hm, hfn, rfl⟩ :=
    serve_ok (s.CreateCredential_writesNothing entropy request) h
  obtain rfl := Service.run_CreateCredential_ok hm
  obtain ⟨wsSt, -, -, -, -, hc, rfl⟩ := Service.run_createCredential_ok hfn
  rw [hc]
  simp [Service.getCredential, Body.run_bind, Body.run_wrapError, Store.commit_append,
    buildStoredCredential, StoredCredential.isValid, hid]

theorem revocable_credential_reads_back :
    ∃ resp σ', serve Store.empty (demoService.CreateCredential
        ⟨"c", "00000000-0000-0000-0000-000000000001", [5]⟩ (demoRequest false)) = (.ok resp, σ') ∧
      resp.container.fullyQualifiedVerificationMethodID = "did:example:issuer#key-1" ∧
      (Service.getCredential ⟨resp.container.id⟩).run σ' =
        .ok { resp.container with fullyQualifiedVerificationMethodID := "" } [] :=
  have h : serve Store.empty (demoService.CreateCredential
      ⟨"c", "00000000-0000-0000-0000-000000000001", [5]⟩ (demoRequest false)) = (.ok _, _) := rfl
  ⟨_, _, h, getCredential_after_issuance (by decide) h⟩

/-! ## Every call but a batch issuing twice in one triple keeps it -/

theorem Store.Allocated.deleteCredential {σ : Store} (hσ : σ.Allocated) (id : String) :
    (σ.deleteCredential id).Allocated :=
  ⟨fun c hc => hσ.listed c (List.mem_of_mem_filter hc),
    fun c hc => hσ.pooled c (List.mem_of_mem_filter hc),
    fun c hc d hd => hσ.distinct c (List.mem_of_mem_filter hc) d (List.mem_of_mem_filter hd)⟩

/-- A call keeps the invariant when every transaction its method can hand to `Execute`, run alone,
commits a store that keeps it. -/
theorem serve_allocated {α : Type} {σ : Store} (hσ : σ.Allocated) {method : Body (Transaction α)}
    (hpre : method.WritesNothing)
    (hw : ∀ tr ws₀ a ws, method.run σ = .ok tr ws₀ → tr.fn.run σ = .ok a ws →
      (σ.commit ws).Allocated) :
    (serve σ method).2.Allocated := by
  rcases serve_cases hpre Prod.mk.eta.symm with ⟨h, -⟩ | ⟨tr, ws₀, a, ws, htr, hfn, -, h⟩
  · exact h ▸ hσ
  · exact h ▸ hw tr ws₀ a ws htr hfn

/-- A call that issues at most one credential per status triple: every call but a batch issuance
two of whose requests with a status share a triple. -/
def Op.OnePerTriple : Op → Prop
  | .batchCreateCredentials _ batchRequest =>
    ((batchRequest.requests.filter (·.hasStatus)).map (·.triple)).Nodup
  | _ => True

instance (op : Op) : Decidable op.OnePerTriple :=
  match op with
  | .batchCreateCredentials _ _ => inferInstanceAs (Decidable (List.Nodup _))
  | .createCredential _ _ => inferInstanceAs (Decidable True)
  | .updateCredentialStatus _ => inferInstanceAs (Decidable True)
  | .batchUpdateCredentialStatus _ => inferInstanceAs (Decidable True)
  | .deleteCredential _ => inferInstanceAs (Decidable True)

/-- **Every call that issues at most one credential per triple keeps the invariant.** -/
theorem Op.apply_allocated {σ : Store} (hσ : σ.Allocated) (hnd : σ.Nodup) (s : Service) {op : Op}
    (hop : op.OnePerTriple) : (op.apply s σ).Allocated := by
  cases op with
  | deleteCredential r => exact hσ.deleteCredential r.id
  | createCredential e r =>
    refine serve_allocated hσ (s.CreateCredential_writesNothing e r) fun tr _ _ _ htr hfn => ?_
    rw [Service.run_CreateCredential_ok htr] at hfn
    exact Service.createCredential_allocated Service.statusWatchKeys_triple hσ
      (fun _ => ⟨rfl, rfl, rfl⟩) hfn
  | batchCreateCredentials e r =>
    refine serve_allocated hσ (s.batchCreateCredentials_writesNothing e r)
      fun tr _ _ _ htr hfn => ?_
    simp only [Service.batchCreateCredentials, Body.pure_eq, Body.run_pure, Result.ok.injEq] at htr
    obtain ⟨rfl, -⟩ := htr
    obtain ⟨credentials, hrun, -⟩ := (Body.run_map_eq_ok _ _ _).mp hfn
    refine Service.runCreateFuncs_allocated e _ 0 (fun p hp => ?_) ?_ hσ
      (fun _ _ _ => ⟨rfl, rfl, rfl⟩) hrun
    · obtain ⟨q, -, rfl⟩ := List.mem_map.mp hp
      exact Service.statusWatchKeys_triple
    · simpa [List.filter_map, Function.comp_def] using hop
  | updateCredentialStatus r =>
    refine serve_allocated hσ (Service.UpdateCredentialStatus_writesNothing s r)
      fun tr _ _ _ htr hfn => ?_
    obtain ⟨g, t, hg, ht, -, rfl⟩ := Service.run_UpdateCredentialStatus_ok htr
    refine (Store.sameLedger_commit hnd
      (Service.updateCredentialStatusBusinessLogic_restamps hσ hfn fun g' hg' => ?_)).allocated hσ
    rw [Option.some.inj (hg'.symm.trans hg), ht]
  | batchUpdateCredentialStatus r =>
    refine serve_allocated hσ (Service.batchUpdateCredentialStatus_writesNothing s r)
      fun tr _ _ _ htr hfn => ?_
    obtain ⟨prepared, hprep, rfl⟩ := Service.run_batchUpdateCredentialStatus_ok htr
    obtain ⟨statuses, hrun, -⟩ := (Body.run_map_eq_ok _ _ _).mp hfn
    refine (Store.sameLedger_commit hnd fun w hw => ?_).allocated hσ
    obtain ⟨p, hp, _, _, hrunp, hmem, -⟩ := Service.runUpdateFuncs_writes hrun w hw
    obtain ⟨g, hg, ht, -⟩ := hprep p hp
    refine Service.updateCredentialStatusBusinessLogic_restamps hσ hrunp (fun g' hg' => ?_) w hmem
    rw [Option.some.inj (hg'.symm.trans hg), ht]

/-- The stores reachable from the empty store by calls each of which issues at most one credential
per status triple. -/
inductive OnePerTripleReachable : Store → Prop where
  | empty : OnePerTripleReachable Store.empty
  | step {σ : Store} (s : Service) {op : Op} :
      op.OnePerTriple → OnePerTripleReachable σ → OnePerTripleReachable (op.apply s σ)

theorem OnePerTripleReachable.allocated {σ : Store} (h : OnePerTripleReachable σ) :
    σ.Nodup ∧ σ.Allocated := by
  induction h with
  | empty =>
    have hnil : ∀ sc, sc ∉ Store.empty.credentials := List.not_mem_nil
    exact ⟨List.nodup_nil, ⟨fun sc h => absurd h (hnil sc), fun sc h => absurd h (hnil sc),
      fun sc h => absurd h (hnil sc)⟩⟩
  | step s hop _ ih => exact ⟨Op.apply_nodup ih.1 s _, Op.apply_allocated ih.2 ih.1 s hop⟩

theorem OnePerTripleReachable.applyAll {σ : Store} (s : Service) (h : OnePerTripleReachable σ)
    {ops : List Op} (hops : ∀ op ∈ ops, op.OnePerTriple) :
    OnePerTripleReachable (Op.applyAll s σ ops) := by
  induction ops generalizing σ with
  | nil => exact h
  | cons op ops ih =>
    exact ih (.step s (hops op (List.mem_cons_self _ _)) h) fun op' h' =>
      hops op' (List.mem_cons_of_mem _ h')

/-- **No two credentials hold one status-list slot, and each names its triple's list**: in every
store reachable by calls none of which is a batch issuing two credentials of one triple, two
stored credentials with the same index in the same triple are one record, and a credential with a
status entry names the URI of its triple's stored status list and holds an index of the triple's
pool, so that a later issuance in the triple draws another. -/
theorem one_credential_per_status_slot {σ : Store} (h : OnePerTripleReachable σ) :
    (∀ sc ∈ σ.credentials, ∀ sc' ∈ σ.credentials, ∀ p, sc.slot = some p → sc'.slot = some p →
      sc = sc') ∧
    ∀ sc ∈ σ.credentials, ∀ t e, sc.triple = some t → sc.credential.credentialStatus = some e →
      (∃ slc, σ.statusListCredentials t = some slc ∧ slc.credential.id = e.statusListCredential) ∧
      ∃ pool, σ.statusListIndexPools t = some pool ∧ e.statusListIndex ∈ pool := by
  obtain ⟨hnd, hA⟩ := h.allocated
  refine ⟨fun sc hsc sc' hsc' p hs hs' =>
    List.inj_on_of_nodup_map hnd hsc hsc' (hA.distinct sc hsc sc' hsc' p hs hs'),
    fun sc hsc t e ht he => ?_⟩
  have ht' : ⟨sc.issuer, sc.schema, e.statusPurpose⟩ = t := by
    simpa [StoredCredential.triple, he] using ht
  have hl := hA.listed sc hsc t e.statusListCredential (by simp [StoredCredential.listing, he, ht'])
  obtain ⟨slc, hslc, hid⟩ := Option.map_eq_some'.mp hl
  exact ⟨⟨slc, hslc, hid⟩,
    hA.pooled sc hsc t e.statusListIndex (by simp [StoredCredential.slot, he, ht'])⟩

/-- A batch issues a revocable `a` and a suspendable `b` (two triples); `c` is then issued alone
in `a`'s triple, its first draw taken by `a`; `a` is revoked and `b` deleted. -/
def demoAllocationStore : Store :=
  Op.applyAll demoService Store.empty
    [.batchCreateCredentials (fun i => ⟨if i = 0 then "a" else "b",
        "00000000-0000-0000-0000-00000000000" ++ toString i, [5]⟩)
      ⟨[demoRequest false, demoRequest true]⟩,
    .createCredential ⟨"c", "00000000-0000-0000-0000-000000000009", [5, 9]⟩ (demoRequest false),
    .updateCredentialStatus ⟨"a", true, false⟩, .deleteCredential ⟨"b"⟩]

theorem demoAllocationStore_one_credential_per_status_slot :
    OnePerTripleReachable demoAllocationStore ∧
      (demoAllocationStore.credentials.map StoredCredential.slot =
        [some (demoTriple statusRevocation, 5), some (demoTriple statusRevocation, 9)]) ∧
      ((∀ sc ∈ demoAllocationStore.credentials, ∀ sc' ∈ demoAllocationStore.credentials, ∀ p,
        sc.slot = some p → sc'.slot = some p → sc = sc') ∧
      ∀ sc ∈ demoAllocationStore.credentials, ∀ t e, sc.triple = some t →
        sc.credential.credentialStatus = some e →
        (∃ slc, demoAllocationStore.statusListCredentials t = some slc ∧
          slc.credential.id = e.statusListCredential) ∧
        ∃ pool, demoAllocationStore.statusListIndexPools t = some pool ∧
          e.statusListIndex ∈ pool) :=
  have h : OnePerTripleReachable demoAllocationStore :=
    OnePerTripleReachable.applyAll demoService .empty (by decide)
  ⟨h, by decide, one_credential_per_status_slot h⟩

end CredentialService
