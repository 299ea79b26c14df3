import CredentialService.Service.Update
import CredentialService.Model.Ensures

/-!
# Service/UpdateSpec — what a status update does when it runs alone

One lemma per function of `Service/Update`, each saying everything a run can do, so that the
invariants and the counterexamples downstream never unfold the bodies again:

* `run_statusListCredentialWatchKey` — the preamble, case by case; with no status list for the
  triple it returns *no key and no error*; it only reads
  (`statusListCredentialWatchKey_writesNothing`), so neither method writes before `Execute`;
* `run_updateCredentialStatus_ok` — a successful regeneration writes the credential with the
  requested flags and then the list generated over `statusListMembers`;
* `run_updateCredentialStatusBusinessLogic_ok` — either the no-op early return, or that
  regeneration.

`updateCredentialStatus_nil_watch_key_panics` reads the first off at a credential whose triple
has no status list: `UpdateCredentialStatus` dereferences the nil key.
-/

namespace CredentialService

namespace Service

variable {s : Service} {σ : Store}

/-! ## The preamble -/

theorem run_statusListCredentialWatchKey (id : String) :
    (statusListCredentialWatchKey id).run σ =
      match σ.getCredential id with
      | none => .error ("reading credential" ++ ": " ++ ("credential not found with id: " ++ id))
      | some gotCred =>
        if gotCred.hasCredentialStatus = false then
          .error ("credential \"" ++ gotCred.localCredentialID ++ "\" has no credentialStatus field")
        else if gotCred.getStatusPurpose.length = 0 then
          .error "status purpose could not be derived from credential status"
        else .ok ((σ.statusListCredentials ⟨gotCred.issuer, gotCred.schema,
          gotCred.getStatusPurpose⟩).map fun _ => ⟨gotCred.issuer, gotCred.schema,
          gotCred.getStatusPurpose⟩) [] := by
  simp only [statusListCredentialWatchKey, Body.bind_eq, Body.pure_eq, Body.run_bind,
    Body.run_wrapError, Storage.run_getCredential]
  cases σ.getCredential id with
  | none => rfl
  | some g =>
    by_cases h1 : g.hasCredentialStatus = false
    · simp [h1]
    · by_cases h2 : g.getStatusPurpose.length = 0
      · simp [h1, h2]
      · simp [h1, h2, Storage.getStatusListCredentialKeyData]
        cases σ.statusListCredentials ⟨g.issuer, g.schema, g.getStatusPurpose⟩ <;> rfl

@[simp] theorem run_deref {α : Type} (o : Option α) :
    (deref o).run σ = match o with | some a => .ok a [] | none => .panic nilPointerDereference := by
  cases o <;> rfl

/-- **A preamble that returns a key** found the credential, its triple and the triple's status
list. -/
theorem run_statusListCredentialWatchKey_some {id : String} {t : StatusTriple} {ws : List Write}
    (h : (statusListCredentialWatchKey id).run σ = .ok (some t) ws) :
    ∃ gotCred, σ.getCredential id = some gotCred ∧ gotCred.triple = some t ∧
      (σ.statusListCredentials t).isSome ∧ ws = [] := by
  rw [run_statusListCredentialWatchKey] at h
  cases hc : σ.getCredential id with
  | none => simp [hc] at h
  | some g =>
    simp only [hc] at h
    split_ifs at h with h1
    cases hl : σ.statusListCredentials ⟨g.issuer, g.schema, g.getStatusPurpose⟩ with
    | none => simp [hl] at h
    | some slc =>
      simp only [hl, Option.map_some', Result.ok.injEq, Option.some.injEq] at h
      obtain ⟨rfl, rfl⟩ := h
      refine ⟨g, rfl, StoredCredential.triple_eq_some_iff.mpr ⟨?_, rfl, rfl, rfl⟩, by simp [hl], rfl⟩
      exact Option.ne_none_iff_isSome.mp (by simpa [StoredCredential.hasCredentialStatus] using h1)

theorem run_prepareUpdateFuncs_cons (request : UpdateCredentialStatusRequest)
    (requests : List UpdateCredentialStatusRequest) :
    (prepareUpdateFuncs (request :: requests)).run σ =
      ((statusListCredentialWatchKey request.id).run σ).andThen fun w =>
        ((deref w).run σ).andThen fun t =>
          ((prepareUpdateFuncs requests).run σ).andThen fun rest => .ok ((request, t) :: rest) [] := by
  simp only [prepareUpdateFuncs, Body.bind_eq, Body.pure_eq, Body.run_bind, Body.run_pure]

/-- The preamble only reads: it writes nothing before `Execute`. -/
theorem statusListCredentialWatchKey_writesNothing (id : String) :
    (statusListCredentialWatchKey id).WritesNothing := by
  simp only [Body.WritesNothing, statusListCredentialWatchKey, Storage.getCredential,
    Storage.getStatusListCredentialKeyData, errorsWrap, Body.bind_eq, Body.pure_eq,
    Body.ensures_bind, Body.ensures_wrapError, Body.ensures_get]
  intro σ _
  cases σ.getCredential id <;> simp only [Body.ensures_pure, Body.ensures_throw, Body.ensures_bind,
    Body.ensures_check, Body.ensures_get]
  intros
  split <;> trivial

/-- Every transaction `UpdateCredentialStatus` hands to `Execute` watches one status-list key and
runs the update closure for that key's triple; before it the method writes nothing. -/
theorem UpdateCredentialStatus_transaction (s : Service) (request : UpdateCredentialStatusRequest) :
    (s.UpdateCredentialStatus request).Ensures (fun _ => True) (fun _ => False)
      fun tr => ∃ t, tr = ⟨[.statusListCredential t], s.updateCredentialStatusFunc request ⟨t⟩⟩ := by
  simp only [UpdateCredentialStatus, Body.bind_eq, Body.pure_eq, Body.ensures_bind]
  refine (statusListCredentialWatchKey_writesNothing request.id).mono (fun _ h => h) (fun _ h => h)
    fun w _ => ?_
  cases w <;> simp [deref]

theorem prepareUpdateFuncs_requests (requests : List UpdateCredentialStatusRequest) :
    (prepareUpdateFuncs requests).Ensures (fun _ => True) (fun _ => False)
      fun prepared => prepared.map Prod.fst = requests := by
  induction requests with
  | nil => rfl
  | cons r rs ih =>
    simp only [prepareUpdateFuncs, Body.bind_eq, Body.pure_eq, Body.ensures_bind]
    refine (statusListCredentialWatchKey_writesNothing r.id).mono (fun _ h => h) (fun _ h => h)
      fun w _ => ?_
    cases w with
    | none => trivial
    | some t => exact ih.mono (fun _ h => h) (fun _ h => h) fun rest h => by simp [h]

theorem batchUpdateCredentialStatus_transaction (s : Service)
    (batchRequest : BatchUpdateCredentialStatusRequest) :
    (s.batchUpdateCredentialStatus batchRequest).Ensures (fun _ => True) (fun _ => False)
      fun tr => ∃ prepared : List (UpdateCredentialStatusRequest × StatusTriple),
        prepared.map Prod.fst = batchRequest.requests ∧
        tr = ⟨prepared.map fun p => .statusListCredential p.2,
          (fun statuses => ⟨statuses⟩) <$> s.runUpdateFuncs prepared⟩ := by
  simp only [batchUpdateCredentialStatus, Body.bind_eq, Body.pure_eq, Body.ensures_bind]
  exact (prepareUpdateFuncs_requests batchRequest.requests).mono (fun _ h => h) (fun _ h => h)
    fun prepared h => ⟨prepared, h, rfl⟩

theorem UpdateCredentialStatus_writesNothing (s : Service) (request : UpdateCredentialStatusRequest) :
    (s.UpdateCredentialStatus request).WritesNothing :=
  (UpdateCredentialStatus_transaction s request).mono (fun _ h => h) (fun _ h => h) fun _ _ => trivial

theorem batchUpdateCredentialStatus_writesNothing (s : Service)
    (batchRequest : BatchUpdateCredentialStatusRequest) :
    (s.batchUpdateCredentialStatus batchRequest).WritesNothing :=
  (batchUpdateCredentialStatus_transaction s batchRequest).mono (fun _ h => h) (fun _ h => h)
    fun _ _ => trivial

/-- **A preamble that returns a transaction** found the credential, its triple and the triple's
status list, and watches that list's key. -/
theorem run_UpdateCredentialStatus_ok {request : UpdateCredentialStatusRequest}
    {tr : Transaction UpdateCredentialStatusResponse} {ws : List Write}
    (h : (s.UpdateCredentialStatus request).run σ = .ok tr ws) :
    ∃ gotCred t, σ.getCredential request.id = some gotCred ∧ gotCred.triple = some t ∧
      (σ.statusListCredentials t).isSome ∧
      tr = ⟨[.statusListCredential t], s.updateCredentialStatusFunc request ⟨t⟩⟩ := by
  simp only [UpdateCredentialStatus, Body.bind_eq, Body.pure_eq, Body.run_bind] at h
  obtain ⟨w, _, _, hw, h, -⟩ := Result.andThen_eq_ok.mp h
  cases w with
  | none => simp at h
  | some t =>
    obtain ⟨g, hg, ht, hl, -⟩ := run_statusListCredentialWatchKey_some hw
    simp only [run_deref, Result.ok_andThen, Body.run_pure, Result.prepend_ok,
      Result.ok.injEq] at h
    exact ⟨g, t, hg, ht, hl, h.1.symm⟩

/-- Each target of a batch preamble that returns has the watch key its own preamble would
return. -/
theorem run_prepareUpdateFuncs_watchKey {requests : List UpdateCredentialStatusRequest}
    {prepared : List (UpdateCredentialStatusRequest × StatusTriple)} {ws : List Write}
    (h : (prepareUpdateFuncs requests).run σ = .ok prepared ws) :
    ∀ p ∈ prepared, (statusListCredentialWatchKey p.1.id).run σ = .ok (some p.2) [] := by
  induction requests generalizing prepared ws with
  | nil => cases h; simp
  | cons r rs ih =>
    rw [run_prepareUpdateFuncs_cons] at h
    obtain ⟨w, _, _, hw, h, -⟩ := Result.andThen_eq_ok.mp h
    cases w with
    | none => simp at h
    | some t =>
      simp only [run_deref, Result.ok_andThen, Result.prepend_nil] at h
      obtain ⟨rest, _, _, hrest, h, -⟩ := Result.andThen_eq_ok.mp h
      cases h
      obtain ⟨-, -, -, -, rfl⟩ := run_statusListCredentialWatchKey_some hw
      simpa [hw] using ih hrest

/-- **A batch preamble that returns** found every target, its triple and the triple's status
list. -/
theorem run_prepareUpdateFuncs_ok {requests : List UpdateCredentialStatusRequest}
    {prepared : List (UpdateCredentialStatusRequest × StatusTriple)} {ws : List Write}
    (h : (prepareUpdateFuncs requests).run σ = .ok prepared ws) :
    ∀ p ∈ prepared, ∃ gotCred, σ.getCredential p.1.id = some gotCred ∧
      gotCred.triple = some p.2 ∧ (σ.statusListCredentials p.2).isSome := fun p hp =>
  let ⟨g, hg, ht, hl, _⟩ :=
    run_statusListCredentialWatchKey_some (run_prepareUpdateFuncs_watchKey h p hp)
  ⟨g, hg, ht, hl⟩

/-- **A batch preamble that returns a transaction** found every target, its triple and the
triple's status list, and watches those lists' keys. -/
theorem run_batchUpdateCredentialStatus_ok {batchRequest : BatchUpdateCredentialStatusRequest}
    {tr : Transaction BatchUpdateCredentialStatusResponse} {ws : List Write}
    (h : (s.batchUpdateCredentialStatus batchRequest).run σ = .ok tr ws) :
    ∃ prepared : List (UpdateCredentialStatusRequest × StatusTriple),
      (∀ p ∈ prepared, ∃ gotCred, σ.getCredential p.1.id = some gotCred ∧
        gotCred.triple = some p.2 ∧ (σ.statusListCredentials p.2).isSome) ∧
      tr = ⟨prepared.map fun p => .statusListCredential p.2,
        (fun statuses => ⟨statuses⟩) <$> s.runUpdateFuncs prepared⟩ := by
  simp only [batchUpdateCredentialStatus, Body.bind_eq, Body.pure_eq, Body.run_bind,
    Body.run_pure, Result.andThen_eq_ok, Result.ok.injEq] at h
  obtain ⟨prepared, _, _, hp, ⟨rfl, rfl⟩, rfl⟩ := h
  exact ⟨prepared, run_prepareUpdateFuncs_ok hp, rfl⟩

/-- **A credential whose triple has no status list makes the update panic** — the lookup finds no
record and no error, `errors.Wrap` of the nil error is nil, and the caller dereferences the nil
key, alone or at the head of a batch. -/
theorem updateCredentialStatus_nil_watch_key_panics (s : Service) (σ : Store)
    (request : UpdateCredentialStatusRequest) (gotCred : StoredCredential)
    (entry : StatusList2021Entry) (hc : σ.getCredential request.id = some gotCred)
    (he : gotCred.credential.credentialStatus = some entry) (hp : entry.statusPurpose ≠ "")
    (hl : σ.statusListCredentials ⟨gotCred.issuer, gotCred.schema, entry.statusPurpose⟩ = none) :
    serve σ (s.UpdateCredentialStatus request) = (.panic nilPointerDereference, σ) ∧
      ∀ requests, serve σ (s.batchUpdateCredentialStatus ⟨request :: requests⟩) =
        (.panic nilPointerDereference, σ) := by
  have hlen : entry.statusPurpose.length ≠ 0 := fun h0 =>
    hp (String.ext (List.eq_nil_of_length_eq_zero h0))
  have hk : (statusListCredentialWatchKey request.id).run σ = .ok none [] := by
    simp [run_statusListCredentialWatchKey, hc, StoredCredential.hasCredentialStatus,
      StoredCredential.getStatusPurpose, he, hlen, hl]
  constructor
  · rw [serve_of_writesNothing (UpdateCredentialStatus_writesNothing s request)]
    simp [UpdateCredentialStatus, Body.run_bind, hk, deref]
  · intro requests
    rw [serve_of_writesNothing (batchUpdateCredentialStatus_writesNothing s _)]
    simp [batchUpdateCredentialStatus, Body.run_bind, run_prepareUpdateFuncs_cons, hk, deref]

/-- A revocable credential whose triple's status list is missing. -/
def orphanEntry : StatusList2021Entry :=
  ⟨"https://ssi.example/v1/credentials/c1/status", "StatusList2021Entry", statusRevocation, 7,
    "https://ssi.example/v1/credentials/status/00000000-0000-0000-0000-000000000001"⟩

/-- The stored record of that credential. -/
def orphanCredential : StoredCredential :=
  ⟨"c1", "did:example:issuer#key-1",
    ⟨[credentialsContext], "https://ssi.example/v1/credentials/c1", "did:example:issuer", "", "",
      .claims [("id", .string "did:example:subject")], none, some orphanEntry, []⟩,
    ⟨"key-1", "did:example:issuer#key-1",
      ⟨[credentialsContext], "https://ssi.example/v1/credentials/c1", "did:example:issuer", "", "",
        .claims [("id", .string "did:example:subject")], none, some orphanEntry, []⟩⟩,
    false, false⟩

/-- A store holding only that record. -/
def orphanStore : Store := { Store.empty with credentials := [orphanCredential] }

theorem revoke_orphan_credential_panics :
    orphanStore.statusListCredentials ⟨"did:example:issuer", "", statusRevocation⟩ = none ∧
      serve orphanStore (demoService.UpdateCredentialStatus ⟨"c1", true, false⟩) =
        (.panic nilPointerDereference, orphanStore) :=
  ⟨rfl, (updateCredentialStatus_nil_watch_key_panics demoService orphanStore ⟨"c1", true, false⟩
    orphanCredential orphanEntry rfl rfl (by decide) rfl).1⟩

/-! ## Inside `Execute` -/

/-- **What a successful regeneration does**: the target carries a status entry, the SDK generates
the list over `statusListMembers` for the requested purpose, and the body writes the credential
with the requested flags, then the list (with the target's schema) under the metadata's key. -/
theorem run_updateCredentialStatus_ok {gotCred : StoredCredential}
    {request : UpdateCredentialStatusRequest} {m : StatusListCredentialMetadata} {c : Container}
    {ws : List Write} (h : (s.updateCredentialStatus gotCred request m).run σ = .ok c ws) :
    ∃ entry vc slc, gotCred.credential.credentialStatus = some entry ∧
      generateStatusList2021Credential s.now entry.statusListCredential gotCred.issuer
        (requestPurpose request) (statusListMembers gotCred request
          (σ.credentialsByIssuerAndSchema gotCred.issuer gotCred.schema)) = .ok vc ∧
      slc.credential = { vc with credentialSchema := gotCred.credential.credentialSchema } ∧
      c = updatedContainer gotCred request ∧
      ws = [.credential (gotCred.withFlags request.revoked request.suspended),
        .statusListCredential m.triple slc] := by
  cases he : gotCred.credential.credentialStatus with
  | none =>
    simp [updateCredentialStatus, Storage.storeCredentialTx, he, assertCredentialStatus,
      Body.run_bind] at h
  | some entry =>
    simp only [updateCredentialStatus, Storage.storeCredentialTx,
      Storage.getCredentialsByIssuerAndSchema, Storage.storeStatusListCredentialTx, Body.bind_eq,
      Body.pure_eq, Body.wrapError_bind, Body.wrapError_put, Body.put_bind, Body.get_bind, he,
      assertCredentialStatus, Body.pure_bind, Body.run_write, Body.run_read, Body.check_bind] at h
    split at h
    · cases h
    · cases hp : parseIDFromURI entry.statusListCredential with
      | error e => simp [hp, Body.run_bind] at h
      | ok id =>
        simp only [hp, Body.ofExcept_ok, Body.pure_bind, Body.run_read] at h
        cases hg : generateStatusList2021Credential s.now entry.statusListCredential gotCred.issuer
            (requestPurpose request) (statusListMembers gotCred request
              (σ.credentialsByIssuerAndSchema gotCred.issuer gotCred.schema)) with
        | error e => simp [hg, Body.run_bind] at h
        | ok vc =>
          simp only [hg, Body.ofExcept_ok, Body.wrapError_pure, Body.pure_bind] at h
          cases hj : s.signCredentialJWT gotCred.fullyQualifiedVerificationMethodID
              { vc with credentialSchema := gotCred.credential.credentialSchema } with
          | error e => simp [hj, Body.run_bind] at h
          | ok jwt =>
            simp [hj] at h
            exact ⟨entry, vc, _, rfl, hg, rfl, h.1.symm, h.2.symm⟩

/-- **The update transaction, run alone**: it refuses a request setting both flags, reads the
target, and either returns at once (flags already as requested, nothing written) or regenerates. -/
theorem run_updateCredentialStatusBusinessLogic_ok {request : UpdateCredentialStatusRequest}
    {m : StatusListCredentialMetadata} {resp : UpdateCredentialStatusResponse} {ws : List Write}
    (h : (s.updateCredentialStatusBusinessLogic request m).run σ = .ok resp ws) :
    ¬(request.suspended = true ∧ request.revoked = true) ∧ ∃ gotCred,
      σ.getCredential request.id = some gotCred ∧ gotCred.isValid = true ∧
      ((gotCred.revoked = request.revoked ∧ gotCred.suspended = request.suspended ∧ ws = [] ∧
          resp = ⟨⟨"", gotCred.revoked, gotCred.suspended⟩⟩) ∨
        (¬(gotCred.revoked = request.revoked ∧ gotCred.suspended = request.suspended) ∧
          (s.updateCredentialStatus gotCred request m).run σ =
            .ok (updatedContainer gotCred request) ws ∧
          resp = ⟨⟨"", request.revoked, request.suspended⟩⟩)) := by
  simp only [updateCredentialStatusBusinessLogic, Body.bind_eq, Body.pure_eq, Body.check_bind,
    Body.run_ite, Body.run_bind, Body.run_wrapError, Storage.run_getCredential, Bool.and_eq_true] at h
  by_cases hb : request.suspended = true ∧ request.revoked = true
  · simp [hb] at h
  refine ⟨hb, ?_⟩
  cases hc : σ.getCredential request.id with
  | none => simp [hb, hc] at h
  | some g =>
    by_cases hv : g.isValid = true
    · refine ⟨g, rfl, hv, ?_⟩
      by_cases hs : g.revoked = request.revoked ∧ g.suspended = request.suspended
      · simp [hb, hc, hv, hs] at h
        exact .inl ⟨hs.1, hs.2, h.2, by rw [hs.1, hs.2]; exact h.1.symm⟩
      · simp [hb, hc, hv, hs] at h
        cases hu : (s.updateCredentialStatus g request m).run σ with
        | ok c ws' =>
          obtain ⟨-, -, -, -, -, -, rfl, -⟩ := run_updateCredentialStatus_ok hu
          simp only [hu, Result.ok_andThen, Result.prepend_ok, List.append_nil,
            Result.ok.injEq] at h
          exact .inr ⟨hs, h.2 ▸ rfl, h.1.symm⟩
        | error e => simp [hu] at h
        | panic e => simp [hu] at h
    · simp [hb, hc, hv] at h

theorem run_runUpdateFuncs_cons (request : UpdateCredentialStatusRequest) (t : StatusTriple)
    (rest : List (UpdateCredentialStatusRequest × StatusTriple)) :
    (s.runUpdateFuncs ((request, t) :: rest)).run σ =
      ((s.updateCredentialStatusFunc request ⟨t⟩).run σ).andThen fun updateResp =>
        ((s.runUpdateFuncs rest).run σ).andThen fun statuses =>
          .ok ({ updateResp.status with id := request.id } :: statuses) [] := by
  simp only [runUpdateFuncs, Body.bind_eq, Body.pure_eq, Body.run_bind, Body.run_pure]

/-- **Every write of a batch is a write of one of its update closures**, run against the same
store. -/
theorem runUpdateFuncs_writes :
    ∀ {prepared : List (UpdateCredentialStatusRequest × StatusTriple)} {statuses : List Status}
      {ws : List Write}, (s.runUpdateFuncs prepared).run σ = .ok statuses ws →
      ∀ w ∈ ws, ∃ p ∈ prepared, ∃ resp wsp,
        (s.updateCredentialStatusFunc p.1 ⟨p.2⟩).run σ = .ok resp wsp ∧ w ∈ wsp ∧ wsp ⊆ ws
  | [], _, _, h => by cases h; simp
  | (request, t) :: rest, _, _, h => by
    simp only [run_runUpdateFuncs_cons, Result.andThen_eq_ok, Result.ok.injEq] at h
    obtain ⟨resp, ws₁, _, h₁, ⟨statuses, ws₂, _, h₂, ⟨-, rfl⟩, rfl⟩, rfl⟩ := h
    intro w hw
    rcases List.mem_append.mp hw with hw | hw
    · exact ⟨(request, t), List.mem_cons_self _ _, resp, ws₁, h₁, hw,
        List.subset_append_left _ _⟩
    · obtain ⟨p, hp, resp', wsp, hrun, hmem, hsub⟩ := runUpdateFuncs_writes h₂ w (by simpa using hw)
      exact ⟨p, List.mem_cons_of_mem _ hp, resp', wsp, hrun, hmem,
        fun x hx => by simpa using Or.inr (hsub hx)⟩

/-- The loop over the ⟨issuer, schema⟩'s credentials as a filter. -/
theorem revokedOrSuspendedStatusCreds_eq (gotCred : StoredCredential)
    (request : UpdateCredentialStatusRequest) (creds : List StoredCredential) :
    revokedOrSuspendedStatusCreds gotCred request creds =
      (creds.filter fun C => C.credential.id ≠ gotCred.credential.id &&
        C.credential.credentialStatus.isSome &&
        (request.revoked && C.revoked || request.suspended && C.suspended)).map (·.credential) := by
  induction creds with
  | nil => rfl
  | cons C cs ih =>
    simp only [revokedOrSuspendedStatusCreds, List.filter_cons, ih]
    by_cases h1 : C.credential.id = gotCred.credential.id
    · simp [h1]
    · cases request.revoked <;> cases request.suspended <;> cases C.revoked <;>
        cases C.suspended <;> cases C.credential.credentialStatus.isSome <;> simp [h1]

/-- The loop's condition reads the stored flag of the requested purpose. -/
theorem flag_requestPurpose {request : UpdateCredentialStatusRequest}
    (hset : (request.revoked || request.suspended) = true)
    (hb : ¬(request.suspended = true ∧ request.revoked = true)) (C : StoredCredential) :
    C.flag (requestPurpose request) = (request.revoked && C.revoked || request.suspended && C.suspended) := by
  cases hr : request.revoked <;> cases hs : request.suspended <;>
    simp_all [StoredCredential.flag, requestPurpose, statusRevocation, statusSuspension]

/-- Who the regenerated list lists: the other credentials with a status whose stored flag for the
requested purpose is set, and the target. -/
theorem mem_statusListMembers {gotCred : StoredCredential}
    {request : UpdateCredentialStatusRequest} (hset : (request.revoked || request.suspended) = true)
    (hb : ¬(request.suspended = true ∧ request.revoked = true)) (creds : List StoredCredential)
    (c : VerifiableCredential) :
    c ∈ statusListMembers gotCred request creds ↔
      (∃ C ∈ creds, (C.credential.id ≠ gotCred.credential.id ∧
        C.credential.credentialStatus.isSome = true ∧ C.flag (requestPurpose request) = true) ∧
        C.credential = c) ∨ c = gotCred.credential := by
  simp only [statusListMembers, hset, if_true, List.mem_append, List.mem_singleton,
    revokedOrSuspendedStatusCreds_eq, List.mem_map, List.mem_filter, flag_requestPurpose hset hb,
    Bool.and_eq_true, decide_eq_true_eq, bne_iff_ne, and_assoc]

/-- A regenerated list that lists the target is generated for the target's purpose. -/
theorem getStatusPurpose_of_generate_ok {now id issuer purpose : String} {gotCred : StoredCredential}
    {request : UpdateCredentialStatusRequest} {creds : List StoredCredential}
    {vc : VerifiableCredential}
    (h : generateStatusList2021Credential now id issuer purpose
      (statusListMembers gotCred request creds) = .ok vc)
    (hr : (request.revoked || request.suspended) = true) : gotCred.getStatusPurpose = purpose := by
  obtain ⟨e, he, hp⟩ := (generateStatusList2021Credential_eq.mp h).1 gotCred.credential
    (by simp [statusListMembers, hr])
  simp [StoredCredential.getStatusPurpose, he, hp]

end Service

end CredentialService
