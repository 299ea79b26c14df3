import CredentialService.Concurrency.Stable
import CredentialService.Sequential.Allocation

/-!
# Concurrency/Issuance — an issuance reads only what its watch keys protect

`CreateCredential` watches three keys of the request's triple, its status list, index pool and
cursor (`Service.statusWatchKeys`), and these are all its body reads.  The body is therefore
`Stable` for `Store.SameAllocation` of the triple (`Service.createCredential_stable`): answering
its reads with any stores that hold the triple's list, pool and cursor as the final store does
changes nothing it returns or writes.

    attempt  σ₁ ──read──▸ ⋯ ──read σₙ──▸ pure resp,  ws buffered       σᵢ ≈ τ on list, pool, cursor
    alone    τ  ──CreateCredential──▸ (ok resp, τ.commit ws)

Two consequences:

* an attempt that `Execute` commits, no watched key having been written since it began, commits
  what the call run alone against the commit store commits, and so keeps `Store.Allocated`
  (`issuance_attempt_is_its_run_at_commit`); so does a batch, whose closures read the lists, pools
  and cursors of all its requests' triples (`Service.runCreateFuncs_stable`,
  `batch_issuance_attempt_is_its_run_at_commit`);
* a body run from another store with the same list, pool and cursor runs the same
  (`Service.createCredential_run_of_sameAllocation`), which `Concurrency/Batch` uses for the
  closures of a batch.
-/

namespace CredentialService

open Body

namespace Service

variable {s : Service} {entropy : Entropy} {request : CreateCredentialRequest}
  {R : Store → Store → Prop}

theorem statusListCredentialURI_stable (t : StatusTriple) (existing : Option StoredCredential) :
    Stable R (fun _ => True) (s.statusListCredentialURI entropy request t existing) := by
  cases existing with
  | some slc => trivial
  | none =>
    exact Stable.bind (by simp) fun _ => Stable.bind (by simp) fun _ => by simp

theorem claimStatusListIndex_stable (credID : String) (t : StatusTriple) (uri : String)
    (pool : List Nat) (cursor : Nat) :
    Stable R (fun _ => True) (claimStatusListIndex entropy credID request t uri pool cursor) := by
  unfold claimStatusListIndex
  split <;> simp

/-- The allocation reads the request's list, then its pool and cursor. -/
theorem createStatusListEntryForCredential_stable (credID : String)
    {m : StatusListCredentialMetadata} (hm : m.triple = request.triple)
    (hR : ∀ σ τ, R σ τ → Store.SameAllocation request.triple σ τ) :
    Stable R (fun _ => True) (s.createStatusListEntryForCredential entropy credID request m) := by
  rw [createStatusListEntryForCredential, hm]
  exact stable_get_bind (fun σ τ h => (hR σ τ h).1) fun existing =>
    (statusListCredentialURI_stable _ existing).bind fun _ =>
      stable_get_bind (fun σ τ h => by rw [(hR σ τ h).2.1]) fun _ =>
        stable_get_bind (fun σ τ h => by rw [(hR σ τ h).2.2]) fun _ =>
          claimStatusListIndex_stable _ _ _ _ _

theorem credentialStatusFor_stable (credentialURI : String) {m : StatusListCredentialMetadata}
    (hm : request.hasStatus = true → m.triple = request.triple) :
    Stable (fun σ τ => request.hasStatus = true → Store.SameAllocation request.triple σ τ)
      (fun _ => True) (s.credentialStatusFor entropy credentialURI request m) := by
  unfold credentialStatusFor
  split
  · rename_i hs
    rw [Body.map_eq]
    refine Stable.bind ?_ fun _ => trivial
    rw [stable_wrapError]
    exact createStatusListEntryForCredential_stable _ (hm hs) fun σ τ h => h hs
  · trivial

/-- **An issuance body is stable for its triple's list, pool and cursor**, and reads nothing when
the request asks for no status. -/
theorem createCredential_stable {m : StatusListCredentialMetadata}
    (hm : request.hasStatus = true → request.isStatusValid = true → m.triple = request.triple) :
    Stable (fun σ τ => request.hasStatus = true → Store.SameAllocation request.triple σ τ)
      (fun _ => True) (s.createCredential entropy request m) := by
  simp only [createCredential, Body.bind_eq, Body.pure_eq, Body.check_bind]
  refine (stable_ite _ _ _).mpr ⟨fun _ => trivial, fun hv => ?_⟩
  have hv : request.isStatusValid = true := by simpa using hv
  refine Stable.bind (by simp) fun _ => Stable.bind (by simp) fun _ =>
    (stable_ite _ _ _).mpr ⟨fun _ => trivial, fun _ => ?_⟩
  refine (credentialStatusFor_stable _ fun hs => hm hs hv).bind fun _ =>
    Stable.bind (by simp) fun _ => (stable_ite _ _ _).mpr ⟨fun _ => trivial, fun _ => ?_⟩
  exact Stable.bind (by simp) fun _ =>
    Stable.bind (by simp [Storage.storeCredentialTx, Body.put]) fun _ => trivial

/-- An issuance body that succeeds against `σ` succeeds alike against any store with the same list,
pool and cursor for the request's triple. -/
theorem createCredential_run_of_sameAllocation {m : StatusListCredentialMetadata} {σ τ : Store}
    {resp : CreateCredentialResponse} {ws : List Write}
    (hm : request.hasStatus = true → request.isStatusValid = true → m.triple = request.triple)
    (hagree : request.hasStatus = true → Store.SameAllocation request.triple σ τ)
    (h : (s.createCredential entropy request m).run σ = .ok resp ws) :
    (s.createCredential entropy request m).run τ = .ok resp ws := by
  simpa using ((steps_of_run h).mono fun _ h' => h' ▸ hagree).run_of_stable
    (createCredential_stable hm) rfl

/-- The closures of a batch are stable for the lists, pools and cursors of all their triples. -/
theorem runCreateFuncs_stable (entropy : Nat → Entropy) :
    ∀ (prepared : List (CreateCredentialRequest × StatusListCredentialMetadata)) (i : Nat),
      (∀ p ∈ prepared, p.1.hasStatus = true → p.1.isStatusValid = true → p.2.triple = p.1.triple) →
      Stable (fun σ τ => ∀ p ∈ prepared, p.1.hasStatus = true →
          Store.SameAllocation p.1.triple σ τ) (fun _ => True)
        (s.runCreateFuncs entropy i prepared)
  | [], _, _ => trivial
  | (request, m) :: rest, i, hm => by
    simp only [runCreateFuncs, Body.bind_eq, Body.pure_eq]
    refine Stable.bind ((createCredential_stable (hm _ (.head _))).mono
      (fun σ τ h hs => h _ (.head _) hs) fun _ _ => trivial) fun _ => Stable.bind ?_ fun _ => trivial
    exact (runCreateFuncs_stable entropy rest (i + 1) fun p hp => hm p (.tail _ hp)).mono
      (fun σ τ h p hp => h p (.tail _ hp)) fun _ _ => trivial

theorem run_CreateCredential_of_valid {σ : Store} (hv : request.isValid = none) :
    (s.CreateCredential entropy request).run σ = .ok ⟨(statusWatchKeys request).1,
      s.createCredentialFunc entropy request (statusWatchKeys request).2⟩ [] := by
  simp [CreateCredential, Body.run_bind, hv, errorsWrap]

end Service

/-- **An issuance attempt that `Execute` commits is the call run alone at the commit**: when every
read of the closure `CreateCredential` hands to `Execute` was answered by a store holding the
request's list, pool and cursor as the commit store `τ` does, none of the keys it watches having
been written since the attempt began, the call run alone against `τ` returns the same credential
and commits the same writes, and so keeps every slot held once. -/
theorem issuance_attempt_is_its_run_at_commit {s : Service} {entropy : Entropy}
    {request : CreateCredentialRequest} (hv : request.isValid = none) {τ : Store}
    {resp : CreateCredentialResponse} {ws : List Write}
    (hsteps : Body.Steps
      (fun σ => request.hasStatus = true → Store.SameAllocation request.triple σ τ)
      (s.createCredentialFunc entropy request (Service.statusWatchKeys request).2) ws
      (.pure resp)) :
    serve τ (s.CreateCredential entropy request) = (.ok resp, τ.commit ws) ∧
      (τ.Allocated → (τ.commit ws).Allocated) := by
  have hm : request.hasStatus = true → request.isStatusValid = true →
      (Service.statusWatchKeys request).2.triple = request.triple :=
    Service.statusWatchKeys_triple
  have hrun : (s.createCredentialFunc entropy request (Service.statusWatchKeys request).2).run τ =
      .ok resp ws := by
    simpa using hsteps.run_of_stable
      (R := fun σ τ => request.hasStatus = true → Store.SameAllocation request.triple σ τ)
      (Service.createCredential_stable hm) rfl
  exact ⟨serve_of_ok (s.CreateCredential_writesNothing entropy request)
      (Service.run_CreateCredential_of_valid hv) hrun,
    fun hτ => Service.createCredential_allocated hm hτ (fun _ => ⟨rfl, rfl, rfl⟩) hrun⟩

/-- The store a suspendable credential of the demo issuer leaves behind. -/
def demoSuspensionStore : Store := (demoIssue true "s" 3).apply demoService Store.empty

/-- A revocable issuance that read the empty store while a suspendable one of the same issuer
committed: the suspension wrote another triple, so the attempt commits as if it ran after it. -/
theorem revocable_attempt_beside_a_suspension_commits :
    ∃ resp ws, Body.Steps (fun σ => (demoRequest false).hasStatus = true →
        Store.SameAllocation (demoRequest false).triple σ demoSuspensionStore)
      (demoService.createCredentialFunc ⟨"r", "00000000-0000-0000-0000-000000000002", [3]⟩
        (demoRequest false) (Service.statusWatchKeys (demoRequest false)).2) ws (.pure resp) ∧
      serve demoSuspensionStore (demoService.CreateCredential
          ⟨"r", "00000000-0000-0000-0000-000000000002", [3]⟩ (demoRequest false)) =
        (.ok resp, demoSuspensionStore.commit ws) ∧
      (demoSuspensionStore.Allocated → (demoSuspensionStore.commit ws).Allocated) :=
  have h : (demoService.createCredentialFunc ⟨"r", "00000000-0000-0000-0000-000000000002", [3]⟩
      (demoRequest false) (Service.statusWatchKeys (demoRequest false)).2).run Store.empty =
      .ok _ _ := rfl
  have hsteps := (Body.steps_of_run h).mono fun σ hσ _ => hσ ▸ ⟨rfl, rfl, rfl⟩
  ⟨_, _, hsteps, issuance_attempt_is_its_run_at_commit (by decide) hsteps⟩

/-- **A batch issuance attempt that `Execute` commits is the batch run alone at the commit**: when
every read of the batch's closure was answered by a store holding the list, pool and cursor of
every requested triple as the commit store `τ` does, `BatchCreateCredentials` run alone against
`τ` returns the same credentials and commits the same writes; when its requests with a status name
distinct triples, it keeps every slot held once. -/
theorem batch_issuance_attempt_is_its_run_at_commit {s : Service} {entropy : Nat → Entropy}
    {requests : List CreateCredentialRequest} {τ : Store}
    {resp : BatchCreateCredentialsResponse} {ws : List Write}
    (hsteps : Body.Steps
      (fun σ => ∀ r ∈ requests, r.hasStatus = true → Store.SameAllocation r.triple σ τ)
      ((fun credentials => ⟨credentials⟩) <$> s.runCreateFuncs entropy 0
        (requests.map fun r => (r, (Service.statusWatchKeys r).2))) ws (.pure resp)) :
    serve τ (s.batchCreateCredentials entropy ⟨requests⟩) = (.ok resp, τ.commit ws) ∧
      (((requests.filter (·.hasStatus)).map (·.triple)).Nodup → τ.Allocated →
        (τ.commit ws).Allocated) := by
  have hm : ∀ p ∈ requests.map fun r => (r, (Service.statusWatchKeys r).2),
      p.1.hasStatus = true → p.1.isStatusValid = true → p.2.triple = p.1.triple := by
    intro p hp
    obtain ⟨r, -, rfl⟩ := List.mem_map.mp hp
    exact Service.statusWatchKeys_triple
  have hstable : Stable
      (fun σ τ => ∀ r ∈ requests, r.hasStatus = true → Store.SameAllocation r.triple σ τ)
      (fun _ => True) ((fun credentials => (⟨credentials⟩ : BatchCreateCredentialsResponse)) <$>
        s.runCreateFuncs entropy 0 (requests.map fun r => (r, (Service.statusWatchKeys r).2))) := by
    rw [Body.map_eq]
    refine Stable.bind ((Service.runCreateFuncs_stable entropy _ 0 hm).mono (fun σ τ h p hp => ?_)
      fun _ _ => trivial) fun _ => trivial
    obtain ⟨r, hr, rfl⟩ := List.mem_map.mp hp
    exact h r hr
  have hrun := hsteps.run_of_stable hstable (Body.run_pure τ resp)
  rw [List.append_nil] at hrun
  refine ⟨serve_of_ok (s.batchCreateCredentials_writesNothing entropy ⟨requests⟩) rfl hrun,
    fun hnodup hτ => ?_⟩
  obtain ⟨credentials, hcreds, -⟩ := (Body.run_map_eq_ok _ _ _).mp hrun
  exact Service.runCreateFuncs_allocated entropy _ 0 hm
    (by simpa [List.filter_map, Function.comp_def] using hnodup) hτ
    (fun _ _ _ => ⟨rfl, rfl, rfl⟩) hcreds

/-- The store an issuance without a status leaves behind: one credential, and no list. -/
def demoPlainStore : Store :=
  (Op.createCredential ⟨"p", "00000000-0000-0000-0000-000000000003", []⟩
    { demoRequest false with revocable := false }).apply demoService Store.empty

/-- A batch issuing a revocable and a suspendable credential that read the empty store while an
issuance without a status committed: the batch commits as if it ran after it. -/
theorem mixed_batch_attempt_beside_a_plain_issuance_commits :
    ∃ resp ws, Body.Steps (fun σ => ∀ r ∈ [demoRequest false, demoRequest true],
        r.hasStatus = true → Store.SameAllocation r.triple σ demoPlainStore)
      ((fun credentials => ⟨credentials⟩) <$> demoService.runCreateFuncs
        (fun i => ⟨toString i, "00000000-0000-0000-0000-00000000000" ++ toString i, [5]⟩) 0
        ([demoRequest false, demoRequest true].map fun r => (r, (Service.statusWatchKeys r).2)))
      ws (.pure resp) ∧
      serve demoPlainStore (demoService.batchCreateCredentials
          (fun i => ⟨toString i, "00000000-0000-0000-0000-00000000000" ++ toString i, [5]⟩)
          ⟨[demoRequest false, demoRequest true]⟩) = (.ok resp, demoPlainStore.commit ws) ∧
      ((([demoRequest false, demoRequest true].filter (·.hasStatus)).map (·.triple)).Nodup →
        demoPlainStore.Allocated → (demoPlainStore.commit ws).Allocated) :=
  have h : ((fun credentials => (⟨credentials⟩ : BatchCreateCredentialsResponse)) <$>
      demoService.runCreateFuncs
        (fun i => ⟨toString i, "00000000-0000-0000-0000-00000000000" ++ toString i, [5]⟩) 0
        ([demoRequest false, demoRequest true].map fun r => (r, (Service.statusWatchKeys r).2))).run
      Store.empty = .ok _ _ := rfl
  have hsteps := (Body.steps_of_run h).mono fun _ hσ _ _ _ => hσ ▸ ⟨rfl, rfl, rfl⟩
  ⟨_, _, hsteps, batch_issuance_attempt_is_its_run_at_commit hsteps⟩

end CredentialService
