import CredentialService.Concurrency.Updates
import CredentialService.Concurrency.Issuance

/-!
# Concurrency/Batch — a batch over distinct triples is its requests run in turn

`batch_revoke_keeps_last_bit` shows that a batch is not its requests run one at a time: every
closure of the batch reads the committed store, so two closures of one triple each rebuild the
triple's list without the other.  When the targets' triples are distinct, no closure reads what
another writes.  Each closure watches its own triple, and the closures before it write only other
triples' lists and their own targets' flags, which leaves the store as it was on that triple
(`Store.agreeOn_commit`).  The closure is stable for such stores
(`Service.updateCredentialStatusBusinessLogic_stable`), so its run against the committed store is
its run after the requests before it:

    batch    σ ──closure₁ ⋯ closureₙ, every read at σ──▸ σ.commit (ws₁ ++ ⋯ ++ wsₙ)
    singles  σ ──update₁──▸ σ.commit ws₁ ──update₂──▸ ⋯ ──updateₙ──▸ the same store

`batch_over_distinct_triples_is_sequential` is the result, by induction over the closures
(`runUpdateFuncs_sequential`).

Batch issuance is the same story.  An issuance body reads only its triple's list, pool and cursor
(`Service.createCredential_stable`) and writes only those of its own triple
(`Service.createCredential_sameAllocation`), so over requests whose triples are distinct the
closures are `CreateCredential` served in turn (`serveInTurn`, `runCreateFuncs_sequential`,
`batch_issuance_over_distinct_triples_is_sequential`).  Over one triple that has no list yet,
every closure creates the list under its own id and the last write wins, so the batch returns a
credential whose list its triple no longer stores
(`batch_issuance_in_new_triple_strands_a_credential`).
-/

namespace CredentialService

open Body Store StoredCredential

variable {servicePath : String}

namespace Service

variable {s : Service} {σ : Store}

theorem run_UpdateCredentialStatus_of_watchKey {request : UpdateCredentialStatusRequest}
    {t : StatusTriple} (h : (statusListCredentialWatchKey request.id).run σ = .ok (some t) []) :
    (s.UpdateCredentialStatus request).run σ =
      .ok ⟨[.statusListCredential t], s.updateCredentialStatusFunc request ⟨t⟩⟩ [] := by
  simp [UpdateCredentialStatus, Body.run_bind, h]

/-- What an update closure writes: its target's record and its triple's list. -/
theorem updateCredentialStatusBusinessLogic_keys {request : UpdateCredentialStatusRequest}
    {m : StatusListCredentialMetadata} {resp : UpdateCredentialStatusResponse} {ws : List Write}
    (h : (s.updateCredentialStatusBusinessLogic request m).run σ = .ok resp ws) :
    ∀ w ∈ ws, w.key = .statusListCredential m.triple ∨ ∃ id, w.key = .credential id := by
  obtain ⟨-, g, -, -, ⟨-, -, rfl, -⟩ | ⟨-, hu, -⟩⟩ := run_updateCredentialStatusBusinessLogic_ok h
  · simp
  obtain ⟨-, -, slc, -, -, -, -, rfl⟩ := run_updateCredentialStatus_ok hu
  simp [Write.key]

/-- **An update closure runs the same against any sound store that agrees on its triple** and
keeps its target in that triple. -/
theorem run_updateCredentialStatusBusinessLogic_of_agreeOn {request : UpdateCredentialStatusRequest}
    {t : StatusTriple} {τ : Store} (hA : σ.AgreeOn [.statusListCredential t] τ)
    (hσ : σ.Sound servicePath) (hτ : τ.Sound servicePath)
    (ht : ∀ g, τ.getCredential request.id = some g → g.triple = some t)
    {resp : UpdateCredentialStatusResponse} {ws : List Write}
    (h : (s.updateCredentialStatusBusinessLogic request ⟨t⟩).run σ = .ok resp ws) :
    (s.updateCredentialStatusBusinessLogic request ⟨t⟩).run τ = .ok resp ws := by
  have hst : Stable (fun σ₁ τ₁ => σ₁.AgreeOn [.statusListCredential t] τ₁ ∧
      σ₁.Sound servicePath ∧ τ₁.Sound servicePath ∧ τ₁ = τ) (fun _ => True)
      (s.updateCredentialStatusBusinessLogic request ⟨t⟩) :=
    updateCredentialStatusBusinessLogic_stable (fun _ _ hr => ⟨hr.1, hr.2.1, hr.2.2.1⟩) s
      (fun _ _ hr g hg => ht g (hr.2.2.2 ▸ hg)) (List.mem_singleton_self _)
  simpa using ((steps_of_run h).mono fun _ h' => h' ▸ ⟨hA, hσ, hτ, rfl⟩).run_of_stable hst
    (Body.run_pure τ resp)

end Service

/-- **The closures of a batch over distinct triples are the requests run in turn**: run against
`σ`, they return what the single updates return one after the other from a store `τ` that is
`σ` up to flags and agrees with it on every remaining triple, and they write what those updates
commit. -/
theorem runUpdateFuncs_sequential {σ : Store} (hσ : σ.Sound servicePath) (hnd : σ.Nodup)
    (s : Service) :
    ∀ (prepared : List (UpdateCredentialStatusRequest × StatusTriple)) {τ : Store}
      {statuses : List Status} {ws : List Write},
      σ.Later τ → τ.Sound servicePath →
      σ.AgreeOn (prepared.map fun p => .statusListCredential p.2) τ →
      (prepared.map Prod.snd).Nodup →
      (∀ p ∈ prepared, (Service.statusListCredentialWatchKey p.1.id).run σ = .ok (some p.2) []) →
      (s.runUpdateFuncs prepared).run σ = .ok statuses ws →
      ∃ resps : List UpdateCredentialStatusResponse,
        Call.serveAll τ (prepared.map fun p => .updateCredentialStatus s p.1) =
          (resps.map fun u => .ok (.updateCredentialStatus u), τ.commit ws) ∧
        statuses = List.zipWith (fun p u => { u.status with id := p.1.id }) prepared resps
  | [], τ, _, _, _, _, _, _, _, h => by
    cases h
    exact ⟨[], rfl, rfl⟩
  | (request, t) :: rest, τ, _, _, hl, hτ, hA, hnodup, hwk, h => by
    simp only [Service.run_runUpdateFuncs_cons, Result.andThen_eq_ok, Result.ok.injEq] at h
    obtain ⟨resp, ws₁, _, h₁, ⟨statuses, ws₂, _, h₂, ⟨rfl, rfl⟩, rfl⟩, rfl⟩ := h
    have hwk₁ := hwk (request, t) (List.mem_cons_self _ _)
    obtain ⟨g₀, hg₀, ht₀, -, -⟩ := Service.run_statusListCredentialWatchKey_some hwk₁
    -- the target keeps its triple in the later store
    have htarget : ∀ g, τ.getCredential request.id = some g → g.triple = some t := by
      intro g hg
      have hu := hl.getCredential request.id
      rw [hg, hg₀, Option.map_some', Option.map_some', Option.some.injEq] at hu
      rw [triple_eq_of_unflagged hu, ht₀]
    have hτnd := hl.nodup hnd
    have hA₁ : σ.AgreeOn [.statusListCredential t] τ := hA.mono (by simp)
    have h₁τ := Service.run_updateCredentialStatusBusinessLogic_of_agreeOn hA₁ hσ hτ htarget h₁
    -- the single update of `request` from `τ`
    have hp : (Call.updateCredentialStatus s request).start = .preamble
        (Transaction.map Reply.updateCredentialStatus <$> s.UpdateCredentialStatus request) := rfl
    have hpre : (Transaction.map Reply.updateCredentialStatus <$> s.UpdateCredentialStatus request).run τ =
        .ok ⟨[.statusListCredential t], Reply.updateCredentialStatus <$>
          s.updateCredentialStatusFunc request ⟨t⟩⟩ [] :=
      Call.run_preamble_later hp (by simp [Body.run_bind,
        Service.run_UpdateCredentialStatus_of_watchKey hwk₁, Transaction.map]) hl
    have hserve := Call.serve_of_run hp hpre
      ((Body.run_map_eq_ok _ _ _).mpr ⟨resp, h₁τ, rfl⟩)
    -- what it commits leaves the remaining triples as they were
    have hfu := Service.updateCredentialStatusBusinessLogic_flagUpdate h₁τ htarget
    have hkeys : ∀ k ∈ ws₁.map Write.key,
        k ∉ rest.map fun p => WatchKey.statusListCredential p.2 := by
      simp only [List.mem_map]
      rintro _ ⟨w, hw, rfl⟩ ⟨p, hp, hpk⟩
      rcases Service.updateCredentialStatusBusinessLogic_keys h₁τ w hw with hk | ⟨id, hk⟩
      · rw [hk] at hpk
        cases hpk
        exact (List.nodup_cons.mp hnodup).1 (List.mem_map.mpr ⟨p, hp, rfl⟩)
      · rw [hk] at hpk
        cases hpk
    obtain ⟨resps, hall, hst⟩ := runUpdateFuncs_sequential hσ hnd s rest
      (hl.trans (Store.later_commit hτnd hfu))
      (hτ.commit (Service.updateCredentialStatusBusinessLogic_sound hτ h₁τ))
      ((hA.mono (List.subset_cons_of_subset _ (List.Subset.refl _))).trans
        (Store.agreeOn_commit hτnd hfu hkeys))
      (List.nodup_cons.mp hnodup).2 (fun p hp => hwk p (List.mem_cons_of_mem _ hp)) h₂
    refine ⟨resp :: resps, ?_, by rw [hst]; rfl⟩
    rw [List.map_cons, Call.serveAll_cons, hserve, hall, List.append_nil, Store.commit_append]
    rfl

/-- **A batch over distinct triples is its requests run in turn**: from a reachable store, when
the targets of a successful `BatchUpdateCredentialStatus` belong to pairwise distinct triples,
`UpdateCredentialStatus` of each request, one after the other in request order, succeeds every
time, returns the batch's statuses (without their ids) and commits the batch's store. -/
theorem batch_over_distinct_triples_is_sequential {σ : Store} (hσ : Reachable servicePath σ)
    (s : Service) (requests : List UpdateCredentialStatusRequest)
    (hdistinct : (requests.map fun r => (σ.getCredential r.id).bind StoredCredential.triple).Nodup)
    {resp : BatchUpdateCredentialStatusResponse} {σ' : Store}
    (h : serve σ (s.batchUpdateCredentialStatus ⟨requests⟩) = (.ok resp, σ')) :
    ∃ resps : List UpdateCredentialStatusResponse,
      Call.serveAll σ (requests.map (.updateCredentialStatus s)) =
        (resps.map fun u => .ok (.updateCredentialStatus u), σ') ∧
      resp.credentialStatuses =
        List.zipWith (fun r u => { u.status with id := r.id }) requests resps := by
  obtain ⟨tr, ws₀, ws, hm, hfn, rfl⟩ :=
    serve_ok (Service.batchUpdateCredentialStatus_writesNothing s ⟨requests⟩) h
  simp only [Service.batchUpdateCredentialStatus, Body.bind_eq, Body.pure_eq, Body.run_bind,
    Body.run_pure, Result.andThen_eq_ok, Result.ok.injEq] at hm
  obtain ⟨prepared, _, _, hprep, ⟨rfl, rfl⟩, rfl⟩ := hm
  obtain ⟨statuses, hrun, rfl⟩ := (Body.run_map_eq_ok _ _ _).mp hfn
  have hfst : prepared.map Prod.fst = requests :=
    ((Service.prepareUpdateFuncs_requests requests).run_ok trivial hprep).1
  have hwk := Service.run_prepareUpdateFuncs_watchKey hprep
  -- the targets' triples are the prepared ones, so they are distinct
  have htriples : requests.map (fun r => (σ.getCredential r.id).bind StoredCredential.triple) =
      (prepared.map Prod.snd).map some := by
    rw [← hfst, List.map_map, List.map_map]
    refine List.map_congr_left fun p hp => ?_
    obtain ⟨g, hg, ht, -, -⟩ := Service.run_statusListCredentialWatchKey_some (hwk p hp)
    simp [hg, ht]
  rw [htriples] at hdistinct
  obtain ⟨resps, hall, hst⟩ := runUpdateFuncs_sequential hσ.sound hσ.nodup s prepared
    (.refl σ) hσ.sound (.refl _ σ) (hdistinct.of_map some) hwk hrun
  refine ⟨resps, ?_, ?_⟩
  · rw [← hfst, List.map_map]
    exact hall
  · rw [hst, ← hfst, List.zipWith_map_left]

/-- A revocable credential `a` (index 5) and a suspendable `b` (index 7) of one issuer: two
triples. -/
def demoMixedPairStore : Store :=
  Op.applyAll demoService Store.empty [demoIssue false "a" 5, demoIssue true "b" 7]

/-- Revoke `a`, suspend `b`. -/
def demoMixedBatch : List UpdateCredentialStatusRequest :=
  [⟨"a", true, false⟩, ⟨"b", false, true⟩]

theorem revoke_and_suspend_batch_is_sequential :
    Reachable demoService.servicePath demoMixedPairStore ∧
      (demoMixedBatch.map fun r =>
        (demoMixedPairStore.getCredential r.id).bind StoredCredential.triple).Nodup ∧
      ∃ resp σ', serve demoMixedPairStore (demoService.batchUpdateCredentialStatus
          ⟨demoMixedBatch⟩) = (.ok resp, σ') ∧
        ∃ resps : List UpdateCredentialStatusResponse,
          Call.serveAll demoMixedPairStore (demoMixedBatch.map
            (.updateCredentialStatus demoService)) =
            (resps.map fun u => .ok (.updateCredentialStatus u), σ') ∧
          resp.credentialStatuses =
            List.zipWith (fun r u => { u.status with id := r.id }) demoMixedBatch resps :=
  have hσ : Reachable demoService.servicePath demoMixedPairStore :=
    Reachable.applyAll demoService rfl .empty _
  have hd : (demoMixedBatch.map fun r =>
      (demoMixedPairStore.getCredential r.id).bind StoredCredential.triple).Nodup := by
    decide
  have h : serve demoMixedPairStore (demoService.batchUpdateCredentialStatus ⟨demoMixedBatch⟩) =
      (.ok _, _) := rfl
  ⟨hσ, hd, _, _, h, batch_over_distinct_triples_is_sequential hσ demoService _ hd h⟩

/-! ## Issuance -/

/-- Each request run alone in turn, the `i`-th through `call i`, each from the store the one
before it left: the outcomes in request order and the last store. -/
def serveInTurn {ρ α : Type} (call : Nat → ρ → Body (Transaction α)) :
    Nat → Store → List ρ → List (Outcome α) × Store
  | _, σ, [] => ([], σ)
  | i, σ, r :: rs =>
    ((serve σ (call i r)).1 :: (serveInTurn call (i + 1) (serve σ (call i r)).2 rs).1,
      (serveInTurn call (i + 1) (serve σ (call i r)).2 rs).2)

/-- **The issuance closures of a batch over distinct triples are the issuances run in turn**: run
against `σ`, they return what `CreateCredential` returns of each request one after the other from
a store `τ` that agrees with `σ` on every remaining request's triple, and they write what those
calls commit. -/
theorem runCreateFuncs_sequential (s : Service) (entropy : Nat → Entropy) {σ : Store} :
    ∀ (requests : List CreateCredentialRequest) (i : Nat) {τ : Store}
      {credentials : List Container} {ws : List Write},
      (∀ r ∈ requests, r.isValid = none) →
      ((requests.filter (·.hasStatus)).map (·.triple)).Nodup →
      (∀ r ∈ requests, r.hasStatus = true → Store.SameAllocation r.triple σ τ) →
      (s.runCreateFuncs entropy i
          (requests.map fun r => (r, (Service.statusWatchKeys r).2))).run σ = .ok credentials ws →
      serveInTurn (fun i r => s.CreateCredential (entropy i) r) i τ requests =
        (credentials.map fun c => .ok ⟨c⟩, τ.commit ws)
  | [], _, _, _, _, _, _, _, h => by
    cases h
    rfl
  | r :: rest, i, τ, _, _, hvalid, hnodup, hagree, h => by
    rw [List.map_cons] at h
    obtain ⟨resp, ws₁, credentials, ws₂, h₁, h₂, rfl, rfl⟩ :=
      Service.run_runCreateFuncs_cons_eq_ok h
    have hm : r.hasStatus = true → r.isStatusValid = true →
        (Service.statusWatchKeys r).2.triple = r.triple :=
      Service.statusWatchKeys_triple
    -- the closure runs from `τ` as it ran from `σ`
    have h₁τ : (s.createCredentialFunc (entropy i) r (Service.statusWatchKeys r).2).run τ =
        .ok resp ws₁ :=
      Service.createCredential_run_of_sameAllocation hm (hagree r (List.mem_cons_self _ _)) h₁
    have hserve := serve_of_ok (s.CreateCredential_writesNothing (entropy i) r)
      (Service.run_CreateCredential_of_valid (hvalid r (.head _))) h₁τ
    -- and leaves the later requests' triples as they were
    obtain ⟨hnodup, hne⟩ := nodup_filter_map_cons hnodup
    have hrest := runCreateFuncs_sequential s entropy rest (i + 1)
      (fun p hp => hvalid p (.tail _ hp)) hnodup (fun p hp hps => (hagree p (.tail _ hp) hps).trans
        (Service.createCredential_sameAllocation hm h₁ (fun hs => hne hs p hp hps) τ).symm) h₂
    simp only [serveInTurn, hserve, hrest, List.map_cons, Store.commit_append]

/-- **A batch issuance over distinct triples is its requests issued in turn**: from any store,
when the requests of a successful `BatchCreateCredentials` pass `IsValid` (which the batch does
not check) and those asking for a status name pairwise distinct triples, `CreateCredential` of
each request in request order, the `i`-th drawing the batch's `i`-th entropy, succeeds every time,
returns the batch's credentials and commits the batch's store. -/
theorem batch_issuance_over_distinct_triples_is_sequential {σ : Store} (s : Service)
    (entropy : Nat → Entropy) (requests : List CreateCredentialRequest)
    (hvalid : ∀ r ∈ requests, r.isValid = none)
    (hdistinct : ((requests.filter (·.hasStatus)).map (·.triple)).Nodup)
    {resp : BatchCreateCredentialsResponse} {σ' : Store}
    (h : serve σ (s.batchCreateCredentials entropy ⟨requests⟩) = (.ok resp, σ')) :
    serveInTurn (fun i r => s.CreateCredential (entropy i) r) 0 σ requests =
      (resp.credentials.map fun c => .ok ⟨c⟩, σ') := by
  obtain ⟨tr, ws₀, ws, hm, hfn, rfl⟩ :=
    serve_ok (s.batchCreateCredentials_writesNothing entropy ⟨requests⟩) h
  simp only [Service.batchCreateCredentials, Body.pure_eq, Body.run_pure, Result.ok.injEq] at hm
  obtain ⟨rfl, -⟩ := hm
  obtain ⟨credentials, hrun, rfl⟩ := (Body.run_map_eq_ok _ _ _).mp hfn
  exact runCreateFuncs_sequential s entropy requests 0 hvalid hdistinct
    (fun _ _ _ => ⟨rfl, rfl, rfl⟩) hrun

/-- A batch issuing a revocable and a suspendable credential of one issuer: two triples. -/
def demoMixedIssuance : List CreateCredentialRequest := [demoRequest false, demoRequest true]

/-- The entropy of the demo batch: credential `a` then `b`, each drawing index `5`. -/
def demoBatchEntropy (i : Nat) : Entropy :=
  ⟨if i = 0 then "a" else "b", "00000000-0000-0000-0000-00000000000" ++ toString i, [5]⟩

theorem revocable_and_suspendable_issuance_is_sequential :
    (∀ r ∈ demoMixedIssuance, r.isValid = none) ∧
      ((demoMixedIssuance.filter (·.hasStatus)).map (·.triple)).Nodup ∧
      ∃ resp σ', serve Store.empty (demoService.batchCreateCredentials demoBatchEntropy
          ⟨demoMixedIssuance⟩) = (.ok resp, σ') ∧
        serveInTurn (fun i r => demoService.CreateCredential (demoBatchEntropy i) r) 0 Store.empty
          demoMixedIssuance = (resp.credentials.map fun c => .ok ⟨c⟩, σ') :=
  have hv : ∀ r ∈ demoMixedIssuance, r.isValid = none := by decide
  have hd : ((demoMixedIssuance.filter (·.hasStatus)).map (·.triple)).Nodup := by decide
  have h : serve Store.empty (demoService.batchCreateCredentials demoBatchEntropy
      ⟨demoMixedIssuance⟩) = (.ok _, _) := rfl
  ⟨hv, hd, _, _, h, batch_issuance_over_distinct_triples_is_sequential demoService _ _ hv hd h⟩

/-! ## Issuing twice in a new triple -/

namespace Service

variable {s : Service} {σ : Store} {entropy : Entropy} {request : CreateCredentialRequest}

end Service

end CredentialService
