import CredentialService.Concurrency.Relations
import CredentialService.Concurrency.System

/-!
# Concurrency/Updates — what an interleaving can change under a status update

A status update reads twice before `Execute` and twice inside it.  Two facts make every
interleaving of them equivalent to a serial order (`Concurrency/Serializable`):

* **the preamble reads only what no status update changes** — the target's record up to its
  flags, and whether its triple has a status list, which once true stays true.  So the preamble
  is `Stable` for `Store.Later` (`Call.preamble_stable`), and its transaction is the same against
  any later store (`Call.run_preamble_later`);
* **the body reads only what its watch keys protect** — the target's record, whose triple is
  watched, and the ⟨issuer, schema⟩'s credentials, of which the regenerated list keeps only those
  flagged for the requested purpose: by the flags-match-purpose invariant (`Store.Sound`) these
  belong to the target's triple, which is watched.  So the body is `Stable` for
  `Store.AgreeOn` its watch keys (`Call.transaction_stable`).

What a committed update writes is a `Write.FlagUpdate` (`Call.transaction_flagUpdate`), so the
frame lemmas of `Concurrency/Relations` say what it leaves alone.
-/

namespace CredentialService

open Body StoredCredential

variable {servicePath : String}

/-- **Reading a record is stable when related stores hold records that the continuation cannot
tell apart**: `F` sees a record only through `N`, and related stores hold the same record up to
`N`. -/
theorem stable_getCredential_bind {α : Type} {R : Store → Store → Prop} {Q : α → Prop}
    (N : StoredCredential → StoredCredential) (msg id : String) {F : StoredCredential → Body α}
    (hF : ∀ g, F g = F (N g))
    (hR : ∀ σ τ, R σ τ → (σ.getCredential id).map N = (τ.getCredential id).map N)
    (hS : ∀ σ τ g, R σ τ → σ.getCredential id = some g → Stable R Q (F g)) :
    Stable R Q ((wrapError msg (Storage.getCredential id)).bind F) := by
  simp only [Storage.getCredential, Body.bind_eq, Body.get_bind, Body.wrapError_read,
    Body.read_bind, stable_read]
  intro σ τ hr
  have h := hR σ τ hr
  constructor
  · intro a ws hrun
    cases hs : σ.getCredential id <;> cases ht : τ.getCredential id <;>
      simp only [hs, ht, Option.map_none', Option.map_some', Option.some.injEq, reduceCtorEq] at h hrun ⊢
    · simp at hrun
    · rename_i g g'
      simp only [Body.pure_eq, wrapError_pure, pure_bind] at hrun ⊢
      rwa [hF g', ← h, ← hF g]
  · cases hs : σ.getCredential id with
    | none => simp
    | some g => simpa using hS σ τ g hr hs

/-! ## The preamble reads what no status update changes -/

namespace Service

/-- **The watch-key preamble, with its dereference, is stable for later stores**: a later store
holds the target up to its flags, which the preamble does not read, and every status list the
earlier store had. -/
theorem stable_statusListCredentialWatchKey_bind {β : Type} {Q : β → Prop} (id : String)
    {G : StatusTriple → Body β} (hG : ∀ t, Stable Store.Later Q (G t)) :
    Stable Store.Later Q ((statusListCredentialWatchKey id).bind fun w => (deref w).bind G) := by
  simp only [statusListCredentialWatchKey, Body.bind_eq, Body.pure_eq, Body.bind_assoc]
  refine stable_getCredential_bind unflagged _ id (fun _ => rfl)
    (fun σ τ h => (h.getCredential id).symm) fun σ τ g _ _ => ?_
  simp only [check_bind, Storage.getStatusListCredentialKeyData, wrapError_get, get_bind,
    read_bind, stable_ite, stable_throw, stable_read]
  refine ⟨fun _ => trivial, fun _ => ⟨fun _ => trivial, fun _ σ' τ' hl => ⟨?_, ?_⟩⟩⟩
  · intro a ws hrun
    cases hs : σ'.statusListCredentials ⟨g.issuer, g.schema, g.getStatusPurpose⟩ with
    | none => simp [hs, errorsWrap, deref] at hrun
    | some slc =>
      obtain ⟨slc', hs'⟩ := Option.isSome_iff_exists.mp
        (hl.statusList_isSome ⟨g.issuer, g.schema, g.getStatusPurpose⟩ (by simp [hs]))
      simpa [hs, hs'] using hrun
  · cases σ'.statusListCredentials ⟨g.issuer, g.schema, g.getStatusPurpose⟩ <;>
      simp [errorsWrap, deref, hG]

theorem UpdateCredentialStatus_stable (s : Service) (request : UpdateCredentialStatusRequest) :
    Stable Store.Later (fun _ => True) (s.UpdateCredentialStatus request) := by
  simp only [UpdateCredentialStatus, Body.bind_eq, Body.pure_eq, Body.bind_assoc]
  exact stable_statusListCredentialWatchKey_bind _ fun _ => trivial

theorem prepareUpdateFuncs_stable (requests : List UpdateCredentialStatusRequest) :
    Stable Store.Later (fun _ => True) (prepareUpdateFuncs requests) := by
  induction requests with
  | nil => trivial
  | cons r rs ih =>
    simp only [prepareUpdateFuncs, Body.bind_eq, Body.pure_eq, Body.bind_assoc]
    exact stable_statusListCredentialWatchKey_bind _ fun _ =>
      stable_bind (ih.mono (fun _ _ h => h) fun _ _ => trivial)

theorem batchUpdateCredentialStatus_stable (s : Service)
    (batchRequest : BatchUpdateCredentialStatusRequest) :
    Stable Store.Later (fun _ => True) (s.batchUpdateCredentialStatus batchRequest) := by
  simp only [batchUpdateCredentialStatus, Body.bind_eq, Body.pure_eq]
  exact stable_bind ((prepareUpdateFuncs_stable _).mono (fun _ _ h => h) fun _ _ => trivial)

end Service

/-! ## The body reads what its watch keys protect -/

/-- **The loop keeps the same credentials of masked records** when every record it could keep
belongs to a watched triple. -/
theorem revokedOrSuspendedStatusCreds_map_mask {W : List WatchKey} {gotCred : StoredCredential}
    {request : UpdateCredentialStatusRequest} {creds : List StoredCredential}
    (h : ∀ C ∈ creds, C.credential.credentialStatus.isSome = true →
      (request.revoked && C.revoked || request.suspended && C.suspended) = true →
      C.Watched W = true) :
    revokedOrSuspendedStatusCreds gotCred request (creds.map (mask W)) =
      revokedOrSuspendedStatusCreds gotCred request creds := by
  rw [Service.revokedOrSuspendedStatusCreds_eq, Service.revokedOrSuspendedStatusCreds_eq,
    List.filter_map, List.map_map]
  rw [show ((·.credential) ∘ mask W) = (·.credential) from funext fun _ => credential_mask]
  congr 1
  refine List.filter_congr fun C hC => ?_
  by_cases hw : C.Watched W = true
  · simp [mask_of_watched hw]
  · have hm : C.mask W = C.unflagged := if_neg hw
    have := h C hC
    cases hs : C.credential.credentialStatus.isSome <;>
      cases hf : (request.revoked && C.revoked || request.suspended && C.suspended) <;>
      simp_all [unflagged, withFlags]

/-- **Stores that agree on the target's watched triple regenerate the same list**: of the
⟨issuer, schema⟩'s credentials the loop keeps only those flagged for the requested purpose, and in
a sound store these belong to the target's triple once the target has that purpose. -/
theorem statusListMembers_agreeOn {W : List WatchKey} {σ τ : Store} (hA : σ.AgreeOn W τ)
    (hσ : σ.Sound servicePath) (hτ : τ.Sound servicePath) {gotCred : StoredCredential}
    {request : UpdateCredentialStatusRequest} {t : StatusTriple}
    (hb : ¬(request.suspended = true ∧ request.revoked = true)) (ht : gotCred.triple = some t)
    (hW : WatchKey.statusListCredential t ∈ W)
    (hp : (request.revoked || request.suspended) = true →
      gotCred.getStatusPurpose = requestPurpose request) :
    statusListMembers gotCred request
        (σ.credentialsByIssuerAndSchema gotCred.issuer gotCred.schema) =
      statusListMembers gotCred request
        (τ.credentialsByIssuerAndSchema gotCred.issuer gotCred.schema) := by
  obtain ⟨-, hi, hs, hpu⟩ := triple_eq_some_iff.mp ht
  have key : ∀ ρ : Store, ρ.Sound servicePath →
      revokedOrSuspendedStatusCreds gotCred request
        (ρ.credentialsByIssuerAndSchema gotCred.issuer gotCred.schema) =
      revokedOrSuspendedStatusCreds gotCred request ((ρ.credentials.map (mask W)).filter
        fun c => decide (c.issuer = gotCred.issuer ∧ c.schema = gotCred.schema)) := by
    intro ρ hρ
    have hIS : ((fun c => decide (c.issuer = gotCred.issuer ∧ c.schema = gotCred.schema)) ∘
        mask W) = fun c => decide (c.issuer = gotCred.issuer ∧ c.schema = gotCred.schema) :=
      funext fun c => by simp
    rw [List.filter_map, hIS, revokedOrSuspendedStatusCreds_map_mask]
    · rfl
    intro C hC hst hf
    obtain ⟨hCm, hCis⟩ := List.mem_filter.mp hC
    simp only [decide_eq_true_eq] at hCis
    have hset : (request.revoked || request.suspended) = true := by
      revert hf; cases request.revoked <;> cases request.suspended <;> simp
    have hCp : C.getStatusPurpose = requestPurpose request :=
      (hρ C hCm).getStatusPurpose_of_flag (by rw [Service.flag_requestPurpose hset hb]; exact hf)
    have hCt : C.triple = some t := triple_eq_some_iff.mpr
      ⟨hst, hCis.1.trans hi, hCis.2.trans hs, hCp.trans ((hp hset).symm.trans hpu)⟩
    simp [Watched, hCt, hW]
  simp only [statusListMembers, key σ hσ, key τ hτ]
  rw [show σ.credentials.map (mask W) = τ.credentials.map (mask W) from hA]

namespace Service

variable {W : List WatchKey} {R : Store → Store → Prop}
  (hR : ∀ σ τ, R σ τ → σ.AgreeOn W τ ∧ σ.Sound servicePath ∧ τ.Sound servicePath)
include hR

/-- **The regeneration is stable for stores that agree on the target's watched triple**: its
one read, of the ⟨issuer, schema⟩'s credentials, yields the same list whenever the SDK accepts
it. -/
theorem updateCredentialStatus_stable (s : Service) {gotCred : StoredCredential}
    {request : UpdateCredentialStatusRequest} {t : StatusTriple}
    (hb : ¬(request.suspended = true ∧ request.revoked = true)) (ht : gotCred.triple = some t)
    (hW : WatchKey.statusListCredential t ∈ W) :
    Stable R (fun _ => True) (s.updateCredentialStatus gotCred request ⟨t⟩) := by
  obtain ⟨e, he⟩ : ∃ e, gotCred.credential.credentialStatus = some e :=
    Option.isSome_iff_exists.mp (triple_eq_some_iff.mp ht).1
  simp only [updateCredentialStatus, Storage.storeCredentialTx,
    Storage.getCredentialsByIssuerAndSchema, Storage.storeStatusListCredentialTx, Body.bind_eq,
    Body.pure_eq, wrapError_bind, wrapError_put, put_bind, get_bind, he, assertCredentialStatus,
    pure_bind, check_bind, stable_write, stable_ite, stable_throw, true_implies]
  refine ⟨fun _ => trivial, fun _ => ?_⟩
  cases parseIDFromURI e.statusListCredential with
  | error msg => simp
  | ok id =>
    simp only [ofExcept_ok, pure_bind, stable_read]
    intro σ τ hr
    obtain ⟨hA, hσ, hτ⟩ := hR σ τ hr
    constructor
    · intro a ws hrun
      obtain ⟨vc, hgen⟩ : ∃ vc, generateStatusList2021Credential s.now e.statusListCredential
          gotCred.issuer (requestPurpose request) (statusListMembers gotCred request
            (σ.credentialsByIssuerAndSchema gotCred.issuer gotCred.schema)) = .ok vc := by
        obtain ⟨vc, _, _, h₁, -⟩ := Result.andThen_eq_ok.mp ((run_bind _ _ _).symm.trans hrun)
        rw [wrapError_eq_ok, run_ofExcept] at h₁
        split at h₁
        · exact ⟨_, ‹_›⟩
        · cases h₁
      rwa [← statusListMembers_agreeOn hA hσ hτ hb ht hW fun hset =>
        getStatusPurpose_of_generate_ok hgen hset]
    · refine stable_bind ?_
      simp only [stable_wrapError, stable_ofExcept]
      exact fun _ _ => stable_bind (by simp)

/-- **The update closure is stable for stores that agree on its watched triple**, when the
target's record belongs to that triple: the record it reads is then the same in both stores. -/
theorem updateCredentialStatusBusinessLogic_stable (s : Service)
    {request : UpdateCredentialStatusRequest} {t : StatusTriple}
    (htarget : ∀ σ τ, R σ τ → ∀ g, τ.getCredential request.id = some g → g.triple = some t)
    (hW : WatchKey.statusListCredential t ∈ W) :
    Stable R (fun _ => True) (s.updateCredentialStatusBusinessLogic request ⟨t⟩) := by
  simp only [updateCredentialStatusBusinessLogic, Body.bind_eq, Body.pure_eq, check_bind,
    stable_ite, stable_throw, true_implies, Bool.and_eq_true]
  refine ⟨fun _ => trivial, fun hb => ?_⟩
  have hget : ∀ σ τ, R σ τ → σ.getCredential request.id = τ.getCredential request.id :=
    fun σ τ hr => (hR σ τ hr).1.getCredential_eq fun g hg => by
      simp [Watched, htarget σ τ hr g hg, hW]
  refine stable_getCredential_bind id _ _ (fun _ => rfl) (fun σ τ hr => by rw [hget σ τ hr])
    fun σ τ g hr hg => ?_
  have ht : g.triple = some t := htarget σ τ hr g (hget σ τ hr ▸ hg)
  simp only [check_bind, stable_ite, stable_throw, stable_pure, true_implies]
  exact ⟨fun _ => trivial, fun _ => ⟨fun _ => trivial, fun _ => stable_bind
    ((stable_wrapError _ _).mpr ((updateCredentialStatus_stable hR s hb ht hW).mono
      (fun _ _ h => h) fun _ _ => trivial))⟩⟩

/-- **A batch's closures are stable** when each target belongs to its watched triple. -/
theorem runUpdateFuncs_stable (s : Service) :
    ∀ prepared : List (UpdateCredentialStatusRequest × StatusTriple),
      (∀ p ∈ prepared, WatchKey.statusListCredential p.2 ∈ W ∧
        ∀ σ τ, R σ τ → ∀ g, τ.getCredential p.1.id = some g → g.triple = some p.2) →
      Stable R (fun _ => True) (s.runUpdateFuncs prepared)
  | [], _ => trivial
  | (request, t) :: rest, h => by
    have hp := h (request, t) (List.mem_cons_self _ _)
    simp only [runUpdateFuncs, updateCredentialStatusFunc, Body.bind_eq, Body.pure_eq]
    exact stable_bind ((updateCredentialStatusBusinessLogic_stable hR s hp.2 hp.1).mono
      (fun _ _ h => h) fun _ _ => stable_bind
        ((runUpdateFuncs_stable s rest fun p hp' => h p (List.mem_cons_of_mem _ hp')).mono
          (fun _ _ h => h) fun _ _ => trivial))

end Service

/-! ## What a committed update writes -/

namespace Service

variable {s : Service} {σ : Store}

/-- **An update closure writes the target with new flags and its triple's list**, when run
against a store where the target belongs to the metadata's triple. -/
theorem updateCredentialStatusBusinessLogic_flagUpdate {request : UpdateCredentialStatusRequest}
    {m : StatusListCredentialMetadata} {resp : UpdateCredentialStatusResponse} {ws : List Write}
    (h : (s.updateCredentialStatusBusinessLogic request m).run σ = .ok resp ws)
    (ht : ∀ g, σ.getCredential request.id = some g → g.triple = some m.triple) :
    ∀ w ∈ ws, w.FlagUpdate σ (ws.map Write.key) := by
  obtain ⟨-, g, hg, -, ⟨-, -, rfl, -⟩ | ⟨-, hu, -⟩⟩ := run_updateCredentialStatusBusinessLogic_ok h
  · simp
  obtain ⟨-, -, slc, -, -, -, -, rfl⟩ := run_updateCredentialStatus_ok hu
  have hid : g.localCredentialID = request.id := (findCredential_mem hg).2
  simp only [List.mem_cons, List.mem_singleton, List.not_mem_nil, or_false, forall_eq_or_imp,
    forall_eq, List.map_cons, List.map_nil]
  exact ⟨⟨g, m.triple, by simpa [hid] using hg, rfl, ht g hg, by simp [Write.key]⟩, trivial⟩

end Service

theorem stable_transactionMap {α : Type} {R : Store → Store → Prop} (f : α → Reply)
    {m : Body (Transaction α)} (h : Stable R (fun _ => True) m) :
    Stable R (fun _ => True) (Transaction.map f <$> m) := by
  simp only [Body.map_eq]
  exact stable_bind (h.mono (fun _ _ h => h) fun _ _ => trivial)

namespace Call

variable {c : Call} {p : Body (Transaction Reply)}

/-- **A call's preamble is stable for later stores.** -/
theorem preamble_stable (hp : c.start = .preamble p) : Stable Store.Later (fun _ => True) p := by
  cases c with
  | updateCredentialStatus s r =>
    cases hp; exact stable_transactionMap _ (s.UpdateCredentialStatus_stable r)
  | batchUpdateCredentialStatus s r =>
    cases hp; exact stable_transactionMap _ (s.batchUpdateCredentialStatus_stable r)
  | deleteCredential r => cases hp

/-- **A preamble returns the same transaction against any later store.** -/
theorem run_preamble_later (hp : c.start = .preamble p) {σ τ : Store} {tr : Transaction Reply}
    {ws : List Write} (h : p.run σ = .ok tr ws) (hl : σ.Later τ) : p.run τ = .ok tr ws := by
  simpa using ((steps_of_run h).mono fun _ h => h ▸ hl).run_of_stable (preamble_stable hp)
    (Body.run_pure τ tr)

/-- **A call's transaction is stable for stores that agree on its watch keys**, among sound stores
with the records of the store its preamble ran against. -/
theorem transaction_stable (hp : c.start = .preamble p) {τ₀ : Store} {tr : Transaction Reply}
    {ws₀ : List Write} (h : p.run τ₀ = .ok tr ws₀) :
    Stable (fun σ τ => σ.AgreeOn tr.watchKeys τ ∧ σ.Sound servicePath ∧ τ.Sound servicePath ∧
      τ.skeleton = τ₀.skeleton) (fun _ => True) tr.fn := by
  have hR : ∀ σ τ : Store, (σ.AgreeOn tr.watchKeys τ ∧ σ.Sound servicePath ∧ τ.Sound servicePath ∧
      τ.skeleton = τ₀.skeleton) → σ.AgreeOn tr.watchKeys τ ∧ σ.Sound servicePath ∧
      τ.Sound servicePath := fun _ _ hr => ⟨hr.1, hr.2.1, hr.2.2.1⟩
  cases c with
  | updateCredentialStatus s r =>
    cases hp
    obtain ⟨tr', hm, rfl⟩ := (Body.run_map_eq_ok _ _ _).mp h
    obtain ⟨g₀, t, hg₀, ht, -, rfl⟩ := Service.run_UpdateCredentialStatus_ok hm
    refine stable_bind ((Service.updateCredentialStatusBusinessLogic_stable hR s
      (fun σ τ hr g hg => ?_) (List.mem_singleton_self _)).mono (fun _ _ h => h) fun _ _ => trivial)
    rw [Store.triple_eq_of_skeleton hr.2.2.2 hg₀ hg, ht]
  | batchUpdateCredentialStatus s r =>
    cases hp
    obtain ⟨tr', hm, rfl⟩ := (Body.run_map_eq_ok _ _ _).mp h
    obtain ⟨prepared, htargets, rfl⟩ := Service.run_batchUpdateCredentialStatus_ok hm
    simp only [Transaction.map, Body.map_eq, Body.bind_assoc, pure_bind]
    refine stable_bind ((Service.runUpdateFuncs_stable hR s prepared fun q hq =>
      ⟨List.mem_map_of_mem _ hq, fun σ τ hr g hg => ?_⟩).mono (fun _ _ h => h) fun _ _ => trivial)
    obtain ⟨g₀, hg₀, ht, -⟩ := htargets q hq
    rw [Store.triple_eq_of_skeleton hr.2.2.2 hg₀ hg, ht]
  | deleteCredential r => cases hp

/-- **What a committed transaction writes is a `Write.FlagUpdate`** of the store it ran against:
its targets with new flags, and their triples' lists. -/
theorem transaction_flagUpdate (hp : c.start = .preamble p) {σ : Store} {tr : Transaction Reply}
    {ws₀ : List Write} (h : p.run σ = .ok tr ws₀) {a : Reply} {ws : List Write}
    (hfn : tr.fn.run σ = .ok a ws) : ∀ w ∈ ws, w.FlagUpdate σ (ws.map Write.key) := by
  cases c with
  | updateCredentialStatus s r =>
    cases hp
    obtain ⟨tr', hm, rfl⟩ := (Body.run_map_eq_ok _ _ _).mp h
    obtain ⟨g₀, t, hg₀, ht, -, rfl⟩ := Service.run_UpdateCredentialStatus_ok hm
    obtain ⟨_, hfn', -⟩ := (Body.run_map_eq_ok _ _ _).mp hfn
    exact Service.updateCredentialStatusBusinessLogic_flagUpdate hfn' fun g hg => by
      rw [Option.some.inj (hg.symm.trans hg₀), ht]
  | batchUpdateCredentialStatus s r =>
    cases hp
    obtain ⟨tr', hm, rfl⟩ := (Body.run_map_eq_ok _ _ _).mp h
    obtain ⟨prepared, htargets, rfl⟩ := Service.run_batchUpdateCredentialStatus_ok hm
    obtain ⟨_, hfn', -⟩ := (Body.run_map_eq_ok _ _ _).mp hfn
    obtain ⟨_, hrun, -⟩ := (Body.run_map_eq_ok _ _ _).mp hfn'
    intro w hw
    obtain ⟨q, hq, _, wsq, hrunq, hwq, hsub⟩ := Service.runUpdateFuncs_writes hrun w hw
    obtain ⟨g₀, hg₀, ht, -⟩ := htargets q hq
    exact (Service.updateCredentialStatusBusinessLogic_flagUpdate hrunq (fun g hg => by
      rw [Option.some.inj (hg.symm.trans hg₀), ht]) w hwq).mono (List.map_subset _ hsub)
  | deleteCredential r => cases hp

/-- **What a committed transaction writes keeps a sound store sound.** -/
theorem transaction_sound (hp : c.start = .preamble p) {σ : Store} (hσ : σ.Sound servicePath)
    {tr : Transaction Reply} {ws₀ : List Write} (h : p.run σ = .ok tr ws₀) {a : Reply}
    {ws : List Write} (hfn : tr.fn.run σ = .ok a ws) : ∀ w ∈ ws, w.Sound servicePath := by
  cases c with
  | updateCredentialStatus s r =>
    cases hp
    obtain ⟨tr', hm, rfl⟩ := (Body.run_map_eq_ok _ _ _).mp h
    obtain ⟨_, _, _, _, -, rfl⟩ := Service.run_UpdateCredentialStatus_ok hm
    obtain ⟨_, hfn', -⟩ := (Body.run_map_eq_ok _ _ _).mp hfn
    exact Service.updateCredentialStatusBusinessLogic_sound hσ hfn'
  | batchUpdateCredentialStatus s r =>
    cases hp
    obtain ⟨tr', hm, rfl⟩ := (Body.run_map_eq_ok _ _ _).mp h
    obtain ⟨prepared, -, rfl⟩ := Service.run_batchUpdateCredentialStatus_ok hm
    obtain ⟨_, hfn', -⟩ := (Body.run_map_eq_ok _ _ _).mp hfn
    obtain ⟨_, hrun, -⟩ := (Body.run_map_eq_ok _ _ _).mp hfn'
    exact Service.runUpdateFuncs_sound hσ prepared hrun
  | deleteCredential r => cases hp

end Call

end CredentialService
