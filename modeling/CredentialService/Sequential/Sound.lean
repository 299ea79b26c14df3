import CredentialService.Service.Run
import CredentialService.Service.CreateSpec
import CredentialService.Service.UpdateSpec

/-!
# Sequential/Sound — what every stored credential of a reachable store satisfies

`StoredCredential.Sound` names the two facts about one record that the status-list logic relies
on: its flags agree with the purpose of its status entry (a revocation credential is never
suspended, a suspension credential never revoked), and its URI is the service path and its local
id.  A store is sound when every record is; every write of every call keeps it so
(`Store.Sound.commit`), so every reachable store is sound (`Reachable.sound`).  Its local ids are
also distinct (`Reachable.nodup`), which the concurrency model uses to compare stores record by
record.

The purpose half holds for a reason spread over two functions: `updateCredentialStatus` always
lists the target in the regenerated list when it sets a flag, and the SDK's generation refuses a
listed credential of another purpose (`getStatusPurpose_of_generate_ok`).
-/

namespace CredentialService

namespace StoredCredential

/-- The facts every stored credential of a reachable store satisfies. -/
structure Sound (servicePath : String) (sc : StoredCredential) : Prop where
  revoked_purpose : sc.revoked = true → sc.getStatusPurpose = statusRevocation
  suspended_purpose : sc.suspended = true → sc.getStatusPurpose = statusSuspension
  uri : sc.credential.id = servicePath ++ "/" ++ sc.localCredentialID

end StoredCredential

/-- Every stored credential is sound. -/
def Store.Sound (servicePath : String) (σ : Store) : Prop :=
  ∀ sc ∈ σ.credentials, sc.Sound servicePath

/-- A write that keeps a store sound: a credential record it writes is sound. -/
def Write.Sound (servicePath : String) : Write → Prop
  | .credential sc => sc.Sound servicePath
  | _ => True

variable {servicePath : String}

theorem Write.Issued.sound {w : Write} (h : w.Issued servicePath) : w.Sound servicePath := by
  cases w with
  | credential sc => exact ⟨by simp [h.1], by simp [h.2.1], h.2.2⟩
  | _ => trivial

namespace StoredCredential

theorem Sound.id_eq_iff {C g : StoredCredential} (hC : C.Sound servicePath)
    (hg : g.Sound servicePath) :
    C.credential.id = g.credential.id ↔ C.localCredentialID = g.localCredentialID := by
  rw [hC.uri, hg.uri]
  constructor
  · intro h
    exact String.ext (by simpa using congrArg String.data h)
  · intro h; rw [h]

theorem Sound.getStatusPurpose_of_flag {C : StoredCredential} (hC : C.Sound servicePath)
    {purpose : String} (h : C.flag purpose = true) : C.getStatusPurpose = purpose := by
  unfold StoredCredential.flag at h
  split_ifs at h with h1 h2
  · exact h1 ▸ hC.revoked_purpose h
  · exact h2 ▸ hC.suspended_purpose h

end StoredCredential

namespace Store

variable {σ : Store}

theorem Sound.apply (h : σ.Sound servicePath) {w : Write} (hw : w.Sound servicePath) :
    (σ.apply w).Sound servicePath := by
  cases w with
  | credential sc =>
    intro c hc
    rcases mem_putCredential hc with rfl | hc
    · exact hw
    · exact h c hc
  | _ => exact h

theorem Sound.commit (h : σ.Sound servicePath) {ws : List Write}
    (hws : ∀ w ∈ ws, w.Sound servicePath) : (σ.commit ws).Sound servicePath := by
  induction ws generalizing σ with
  | nil => exact h
  | cons w ws ih =>
    exact ih (h.apply (hws w (List.mem_cons_self _ _))) fun w' hw' =>
      hws w' (List.mem_cons_of_mem _ hw')

theorem Sound.deleteCredential (h : σ.Sound servicePath) (id : String) :
    (σ.deleteCredential id).Sound servicePath :=
  fun sc hsc => h sc (List.mem_of_mem_filter hsc)

end Store

/-! ## Each call keeps the store sound -/

namespace Service

variable {s : Service} {σ : Store}

/-- **A successful update of a sound store targets a credential of the requested purpose**:
either its flags already are the requested ones, or the regeneration has listed it and checked its
purpose.  It writes nothing, or the target with the requested flags and then a list. -/
theorem updateCredentialStatusBusinessLogic_purpose (hσ : σ.Sound servicePath)
    {request : UpdateCredentialStatusRequest} {m : StatusListCredentialMetadata}
    {resp : UpdateCredentialStatusResponse} {ws : List Write}
    (h : (s.updateCredentialStatusBusinessLogic request m).run σ = .ok resp ws) :
    ∃ gotCred, σ.getCredential request.id = some gotCred ∧
      (request.revoked = true → gotCred.getStatusPurpose = statusRevocation) ∧
      (request.suspended = true → gotCred.getStatusPurpose = statusSuspension) ∧
      (ws = [] ∨ ∃ slc, ws = [.credential (gotCred.withFlags request.revoked request.suspended),
        .statusListCredential m.triple slc]) := by
  obtain ⟨hb, g, hg, -, ⟨hr, hs, rfl, -⟩ | ⟨-, hu, -⟩⟩ := run_updateCredentialStatusBusinessLogic_ok h
  · have hg' := hσ g (findCredential_mem hg).1
    exact ⟨g, hg, fun h => hg'.revoked_purpose (hr ▸ h), fun h => hg'.suspended_purpose (hs ▸ h),
      .inl rfl⟩
  obtain ⟨e, vc, slc, -, hgen, -, -, rfl⟩ := run_updateCredentialStatus_ok hu
  have hpurpose := fun hr => getStatusPurpose_of_generate_ok hgen hr
  refine ⟨g, hg, fun hr => ?_, fun hs => ?_, .inr ⟨slc, rfl⟩⟩
  · have hs : request.suspended = false := by simpa [hr] using hb
    simpa [requestPurpose, hs] using hpurpose (by simp [hr])
  · simpa [requestPurpose, hs] using hpurpose (by simp [hs])

/-- **A successful update writes a sound credential.** -/
theorem updateCredentialStatusBusinessLogic_sound (hσ : σ.Sound servicePath)
    {request : UpdateCredentialStatusRequest} {m : StatusListCredentialMetadata}
    {resp : UpdateCredentialStatusResponse} {ws : List Write}
    (h : (s.updateCredentialStatusBusinessLogic request m).run σ = .ok resp ws) :
    ∀ w ∈ ws, w.Sound servicePath := by
  obtain ⟨g, hg, hr, hs, rfl | ⟨slc, rfl⟩⟩ := updateCredentialStatusBusinessLogic_purpose hσ h
  · simp
  simp only [List.mem_cons, List.mem_singleton, List.not_mem_nil, or_false, forall_eq_or_imp,
    forall_eq, Write.Sound, and_true]
  exact ⟨fun h => by simpa using hr (by simpa using h), fun h => by simpa using hs (by simpa using h),
    by simpa using (hσ g (findCredential_mem hg).1).uri⟩

theorem runUpdateFuncs_sound (hσ : σ.Sound servicePath)
    (prepared : List (UpdateCredentialStatusRequest × StatusTriple)) {statuses : List Status}
    {ws : List Write} (h : (s.runUpdateFuncs prepared).run σ = .ok statuses ws) :
    ∀ w ∈ ws, w.Sound servicePath := fun w hw =>
  let ⟨_, _, _, _, hrun, hmem, _⟩ := runUpdateFuncs_writes h w hw
  updateCredentialStatusBusinessLogic_sound hσ hrun w hmem

end Service

/-- A call keeps the store sound when every transaction its method can hand to `Execute` writes
only sound credentials. -/
theorem serve_sound {α : Type} {σ : Store} (hσ : σ.Sound servicePath)
    {method : Body (Transaction α)} (hpre : method.WritesNothing)
    (hw : ∀ tr ws₀ a ws, method.run σ = .ok tr ws₀ → tr.fn.run σ = .ok a ws →
      ∀ w ∈ ws, w.Sound servicePath) :
    (serve σ method).2.Sound servicePath := by
  rcases serve_cases hpre Prod.mk.eta.symm with ⟨h, -⟩ | ⟨tr, ws₀, a, ws, htr, hfn, -, h⟩
  · exact h ▸ hσ
  · exact h ▸ hσ.commit (hw tr ws₀ a ws htr hfn)

/-- **Every call keeps the store sound.** -/
theorem Op.apply_sound {σ : Store} (hσ : σ.Sound servicePath) (s : Service)
    (hs : s.servicePath = servicePath) (op : Op) : (op.apply s σ).Sound servicePath := by
  cases op with
  | deleteCredential r => exact hσ.deleteCredential r.id
  | createCredential e r =>
    refine serve_sound hσ (s.CreateCredential_writesNothing e r) fun tr _ _ _ htr hfn w hw => ?_
    have hfn' := ((s.CreateCredential_issued e r).run_ok trivial htr).1
    exact (hs ▸ (hfn'.run_ok trivial hfn).2 w hw : w.Issued servicePath).sound
  | batchCreateCredentials e r =>
    refine serve_sound hσ (s.batchCreateCredentials_writesNothing e r)
      fun tr _ _ _ htr hfn w hw => ?_
    have hfn' := ((s.batchCreateCredentials_issued e r).run_ok trivial htr).1
    exact (hs ▸ (hfn'.run_ok trivial hfn).2 w hw : w.Issued servicePath).sound
  | updateCredentialStatus r =>
    refine serve_sound hσ (Service.UpdateCredentialStatus_writesNothing s r)
      fun tr _ _ _ htr hfn => ?_
    obtain ⟨t, rfl⟩ := ((Service.UpdateCredentialStatus_transaction s r).run_ok trivial htr).1
    exact Service.updateCredentialStatusBusinessLogic_sound hσ hfn
  | batchUpdateCredentialStatus r =>
    refine serve_sound hσ (Service.batchUpdateCredentialStatus_writesNothing s r)
      fun tr _ _ _ htr hfn => ?_
    obtain ⟨prepared, -, rfl⟩ :=
      ((Service.batchUpdateCredentialStatus_transaction s r).run_ok trivial htr).1
    simp only [Body.map_eq, Body.run_bind, Body.run_pure] at hfn
    cases hr : (s.runUpdateFuncs prepared).run σ with
    | ok statuses ws' =>
      simp only [hr, Result.ok_andThen, Result.prepend_ok, List.append_nil,
        Result.ok.injEq] at hfn
      exact hfn.2 ▸ Service.runUpdateFuncs_sound hσ prepared hr
    | error e => simp [hr] at hfn
    | panic m => simp [hr] at hfn

/-- **Every reachable store is sound.** -/
theorem Reachable.sound {σ : Store} (h : Reachable servicePath σ) : σ.Sound servicePath := by
  induction h with
  | empty => intro sc hsc; cases hsc
  | step s op hs _ ih => exact Op.apply_sound ih s hs op

/-- A call leaves the local ids distinct: it commits writes or changes nothing. -/
theorem serve_nodup {α : Type} {σ : Store} (hσ : σ.Nodup) {method : Body (Transaction α)}
    (hpre : method.WritesNothing) : (serve σ method).2.Nodup := by
  rcases serve_cases hpre Prod.mk.eta.symm with ⟨h, -⟩ | ⟨_, _, _, ws, -, -, -, h⟩
  · exact h ▸ hσ
  · exact h ▸ hσ.commit ws

/-- Every call leaves the local ids distinct. -/
theorem Op.apply_nodup {σ : Store} (hσ : σ.Nodup) (s : Service) : ∀ op : Op, (op.apply s σ).Nodup
  | .deleteCredential r => hσ.deleteCredential r.id
  | .createCredential e r => serve_nodup hσ (s.CreateCredential_writesNothing e r)
  | .batchCreateCredentials e r => serve_nodup hσ (s.batchCreateCredentials_writesNothing e r)
  | .updateCredentialStatus r => serve_nodup hσ (Service.UpdateCredentialStatus_writesNothing s r)
  | .batchUpdateCredentialStatus r =>
    serve_nodup hσ (Service.batchUpdateCredentialStatus_writesNothing s r)

/-- **No reachable store holds two records under one local id.** -/
theorem Reachable.nodup {σ : Store} (h : Reachable servicePath σ) : σ.Nodup := by
  induction h with
  | empty => exact List.nodup_nil
  | step s op _ _ ih => exact Op.apply_nodup ih s op

/-! ## Flags agree with purposes -/

theorem StoredCredential.exists_entry_of_getStatusPurpose {sc : StoredCredential} {purpose : String}
    (h : sc.getStatusPurpose = purpose) (hp : purpose ≠ "") :
    ∃ e, sc.credential.credentialStatus = some e ∧ e.statusPurpose = purpose := by
  unfold StoredCredential.getStatusPurpose at h
  cases he : sc.credential.credentialStatus <;> simp_all

/-- **In every reachable store a credential's flags agree with its status purpose**: never both
flags, revoked only with a revocation entry, suspended only with a suspension entry; and from such
a store every successful `UpdateCredentialStatus` that sets a flag targets a credential of that
flag's purpose. -/
theorem reachable_flags_match_purpose {σ : Store} (h : Reachable servicePath σ) :
    (∀ sc ∈ σ.credentials, ¬(sc.revoked = true ∧ sc.suspended = true) ∧
      (sc.revoked = true →
        ∃ e, sc.credential.credentialStatus = some e ∧ e.statusPurpose = statusRevocation) ∧
      (sc.suspended = true →
        ∃ e, sc.credential.credentialStatus = some e ∧ e.statusPurpose = statusSuspension)) ∧
    ∀ (s : Service) (request : UpdateCredentialStatusRequest) resp σ',
      serve σ (s.UpdateCredentialStatus request) = (.ok resp, σ') →
      ∃ gotCred, σ.getCredential request.id = some gotCred ∧
        (request.revoked = true → ∃ e, gotCred.credential.credentialStatus = some e ∧
          e.statusPurpose = statusRevocation) ∧
        (request.suspended = true → ∃ e, gotCred.credential.credentialStatus = some e ∧
          e.statusPurpose = statusSuspension) := by
  have hσ := h.sound
  refine ⟨fun sc hsc => ?_, fun s request resp σ' hserve => ?_⟩
  · have hr := (hσ sc hsc).revoked_purpose
    have hs := (hσ sc hsc).suspended_purpose
    refine ⟨fun ⟨h1, h2⟩ => absurd ((hr h1).symm.trans (hs h2)) (by decide),
      fun h1 => StoredCredential.exists_entry_of_getStatusPurpose (hr h1) (by decide),
      fun h2 => StoredCredential.exists_entry_of_getStatusPurpose (hs h2) (by decide)⟩
  · obtain ⟨tr, _, _, htr, hfn, -⟩ :=
      serve_ok (Service.UpdateCredentialStatus_writesNothing s request) hserve
    obtain ⟨t, rfl⟩ := ((Service.UpdateCredentialStatus_transaction s request).run_ok trivial htr).1
    obtain ⟨g, hg, hr, hs, -⟩ := Service.updateCredentialStatusBusinessLogic_purpose hσ hfn
    exact ⟨g, hg, fun h1 => StoredCredential.exists_entry_of_getStatusPurpose (hr h1) (by decide),
      fun h2 => StoredCredential.exists_entry_of_getStatusPurpose (hs h2) (by decide)⟩

/-- The demo store after issuing a suspendable credential and suspending it. -/
def demoSuspendedStore : Store :=
  Op.applyAll demoService Store.empty [demoIssue true "a" 5, .updateCredentialStatus ⟨"a", false, true⟩]

theorem demoSuspendedStore_flags_match_purpose :
    Reachable demoService.servicePath demoSuspendedStore ∧
      ∀ sc ∈ demoSuspendedStore.credentials, sc.suspended = true ∧
        ∃ e, sc.credential.credentialStatus = some e ∧ e.statusPurpose = statusSuspension :=
  have h := Reachable.applyAll demoService rfl .empty _
  have hs : ∀ sc ∈ demoSuspendedStore.credentials, sc.suspended = true := by decide
  ⟨h, fun sc hsc => ⟨hs sc hsc, ((reachable_flags_match_purpose h).1 sc hsc).2.2 (hs sc hsc)⟩⟩

end CredentialService
