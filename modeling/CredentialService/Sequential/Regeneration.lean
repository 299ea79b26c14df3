import CredentialService.Sequential.Sound

/-!
# Sequential/Regeneration — what a status update makes of its triple's list

A status update does not flip one bit of the stored list: it rebuilds the list from the
credentials stored at the time (`statusListMembers`).  For an update that sets a flag, in a
reachable store, that rebuild is exactly the set of stored members of the triple whose flag is set
(`update_rebuilds_status_list`): the target, with its new flag, and every other member as stored.
`Store.ListsFlagsAt` names that exactness of a triple's list; a rebuild leaves its own triple exact
and every other triple as it was (`Store.ListsFlagsAt.rewrite`), which `Concurrency/Serializable`
carries through interleaved runs.

Three runs show where this parts from "flip the target's bit":

* `revoke_after_delete_clears_deleted_bit` — a revoked member deleted since the last rebuild loses
  its bit at the next update of another member;
* `unsuspend_clears_other_members_bit` — an update that clears both flags rebuilds the list from
  nobody and for the revocation purpose, whatever the triple: it clears every other member's bit;
* `batch_revoke_keeps_last_bit` — the closures of one batch all read the committed store, so two
  revocations in one triple each rebuild the list without the other, and the last write wins.

The target itself reads back as requested (`getCredentialStatus_after_update`).
-/

namespace CredentialService

variable {servicePath : String}

/-- In a sound store, a credential of the target's ⟨issuer, schema⟩ that is another credential,
has a status and has its flag for the triple's purpose set is another member of the triple with
that flag. -/
theorem Store.Sound.selected_iff {σ : Store} (hσ : σ.Sound servicePath) {g C : StoredCredential}
    (hg : g ∈ σ.credentials) (hC : C ∈ σ.credentials) {t : StatusTriple} (ht : g.triple = some t) :
    (C.issuer = g.issuer ∧ C.schema = g.schema ∧ C.credential.id ≠ g.credential.id ∧
        C.credential.credentialStatus.isSome = true ∧ C.flag t.purpose = true) ↔
      C.localCredentialID ≠ g.localCredentialID ∧ C.triple = some t ∧ C.flag t.purpose = true := by
  have hgt := StoredCredential.triple_eq_some_iff.mp ht
  rw [ne_eq, (hσ C hC).id_eq_iff (hσ g hg), StoredCredential.triple_eq_some_iff]
  constructor
  · rintro ⟨hi, hs, hid, hst, hf⟩
    exact ⟨hid, ⟨hst, hi.trans hgt.2.1, hs.trans hgt.2.2.1,
      (hσ C hC).getStatusPurpose_of_flag hf⟩, hf⟩
  · rintro ⟨hid, ⟨hst, hi, hs, -⟩, hf⟩
    exact ⟨hi.trans hgt.2.1.symm, hs.trans hgt.2.2.1.symm, hid, hst, hf⟩

/-- **The rebuilt list is the flagged members, as stored after the update**: the loop lists every
other member of the triple whose flag for the triple's purpose is set, and the target is listed
for the flag it now carries. -/
theorem index_mem_statusListMembers_iff {σ : Store} (hσ : σ.Sound servicePath)
    {g : StoredCredential} (hg : g ∈ σ.credentials) {t : StatusTriple} (ht : g.triple = some t)
    {request : UpdateCredentialStatusRequest} (hp : t.purpose = requestPurpose request)
    (hset : (request.revoked || request.suspended) = true)
    (hb : ¬(request.suspended = true ∧ request.revoked = true)) (i : Nat) :
    (∃ c ∈ statusListMembers g request (σ.credentialsByIssuerAndSchema g.issuer g.schema),
        ∃ e, c.credentialStatus = some e ∧ e.statusListIndex = i) ↔
      ∃ C ∈ (σ.apply (.credential (g.withFlags request.revoked request.suspended))).credentials,
        C.triple = some t ∧ (∃ e, C.credential.credentialStatus = some e ∧ e.statusListIndex = i) ∧
        C.flag t.purpose = true := by
  -- a listed credential is the target, or another stored member of the triple with its flag set
  have hmembers : ∀ c, c ∈ statusListMembers g request
      (σ.credentialsByIssuerAndSchema g.issuer g.schema) ↔
      (∃ C ∈ σ.credentials, (C.localCredentialID ≠ g.localCredentialID ∧ C.triple = some t ∧
        C.flag t.purpose = true) ∧ C.credential = c) ∨ c = g.credential := by
    intro c
    rw [Service.mem_statusListMembers hset hb, ← hp]
    refine or_congr_left (exists_congr fun C => ?_)
    simp only [Store.credentialsByIssuerAndSchema, List.mem_filter, decide_eq_true_eq]
    constructor
    · rintro ⟨⟨hC, hi, hs⟩, hsel, hc⟩
      exact ⟨hC, (hσ.selected_iff hg hC ht).mp ⟨hi, hs, hsel⟩, hc⟩
    · rintro ⟨hC, hsel, hc⟩
      obtain ⟨hi, hs, hsel⟩ := (hσ.selected_iff hg hC ht).mpr hsel
      exact ⟨⟨hC, hi, hs⟩, hsel, hc⟩
  have hflag := Service.flag_requestPurpose hset hb
  have hput : (σ.apply (.credential (g.withFlags request.revoked request.suspended))).credentials =
      σ.credentials.map (replaceCredential (g.withFlags request.revoked request.suspended)) :=
    putCredential_of_mem hg rfl
  rw [hput]
  constructor
  · rintro ⟨c, hc, e, he, hi⟩
    rcases (hmembers c).mp hc with ⟨C, hC, ⟨hid, htC, hf⟩, rfl⟩ | rfl
    · exact ⟨C, List.mem_map.mpr ⟨C, hC, by simp [replaceCredential, hid]⟩, htC, ⟨e, he, hi⟩, hf⟩
    · refine ⟨g.withFlags request.revoked request.suspended,
        List.mem_map.mpr ⟨g, hg, by simp [replaceCredential]⟩, by simpa using ht,
        ⟨e, by simpa using he, hi⟩, ?_⟩
      rw [hp, hflag]
      simpa using hset
  · rintro ⟨C', hC', htC', ⟨e, he, hi⟩, hf⟩
    obtain ⟨C, hC, rfl⟩ := List.mem_map.mp hC'
    by_cases hid : C.localCredentialID = g.localCredentialID
    · simp only [replaceCredential, StoredCredential.localCredentialID_withFlags, hid, if_true,
        StoredCredential.credential_withFlags] at he
      exact ⟨g.credential, (hmembers _).mpr (.inr rfl), e, he, hi⟩
    · simp only [replaceCredential, StoredCredential.localCredentialID_withFlags, hid,
        if_false] at htC' he hf
      exact ⟨C.credential, (hmembers _).mpr (.inl ⟨C, hC, ⟨hid, htC', hf⟩, rfl⟩), e, he, hi⟩

/-- **An update that sets a flag, run alone, rebuilds its triple's list from the stored members**:
from a sound store it either finds the target with the requested flags already and writes nothing
(`service.go` 473), or writes the target with them and then the triple's list, whose purpose is
the triple's and whose bit `i` is set iff a member stored afterwards has index `i` and its flag
set. -/
theorem run_update_rebuilds_list {σ : Store} (hσ : σ.Sound servicePath) {s : Service}
    {request : UpdateCredentialStatusRequest}
    (hset : request.revoked = true ∨ request.suspended = true)
    {tr : Transaction UpdateCredentialStatusResponse} {ws₀ : List Write}
    (htr : (s.UpdateCredentialStatus request).run σ = .ok tr ws₀)
    {resp : UpdateCredentialStatusResponse} {ws : List Write} (hfn : tr.fn.run σ = .ok resp ws) :
    ∃ gotCred t, σ.getCredential request.id = some gotCred ∧ gotCred.triple = some t ∧
      ((ws = [] ∧ gotCred.revoked = request.revoked ∧ gotCred.suspended = request.suspended) ∨
        ∃ slc, ws = [.credential (gotCred.withFlags request.revoked request.suspended),
            .statusListCredential t slc] ∧ listPurpose slc = some t.purpose ∧
          ∀ i, decodedBit slc i = true ↔ ∃ C ∈ (σ.commit ws).credentials, C.triple = some t ∧
            (∃ e, C.credential.credentialStatus = some e ∧ e.statusListIndex = i) ∧
            C.flag t.purpose = true) := by
  obtain ⟨g, t, hg, ht, -, rfl⟩ := Service.run_UpdateCredentialStatus_ok htr
  obtain ⟨hb, g', hg', -, hcases⟩ := Service.run_updateCredentialStatusBusinessLogic_ok hfn
  rw [hg, Option.some.injEq] at hg'
  subst hg'
  rcases hcases with ⟨hr, hs, rfl, -⟩ | ⟨-, hu, -⟩
  · exact ⟨g, t, hg, ht, .inl ⟨rfl, hr, hs⟩⟩
  obtain ⟨e, vc, slc, -, hgen, hslc, -, rfl⟩ := Service.run_updateCredentialStatus_ok hu
  have hset' : (request.revoked || request.suspended) = true := by simpa using hset
  have hp : t.purpose = requestPurpose request :=
    (StoredCredential.triple_eq_some_iff.mp ht).2.2.2.symm.trans
      (Service.getStatusPurpose_of_generate_ok hgen hset')
  obtain ⟨-, rfl⟩ := generateStatusList2021Credential_eq.mp hgen
  have hsub := congrArg VerifiableCredential.credentialSubject hslc
  refine ⟨g, t, hg, ht, .inr ⟨slc, rfl, ?_, fun i => ?_⟩⟩
  · rw [@listPurpose_statusList slc s.now e.statusListCredential g.issuer _ _ hsub, hp]
  · rw [@decodedBit_statusList slc s.now e.statusListCredential g.issuer _ _ hsub]
    exact index_mem_statusListMembers_iff hσ (findCredential_mem hg).1 ht hp hset' hb i

/-- **An update that sets a flag rebuilds its triple's list from the stored members**: in a
reachable store, a successful update that revokes or suspends a credential of triple `t` either
changes nothing, the credential having the requested flags already, or leaves the credential with
the requested flags and `t` with a list of `t`'s purpose whose bit `i` is set iff a credential
stored afterwards in `t` has index `i` and its flag set. -/
theorem update_rebuilds_status_list {σ : Store} (hσ : Reachable servicePath σ) (s : Service)
    (request : UpdateCredentialStatusRequest)
    (hset : request.revoked = true ∨ request.suspended = true)
    {resp : UpdateCredentialStatusResponse} {σ' : Store}
    (h : serve σ (s.UpdateCredentialStatus request) = (.ok resp, σ')) :
    ∃ gotCred t, σ.getCredential request.id = some gotCred ∧ gotCred.triple = some t ∧
      ((σ' = σ ∧ gotCred.revoked = request.revoked ∧ gotCred.suspended = request.suspended) ∨
        (σ'.getCredential request.id = some (gotCred.withFlags request.revoked request.suspended) ∧
          ∃ slc, σ'.statusListCredentials t = some slc ∧ listPurpose slc = some t.purpose ∧
          ∀ i, decodedBit slc i = true ↔ ∃ C ∈ σ'.credentials, C.triple = some t ∧
            (∃ e, C.credential.credentialStatus = some e ∧ e.statusListIndex = i) ∧
            C.flag t.purpose = true)) := by
  obtain ⟨tr, _, ws, htr, hfn, rfl⟩ :=
    serve_ok (Service.UpdateCredentialStatus_writesNothing s request) h
  obtain ⟨g, t, hg, ht, ⟨rfl, hr, hs⟩ | ⟨slc, rfl, hpurpose, hbits⟩⟩ :=
    run_update_rebuilds_list hσ.sound hset htr hfn
  · exact ⟨g, t, hg, ht, .inl ⟨rfl, hr, hs⟩⟩
  have hid : request.id = g.localCredentialID := (findCredential_mem hg).2.symm
  exact ⟨g, t, hg, ht, .inr ⟨by simp [Store.getCredential, Store.commit, Store.apply, hid],
    slc, by simp [Store.commit, Store.apply], hpurpose, hbits⟩⟩

/-! ## Lists that record their members' flags -/

/-- The list of triple `t`, if there is one, records exactly the flags of `t`'s members: its
purpose is `t`'s, and its bit `i` is set iff a stored member of `t` has index `i` and its flag for
that purpose set. -/
def Store.ListsFlagsAt (σ : Store) (t : StatusTriple) : Prop :=
  ∀ slc, σ.statusListCredentials t = some slc → listPurpose slc = some t.purpose ∧
    ∀ i, decodedBit slc i = true ↔ ∃ C ∈ σ.credentials, C.triple = some t ∧
      (∃ e, C.credential.credentialStatus = some e ∧ e.statusListIndex = i) ∧
      C.flag t.purpose = true

/-- **A rebuild leaves its triple's list exact.** -/
theorem Store.listsFlagsAt_rebuilt {σ : Store} {t : StatusTriple} {sc slc : StoredCredential}
    (hpurpose : listPurpose slc = some t.purpose)
    (hbits : ∀ i, decodedBit slc i = true ↔
      ∃ C ∈ (σ.commit [.credential sc, .statusListCredential t slc]).credentials,
        C.triple = some t ∧ (∃ e, C.credential.credentialStatus = some e ∧ e.statusListIndex = i) ∧
        C.flag t.purpose = true) :
    (σ.commit [.credential sc, .statusListCredential t slc]).ListsFlagsAt t := by
  intro slc' h
  obtain rfl : slc = slc' := by simpa [Store.commit, Store.apply] using h
  exact ⟨hpurpose, hbits⟩

/-- **Rewriting the flags of a member of `t`, and `t`'s list, leaves every other triple's list
exact**: the members of another triple are the records they were. -/
theorem Store.ListsFlagsAt.rewrite {σ : Store} (hnd : σ.Nodup) {g : StoredCredential}
    (hg : g ∈ σ.credentials) {t t' : StatusTriple} (ht : g.triple = some t) (hne : t ≠ t')
    (r s : Bool) (slc : StoredCredential) (h : σ.ListsFlagsAt t') :
    (σ.commit [.credential (g.withFlags r s), .statusListCredential t slc]).ListsFlagsAt t' := by
  have hput : (σ.commit [.credential (g.withFlags r s), .statusListCredential t slc]).credentials =
      σ.credentials.map (replaceCredential (g.withFlags r s)) :=
    putCredential_of_mem hg rfl
  -- a member of `t'` is never the rewritten record, which stays in `t`
  have hmem : ∀ C, C.triple = some t' →
      (C ∈ σ.credentials.map (replaceCredential (g.withFlags r s)) ↔ C ∈ σ.credentials) := by
    intro C hC
    rw [List.mem_map]
    constructor
    · rintro ⟨C₀, hC₀, rfl⟩
      unfold replaceCredential at hC ⊢
      split_ifs at hC ⊢
      · exact absurd (Option.some.inj (ht.symm.trans (by simpa using hC))) hne
      · exact hC₀
    · intro hC₀
      refine ⟨C, hC₀, if_neg fun hid => hne (Option.some.inj ?_)⟩
      rw [← List.inj_on_of_nodup_map hnd hC₀ hg hid, hC] at ht
      exact ht.symm
  intro slc' hslc'
  have hlist : (σ.commit [.credential (g.withFlags r s),
      .statusListCredential t slc]).statusListCredentials t' = σ.statusListCredentials t' := by
    simp [Store.commit, Store.apply, Function.update_noteq hne.symm]
  obtain ⟨hp, hbits⟩ := h slc' (hlist ▸ hslc')
  refine ⟨hp, fun i => (hbits i).trans ?_⟩
  rw [hput]
  exact exists_congr fun C => ⟨fun ⟨hC, htC, hrest⟩ => ⟨(hmem C htC).mpr hC, htC, hrest⟩,
    fun ⟨hC, htC, hrest⟩ => ⟨(hmem C htC).mp hC, htC, hrest⟩⟩

/-- Two revocable credentials of the demo triple, `a` at index 5 and `b` at index 7; `b` revoked,
then deleted. -/
def demoRevokedDeletedStore : Store :=
  Op.applyAll demoService Store.empty
    [demoIssue false "a" 5, demoIssue false "b" 7, .updateCredentialStatus ⟨"b", true, false⟩,
      .deleteCredential ⟨"b"⟩]

theorem revoke_rebuilds_demo_list :
    ∃ resp σ', serve demoRevokedDeletedStore (demoService.UpdateCredentialStatus ⟨"a", true, false⟩) =
      (.ok resp, σ') ∧ (demoRevokedDeletedStore.getCredential "a").map (·.revoked) = some false ∧
      ∃ gotCred t, demoRevokedDeletedStore.getCredential "a" = some gotCred ∧
        gotCred.triple = some t ∧
        σ'.getCredential "a" = some (gotCred.withFlags true false) ∧
        ∃ slc, σ'.statusListCredentials t = some slc ∧ listPurpose slc = some t.purpose ∧
        ∀ i, decodedBit slc i = true ↔ ∃ C ∈ σ'.credentials, C.triple = some t ∧
          (∃ e, C.credential.credentialStatus = some e ∧ e.statusListIndex = i) ∧
          C.flag t.purpose = true :=
  have hunrevoked : (demoRevokedDeletedStore.getCredential "a").map (·.revoked) = some false := by
    decide
  have hserve : serve demoRevokedDeletedStore
      (demoService.UpdateCredentialStatus ⟨"a", true, false⟩) = (.ok _, _) := rfl
  let ⟨g, t, hg, ht, hcases⟩ := update_rebuilds_status_list
    (Reachable.applyAll demoService rfl .empty _) demoService ⟨"a", true, false⟩ (.inl rfl) hserve
  have hg : demoRevokedDeletedStore.getCredential "a" = some g := hg
  have hrebuilt := hcases.resolve_left fun ⟨_, hr, _⟩ => by
    rw [hg, Option.map_some', hr] at hunrevoked
    exact absurd hunrevoked (by decide)
  ⟨_, _, hserve, hunrevoked, g, t, hg, ht, hrebuilt⟩

/-- **Revoking a member clears the bit of a revoked member deleted before**: in the demo store
bit 7 is set for the deleted `b`; revoking `a` (index 5) succeeds and leaves bit 7 cleared. -/
theorem revoke_after_delete_clears_deleted_bit :
    Reachable demoService.servicePath demoRevokedDeletedStore ∧
      demoRevokedDeletedStore.getCredential "b" = none ∧
      ((demoRevokedDeletedStore.getCredential "a").bind (·.credential.credentialStatus)).map
        (·.statusListIndex) = some 5 ∧
      (demoRevokedDeletedStore.statusListCredentials (demoTriple statusRevocation)).map
        (decodedBit · 7) = some true ∧
      ∃ resp σ', serve demoRevokedDeletedStore
          (demoService.UpdateCredentialStatus ⟨"a", true, false⟩) = (.ok resp, σ') ∧
        (σ'.statusListCredentials (demoTriple statusRevocation)).map (decodedBit · 7) =
          some false :=
  ⟨Reachable.applyAll demoService rfl .empty _, by decide, by decide, by decide, _, _, rfl,
    by decide⟩

/-- Two suspendable credentials of the demo triple, `a` at index 5 and `b` at index 7, both
suspended. -/
def demoSuspendedPairStore : Store :=
  Op.applyAll demoService Store.empty
    [demoIssue true "a" 5, demoIssue true "b" 7, .updateCredentialStatus ⟨"a", false, true⟩,
      .updateCredentialStatus ⟨"b", false, true⟩]

/-- **Unsuspending one member clears the other's bit and relabels the list**: in the demo store
both bits are set; unsuspending `a` succeeds, `b` stays suspended, yet bit 7 is cleared and the
suspension triple's list now says revocation. -/
theorem unsuspend_clears_other_members_bit :
    Reachable demoService.servicePath demoSuspendedPairStore ∧
      (demoSuspendedPairStore.getCredential "b").map (·.suspended) = some true ∧
      (demoSuspendedPairStore.statusListCredentials (demoTriple statusSuspension)).map
        (decodedBit · 7) = some true ∧
      ∃ resp σ', serve demoSuspendedPairStore
          (demoService.UpdateCredentialStatus ⟨"a", false, false⟩) = (.ok resp, σ') ∧
        (σ'.getCredential "b").map (·.suspended) = some true ∧
        (σ'.statusListCredentials (demoTriple statusSuspension)).map (decodedBit · 7) =
          some false ∧
        (σ'.statusListCredentials (demoTriple statusSuspension)).map listPurpose =
          some (some statusRevocation) :=
  ⟨Reachable.applyAll demoService rfl .empty _, by decide, by decide, _, _, rfl, by decide,
    by decide, by decide⟩

/-- Two revocable credentials of the demo triple, `a` at index 5 and `b` at index 7. -/
def demoRevocablePairStore : Store :=
  Op.applyAll demoService Store.empty [demoIssue false "a" 5, demoIssue false "b" 7]

/-- **A batch is not its items run in turn**: revoking `a` then `b` one call at a time succeeds
twice and sets both bits; the batch of the same two requests succeeds and sets only bit 7. -/
theorem batch_revoke_keeps_last_bit :
    Reachable demoService.servicePath demoRevocablePairStore ∧
      (∃ resp σ', serve demoRevocablePairStore (demoService.batchUpdateCredentialStatus
          ⟨[⟨"a", true, false⟩, ⟨"b", true, false⟩]⟩) = (.ok resp, σ') ∧
        (σ'.statusListCredentials (demoTriple statusRevocation)).map (decodedBit · 5) =
          some false) ∧
      ∃ resp₁ σ₁ resp₂ σ₂,
        serve demoRevocablePairStore (demoService.UpdateCredentialStatus ⟨"a", true, false⟩) =
          (.ok resp₁, σ₁) ∧
        serve σ₁ (demoService.UpdateCredentialStatus ⟨"b", true, false⟩) = (.ok resp₂, σ₂) ∧
        (σ₂.statusListCredentials (demoTriple statusRevocation)).map (decodedBit · 5) =
          some true :=
  ⟨Reachable.applyAll demoService rfl .empty _, ⟨_, _, rfl, by decide⟩, _, _, _, _, rfl, rfl,
    by decide⟩

/-! ## The updated credential -/

/-- **A successful update is what `GetCredentialStatus` then reports**: the call responds with
the requested flags, and the credential reads back with them. -/
theorem getCredentialStatus_after_update {s : Service} {σ : Store}
    {request : UpdateCredentialStatusRequest} {resp : UpdateCredentialStatusResponse} {σ' : Store}
    (h : serve σ (s.UpdateCredentialStatus request) = (.ok resp, σ')) :
    resp = ⟨⟨"", request.revoked, request.suspended⟩⟩ ∧
      (Service.getCredentialStatus ⟨request.id⟩).run σ' =
        .ok ⟨request.revoked, request.suspended⟩ [] := by
  obtain ⟨tr, ws₀, ws, hm, hfn, rfl⟩ :=
    serve_ok (Service.UpdateCredentialStatus_writesNothing s request) h
  obtain ⟨g₀, t, -, -, -, rfl⟩ := Service.run_UpdateCredentialStatus_ok hm
  obtain ⟨-, g, hg, hv, hcases⟩ := Service.run_updateCredentialStatusBusinessLogic_ok hfn
  have hid : g.localCredentialID = request.id := (findCredential_mem hg).2
  rcases hcases with ⟨hr, hs, rfl, rfl⟩ | ⟨-, hupd, rfl⟩
  · simp [Service.getCredentialStatus, Body.run_bind, Body.run_wrapError, hg, hv, hr, hs]
  · obtain ⟨_, _, _, -, -, -, -, rfl⟩ := Service.run_updateCredentialStatus_ok hupd
    have hne : request.id ≠ "" := by simpa [StoredCredential.isValid, hid] using hv
    simp [Service.getCredentialStatus, Body.run_bind, Body.run_wrapError, hid, hne,
      Store.getCredential_apply_of_key_ne, Write.key, StoredCredential.isValid]

theorem revoke_reads_back :
    ∃ resp σ', serve demoRevocablePairStore (demoService.UpdateCredentialStatus ⟨"a", true, false⟩) =
        (.ok resp, σ') ∧ resp = ⟨⟨"", true, false⟩⟩ ∧
      (Service.getCredentialStatus ⟨"a"⟩).run σ' = .ok ⟨true, false⟩ [] :=
  have h : serve demoRevocablePairStore (demoService.UpdateCredentialStatus ⟨"a", true, false⟩) =
      (.ok _, _) := rfl
  ⟨_, _, h, getCredentialStatus_after_update h⟩

end CredentialService
