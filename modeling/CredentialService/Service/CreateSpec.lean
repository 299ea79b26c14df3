import CredentialService.Service.Create
import CredentialService.Model.Ensures

/-!
# Service/CreateSpec — what issuance may write

Issuance writes status-list bookkeeping (the triple's list, pool and cursor) and exactly one
credential record: the new credential, with both flags cleared and its URI the service path and
its local id.  `createCredential_issued` says so of every run of the issuance body, whatever the
store it reads, and `CreateCredential_issued` and `BatchCreateCredentials_issued` of every
transaction the two methods hand to `Execute`; the two methods write nothing before it.
-/

namespace CredentialService

/-- A write issuance may make: a credential record is the fresh credential, unflagged, under its
URI; every other write is status-list bookkeeping. -/
def Write.Issued (servicePath : String) : Write → Prop
  | .credential sc => sc.revoked = false ∧ sc.suspended = false ∧
      sc.credential.id = servicePath ++ "/" ++ sc.localCredentialID
  | _ => True

namespace Service

variable (s : Service) (entropy : Entropy) (request : CreateCredentialRequest)

theorem createStatusListEntryForCredential_issued (servicePath credID : String)
    (m : StatusListCredentialMetadata) :
    (s.createStatusListEntryForCredential entropy credID request m).Ensures (fun _ => True)
      (Write.Issued servicePath) (fun _ => True) := by
  simp only [createStatusListEntryForCredential, Storage.getStatusListCredentialKeyData,
    Body.bind_eq, Body.ensures_bind, Body.ensures_get]
  intro σ _
  cases σ.statusListCredentials ⟨request.issuer, request.schemaID, request.statusPurpose⟩ <;>
  · simp [statusListCredentialURI, claimStatusListIndex, Write.Issued]
    intros
    split <;> simp [Write.Issued]

/-- **Issuance writes one credential, fresh and unflagged.** -/
theorem createCredential_issued (m : StatusListCredentialMetadata) :
    (s.createCredential entropy request m).Ensures (fun _ => True) (Write.Issued s.servicePath)
      (fun _ => True) := by
  have hs := s.createStatusListEntryForCredential_issued entropy request s.servicePath
    (s.servicePath ++ "/" ++ entropy.credentialID) m
  simp [createCredential, credentialStatusFor, Storage.storeCredentialTx, Write.Issued,
    buildStoredCredential]
  intros
  exact hs

theorem runCreateFuncs_issued (entropy : Nat → Entropy) (i : Nat)
    (prepared : List (CreateCredentialRequest × StatusListCredentialMetadata)) :
    (s.runCreateFuncs entropy i prepared).Ensures (fun _ => True) (Write.Issued s.servicePath)
      (fun _ => True) := by
  induction prepared generalizing i with
  | nil => trivial
  | cons p rest ih =>
    simp only [runCreateFuncs, createCredentialFunc, Body.bind_eq, Body.pure_eq, Body.ensures_bind]
    exact (s.createCredential_issued (entropy i) p.1 p.2).mono (fun _ h => h) (fun _ h => h)
      fun _ _ => (ih (i + 1)).mono (fun _ h => h) (fun _ h => h) fun _ _ => trivial

/-- Every transaction `CreateCredential` hands to `Execute` is an issuance body; before it the
method writes nothing. -/
theorem CreateCredential_issued :
    (s.CreateCredential entropy request).Ensures (fun _ => True) (fun _ => False)
      fun tr => tr.fn.Ensures (fun _ => True) (Write.Issued s.servicePath) (fun _ => True) := by
  simp only [CreateCredential, createCredentialFunc, Body.bind_eq, Body.pure_eq,
    Body.ensures_bind, Body.ensures_ofError, Body.ensures_pure]
  exact fun _ => s.createCredential_issued entropy request _

theorem batchCreateCredentials_issued (entropy : Nat → Entropy)
    (batchRequest : BatchCreateCredentialsRequest) :
    (s.batchCreateCredentials entropy batchRequest).Ensures (fun _ => True) (fun _ => False)
      fun tr => tr.fn.Ensures (fun _ => True) (Write.Issued s.servicePath) (fun _ => True) := by
  simp only [batchCreateCredentials, Body.pure_eq, Body.map_eq, Body.ensures_pure,
    Body.ensures_bind]
  exact (s.runCreateFuncs_issued entropy 0 _).mono (fun _ h => h) (fun _ h => h) fun _ _ => trivial

theorem CreateCredential_writesNothing : (s.CreateCredential entropy request).WritesNothing :=
  (s.CreateCredential_issued entropy request).mono (fun _ h => h) (fun _ h => h) fun _ _ => trivial

theorem batchCreateCredentials_writesNothing (entropy : Nat → Entropy)
    (batchRequest : BatchCreateCredentialsRequest) :
    (s.batchCreateCredentials entropy batchRequest).WritesNothing :=
  (s.batchCreateCredentials_issued entropy batchRequest).mono (fun _ h => h) (fun _ h => h)
    fun _ _ => trivial

end Service

end CredentialService
