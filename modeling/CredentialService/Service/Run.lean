import CredentialService.Service.CreateSpec
import CredentialService.Service.UpdateSpec

/-!
# Service/Run — the service as a state machine over the committed store

Each call of the service, run alone (`serve`), is one step of a state machine whose state is the
committed `Store`.  `Reachable servicePath` is every store a sequence of calls leaves behind,
starting from the empty store.  The configured service path (`config.GetServicePath`) is the same
for every call; the other collaborators (keys, schemas, clock) may differ from call to call.
-/

namespace CredentialService

/-- A call of the service that may change the committed store. -/
inductive Op where
  | createCredential (entropy : Entropy) (request : CreateCredentialRequest)
  | batchCreateCredentials (entropy : Nat → Entropy) (batchRequest : BatchCreateCredentialsRequest)
  | updateCredentialStatus (request : UpdateCredentialStatusRequest)
  | batchUpdateCredentialStatus (batchRequest : BatchUpdateCredentialStatusRequest)
  | deleteCredential (request : DeleteCredentialRequest)

/-- The store a call leaves behind, run alone. -/
def Op.apply (s : Service) : Op → Store → Store
  | .createCredential e r, σ => (serve σ (s.CreateCredential e r)).2
  | .batchCreateCredentials e r, σ => (serve σ (s.batchCreateCredentials e r)).2
  | .updateCredentialStatus r, σ => (serve σ (s.UpdateCredentialStatus r)).2
  | .batchUpdateCredentialStatus r, σ => (serve σ (s.batchUpdateCredentialStatus r)).2
  | .deleteCredential r, σ => Service.deleteCredential σ r

/-- The stores reachable from the empty store by calls run one at a time, under one configured
service path. -/
inductive Reachable (servicePath : String) : Store → Prop where
  | empty : Reachable servicePath Store.empty
  | step {σ : Store} (s : Service) (op : Op) :
      s.servicePath = servicePath → Reachable servicePath σ → Reachable servicePath (op.apply s σ)

/-- The store a sequence of calls leaves behind. -/
def Op.applyAll (s : Service) (σ : Store) (ops : List Op) : Store :=
  ops.foldl (fun σ op => op.apply s σ) σ

theorem Reachable.applyAll {servicePath : String} {σ : Store} (s : Service)
    (hs : s.servicePath = servicePath) (h : Reachable servicePath σ) (ops : List Op) :
    Reachable servicePath (Op.applyAll s σ ops) := by
  induction ops generalizing σ with
  | nil => exact h
  | cons op ops ih => exact ih (.step s op hs h)

/-- **A call that returns an error leaves the committed store as it was**, for each of the four
methods that run a transaction: none of them writes before `Execute`, and whatever the body
buffered before the error is dropped. -/
theorem error_leaves_store_unchanged (s : Service) (σ : Store) :
    (∀ entropy request e σ', serve σ (s.CreateCredential entropy request) = (.error e, σ') →
      σ' = σ) ∧
    (∀ entropy batchRequest e σ',
      serve σ (s.batchCreateCredentials entropy batchRequest) = (.error e, σ') → σ' = σ) ∧
    (∀ request e σ', serve σ (s.UpdateCredentialStatus request) = (.error e, σ') → σ' = σ) ∧
    (∀ batchRequest e σ',
      serve σ (s.batchUpdateCredentialStatus batchRequest) = (.error e, σ') → σ' = σ) :=
  ⟨fun entropy request _ _ => serve_error (s.CreateCredential_writesNothing entropy request),
    fun entropy batchRequest _ _ =>
      serve_error (s.batchCreateCredentials_writesNothing entropy batchRequest),
    fun request _ _ => serve_error (Service.UpdateCredentialStatus_writesNothing s request),
    fun batchRequest _ _ =>
      serve_error (Service.batchUpdateCredentialStatus_writesNothing s batchRequest)⟩

/-! ## Runs to try the model on -/

/-- A request to issue a credential of `did:example:issuer` to `did:example:subject`, suspendable
or revocable. -/
def demoRequest (suspendable : Bool) : CreateCredentialRequest where
  issuer := "did:example:issuer"
  fullyQualifiedVerificationMethodID := "did:example:issuer#key-1"
  subject := "did:example:subject"
  context := ""
  schemaID := ""
  data := []
  expiry := ""
  revocable := !suspendable
  suspendable := suspendable
  evidence := []

/-- The issuance of credential `id` in the demo triple of that purpose, drawing `index`. -/
def demoIssue (suspendable : Bool) (id : String) (index : Nat) : Op :=
  .createCredential ⟨id, "00000000-0000-0000-0000-000000000001", [index]⟩ (demoRequest suspendable)

/-- The demo triple of a purpose. -/
def demoTriple (purpose : String) : StatusTriple := ⟨"did:example:issuer", "", purpose⟩

end CredentialService
