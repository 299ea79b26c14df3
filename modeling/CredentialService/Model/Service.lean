import CredentialService.Model.Body
import CredentialService.Model.StatusList

/-!
# Model/Service — the service's collaborators: its storage, the key store, the schema service

`Service` holds what the Go `Service` struct reaches besides its storage (the key store, the
schema service, the JSON-schema validator, the clock and the configured service path).  They are
external to the credential service, so the model takes them as given functions.

The methods of the credential `Storage` (the `storage.go` of the package, not in the source) are
`Body` programs over the four namespaces of `Store`, following spec §4.1 and §6: reads through
`s.storage` see the committed store, `…Tx` methods buffer their write in `tx`.
-/

namespace CredentialService

/-- The request `StoreCredentialRequest` of the storage layer. -/
structure StoreCredentialRequest where
  container : Container

/-- The type `StatusListCredentialMetadata`: the three watch keys of one status triple
(`statusListCredentialWatchKey`, `statusListIndexPoolWatchKey`, `statusListCurrentIndexWatchKey`).
All three are built from one ⟨issuer, schema, purpose⟩, so the model keeps that triple; the zero
value of the source is the default triple. -/
structure StatusListCredentialMetadata where
  triple : StatusTriple
deriving Inhabited

namespace Storage

/-- Modelled from the spec (§6 "status-list-credential / hash(triple)"): the storage method
`GetStatusListCredentialWatchKey`. -/
def getStatusListCredentialWatchKey (issuer schema purpose : String) : WatchKey :=
  .statusListCredential ⟨issuer, schema, purpose⟩

/-- Modelled from the spec (§6 "status-list-index-pool / hash(triple)"): the storage method
`GetStatusListIndexPoolWatchKey`. -/
def getStatusListIndexPoolWatchKey (issuer schema purpose : String) : WatchKey :=
  .statusListIndexPool ⟨issuer, schema, purpose⟩

/-- Modelled from the spec (§6 "status-list-current-index / hash(triple)"): the storage method
`GetStatusListCurrentIndexWatchKey`. -/
def getStatusListCurrentIndexWatchKey (issuer schema purpose : String) : WatchKey :=
  .statusListCurrentIndex ⟨issuer, schema, purpose⟩

/-- Modelled from the spec (§7 "not found … surfaced textually (`credential not found with
id: …`)"): the storage method `GetCredential`, a read of the committed store. -/
def getCredential (id : String) : Body StoredCredential := do
  match ← Body.get (·.getCredential id) with
  | some sc => pure sc
  | none => Body.throw ("credential not found with id: " ++ id)

@[simp] theorem run_getCredential (σ : Store) (id : String) :
    (getCredential id).run σ = match σ.getCredential id with
      | some sc => .ok sc []
      | none => .error ("credential not found with id: " ++ id) := by
  simp only [getCredential, Body.bind_eq, Body.get_bind, Body.run_read]
  cases σ.getCredential id <;> rfl

/-- Modelled from the spec (§4.4 step 4 "collect all stored credentials sharing the same
⟨issuer, schema⟩"): the storage method `GetCredentialsByIssuerAndSchema`. -/
def getCredentialsByIssuerAndSchema (issuer schema : String) : Body (List StoredCredential) :=
  Body.get (·.credentialsByIssuerAndSchema issuer schema)

/-- Modelled from the spec (§4.3 "if no status VC exists for T"): the storage method
`GetStatusListCredentialKeyData`, the triple's status-list record if there is one, and no
error when there is none. -/
def getStatusListCredentialKeyData (issuer schema purpose : String) :
    Body (Option StoredCredential) :=
  Body.get (·.statusListCredentials ⟨issuer, schema, purpose⟩)

/-- Modelled from the spec (§4.2 step 10 "persist credential"): the storage method
`StoreCredentialTx`, a write buffered in `tx`. -/
def storeCredentialTx (request : StoreCredentialRequest) : Body Unit :=
  Body.put (.credential (buildStoredCredential request.container))

/-- Modelled from the spec (§4.4 step 7 "replaced status VC"): the storage method
`StoreStatusListCredentialTx`, which writes under the metadata's status-list key. -/
def storeStatusListCredentialTx (request : StoreCredentialRequest)
    (slcMetadata : StatusListCredentialMetadata) : Body Unit :=
  Body.put (.statusListCredential slcMetadata.triple (buildStoredCredential request.container))

/-- Modelled from the spec (§3 "delete is idempotent; unknown id → no error"): the storage method
`DeleteCredential`, written to the store directly, outside any transaction. -/
def deleteCredential (σ : Store) (id : String) : Store := σ.deleteCredential id

end Storage

/-! ## The key store and signing -/

/-- A key of the key store, with the fields `signCredentialJWT` checks. -/
structure StoredKey where
  id : String
  controller : String
  revoked : Bool
deriving DecidableEq, Repr

/-- The collaborators of the Go `Service` other than its storage. -/
structure Service where
  /-- The configured `config.GetServicePath(framework.Credential)`. -/
  servicePath : String
  /-- The time `time.Now().Format(time.RFC3339)` reads. -/
  now : String
  /-- The key store's `GetKey`, by fully-qualified verification-method id. -/
  getKey : String → Option StoredKey
  /-- The schema service's `Resolve`: the schema type of a known schema id. -/
  resolveSchema : String → Option String
  /-- The SDK's `schemalib.IsCredentialValidForJSONSchema`, for the schema of the given id. -/
  isCredentialValidForJSONSchema : String → VerifiableCredential → Bool
  /-- The SDK builder's timestamp check in `SetExpirationDate`. -/
  isRFC3339 : String → Bool

/-- The SDK's `did.FullyQualifiedVerificationMethodID` (`strings.HasPrefix` read on characters). -/
def fullyQualifiedVerificationMethodID (did verificationMethodID : String) : String :=
  if did.data.isPrefixOf verificationMethodID.data then verificationMethodID
  else if "#".data.isPrefixOf verificationMethodID.data then did ++ verificationMethodID
  else did ++ "#" ++ verificationMethodID

namespace Service

/-- The service method `signCredentialJWT`: fetch the issuer's key for the verification method,
refuse a key of another controller or a revoked one, and sign. -/
def signCredentialJWT (s : Service) (verificationMethodID : String) (cred : VerifiableCredential) :
    Except String JWT :=
  let keyStoreID := fullyQualifiedVerificationMethodID cred.issuer verificationMethodID
  match s.getKey keyStoreID with
  | none => .error ("getting key for signing credential<" ++ verificationMethodID ++
      ">: could not get key for key: " ++ keyStoreID)
  | some gotKey =>
    if gotKey.controller ≠ cred.issuer then
      .error ("key controller<" ++ gotKey.controller ++ "> does not match credential issuer<" ++
        cred.issuer ++ "> for key<" ++ verificationMethodID ++ ">")
    else if gotKey.revoked then .error ("cannot use revoked key<" ++ gotKey.id ++ ">")
    else .ok { kid := gotKey.id, verificationMethodID, credential := cred }

/-- **Only the issuer's own, unrevoked key signs.** -/
theorem signCredentialJWT_ok {s : Service} {vm : String} {cred : VerifiableCredential}
    {jwt : JWT} (h : s.signCredentialJWT vm cred = .ok jwt) :
    ∃ key, s.getKey (fullyQualifiedVerificationMethodID cred.issuer vm) = some key ∧
      key.controller = cred.issuer ∧ key.revoked = false ∧ jwt.credential = cred := by
  simp only [signCredentialJWT] at h
  split at h
  · cases h
  · rename_i key hkey
    split_ifs at h with hc hr
    cases h
    exact ⟨key, hkey, not_not.mp hc, by simpa using hr, rfl⟩

end Service

/-- A deployment to run examples on: one key, `did:example:issuer#key-1` of `did:example:issuer`,
no schemas, and a clock that reads one instant. -/
def demoService : Service where
  servicePath := "https://ssi.example/v1/credentials"
  now := "2024-01-01T00:00:00Z"
  getKey := fun id =>
    if id = "did:example:issuer#key-1" then some ⟨"key-1", "did:example:issuer", false⟩ else none
  resolveSchema := fun _ => none
  isCredentialValidForJSONSchema := fun _ _ => true
  isRFC3339 := fun _ => true

end CredentialService
