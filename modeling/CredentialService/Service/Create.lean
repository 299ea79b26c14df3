import CredentialService.Model.Service

/-!
# Service/Create — `CreateCredential` and `BatchCreateCredentials`

Issuance (`service.go` 93–264, 601–660) validates the request, derives the three watch keys of
the status triple when the credential is revocable or suspendable, and runs `createCredential`
inside `Execute`: build the VC, attach a status entry allocated in the triple's list, validate
against the schema, sign as a JWT, and buffer the record with both flags false.

The allocation itself (`createStatusListEntryForCredential` and the status-list storage methods)
is not in the source; it follows spec §4.3: create the triple's status list, index pool and cursor
on first use, then draw candidates in `[0, 2^17)` until one is not in the pool.

The randomness a call consumes — the UUIDs and the candidate indices — is an argument,
`Entropy`.
-/

namespace CredentialService

/-! ## Requests and responses -/

/-- The request `CreateCredentialRequest`. -/
structure CreateCredentialRequest where
  issuer : String
  fullyQualifiedVerificationMethodID : String
  subject : String
  context : String
  schemaID : String
  data : List (String × JSONValue)
  expiry : String
  revocable : Bool
  suspendable : Bool
  evidence : List Evidence
deriving DecidableEq, Repr

/-- The response `CreateCredentialResponse`. -/
structure CreateCredentialResponse where
  container : Container
deriving DecidableEq, Repr

/-- The request `BatchCreateCredentialsRequest`. -/
structure BatchCreateCredentialsRequest where
  requests : List CreateCredentialRequest
deriving DecidableEq, Repr

/-- The response `BatchCreateCredentialsResponse`. -/
structure BatchCreateCredentialsResponse where
  credentials : List Container
deriving DecidableEq, Repr

/-- The randomness one issuance consumes: the UUIDs `uuid.NewString()` returns (the credential's
and, on a triple's first use, its status list's) and the candidate indices the random source
draws. -/
structure Entropy where
  credentialID : String
  statusListID : String
  draws : List Nat
deriving DecidableEq, Repr

namespace CreateCredentialRequest

/-- Modelled from the spec (§3 "`revocable` and `suspendable` are mutually exclusive at
creation"; §4.2 step 1 "Reject if `revocable ∧ suspendable`"): the request method
`isStatusValid`, not both revocable and suspendable. -/
def isStatusValid (r : CreateCredentialRequest) : Bool := !(r.revocable && r.suspendable)

/-- Modelled from the spec (§4.2 step 6 "If status requested"; §4.2 input "exactly-one-of
`{revocable, suspendable}`"): the request method `hasStatus`, revocable or suspendable. -/
def hasStatus (r : CreateCredentialRequest) : Bool := r.suspendable || r.revocable

/-- Modelled from the spec (§4.2 step 2 "If evidence present"): the request method
`hasEvidence`, a non-empty evidence list. -/
def hasEvidence (r : CreateCredentialRequest) : Bool := !r.evidence.isEmpty

/-- Modelled from the spec (§4.2 "each element must be an object containing both `id` and
`type`; otherwise fail with `invalid evidence format` / `missing required 'id' or 'type'`"): the
request method `validateEvidence`, the error of the first offending element. -/
def validateEvidence (r : CreateCredentialRequest) : Option String :=
  r.evidence.findSome? fun
    | none => some "invalid evidence format"
    | some fields =>
      if (fields.lookup "id").isSome && (fields.lookup "type").isSome then none
      else some "evidence missing required \x27id\x27 or \x27type\x27 field"

/-- Modelled from the spec (§4.2 "Input: issuer DID, fully-qualified verification method id,
subject DID, …", the optional fields named as such): the request method `IsValid`, which requires
the issuer, the verification method and the subject. -/
def isValid (r : CreateCredentialRequest) : Option String :=
  if r.issuer = "" then some "issuer is required"
  else if r.fullyQualifiedVerificationMethodID = "" then
    some "fullyQualifiedVerificationMethodId is required"
  else if r.subject = "" then some "subject is required"
  else none

/-- The status purpose a request asks for: suspension when suspendable, revocation otherwise. -/
def statusPurpose (r : CreateCredentialRequest) : String :=
  if r.suspendable then statusSuspension else statusRevocation

/-- The status triple of a request. -/
def triple (r : CreateCredentialRequest) : StatusTriple := ⟨r.issuer, r.schemaID, r.statusPurpose⟩

end CreateCredentialRequest

/-! ## Allocating a status entry -/

/-- The length of a fresh bitstring, `2^17`: candidates are drawn in `[0, bitstringLength)`. -/
def bitstringLength : Nat := 131072

/-- Modelled from the spec (§4.3 step 2 "draw a random candidate index in [0, 2^17); verify
absence from the pool; redraw on conflict"): the first candidate not yet in the pool. -/
def drawIndex (pool draws : List Nat) : Option Nat :=
  (draws.map (· % bitstringLength)).find? fun d => d ∉ pool

theorem drawIndex_not_mem {pool draws : List Nat} {i : Nat} (h : drawIndex pool draws = some i) :
    i ∉ pool := by
  simpa using List.find?_some h

/-- The map update `m[k] = v`. -/
def setField (fields : List (String × JSONValue)) (k : String) (v : JSONValue) :
    List (String × JSONValue) :=
  (k, v) :: fields.filter fun f => f.1 ≠ k

/-- The check "conflict with subject ID": the request's data has an `id` other than the subject,
the string `request.Subject` compared with the `any` of the map, so that an `id` that is no string
conflicts too. -/
def subjectConflict (request : CreateCredentialRequest) : Option String :=
  match request.data.lookup "id" with
  | some id =>
    if id ≠ .string request.subject then
      some ("cannot set subject<" ++ request.subject ++
        ">, data already contains a different ID value: " ++ id.format)
    else none
  | none => none

namespace Service

/-- Modelled from the spec (§4.3 "if no status VC exists for T: generate an empty StatusList2021
credential … sign, store; initialise the index pool as empty and the cursor at 0"): the URI of the
triple's status list, created with its pool and cursor on the triple's first use. -/
def statusListCredentialURI (s : Service) (entropy : Entropy) (request : CreateCredentialRequest)
    (t : StatusTriple) : Option StoredCredential → Body String
  | some slc => pure slc.credential.id
  | none => do
    let uri := s.servicePath ++ "/status/" ++ entropy.statusListID
    let generated ← Body.ofExcept
      (generateStatusList2021Credential s.now uri request.issuer request.statusPurpose [])
    let jwt ← Body.ofExcept
      (s.signCredentialJWT request.fullyQualifiedVerificationMethodID generated)
    Body.put (.statusListCredential t (buildStoredCredential
      ⟨entropy.statusListID, request.fullyQualifiedVerificationMethodID, generated, jwt, false,
        false⟩))
    Body.put (.statusListIndexPool t [])
    Body.put (.statusListCurrentIndex t 0)
    pure uri

/-- Modelled from the spec (§4.3 step 2 "draw … verify absence from the pool; redraw on conflict;
add to pool; advance cursor"): claim an index of the triple and build the entry naming it. -/
def claimStatusListIndex (entropy : Entropy) (credID : String) (request : CreateCredentialRequest)
    (t : StatusTriple) (statusListCredentialURI : String) (pool : List Nat) (cursor : Nat) :
    Body StatusList2021Entry :=
  match drawIndex pool entropy.draws with
  | none => Body.throw "could not draw a status list index"
  | some index => do
    Body.put (.statusListIndexPool t (index :: pool))
    Body.put (.statusListCurrentIndex t (cursor + 1))
    return ⟨credID ++ "/status", "StatusList2021Entry", request.statusPurpose, index,
      statusListCredentialURI⟩

/-- Modelled from the spec (§4.3 AllocateStatusEntry; `createStatusListEntryForCredential` and the
status-list storage methods are not in the source): on the triple's first use generate, sign and
store an empty status list under a fresh URI with an empty pool and a cursor at `0`; then draw an
index not in the pool, add it to the pool, advance the cursor, and return the entry. -/
def createStatusListEntryForCredential (s : Service) (entropy : Entropy) (credID : String)
    (request : CreateCredentialRequest) (slcMetadata : StatusListCredentialMetadata) :
    Body StatusList2021Entry := do
  let t := slcMetadata.triple
  let existing ← Storage.getStatusListCredentialKeyData request.issuer request.schemaID
    request.statusPurpose
  let statusListCredentialURI ← s.statusListCredentialURI entropy request t existing
  let pool ← Body.get fun σ => (σ.statusListIndexPools t).getD []
  let cursor ← Body.get fun σ => (σ.statusListCurrentIndices t).getD 0
  claimStatusListIndex entropy credID request t statusListCredentialURI pool cursor

/-- The schema block of `createCredential`: no schema without a schema id, else the resolved one. -/
def credentialSchemaFor (s : Service) (schemaID : String) : Except String (Option CredentialSchema) :=
  if schemaID = "" then .ok none
  else match s.resolveSchema schemaID with
    | none => .error ("failed to create credential; could not get schema: " ++ schemaID)
    | some schemaType => .ok (some ⟨schemaID, schemaType⟩)

/-- The status block of `createCredential`: an entry allocated in the triple when the request asks
for a status. -/
def credentialStatusFor (s : Service) (entropy : Entropy) (credentialURI : String)
    (request : CreateCredentialRequest) (statusMetadata : StatusListCredentialMetadata) :
    Body (Option StatusList2021Entry) :=
  if request.hasStatus then
    some <$> Body.wrapError "could not create status list entry for credential"
      (s.createStatusListEntryForCredential entropy credentialURI request statusMetadata)
  else pure none

/-- The method `createCredential` (`service.go` 139–264), the body of the issuance transaction. -/
def createCredential (s : Service) (entropy : Entropy) (request : CreateCredentialRequest)
    (statusMetadata : StatusListCredentialMetadata) : Body CreateCredentialResponse := do
  Body.check (!request.isStatusValid) "credential may have at most one status"
  let credentialID := entropy.credentialID
  let credentialURI := s.servicePath ++ "/" ++ credentialID
  -- check if there's a conflict with subject ID
  Body.ofError (subjectConflict request)
  -- set subject value
  let subject := setField request.data "id" (.string request.subject)
  let context := if request.context = "" then [credentialsContext]
    else [credentialsContext, request.context]
  -- if a schema value exists, verify we can access it, validate the data against it, then set it
  let credentialSchema ← Body.ofExcept (s.credentialSchemaFor request.schemaID)
  -- if an expiry value exists, set it
  Body.check (request.expiry ≠ "" && !s.isRFC3339 request.expiry)
    ("could not set expiry for credential: " ++ request.expiry)
  let credentialStatus ← s.credentialStatusFor entropy credentialURI request statusMetadata
  Body.ofError (if request.hasEvidence then errorsWrap request.validateEvidence "validating evidence"
    else none)
  let cred : VerifiableCredential :=
    { context, id := credentialURI, issuer := request.issuer, issuanceDate := s.now,
      expirationDate := request.expiry, credentialSubject := .claims subject, credentialSchema,
      credentialStatus, evidence := request.evidence }
  -- verify the built schema complies with the schema we've set
  Body.check (credentialSchema.isSome && !s.isCredentialValidForJSONSchema request.schemaID cred)
    ("credential data does not comply with the provided schema: " ++ request.schemaID)
  let credJWT ← Body.wrapError "signing credential"
    (Body.ofExcept (s.signCredentialJWT request.fullyQualifiedVerificationMethodID cred))
  let container : Container :=
    ⟨credentialID, request.fullyQualifiedVerificationMethodID, cred, credJWT, false, false⟩
  Body.wrapError "saving credential" (Storage.storeCredentialTx ⟨container⟩)
  return ⟨container⟩

/-- The closure `createCredentialFunc` hands to `Execute`. -/
def createCredentialFunc (s : Service) (entropy : Entropy) (request : CreateCredentialRequest)
    (slcMetadata : StatusListCredentialMetadata) : Body CreateCredentialResponse :=
  s.createCredential entropy request slcMetadata

/-- The watch keys and status metadata `CreateCredential` derives: the three keys of the
request's triple when it asks for a valid status, none otherwise. -/
def statusWatchKeys (request : CreateCredentialRequest) :
    List WatchKey × StatusListCredentialMetadata :=
  if request.hasStatus && request.isStatusValid then
    let p := request.statusPurpose
    ([Storage.getStatusListCredentialWatchKey request.issuer request.schemaID p,
      Storage.getStatusListIndexPoolWatchKey request.issuer request.schemaID p,
      Storage.getStatusListCurrentIndexWatchKey request.issuer request.schemaID p],
      ⟨request.triple⟩)
  else ([], default)

/-- The method `CreateCredential` (`service.go` 93–131), up to its `Execute`. -/
def CreateCredential (s : Service) (entropy : Entropy) (request : CreateCredentialRequest) :
    Body (Transaction CreateCredentialResponse) := do
  Body.ofError (errorsWrap request.isValid "validating request")
  let (watchKeys, statusMetadata) := statusWatchKeys request
  return ⟨watchKeys, s.createCredentialFunc entropy request statusMetadata⟩

/-- The closure `BatchCreateCredentials` hands to `Execute`: the issuance closures in request
order; the `i`-th consumes `entropy i`. -/
def runCreateFuncs (s : Service) (entropy : Nat → Entropy) (i : Nat) :
    List (CreateCredentialRequest × StatusListCredentialMetadata) → Body (List Container)
  | [] => pure []
  | (request, slcMetadata) :: rest => do
    let credResp ← s.createCredentialFunc (entropy i) request slcMetadata
    let credentials ← s.runCreateFuncs entropy (i + 1) rest
    return credResp.container :: credentials

/-- The method `BatchCreateCredentials` (`service.go` 601–660), up to its `Execute`: it unions
the watch keys of every request and validates none of them before the transaction. -/
def batchCreateCredentials (s : Service) (entropy : Nat → Entropy)
    (batchRequest : BatchCreateCredentialsRequest) :
    Body (Transaction BatchCreateCredentialsResponse) :=
  let prepared := batchRequest.requests.map fun r => (r, (statusWatchKeys r).2)
  pure ⟨(batchRequest.requests.map fun r => (statusWatchKeys r).1).flatten,
    (fun credentials => ⟨credentials⟩) <$> s.runCreateFuncs entropy 0 prepared⟩

end Service

end CredentialService
