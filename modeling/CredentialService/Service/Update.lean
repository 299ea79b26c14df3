import Mathlib.Data.String.Basic
import CredentialService.Model.Service

/-!
# Service/Update — the status updates, and the reads and the delete of a credential

A status update runs in two parts (`service.go` 427–580, 662–728):

* **before `Execute`** — `statusListCredentialWatchKey` reads the target credential from the
  committed store and returns the watch key of its triple's status-list credential;
* **inside `Execute`** — `updateCredentialStatusBusinessLogic` re-reads the credential, returns at
  once when the flags already match, and otherwise `updateCredentialStatus` buffers the credential
  with its new flags, regenerates the triple's status list from every stored credential of the
  ⟨issuer, schema⟩ whose flag for the *requested* status is set (plus the target when the request
  sets a flag), signs it and buffers it.

`BatchUpdateCredentialStatus` computes every request's watch key first, then runs all the update
closures inside one `Execute`; each closure still reads the committed store, not the writes of the
closures before it.

`GetCredential` and `GetCredentialStatus` read the committed store; `DeleteCredential` writes
it directly, outside any transaction.

The definitions keep the source's control flow, error texts and read/write order, which is what
the concurrency model observes.  Where Go counts a string's bytes (`parseIDFromURI`) the model
does too, and `%q` in an error text is `strconvQuote`.
-/

namespace CredentialService

/-! ## Requests and responses -/

/-- The request `UpdateCredentialStatusRequest`. -/
structure UpdateCredentialStatusRequest where
  id : String
  revoked : Bool
  suspended : Bool
deriving DecidableEq, Repr

/-- The type `Status`: a credential's flags, with its id in a batch response. -/
structure Status where
  id : String
  revoked : Bool
  suspended : Bool
deriving DecidableEq, Repr

/-- The response `UpdateCredentialStatusResponse`. -/
structure UpdateCredentialStatusResponse where
  status : Status
deriving DecidableEq, Repr

/-- The request `BatchUpdateCredentialStatusRequest`. -/
structure BatchUpdateCredentialStatusRequest where
  requests : List UpdateCredentialStatusRequest
deriving DecidableEq, Repr

/-- The response `BatchUpdateCredentialStatusResponse`. -/
structure BatchUpdateCredentialStatusResponse where
  credentialStatuses : List Status
deriving DecidableEq, Repr

/-! ## Go helpers -/

/-- The message of Go's nil-pointer panic. -/
def nilPointerDereference : String :=
  "runtime error: invalid memory address or nil pointer dereference"

/-- Dereferencing a pointer, `*p`: a nil pointer panics. -/
def deref {α : Type} : Option α → Body α
  | some a => pure a
  | none => Body.panic nilPointerDereference

/-- The type assertion `gotCred.Credential.CredentialStatus.(map[string]any)`, which panics on a
credential without status. -/
def assertCredentialStatus : Option StatusList2021Entry → Body StatusList2021Entry
  | some e => pure e
  | none => Body.panic "interface conversion: credentialStatus is nil, not map[string]any"

/-- The low `n` hex digits of `r`, most significant first, in lower case. -/
def hexDigits (r : Nat) : Nat → List Char
  | 0 => []
  | n + 1 => hexDigits (r / 16) n ++ [Nat.digitChar (r % 16)]

/-- Go's `strconv.IsPrint`.  Up to U+00FF it is decided by ranges, as here; above it Go consults
the Unicode tables of `strconv`, which the model does not carry: it takes every such code point as
printable. -/
def isPrint (r : Char) : Bool :=
  if r.toNat ≤ 0xFF then (0x20 ≤ r.toNat && r.toNat ≤ 0x7E) || (0xA1 ≤ r.toNat && r.toNat ≠ 0xAD)
  else true

/-- One rune as `strconv.Quote` writes it between double quotes (`appendEscapedRune`). -/
def quoteRune (r : Char) : List Char :=
  if r = '"' ∨ r = '\\' then ['\\', r]
  else if isPrint r then [r]
  else if r.toNat = 7 then ['\\', 'a']
  else if r.toNat = 8 then ['\\', 'b']
  else if r.toNat = 12 then ['\\', 'f']
  else if r = '\n' then ['\\', 'n']
  else if r = '\r' then ['\\', 'r']
  else if r = '\t' then ['\\', 't']
  else if r.toNat = 11 then ['\\', 'v']
  else if r.toNat < 0x20 ∨ r.toNat = 0x7F then '\\' :: 'x' :: hexDigits r.toNat 2
  else if r.toNat < 0x10000 then '\\' :: 'u' :: hexDigits r.toNat 4
  else '\\' :: 'U' :: hexDigits r.toNat 8

/-- Go's `%q` of a string, `strconv.Quote`: the string between double quotes, each rune escaped as
`quoteRune` writes it. -/
def strconvQuote (s : String) : String := ⟨'"' :: s.data.flatMap quoteRune ++ ['"']⟩

example : strconvQuote "a\"b\\c\n\x01é" = "\"a\\\"b\\\\c\\n\\x01é\"" := by decide

/-- The characters of a Go string from byte offset `n` on, the slice `s[n:]`.  A character that
starts before `n` is dropped whole: where `n` falls inside a character, Go's slice keeps that
character's remaining bytes, which are not valid UTF-8 and which a Lean string cannot hold. -/
def dropBytes : List Char → Nat → List Char
  | [], _ => []
  | cs, 0 => cs
  | c :: cs, n + 1 => dropBytes cs (n + 1 - c.utf8Size)

/-- The function `parseIDFromURI`: the trailing 36 bytes (a UUID in standard form); Go's `len` and
slicing count bytes. -/
def parseIDFromURI (uri : String) : Except String String :=
  let uuidStandardFormLen := 36
  if uri.utf8ByteSize < uuidStandardFormLen then
    .error ("cannot infer status list credential id from " ++ strconvQuote uri)
  else .ok ⟨dropBytes uri.data (uri.utf8ByteSize - uuidStandardFormLen)⟩

/-- Slicing at the byte length of a prefix is exact: the cut falls between two characters. -/
theorem dropBytes_append (a b : List Char) : dropBytes (a ++ b) (String.utf8Len a) = b := by
  induction a with
  | nil => cases b <;> rfl
  | cons c a ih =>
    obtain ⟨n, hn⟩ : ∃ n, String.utf8Len a + c.utf8Size = n + 1 :=
      ⟨_, (Nat.succ_pred_eq_of_pos (by have := c.utf8Size_pos; omega)).symm⟩
    rw [List.cons_append, String.utf8Len_cons, hn, dropBytes, ← hn, Nat.add_sub_cancel, ih]

/-- **A URI that ends in a 36-byte id parses to that id**, as every status-list URI the service
builds does (`<service path>/status/<uuid>`): on such URIs the model's slice is Go's. -/
theorem parseIDFromURI_append (pre id : String) (h : id.utf8ByteSize = 36) :
    parseIDFromURI (pre ++ id) = .ok id := by
  have hsize : (pre ++ id).utf8ByteSize = pre.utf8ByteSize + 36 := by
    rw [← h]
    exact String.utf8Len_append pre.data id.data
  simp only [parseIDFromURI, hsize, Nat.add_sub_cancel, show ¬pre.utf8ByteSize + 36 < 36 by omega,
    if_false]
  exact congrArg (fun cs => (.ok (String.mk cs) : Except String String))
    (dropBytes_append pre.data id.data)

/-! ## Regenerating a triple's status list -/

/-- The loop of `updateCredentialStatus` over the credentials of the target's ⟨issuer, schema⟩:
every other credential with a status whose stored flag for the *requested* status is set.  The
target itself is skipped ("we add the current cred … based on request"). -/
def revokedOrSuspendedStatusCreds (gotCred : StoredCredential)
    (request : UpdateCredentialStatusRequest) : List StoredCredential → List VerifiableCredential
  | [] => []
  | cred :: creds =>
    if cred.credential.id = gotCred.credential.id then
      revokedOrSuspendedStatusCreds gotCred request creds
    else if request.revoked && cred.credential.credentialStatus.isSome && cred.revoked then
      cred.credential :: revokedOrSuspendedStatusCreds gotCred request creds
    else if request.suspended && cred.credential.credentialStatus.isSome && cred.suspended then
      cred.credential :: revokedOrSuspendedStatusCreds gotCred request creds
    else revokedOrSuspendedStatusCreds gotCred request creds

/-- The credentials the regenerated list is built over: the loop's, then the target when the
request sets a flag ("add current one since it has not been saved yet"). -/
def statusListMembers (gotCred : StoredCredential) (request : UpdateCredentialStatusRequest)
    (creds : List StoredCredential) : List VerifiableCredential :=
  revokedOrSuspendedStatusCreds gotCred request creds ++
    if request.revoked || request.suspended then [gotCred.credential] else []

/-- The purpose the regenerated list is built for: suspension when the request suspends,
revocation otherwise. -/
def requestPurpose (request : UpdateCredentialStatusRequest) : String :=
  if request.suspended then statusSuspension else statusRevocation

/-- The container `updateCredentialStatus` stores: the credential with the requested flags. -/
def updatedContainer (gotCred : StoredCredential) (request : UpdateCredentialStatusRequest) :
    Container where
  id := gotCred.localCredentialID
  fullyQualifiedVerificationMethodID := gotCred.fullyQualifiedVerificationMethodID
  credential := gotCred.credential
  credentialJWT := gotCred.credentialJWT
  revoked := request.revoked
  suspended := request.suspended

namespace Service

/-- The function `updateCredentialStatus` (`service.go` 491–580). -/
def updateCredentialStatus (s : Service) (gotCred : StoredCredential)
    (request : UpdateCredentialStatusRequest) (slcMetadata : StatusListCredentialMetadata) :
    Body Container := do
  -- store the credential with updated status
  let container := updatedContainer gotCred request
  Body.wrapError "could not store credential" (Storage.storeCredentialTx ⟨container⟩)
  let statusEntry ← assertCredentialStatus gotCred.credential.credentialStatus
  let statusListCredentialURI := statusEntry.statusListCredential
  Body.check (statusListCredentialURI.length = 0) "problem with getting status list credential id"
  let statusListCredentialID ← Body.ofExcept (parseIDFromURI statusListCredentialURI)
  let creds ← Storage.getCredentialsByIssuerAndSchema gotCred.issuer gotCred.schema
  let revokedOrSuspendedStatusCreds := statusListMembers gotCred request creds
  let statusPurpose := requestPurpose request
  let generatedStatusListCredential ← Body.wrapError "could not generate status list"
    (Body.ofExcept (generateStatusList2021Credential s.now statusListCredentialURI gotCred.issuer
      statusPurpose revokedOrSuspendedStatusCreds))
  let generatedStatusListCredential :=
    { generatedStatusListCredential with credentialSchema := gotCred.credential.credentialSchema }
  let statusListCredJWT ← Body.wrapError "could not sign status list credential"
    (Body.ofExcept (s.signCredentialJWT gotCred.fullyQualifiedVerificationMethodID
      generatedStatusListCredential))
  -- store the status list credential
  let statusListContainer : Container :=
    { id := statusListCredentialID
      fullyQualifiedVerificationMethodID := gotCred.fullyQualifiedVerificationMethodID
      credential := generatedStatusListCredential
      credentialJWT := statusListCredJWT
      revoked := false
      suspended := false }
  Body.wrapError "could not store credential status list"
    (Storage.storeStatusListCredentialTx ⟨statusListContainer⟩ slcMetadata)
  return container

/-- The method `updateCredentialStatusBusinessLogic` (`service.go` 457–489), the body of the
update transaction. -/
def updateCredentialStatusBusinessLogic (s : Service) (request : UpdateCredentialStatusRequest)
    (slcMetadata : StatusListCredentialMetadata) : Body UpdateCredentialStatusResponse := do
  Body.check (request.suspended && request.revoked)
    "cannot update both suspended and revoked status"
  let gotCred ← Body.wrapError ("could not get credential: " ++ request.id)
    (Storage.getCredential request.id)
  Body.check (!gotCred.isValid) ("credential returned is not valid: " ++ request.id)
  -- if the request is the same as what the current credential is there is no action
  if gotCred.revoked == request.revoked && gotCred.suspended == request.suspended then
    return ⟨⟨"", gotCred.revoked, gotCred.suspended⟩⟩
  else
    let container ← Body.wrapError "updating credential"
      (s.updateCredentialStatus gotCred request slcMetadata)
    return ⟨⟨"", container.revoked, container.suspended⟩⟩

/-- The closure `updateCredentialStatusFunc` hands to `Execute`. -/
def updateCredentialStatusFunc (s : Service) (request : UpdateCredentialStatusRequest)
    (slcMetadata : StatusListCredentialMetadata) : Body UpdateCredentialStatusResponse :=
  s.updateCredentialStatusBusinessLogic request slcMetadata

/-- The method `statusListCredentialWatchKey` (`service.go` 702–728): the watch key of the
credential's triple's status list, returned as the triple it is built from.  When the triple has
no status list, `GetStatusListCredentialKeyData` returns no record and a nil `err`, and
`errors.Wrap(err, …)` of a nil `err` is nil: the method then returns a nil key and a nil error. -/
def statusListCredentialWatchKey (id : String) : Body (Option StatusTriple) := do
  let gotCred ← Body.wrapError "reading credential" (Storage.getCredential id)
  Body.check (!gotCred.hasCredentialStatus)
    ("credential \"" ++ gotCred.localCredentialID ++ "\" has no credentialStatus field")
  let statusPurpose := gotCred.getStatusPurpose
  Body.check (statusPurpose.length = 0) "status purpose could not be derived from credential status"
  let statusListCredential ← Body.wrapError "getting status list watch key uuid data"
    (Storage.getStatusListCredentialKeyData gotCred.issuer gotCred.schema statusPurpose)
  match statusListCredential with
  | none =>
    -- here `err` is nil
    match errorsWrap none "status list credential should exist in order to update" with
    | some e => Body.throw e
    | none => return none
  | some _ => return some ⟨gotCred.issuer, gotCred.schema, statusPurpose⟩

/-- The method `UpdateCredentialStatus` (`service.go` 427–449), up to its `Execute`. -/
def UpdateCredentialStatus (s : Service) (request : UpdateCredentialStatusRequest) :
    Body (Transaction UpdateCredentialStatusResponse) := do
  let statusListCredentialWatchKey ← statusListCredentialWatchKey request.id
  let t ← deref statusListCredentialWatchKey
  let slcMetadata : StatusListCredentialMetadata := ⟨t⟩
  return ⟨[.statusListCredential t], s.updateCredentialStatusFunc request slcMetadata⟩

/-- The loop of `BatchUpdateCredentialStatus` before `Execute`: each request's watch key, as its
triple. -/
def prepareUpdateFuncs :
    List UpdateCredentialStatusRequest → Body (List (UpdateCredentialStatusRequest × StatusTriple))
  | [] => pure []
  | request :: requests => do
    let statusListCredentialWatchKey ← statusListCredentialWatchKey request.id
    let t ← deref statusListCredentialWatchKey
    let rest ← prepareUpdateFuncs requests
    return (request, t) :: rest

/-- The closure `BatchUpdateCredentialStatus` hands to `Execute`: the update closures in request
order, each status tagged with its request's id. -/
def runUpdateFuncs (s : Service) :
    List (UpdateCredentialStatusRequest × StatusTriple) → Body (List Status)
  | [] => pure []
  | (request, t) :: rest => do
    let updateResp ← s.updateCredentialStatusFunc request ⟨t⟩
    let statuses ← s.runUpdateFuncs rest
    return { updateResp.status with id := request.id } :: statuses

/-- The method `BatchUpdateCredentialStatus` (`service.go` 662–700), up to its `Execute`. -/
def batchUpdateCredentialStatus (s : Service) (batchRequest : BatchUpdateCredentialStatusRequest) :
    Body (Transaction BatchUpdateCredentialStatusResponse) := do
  let prepared ← prepareUpdateFuncs batchRequest.requests
  return ⟨prepared.map fun p => .statusListCredential p.2,
    (fun statuses => ⟨statuses⟩) <$> s.runUpdateFuncs prepared⟩

end Service

/-! ## Reading and deleting -/

/-- The request `GetCredentialRequest`. -/
structure GetCredentialRequest where
  id : String

/-- The request `DeleteCredentialRequest`. -/
structure DeleteCredentialRequest where
  id : String

/-- The request `GetCredentialStatusRequest`. -/
structure GetCredentialStatusRequest where
  id : String

/-- The response `GetCredentialStatusResponse`. -/
structure GetCredentialStatusResponse where
  revoked : Bool
  suspended : Bool
deriving DecidableEq, Repr

namespace Service

/-- The method `GetCredential` (`service.go` 339–359): the stored container. -/
def getCredential (request : GetCredentialRequest) : Body Container := do
  let gotCred ← Body.wrapError ("could not get credential: " ++ request.id)
    (Storage.getCredential request.id)
  Body.check (!gotCred.isValid) ("credential returned is not valid: " ++ request.id)
  return ⟨gotCred.localCredentialID, "", gotCred.credential, gotCred.credentialJWT,
    gotCred.revoked, gotCred.suspended⟩

/-- The method `GetCredentialStatus` (`service.go` 388–403): the stored flags. -/
def getCredentialStatus (request : GetCredentialStatusRequest) : Body GetCredentialStatusResponse := do
  let gotCred ← Body.wrapError ("could not get credential: " ++ request.id)
    (Storage.getCredential request.id)
  Body.check (!gotCred.isValid) ("credential returned is not valid: " ++ request.id)
  return ⟨gotCred.revoked, gotCred.suspended⟩

/-- The method `DeleteCredential` (`service.go` 590–599): a direct storage delete, outside any
transaction; it never fails. -/
def deleteCredential (σ : Store) (request : DeleteCredentialRequest) : Store :=
  Storage.deleteCredential σ request.id

end Service

end CredentialService
