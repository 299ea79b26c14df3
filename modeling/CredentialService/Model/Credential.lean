import Mathlib.Data.List.Sort

/-!
# Model/Credential — the credential records the service stores

The W3C data the credential service reads and writes, cut down to the fields it touches:

* `VerifiableCredential` — the VC document (`credential.VerifiableCredential` of the SDK); its
  `credentialStatus`, when present, is a `StatusList2021Entry` naming a status-list credential and a
  bit index in it.
* `StoredCredential` — the record kept in the `credential` namespace, with its secondary-index
  fields `issuer`, `subject`, `schema` derived from the credential.
* `StatusTriple` — ⟨issuer, schema, purpose⟩, the key of a status list and of its index pool and
  cursor.

A status-list credential is a `VerifiableCredential` whose subject is `statusList2021`; the model
keeps its **decoded** bitstring, the increasing list of set indices, in place of the base64 of the
gzip of the bits.
-/

namespace CredentialService

/-! ## Status purposes -/

/-- The SDK constant `statussdk.StatusRevocation`. -/
def statusRevocation : String := "revocation"

/-- The SDK constant `statussdk.StatusSuspension`. -/
def statusSuspension : String := "suspension"

/-! ## Verifiable credentials -/

/-- The SDK type `status.StatusList2021Entry`, the `credentialStatus` of a revocable or
suspendable credential. The source writes `statusListIndex` as a decimal string
(`strconv.Itoa`); the model keeps the number. -/
structure StatusList2021Entry where
  id : String
  type : String
  statusPurpose : String
  statusListIndex : Nat
  statusListCredential : String
deriving DecidableEq, Repr

/-- The SDK type `credential.CredentialSchema`. -/
structure CredentialSchema where
  id : String
  type : String
deriving DecidableEq, Repr

/-- A value of a JSON object decoded into Go's `map[string]any`: a string, or any other JSON
value, kept as the text `fmt`'s `%s` prints for it. -/
inductive JSONValue where
  | string (s : String)
  | other (formatted : String)
deriving DecidableEq, Repr

/-- The text `%s` prints for a value. -/
def JSONValue.format : JSONValue → String
  | .string s => s
  | .other formatted => formatted

/-- The `credentialSubject` of a VC: the claims of an issued credential (a JSON object), or the
subject of a StatusList2021 credential with its decoded bitstring. -/
inductive CredentialSubject where
  | claims (fields : List (String × JSONValue))
  | statusList2021 (id : String) (statusPurpose : String) (encodedList : List Nat)
deriving DecidableEq, Repr

/-- One element of a request's `evidence` list: a JSON object (its fields), or any other JSON
value (`none`). -/
abbrev Evidence := Option (List (String × String))

/-- The SDK type `credential.VerifiableCredential`, with the fields the service sets or reads. -/
structure VerifiableCredential where
  context : List String
  id : String
  issuer : String
  issuanceDate : String
  expirationDate : String
  credentialSubject : CredentialSubject
  credentialSchema : Option CredentialSchema
  credentialStatus : Option StatusList2021Entry
  evidence : List Evidence
deriving DecidableEq, Repr

/-- The type `keyaccess.JWT`: the compact token `SignVerifiableCredential` returns, kept as what
was signed (the credential) and with which key. -/
structure JWT where
  kid : String
  verificationMethodID : String
  credential : VerifiableCredential
deriving DecidableEq, Repr

/-! ## Stored records -/

/-- The type `credint.Container`: a credential with its JWT and status flags, as the service hands
it to storage and back to callers. -/
structure Container where
  id : String
  fullyQualifiedVerificationMethodID : String
  credential : VerifiableCredential
  credentialJWT : JWT
  revoked : Bool
  suspended : Bool
deriving DecidableEq, Repr

/-- The record `StoredCredential` of the `credential` namespace, keyed by `localCredentialID`.  Its
secondary-index fields are derived from the credential (`StoredCredential.issuer`, `.schema`,
`.subject`), as `buildStoredCredential`, the only writer of records, derives them. -/
structure StoredCredential where
  localCredentialID : String
  fullyQualifiedVerificationMethodID : String
  credential : VerifiableCredential
  credentialJWT : JWT
  revoked : Bool
  suspended : Bool
deriving DecidableEq, Repr

/-- The id of a credential subject (`credentialSubject["id"]`), empty unless it is a string. -/
def CredentialSubject.subjectID : CredentialSubject → String
  | .claims fields =>
    match fields.lookup "id" with
    | some (.string id) => id
    | _ => ""
  | .statusList2021 id _ _ => id

/-- Modelled from the spec (§2 "Credential store: persist credentials and derive secondary indices
(issuer, schema, subject)"; `buildStoredCredential` is not in the source): the record a container
is stored as. -/
def buildStoredCredential (c : Container) : StoredCredential :=
  ⟨c.id, c.fullyQualifiedVerificationMethodID, c.credential, c.credentialJWT, c.revoked,
    c.suspended⟩

namespace StoredCredential

/-- The record's `Issuer` index: the credential's issuer. -/
def issuer (sc : StoredCredential) : String := sc.credential.issuer

/-- The record's `Schema` index: the credential's schema id, empty without a schema. -/
def schema (sc : StoredCredential) : String :=
  (sc.credential.credentialSchema.map (·.id)).getD ""

/-- The record's `Subject` index: the id of the credential subject. -/
def subject (sc : StoredCredential) : String := sc.credential.credentialSubject.subjectID

/-- Modelled from the spec (§4.4 preamble "Fail if the credential has no `credentialStatus`"): the
record method `HasCredentialStatus`, the credential carries a `credentialStatus`. -/
def hasCredentialStatus (sc : StoredCredential) : Bool := sc.credential.credentialStatus.isSome

/-- Modelled from the spec (§4.4 preamble "derive its triple and purpose"; §6
StatusList2021Entry "`statusPurpose`"): the record method `GetStatusPurpose`, the `statusPurpose`
of the credential's status entry, empty without one. -/
def getStatusPurpose (sc : StoredCredential) : String :=
  (sc.credential.credentialStatus.map (·.statusPurpose)).getD ""

/-- Modelled from the spec (§3 "Credential (stored record). Fields: local id (UUID), … the VC
document, the signed JWT"): the record method `IsValid`, the record names its credential.  Every
record of the model carries its credential and JWT, so the check is the non-empty local id. -/
def isValid (sc : StoredCredential) : Bool := sc.localCredentialID != ""

end StoredCredential

/-! ## Status triples -/

/-- The triple ⟨issuer, schema, purpose⟩: the aggregation key of a status list. The source hashes
`is/<issuer>/sc/<schema>/sp/<purpose>`; the model keeps the triple, so distinct triples have
distinct keys. -/
structure StatusTriple where
  issuer : String
  schema : String
  purpose : String
deriving DecidableEq, Repr, Inhabited

namespace StoredCredential

/-- The status triple a stored credential belongs to: its issuer, its schema and the purpose of
its status entry. A credential without `credentialStatus` belongs to none. -/
def triple (sc : StoredCredential) : Option StatusTriple :=
  sc.credential.credentialStatus.map fun e => ⟨sc.issuer, sc.schema, e.statusPurpose⟩

theorem triple_eq_some_iff {sc : StoredCredential} {t : StatusTriple} :
    sc.triple = some t ↔ sc.credential.credentialStatus.isSome = true ∧ sc.issuer = t.issuer ∧
      sc.schema = t.schema ∧ sc.getStatusPurpose = t.purpose := by
  unfold triple getStatusPurpose
  cases sc.credential.credentialStatus with
  | none => simp
  | some e =>
    cases t
    simp [eq_comm]

/-- The credential's flag for a status purpose: `revoked` for revocation, `suspended` for
suspension. -/
def flag (sc : StoredCredential) (purpose : String) : Bool :=
  if purpose = statusRevocation then sc.revoked
  else if purpose = statusSuspension then sc.suspended
  else false

/-- The credential with its status flags replaced; every other field is kept. -/
def withFlags (sc : StoredCredential) (revoked suspended : Bool) : StoredCredential :=
  { sc with revoked, suspended }

@[simp] theorem triple_withFlags (sc : StoredCredential) (r s : Bool) :
    (sc.withFlags r s).triple = sc.triple := rfl

@[simp] theorem localCredentialID_withFlags (sc : StoredCredential) (r s : Bool) :
    (sc.withFlags r s).localCredentialID = sc.localCredentialID := rfl

@[simp] theorem credential_withFlags (sc : StoredCredential) (r s : Bool) :
    (sc.withFlags r s).credential = sc.credential := rfl

@[simp] theorem getStatusPurpose_withFlags (sc : StoredCredential) (r s : Bool) :
    (sc.withFlags r s).getStatusPurpose = sc.getStatusPurpose := rfl

@[simp] theorem revoked_withFlags (sc : StoredCredential) (r s : Bool) :
    (sc.withFlags r s).revoked = r := rfl

@[simp] theorem suspended_withFlags (sc : StoredCredential) (r s : Bool) :
    (sc.withFlags r s).suspended = s := rfl

end StoredCredential

/-- The bit at index `i` of a status-list credential's decoded bitstring. -/
def decodedBit (slc : StoredCredential) (i : Nat) : Bool :=
  match slc.credential.credentialSubject with
  | .statusList2021 _ _ encodedList => encodedList.contains i
  | .claims _ => false

/-- The `statusPurpose` written in a status-list credential's subject. -/
def listPurpose (slc : StoredCredential) : Option String :=
  match slc.credential.credentialSubject with
  | .statusList2021 _ statusPurpose _ => some statusPurpose
  | .claims _ => none

end CredentialService
