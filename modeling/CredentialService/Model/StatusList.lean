import CredentialService.Model.Credential
import Mathlib.Data.List.Dedup

/-!
# Model/StatusList — the SDK's StatusList2021 generation, by its contract

`statussdk.GenerateStatusList2021Credential(id, issuer, purpose, creds)` is a library call: it
checks that every listed credential carries a StatusList2021 entry of the requested purpose,
reporting every offender (`credential<ID> has a different status purpose<X> value than the status
credential<Y>`), and otherwise builds a status-list VC whose bitstring has exactly the listed
credentials' indices set.  The model keeps that contract:

* `generateStatusList2021Credential_eq` — it succeeds iff every listed credential passes
  `statusEntryError`, and then returns `statusList2021Credential` over their indices;
* `decodedBit_statusList` — bit `i` of the stored result is set iff some listed credential has
  index `i`.
-/

namespace CredentialService

/-- The VC-data-model context every credential carries. -/
def credentialsContext : String := "https://www.w3.org/2018/credentials/v1"

/-- The context of a StatusList2021 credential. -/
def statusList2021Context : String := "https://w3id.org/vc/status-list/2021/v1"

/-- What `prepareCredentialsForStatusList` reports about one listed credential: nothing when it
carries a StatusList2021 entry of the requested purpose. -/
def statusEntryError (purpose : String) (cred : VerifiableCredential) : Option String :=
  match cred.credentialStatus with
  | none => some ("credential<" ++ cred.id ++ "> has no StatusList2021 credentialStatus")
  | some e =>
    if e.statusPurpose = purpose then none
    else some ("credential<" ++ cred.id ++ "> has a different status purpose<" ++
      e.statusPurpose ++ "> value than the status credential<" ++ purpose ++ ">")

/-- The SDK's `bitstringGeneration`, decoded: the set indices, each once, in increasing order. -/
def bitstringGeneration (indices : List Nat) : List Nat :=
  indices.dedup.insertionSort (· ≤ ·)

/-- The status-list VC the SDK builds over a list of indices. -/
def statusList2021Credential (now id issuer purpose : String) (indices : List Nat) :
    VerifiableCredential where
  context := [credentialsContext, statusList2021Context]
  id := id
  issuer := issuer
  issuanceDate := now
  expirationDate := ""
  credentialSubject := .statusList2021 id purpose (bitstringGeneration indices)
  credentialSchema := none
  credentialStatus := none
  evidence := []

/-- The status indices of the listed credentials. -/
def statusIndices (creds : List VerifiableCredential) : List Nat :=
  creds.filterMap fun c => c.credentialStatus.map (·.statusListIndex)

/-- The SDK's `GenerateStatusList2021Credential`; `now` is the issuance time the builder stamps. -/
def generateStatusList2021Credential (now id issuer purpose : String)
    (issuedCredentials : List VerifiableCredential) : Except String VerifiableCredential :=
  match issuedCredentials.filterMap (statusEntryError purpose) with
  | [] => .ok (statusList2021Credential now id issuer purpose (statusIndices issuedCredentials))
  | errs => .error ("could not generate status list credential for purpose: " ++ purpose ++
      ": " ++ ", ".intercalate errs)

theorem statusEntryError_eq_none {purpose : String} {cred : VerifiableCredential} :
    statusEntryError purpose cred = none ↔
      ∃ e, cred.credentialStatus = some e ∧ e.statusPurpose = purpose := by
  unfold statusEntryError
  split <;> simp_all

/-- **The generation contract.** -/
theorem generateStatusList2021Credential_eq {now id issuer purpose : String}
    {creds : List VerifiableCredential} {vc : VerifiableCredential} :
    generateStatusList2021Credential now id issuer purpose creds = .ok vc ↔
      (∀ c ∈ creds, ∃ e, c.credentialStatus = some e ∧ e.statusPurpose = purpose) ∧
        vc = statusList2021Credential now id issuer purpose (statusIndices creds) := by
  unfold generateStatusList2021Credential
  split
  · rename_i h
    simp only [List.filterMap_eq_nil_iff, ← statusEntryError_eq_none] at h
    simp only [Except.ok.injEq]
    exact ⟨fun hv => ⟨fun c hc => statusEntryError_eq_none.mp (h c hc), hv.symm⟩,
      fun hv => hv.2.symm⟩
  · rename_i errs h
    simp only [reduceCtorEq, false_iff, not_and]
    intro hall
    exact absurd (List.filterMap_eq_nil_iff.mpr fun c hc =>
      statusEntryError_eq_none.mpr (hall c hc)) h

/-- Bit `i` of the generated list is set iff some listed credential has index `i`. -/
theorem mem_bitstringGeneration {indices : List Nat} {i : Nat} :
    i ∈ bitstringGeneration indices ↔ i ∈ indices := by
  simp [bitstringGeneration, List.mem_insertionSort, List.mem_dedup]

theorem mem_statusIndices {creds : List VerifiableCredential} {i : Nat} :
    i ∈ statusIndices creds ↔
      ∃ c ∈ creds, ∃ e, c.credentialStatus = some e ∧ e.statusListIndex = i := by
  simp [statusIndices]

/-- **What a stored status list says**: bit `i` of a record whose subject is a generated list is
set iff some listed credential has index `i`. -/
theorem decodedBit_statusList {slc : StoredCredential} {now id issuer purpose : String}
    {creds : List VerifiableCredential}
    (h : slc.credential.credentialSubject =
      (statusList2021Credential now id issuer purpose (statusIndices creds)).credentialSubject)
    (i : Nat) :
    decodedBit slc i = true ↔
      ∃ c ∈ creds, ∃ e, c.credentialStatus = some e ∧ e.statusListIndex = i := by
  simp only [decodedBit, h, statusList2021Credential, List.elem_iff, mem_bitstringGeneration,
    mem_statusIndices]

/-- The purpose a stored generated list records is the purpose it was generated for. -/
theorem listPurpose_statusList {slc : StoredCredential} {now id issuer purpose : String}
    {indices : List Nat}
    (h : slc.credential.credentialSubject =
      (statusList2021Credential now id issuer purpose indices).credentialSubject) :
    listPurpose slc = some purpose := by
  simp [listPurpose, h, statusList2021Credential]

end CredentialService
