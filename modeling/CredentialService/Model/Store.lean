import CredentialService.Model.Credential

/-!
# Model/Store — the storage engine's committed state and the writes a transaction buffers

The service persists four logical namespaces (spec §6):

    credential / <uuid>                       → StoredCredential
    status-list-credential / hash(triple)     → the triple's status-list credential
    status-list-index-pool / hash(triple)     → the indices already assigned in the triple
    status-list-current-index / hash(triple)  → the allocation cursor

`Store` is their committed contents.  A transaction never writes the store directly: its writes
are `Write`s buffered in `tx`, and `Store.commit` applies them when `Execute` commits.  Each write
touches one `WatchKey`, the unit of optimistic-concurrency versioning.

The credential namespace is a list of records in storage order.  A put replaces the record with
the same local id in place (a new id goes last), so storing a record never moves the others.
-/

namespace CredentialService

/-- The storage layer's `storage.WatchKey`: a namespace and a key in it.  The three status-list
namespaces are keyed by the triple. -/
inductive WatchKey where
  | credential (id : String)
  | statusListCredential (t : StatusTriple)
  | statusListIndexPool (t : StatusTriple)
  | statusListCurrentIndex (t : StatusTriple)
deriving DecidableEq, Repr

/-- The committed contents of the four namespaces. -/
structure Store where
  credentials : List StoredCredential
  statusListCredentials : StatusTriple → Option StoredCredential
  statusListIndexPools : StatusTriple → Option (List Nat)
  statusListCurrentIndices : StatusTriple → Option Nat

/-- A write buffered in `tx` until `Execute` commits. -/
inductive Write where
  | credential (sc : StoredCredential)
  | statusListCredential (t : StatusTriple) (slc : StoredCredential)
  | statusListIndexPool (t : StatusTriple) (pool : List Nat)
  | statusListCurrentIndex (t : StatusTriple) (index : Nat)
deriving DecidableEq, Repr

/-- The key a write touches. -/
def Write.key : Write → WatchKey
  | .credential sc => .credential sc.localCredentialID
  | .statusListCredential t _ => .statusListCredential t
  | .statusListIndexPool t _ => .statusListIndexPool t
  | .statusListCurrentIndex t _ => .statusListCurrentIndex t

/-! ## The credential namespace -/

/-- The record stored under a local id. -/
def findCredential (cs : List StoredCredential) (id : String) : Option StoredCredential :=
  cs.find? fun c => decide (c.localCredentialID = id)

/-- `sc` in place of a record with its local id; any other record is kept. -/
def replaceCredential (sc c : StoredCredential) : StoredCredential :=
  if c.localCredentialID = sc.localCredentialID then sc else c

/-- Store a record under its local id: in place of the record stored there, or after the others
when the id is new. -/
def putCredential (cs : List StoredCredential) (sc : StoredCredential) : List StoredCredential :=
  if (findCredential cs sc.localCredentialID).isSome then cs.map (replaceCredential sc)
  else cs ++ [sc]

/-- The records other than the one stored under `id`. -/
def eraseCredential (cs : List StoredCredential) (id : String) : List StoredCredential :=
  cs.filter fun c => decide (c.localCredentialID ≠ id)

@[simp] theorem localCredentialID_replaceCredential (sc c : StoredCredential) :
    (replaceCredential sc c).localCredentialID = c.localCredentialID := by
  unfold replaceCredential
  split <;> simp_all

/-- Looking a record up commutes with any change of the records that keeps their local ids. -/
theorem findCredential_map {f : StoredCredential → StoredCredential}
    (hf : ∀ c, (f c).localCredentialID = c.localCredentialID) (cs : List StoredCredential)
    (id : String) : findCredential (cs.map f) id = (findCredential cs id).map f := by
  simp only [findCredential, List.find?_map]
  congr 2
  funext c
  simp [hf]

@[simp] theorem findCredential_putCredential (cs : List StoredCredential) (sc : StoredCredential)
    (id : String) :
    findCredential (putCredential cs sc) id =
      if id = sc.localCredentialID then some sc else findCredential cs id := by
  unfold putCredential
  split
  · rename_i h
    rw [findCredential_map (localCredentialID_replaceCredential sc)]
    split
    · subst id
      obtain ⟨c, hc⟩ := Option.isSome_iff_exists.mp h
      have hid : c.localCredentialID = sc.localCredentialID := by
        simpa using List.find?_some hc
      simp [hc, replaceCredential, hid]
    · rename_i hne
      cases hc : findCredential cs id with
      | none => rfl
      | some c =>
        have hid : c.localCredentialID = id := by simpa using List.find?_some hc
        simp [replaceCredential, hid, hne]
  · rename_i h
    have h' : findCredential cs sc.localCredentialID = none := by simpa using h
    simp only [findCredential, List.find?_append] at h' ⊢
    split
    · subst id
      simp [h']
    · rename_i hne
      cases List.find? (fun c => decide (c.localCredentialID = id)) cs <;>
        simp [Ne.symm hne]

theorem mem_putCredential {cs : List StoredCredential} {sc c : StoredCredential}
    (h : c ∈ putCredential cs sc) : c = sc ∨ c ∈ cs := by
  unfold putCredential at h
  split at h
  · obtain ⟨c', hc', rfl⟩ := List.mem_map.mp h
    unfold replaceCredential
    split
    · exact .inl rfl
    · exact .inr hc'
  · simpa [or_comm] using h

/-- A record after a put is the stored one, or an earlier record under another local id. -/
theorem mem_putCredential_cases {cs : List StoredCredential} {sc c : StoredCredential}
    (h : c ∈ putCredential cs sc) :
    c = sc ∨ (c ∈ cs ∧ c.localCredentialID ≠ sc.localCredentialID) := by
  unfold putCredential at h
  split at h
  · obtain ⟨c', hc', rfl⟩ := List.mem_map.mp h
    unfold replaceCredential
    split
    · exact .inl rfl
    · exact .inr ⟨hc', ‹_›⟩
  · rename_i hn
    rcases List.mem_append.mp h with hc | hc
    · refine .inr ⟨hc, fun hid => hn ?_⟩
      simpa [findCredential, List.find?_isSome] using ⟨c, hc, hid⟩
    · exact .inl (List.mem_singleton.mp hc)

theorem putCredential_of_mem {cs : List StoredCredential} {sc g : StoredCredential} (hg : g ∈ cs)
    (hid : g.localCredentialID = sc.localCredentialID) :
    putCredential cs sc = cs.map (replaceCredential sc) := by
  have : (findCredential cs sc.localCredentialID).isSome := by
    simpa [findCredential, List.find?_isSome] using ⟨g, hg, hid⟩
  simp [putCredential, this]

/-- Storing a record under an existing id changes no view of the records that agrees on the
records it replaces. -/
theorem map_putCredential_eq {β : Type} (f : StoredCredential → β) {cs : List StoredCredential}
    {sc : StoredCredential} (hex : ∃ c ∈ cs, c.localCredentialID = sc.localCredentialID)
    (hf : ∀ c ∈ cs, c.localCredentialID = sc.localCredentialID → f sc = f c) :
    (putCredential cs sc).map f = cs.map f := by
  obtain ⟨g, hg, hid⟩ := hex
  rw [putCredential_of_mem hg hid, List.map_map]
  refine List.map_congr_left fun c hc => ?_
  simp only [Function.comp_apply, replaceCredential]
  split
  · exact hf c hc ‹_›
  · rfl

theorem findCredential_mem {cs : List StoredCredential} {id : String} {sc : StoredCredential}
    (h : findCredential cs id = some sc) : sc ∈ cs ∧ sc.localCredentialID = id :=
  ⟨List.mem_of_find?_eq_some h, by simpa using List.find?_some h⟩

/-- Storing a record keeps the local ids distinct. -/
theorem nodup_putCredential {cs : List StoredCredential}
    (h : (cs.map (·.localCredentialID)).Nodup) (sc : StoredCredential) :
    ((putCredential cs sc).map (·.localCredentialID)).Nodup := by
  unfold putCredential
  split
  · simpa [Function.comp_def] using h
  · rename_i hn
    have : sc.localCredentialID ∉ cs.map (·.localCredentialID) := by
      simpa [findCredential, List.find?_isSome] using hn
    simpa [List.nodup_append, this] using h

@[simp] theorem findCredential_eraseCredential (cs : List StoredCredential) (id id' : String) :
    findCredential (eraseCredential cs id) id' =
      if id' = id then none else findCredential cs id' := by
  simp only [findCredential, eraseCredential, List.find?_filter]
  split
  · subst id'
    simp
  · congr 1
    funext c
    by_cases hc : c.localCredentialID = id' <;> simp_all

/-! ## Committed state -/

namespace Store

/-- The empty store. -/
def empty : Store := ⟨[], fun _ => none, fun _ => none, fun _ => none⟩

/-- Apply one buffered write. -/
def apply (σ : Store) : Write → Store
  | .credential sc => { σ with credentials := putCredential σ.credentials sc }
  | .statusListCredential t slc =>
    { σ with statusListCredentials := Function.update σ.statusListCredentials t (some slc) }
  | .statusListIndexPool t pool =>
    { σ with statusListIndexPools := Function.update σ.statusListIndexPools t (some pool) }
  | .statusListCurrentIndex t index =>
    { σ with
      statusListCurrentIndices := Function.update σ.statusListCurrentIndices t (some index) }

/-- Commit a transaction's buffered writes, in the order they were made. -/
def commit (σ : Store) (ws : List Write) : Store := ws.foldl apply σ

@[simp] theorem commit_nil (σ : Store) : σ.commit [] = σ := rfl

@[simp] theorem commit_cons (σ : Store) (w : Write) (ws : List Write) :
    σ.commit (w :: ws) = (σ.apply w).commit ws := rfl

theorem commit_append (σ : Store) (ws ws' : List Write) :
    σ.commit (ws ++ ws') = (σ.commit ws).commit ws' := List.foldl_append _ _ _ _

/-- The record stored under a local id (`credential / <id>`). -/
def getCredential (σ : Store) (id : String) : Option StoredCredential :=
  findCredential σ.credentials id

/-- Every stored credential with the given issuer and schema, in key order. -/
def credentialsByIssuerAndSchema (σ : Store) (issuer schema : String) : List StoredCredential :=
  σ.credentials.filter fun c => decide (c.issuer = issuer ∧ c.schema = schema)

/-- Delete the record stored under a local id; absent ids are no error. -/
def deleteCredential (σ : Store) (id : String) : Store :=
  { σ with credentials := eraseCredential σ.credentials id }

/-- No two records share a local id. -/
def Nodup (σ : Store) : Prop := (σ.credentials.map (·.localCredentialID)).Nodup

theorem Nodup.apply {σ : Store} (h : σ.Nodup) (w : Write) : (σ.apply w).Nodup := by
  cases w with
  | credential sc => exact nodup_putCredential h sc
  | _ => exact h

theorem Nodup.commit {σ : Store} (h : σ.Nodup) (ws : List Write) : (σ.commit ws).Nodup := by
  induction ws generalizing σ with
  | nil => exact h
  | cons w ws ih => exact ih (h.apply w)

theorem Nodup.deleteCredential {σ : Store} (h : σ.Nodup) (id : String) :
    (σ.deleteCredential id).Nodup :=
  h.sublist ((List.filter_sublist _).map _)

@[simp] theorem getCredential_apply_credential (σ : Store) (sc : StoredCredential) (id : String) :
    (σ.apply (.credential sc)).getCredential id =
      if id = sc.localCredentialID then some sc else σ.getCredential id :=
  findCredential_putCredential _ _ _

@[simp] theorem statusListCredentials_apply_statusListCredential (σ : Store) (t : StatusTriple)
    (slc : StoredCredential) :
    (σ.apply (.statusListCredential t slc)).statusListCredentials =
      Function.update σ.statusListCredentials t (some slc) := rfl

@[simp] theorem getCredential_deleteCredential (σ : Store) (id id' : String) :
    (σ.deleteCredential id).getCredential id' =
      if id' = id then none else σ.getCredential id' :=
  findCredential_eraseCredential _ _ _

/-- A write under another key leaves the record under `id` as it is. -/
theorem getCredential_apply_of_key_ne {σ : Store} {w : Write} {id : String}
    (h : w.key ≠ .credential id) : (σ.apply w).getCredential id = σ.getCredential id := by
  cases w with
  | credential sc =>
    have hne : id ≠ sc.localCredentialID := fun he => h (by rw [he]; rfl)
    simp [hne]
  | _ => rfl

theorem getCredential_commit_of_key_ne {σ : Store} {ws : List Write} {id : String}
    (h : ∀ w ∈ ws, w.key ≠ .credential id) : (σ.commit ws).getCredential id = σ.getCredential id := by
  induction ws generalizing σ with
  | nil => rfl
  | cons w ws ih =>
    rw [commit_cons, ih fun w' hw' => h w' (.tail _ hw'),
      getCredential_apply_of_key_ne (h w (.head _))]

/-- A write under another key leaves the list of triple `t` as it is. -/
theorem statusListCredentials_apply_of_key_ne {σ : Store} {w : Write} {t : StatusTriple}
    (h : w.key ≠ .statusListCredential t) :
    (σ.apply w).statusListCredentials t = σ.statusListCredentials t := by
  cases w with
  | statusListCredential t' slc =>
    have hne : t ≠ t' := fun he => h (by rw [he]; rfl)
    simp [hne]
  | _ => rfl

/-- A write under another key leaves the pool of triple `t` as it is. -/
theorem statusListIndexPools_apply_of_key_ne {σ : Store} {w : Write} {t : StatusTriple}
    (h : w.key ≠ .statusListIndexPool t) :
    (σ.apply w).statusListIndexPools t = σ.statusListIndexPools t := by
  cases w with
  | statusListIndexPool t' pool =>
    have hne : t ≠ t' := fun he => h (by rw [he]; rfl)
    simp [apply, hne]
  | _ => rfl

/-- A write under another key leaves the cursor of triple `t` as it is. -/
theorem statusListCurrentIndices_apply_of_key_ne {σ : Store} {w : Write} {t : StatusTriple}
    (h : w.key ≠ .statusListCurrentIndex t) :
    (σ.apply w).statusListCurrentIndices t = σ.statusListCurrentIndices t := by
  cases w with
  | statusListCurrentIndex t' index =>
    have hne : t ≠ t' := fun he => h (by rw [he]; rfl)
    simp [apply, hne]
  | _ => rfl

/-- A commit leaves alone what each of its writes leaves alone. -/
theorem commit_preserves {β : Type} (f : Store → β) {ws : List Write}
    (hf : ∀ w ∈ ws, ∀ σ : Store, f (σ.apply w) = f σ) (σ : Store) : f (σ.commit ws) = f σ := by
  induction ws generalizing σ with
  | nil => rfl
  | cons w ws ih => rw [commit_cons, ih (fun w' hw' => hf w' (.tail _ hw')), hf w (.head _)]

theorem statusListCredentials_commit_of_key_ne {σ : Store} {ws : List Write} {t : StatusTriple}
    (h : ∀ w ∈ ws, w.key ≠ .statusListCredential t) :
    (σ.commit ws).statusListCredentials t = σ.statusListCredentials t :=
  commit_preserves (·.statusListCredentials t)
    (fun w hw _ => statusListCredentials_apply_of_key_ne (h w hw)) σ

theorem statusListIndexPools_commit_of_key_ne {σ : Store} {ws : List Write} {t : StatusTriple}
    (h : ∀ w ∈ ws, w.key ≠ .statusListIndexPool t) :
    (σ.commit ws).statusListIndexPools t = σ.statusListIndexPools t :=
  commit_preserves (·.statusListIndexPools t)
    (fun w hw _ => statusListIndexPools_apply_of_key_ne (h w hw)) σ

theorem statusListCurrentIndices_commit_of_key_ne {σ : Store} {ws : List Write} {t : StatusTriple}
    (h : ∀ w ∈ ws, w.key ≠ .statusListCurrentIndex t) :
    (σ.commit ws).statusListCurrentIndices t = σ.statusListCurrentIndices t :=
  commit_preserves (·.statusListCurrentIndices t)
    (fun w hw _ => statusListCurrentIndices_apply_of_key_ne (h w hw)) σ

end Store

end CredentialService
