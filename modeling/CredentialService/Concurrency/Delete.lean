import CredentialService.Concurrency.System
import CredentialService.Service.UpdateSpec
import CredentialService.Sequential.Regeneration

/-!
# Concurrency/Delete — a delete racing a status update

`DeleteCredential` writes the committed store directly.  A status update watches only its
triple's status-list key, yet its body re-reads the credential record and writes it back with the
new flags.  An update whose attempt read the record before the delete therefore commits after it
without a conflict, and the record is back:

    update a:  preamble ─ begin ─ read a ─ write a ─ ⋯ ─────────── commit   (no watched key written)
    delete a:                                       delete a ─▸ ok
                                                                          GetCredential a ─▸ found

`update_commit_recreates_deleted_record` is that run.  What does hold is that this is the only way
back.  An update body whose reads all miss the record never writes it (`Body.Spares`,
`updateCredentialStatusBusinessLogic_spares`), so after a delete at log position `d` the record
stays absent until a commit *of an attempt begun at or before `d`* writes it
(`get_after_delete_not_found`).  `DeleteInv` is the invariant behind it; unlike the serial
argument of `Concurrency/Serializable` it holds of every run, from any store and for any mix of
calls, whether or not commits check their watch keys.
-/

namespace CredentialService

/-! ## Update bodies never write a record they cannot read -/

/-- Run with every read answered by a store without the record `id`, the body never writes it. -/
def Body.Spares {α : Type} (id : String) (b : Body α) : Prop :=
  b.Ensures (fun σ => σ.getCredential id = none) (fun w => w.key ≠ .credential id) fun _ => True

namespace Service

theorem updateCredentialStatus_spares (s : Service) {gotCred : StoredCredential}
    (request : UpdateCredentialStatusRequest) (m : StatusListCredentialMetadata) {id : String}
    (h : gotCred.localCredentialID ≠ id) :
    (s.updateCredentialStatus gotCred request m).Spares id := by
  simp [Body.Spares, updateCredentialStatus, Storage.storeCredentialTx,
    Storage.storeStatusListCredentialTx, Storage.getCredentialsByIssuerAndSchema, Write.key,
    buildStoredCredential, updatedContainer, h]
  cases gotCred.credential.credentialStatus <;> trivial

/-- **An update writes only a record it has read**: the record it writes is the one its
`GetCredential` returned. -/
theorem updateCredentialStatusBusinessLogic_spares (s : Service)
    (request : UpdateCredentialStatusRequest) (m : StatusListCredentialMetadata) (id : String) :
    (s.updateCredentialStatusBusinessLogic request m).Spares id := by
  simp only [Body.Spares, updateCredentialStatusBusinessLogic, Storage.getCredential, Body.bind_eq,
    Body.pure_eq, Body.ensures_bind, Body.ensures_check, Body.ensures_wrapError, Body.ensures_get]
  intro _ σ hσ
  cases hg : σ.getCredential request.id with
  | none => simp
  | some g =>
    have hne : g.localCredentialID ≠ id := by
      rw [(findCredential_mem hg).2]
      rintro rfl
      simp_all [Store.getCredential]
    have := s.updateCredentialStatus_spares request m hne
    simp_all [Body.Spares]

theorem runUpdateFuncs_spares (s : Service) (id : String) :
    ∀ prepared : List (UpdateCredentialStatusRequest × StatusTriple),
      (s.runUpdateFuncs prepared).Spares id
  | [] => trivial
  | (request, t) :: rest => by
    have hrest := runUpdateFuncs_spares s id rest
    simp only [Body.Spares, runUpdateFuncs, updateCredentialStatusFunc, Body.bind_eq, Body.pure_eq,
      Body.ensures_bind] at hrest ⊢
    exact (s.updateCredentialStatusBusinessLogic_spares request ⟨t⟩ id).mono (fun _ h => h)
      (fun _ h => h) fun _ _ => hrest.mono (fun _ h => h) (fun _ h => h) fun _ _ => trivial

end Service

/-- **Every transaction a call's preamble returns spares every record**, whatever the preamble
read. -/
theorem Call.preamble_spares {c : Call} {p : Body (Transaction Reply)}
    (hp : c.start = .preamble p) :
    p.Ensures (fun _ => True) (fun _ => False) fun tr => ∀ id, tr.fn.Spares id := by
  cases c with
  | updateCredentialStatus s r =>
    cases hp
    simp only [Body.map_eq, Body.ensures_bind]
    refine (s.UpdateCredentialStatus_transaction r).mono (fun _ h => h) (fun _ h => h) ?_
    rintro _ ⟨t, rfl⟩ id
    simpa [Transaction.map, Service.updateCredentialStatusFunc, Body.Spares] using
      s.updateCredentialStatusBusinessLogic_spares r ⟨t⟩ id
  | batchUpdateCredentialStatus s r =>
    cases hp
    simp only [Body.map_eq, Body.ensures_bind]
    refine (s.batchUpdateCredentialStatus_transaction r).mono (fun _ h => h) (fun _ h => h) ?_
    rintro _ ⟨prepared, -, rfl⟩ id
    simpa [Transaction.map, Body.Spares] using s.runUpdateFuncs_spares id prepared
  | deleteCredential r => cases hp

/-! ## The invariant -/

/-- What a client's call can still write: its preamble writes nothing and returns, and its
attempt runs, a transaction that spares every record; an attempt began within the log. -/
def ClientSpares (log : List Entry) (c : Client) : Prop :=
  match c.phase with
  | .preamble p => p.Ensures (fun _ => True) (fun _ => False) fun tr => ∀ id, tr.fn.Spares id
  | .attempt tr start _ _ => (∀ id, tr.fn.Spares id) ∧ start ≤ log.length
  | _ => True

/-- An attempt begun after log position `d` has not written the record `id` and, while its reads
miss it, never will. -/
def AfterDelete (id : String) (d : Nat) (c : Client) : Prop :=
  match c.phase with
  | .attempt _ start b ws => d < start → b.Spares id ∧ ∀ w ∈ ws, w.key ≠ .credential id
  | _ => True

/-- A commit after log position `d`, of an attempt begun at or before `d`, wrote the record
`id`. -/
def Rewritten (log : List Entry) (d : Nat) (id : String) : Prop :=
  ∃ j i start keys, d < j ∧ log[j]? = some (.commit i start keys) ∧ .credential id ∈ keys ∧
    start ≤ d

/-- The invariant of every run: each delete in the log was either undone by such a commit, or its
record is still absent and every attempt begun since spares it. -/
structure DeleteInv (sys : System) : Prop where
  clients : ∀ (i : Nat) (c : Client), sys.clients[i]? = some c → ClientSpares sys.log c
  deleted : ∀ (d : Nat) (id : String), sys.log[d]? = some (.delete id) →
    Rewritten sys.log d id ∨ (sys.store.getCredential id = none ∧
      ∀ (i : Nat) (c : Client), sys.clients[i]? = some c → AfterDelete id d c)

theorem getElem?_append_singleton_eq_some {α : Type} {l : List α} {x y : α} {d : Nat}
    (h : (l ++ [x])[d]? = some y) : l[d]? = some y ∨ (d = l.length ∧ x = y) := by
  rcases Nat.lt_or_ge d l.length with hd | hd
  · exact .inl (by rwa [List.getElem?_append_left hd] at h)
  · rw [List.getElem?_append_right hd] at h
    obtain ⟨h0, rfl⟩ : d - l.length = 0 ∧ x = y := by simpa [List.getElem?_cons] using h
    exact .inr ⟨by omega, rfl⟩

theorem Rewritten.append {log : List Entry} {d : Nat} {id : String} (h : Rewritten log d id)
    (e : Entry) : Rewritten (log ++ [e]) d id :=
  let ⟨j, i, start, keys, hj, hlog, hk, hle⟩ := h
  ⟨j, i, start, keys, hj, by rwa [List.getElem?_append_left (List.getElem?_eq_some_iff.mp hlog).1],
    hk, hle⟩

theorem ClientSpares.append {log : List Entry} {c : Client} (h : ClientSpares log c) (e : Entry) :
    ClientSpares (log ++ [e]) c := by
  obtain ⟨call, phase⟩ := c
  cases phase with
  | attempt tr start b ws =>
    have := h.2
    exact ⟨h.1, by simp only [List.length_append, List.length_singleton]; omega⟩
  | _ => exact h

/-- An attempt began within the log, so not after a delete appended now. -/
theorem ClientSpares.afterDelete {log : List Entry} {c : Client} (h : ClientSpares log c)
    (id : String) : AfterDelete id log.length c := by
  obtain ⟨call, phase⟩ := c
  cases phase with
  | attempt tr start b ws => exact fun hlt => absurd h.2 (by omega)
  | _ => trivial

theorem Call.start_spares (c : Call) (log : List Entry) : ClientSpares log ⟨c, c.start⟩ := by
  cases hs : c.start with
  | preamble p => exact Call.preamble_spares hs
  | attempt => cases c <;> simp [Call.start] at hs
  | _ => trivial

section Invariant

variable {sys : System}

theorem DeleteInv.init (σ₀ : Store) (calls : List Call) : DeleteInv (System.init σ₀ calls) where
  clients := by
    intro i c hc
    obtain ⟨call, -, rfl⟩ := by simpa [System.init] using hc
    exact Call.start_spares call []
  deleted := by simp [System.init]

/-- A step of one client that changes neither the store nor the log. -/
theorem DeleteInv.set (h : DeleteInv sys) {i : Nat} {c : Call} {ph ph' : Phase}
    (hc : sys.clients[i]? = some ⟨c, ph⟩) (hsp : ClientSpares sys.log ⟨c, ph'⟩)
    (hafter : ∀ d id, sys.store.getCredential id = none →
      AfterDelete id d ⟨c, ph⟩ → AfterDelete id d ⟨c, ph'⟩) :
    DeleteInv (sys.set i ⟨c, ph'⟩) := by
  refine ⟨forall_getElem?_set hsp h.clients, fun d id hd => ?_⟩
  exact (h.deleted d id hd).imp (fun h => h) fun ⟨habs, hrest⟩ =>
    ⟨habs, forall_getElem?_set (hafter d id habs (hrest i _ hc)) hrest⟩

/-- **A commit brings a deleted record back only if its attempt began before the delete.** -/
theorem DeleteInv.commit (h : DeleteInv sys) {i : Nat} {c : Call} {tr : Transaction Reply}
    {start : Nat} {a : Reply} {ws : List Write}
    (hc : sys.clients[i]? = some ⟨c, .attempt tr start (.pure a) ws⟩) :
    DeleteInv ⟨sys.store.commit ws, sys.log ++ [.commit i start (ws.map Write.key)],
      sys.clients.set i ⟨c, .done (.ok a)⟩⟩ := by
  refine ⟨forall_getElem?_set trivial fun j c' hc' => (h.clients j c' hc').append _,
    fun d id hd => ?_⟩
  rcases getElem?_append_singleton_eq_some hd with hd | ⟨-, he⟩
  · rcases h.deleted d id hd with hre | ⟨habs, hrest⟩
    · exact .inl (hre.append _)
    by_cases hw : ∀ w ∈ ws, w.key ≠ .credential id
    · exact .inr ⟨by rw [Store.getCredential_commit_of_key_ne hw, habs],
        forall_getElem?_set trivial hrest⟩
    · -- the attempt wrote the record: it cannot have begun after the delete
      have hle : start ≤ d := Nat.le_of_not_lt fun hlt => hw (hrest i _ hc hlt).2
      push_neg at hw
      obtain ⟨w, hw, hk⟩ := hw
      exact .inl ⟨sys.log.length, i, start, ws.map Write.key, (List.getElem?_eq_some_iff.mp hd).1,
        by simp, hk ▸ List.mem_map_of_mem _ hw, hle⟩
  · cases he

/-- A delete empties its record; every attempt running began before it. -/
theorem DeleteInv.delete (h : DeleteInv sys) {i : Nat} {c : Call} {r : DeleteCredentialRequest} :
    DeleteInv ⟨Service.deleteCredential sys.store r, sys.log ++ [.delete r.id],
      sys.clients.set i ⟨c, .done (.ok .deleteCredential)⟩⟩ := by
  refine ⟨forall_getElem?_set trivial fun j c' hc' => (h.clients j c' hc').append _,
    fun d id hd => ?_⟩
  rcases getElem?_append_singleton_eq_some hd with hd | ⟨rfl, he⟩
  · rcases h.deleted d id hd with hre | ⟨habs, hrest⟩
    · exact .inl (hre.append _)
    exact .inr ⟨by simp [Service.deleteCredential, Storage.deleteCredential, habs],
      forall_getElem?_set trivial hrest⟩
  · cases he
    exact .inr ⟨by simp [Service.deleteCredential, Storage.deleteCredential],
      forall_getElem?_set trivial fun j c' hc' => (h.clients j c' hc').afterDelete r.id⟩

/-- **Every step keeps the invariant.** -/
theorem DeleteInv.step (h : DeleteInv sys) {sys' : System} (hs : Step sys sys') :
    DeleteInv sys' := by
  cases hs with
  | preambleRead hc => exact h.set hc (h.clients _ _ hc _ trivial) fun _ _ _ _ => trivial
  | preambleWrite hc => exact (h.clients _ _ hc).1.elim
  | preambleThrow hc => exact h.set hc trivial fun _ _ _ _ => trivial
  | preamblePanic hc => exact h.set hc trivial fun _ _ _ _ => trivial
  | begin hc =>
    have hsp := h.clients _ _ hc
    exact h.set hc ⟨hsp, le_refl _⟩ fun _ id _ _ _ => ⟨hsp id, by simp⟩
  | attemptRead hc =>
    have hsp := h.clients _ _ hc
    exact h.set hc hsp fun _ _ habs hold hlt => ⟨(hold hlt).1 _ habs, (hold hlt).2⟩
  | attemptWrite hc =>
    have hsp := h.clients _ _ hc
    exact h.set hc hsp fun _ _ _ hold hlt => ⟨(hold hlt).1.2,
      List.forall_mem_append.mpr ⟨(hold hlt).2, List.forall_mem_singleton.mpr (hold hlt).1.1⟩⟩
  | attemptThrow hc => exact h.set hc trivial fun _ _ _ _ => trivial
  | attemptPanic hc => exact h.set hc trivial fun _ _ _ _ => trivial
  | commit hc _ => exact h.commit hc
  | retry hc _ =>
    have hsp := (h.clients _ _ hc).1
    exact h.set hc ⟨hsp, le_refl _⟩ fun _ id _ _ _ => ⟨hsp id, by simp⟩
  | giveUp hc _ => exact h.set hc trivial fun _ _ _ _ => trivial
  | delete _ => exact h.delete

theorem DeleteInv.run (h : DeleteInv sys) {sys' : System} (hr : Run sys sys') :
    DeleteInv sys' := by
  induction hr with
  | refl => exact h
  | tail _ hs ih => exact ih.step hs

end Invariant

/-- **After a delete, the record is not found — unless an update that began before it commits
after it.**  In any run of any calls from any store, let the log hold a delete of `id` at position
`d`, and let every later commit that wrote the record `id` belong to an attempt begun after `d`.
Then `GetCredential(id)` against the committed store fails with `not found`. -/
theorem get_after_delete_not_found {σ₀ : Store} {calls : List Call} {sys : System}
    (hrun : Run (System.init σ₀ calls) sys) {d : Nat} {id : String}
    (hd : sys.log[d]? = some (.delete id))
    (hnew : ∀ j i start keys, d < j → sys.log[j]? = some (.commit i start keys) →
      WatchKey.credential id ∈ keys → d < start) :
    (Service.getCredential ⟨id⟩).run sys.store =
      .error ("could not get credential: " ++ id ++ ": " ++ ("credential not found with id: " ++ id)) := by
  rcases ((DeleteInv.init σ₀ calls).run hrun).deleted d id hd with
    ⟨j, i, start, keys, hj, hlog, hk, hle⟩ | ⟨habs, -⟩
  · exact absurd (hnew j i start keys hj hlog hk) (by omega)
  · simp [Service.getCredential, Body.run_bind, Body.run_wrapError, habs]

/-- An update of `a` and a delete of `a`. -/
def demoDeleteRace : List Call :=
  [.updateCredentialStatus demoService ⟨"a", true, false⟩, .deleteCredential ⟨"a"⟩]

/-- The update reads `a` and buffers its writes; the delete runs and returns; the update
commits. -/
def demoDeleteRaceRun : System :=
  ((System.init demoRevocablePairStore demoDeleteRace).runSchedule [0, 0, 0, 0, 0, 0, 0, 1, 0]).getD
    (System.init demoRevocablePairStore demoDeleteRace)

theorem update_commit_recreates_deleted_record :
    Reachable demoService.servicePath demoRevocablePairStore ∧
      Run (System.init demoRevocablePairStore demoDeleteRace) demoDeleteRaceRun ∧
      demoDeleteRaceRun.log = [.delete "a",
        .commit 0 0 [.credential "a", .statusListCredential (demoTriple statusRevocation)]] ∧
      demoDeleteRaceRun.clients.map Client.response? =
        [some (.updateCredentialStatus ⟨⟨"", true, false⟩⟩), some .deleteCredential] ∧
      ∃ container ws, (Service.getCredential ⟨"a"⟩).run demoDeleteRaceRun.store = .ok container ws :=
  ⟨Reachable.applyAll demoService rfl .empty _, System.run_runSchedule _ _, by decide, by decide,
    Result.isOk_iff.mp (by decide)⟩

/-- A delete of `a`, then a revocation of `b` that begins after it. -/
def demoDeleteThenUpdate : List Call :=
  [.deleteCredential ⟨"a"⟩, .updateCredentialStatus demoService ⟨"b", true, false⟩]

def demoDeleteThenUpdateRun : System :=
  ((System.init demoRevocablePairStore demoDeleteThenUpdate).runSchedule
    [0, 1, 1, 1, 1, 1, 1, 1, 1]).getD (System.init demoRevocablePairStore demoDeleteThenUpdate)

theorem demo_get_after_delete_not_found :
    Run (System.init demoRevocablePairStore demoDeleteThenUpdate) demoDeleteThenUpdateRun ∧
      demoDeleteThenUpdateRun.log[0]? = some (.delete "a") ∧
      (∀ j i start keys, 0 < j → demoDeleteThenUpdateRun.log[j]? = some (.commit i start keys) →
        WatchKey.credential "a" ∈ keys → 0 < start) ∧
      (Service.getCredential ⟨"a"⟩).run demoDeleteThenUpdateRun.store =
        .error ("could not get credential: " ++ "a" ++ ": " ++ ("credential not found with id: " ++ "a")) :=
  have hrun : Run (System.init demoRevocablePairStore demoDeleteThenUpdate)
      demoDeleteThenUpdateRun := System.run_runSchedule _ _
  have hlog : demoDeleteThenUpdateRun.log = [.delete "a",
      .commit 1 1 [.credential "b", .statusListCredential (demoTriple statusRevocation)]] := by
    decide
  have hd : demoDeleteThenUpdateRun.log[0]? = some (.delete "a") := by rw [hlog]; rfl
  have hnew : ∀ j i start keys, 0 < j → demoDeleteThenUpdateRun.log[j]? =
      some (.commit i start keys) → WatchKey.credential "a" ∈ keys → 0 < start := by
    intro j i start keys _ h
    rw [hlog] at h
    rcases j with _ | _ | j <;> simp at h
    omega
  ⟨hrun, hd, hnew, get_after_delete_not_found hrun hd hnew⟩

end CredentialService
