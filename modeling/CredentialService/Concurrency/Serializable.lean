import CredentialService.Concurrency.Updates
import CredentialService.Sequential.Regeneration

/-!
# Concurrency/Serializable — interleaved status updates are serializable

    Run (System.init σ₀ calls) sys      (every call a status update or a batch of them)
      ⟹ the successful calls, in commit order, run alone from σ₀,
         return what they returned and leave sys.store

The serial order is the commit order.  `Inv` holds of every reachable system: the store is the
serial run of the calls committed so far, and a client still running is on its way to what a
serial run would do at the moment it commits — its preamble has read stores that are earlier
(`Store.Later`), and its attempt, unless a watched key has been written since it began, has read
stores that agree with the current one on its watch keys (`Store.AgreeOn`).  When another client
commits, the frame lemmas of `Concurrency/Relations` keep both facts; when the client itself
commits, `Steps.run_of_stable` turns them into the run of its call alone.  Two more facts of `Inv`
hold of every run (`concurrent_updates_keep_invariants`): the records change only in their flags,
and every record stays sound.

Serializability does not by itself keep the bits of a triple's list: an update that clears both
flags rebuilds the list from no member, so beside a revocation of another member it clears that
member's bit (`concurrent_unrevoke_clears_revoked_bit`).  When every call is a single update that
revokes or suspends, `ListsInv` holds as well: each commit rebuilds its triple's list exactly from
the members' flags (`run_update_rebuilds_list`) and leaves the other triples' lists exact.
-/

namespace CredentialService

/-- The call is a single status update that revokes or suspends. -/
def Call.setsFlag : Call → Bool
  | .updateCredentialStatus _ request => request.revoked || request.suspended
  | _ => false

theorem Call.eq_update_of_setsFlag {c : Call} (h : c.setsFlag = true) :
    ∃ s r, c = .updateCredentialStatus s r ∧ (r.revoked = true ∨ r.suspended = true) := by
  cases c with
  | updateCredentialStatus s r => exact ⟨s, r, rfl, by simpa [Call.setsFlag] using h⟩
  | _ => simp [Call.setsFlag] at h

/-- The call is a status update or a batch status update. -/
def Call.isUpdate : Call → Bool
  | .deleteCredential _ => false
  | _ => true

theorem Call.start_of_isUpdate {c : Call} (h : c.isUpdate = true) :
    ∃ p, c.start = .preamble p := by
  cases c <;> simp_all [Call.isUpdate, Call.start]

/-- The call and response of a client that has returned one. -/
def Client.result? (c : Client) : Option (Call × Reply) := c.response?.map (c.call, ·)

/-- The clients that committed, in commit order. -/
def committed (log : List Entry) : List Nat :=
  log.filterMap fun e => match e with
    | .commit i _ _ => some i
    | _ => none

/-- The committed calls with their responses, in commit order. -/
def System.serialOrder (sys : System) : List (Call × Reply) :=
  (committed sys.log).filterMap fun i => sys.clients[i]?.bind Client.result?

theorem conflict_append {log : List Entry} {start : Nat} (h : start ≤ log.length) (e : Entry)
    (W : List WatchKey) :
    Conflict (log ++ [e]) start W ↔ Conflict log start W ∨ ∃ k ∈ e.keys, k ∈ W := by
  simp [Conflict, List.drop_append_of_le_length h, or_and_right, exists_or]

section Invariant

variable (servicePath : String)

/-- What a client of a run of status updates knows: a preamble has read earlier stores; an
attempt's preamble returns its transaction now, and unless a watched key was written since the
attempt began, the attempt has read stores that agree with the current one on its watch keys. -/
def ClientInv (σ : Store) (log : List Entry) (c : Client) : Prop :=
  match c.phase with
  | .deleting _ => False
  | .preamble q => ∃ p ws, c.call.start = .preamble p ∧ Body.Steps (·.Later σ) p ws q
  | .attempt tr start b ws => ∃ p ws₀, c.call.start = .preamble p ∧ p.run σ = .ok tr ws₀ ∧
      start ≤ log.length ∧ (¬Conflict log start tr.watchKeys →
        Body.Steps (fun σ' => σ'.AgreeOn tr.watchKeys σ ∧ σ'.Sound servicePath) tr.fn ws b)
  | .done _ => True

/-- The invariant of a run of status updates from `σ₀`. -/
structure Inv (σ₀ : Store) (sys : System) : Prop where
  sound : sys.store.Sound servicePath
  later : σ₀.Later sys.store
  committed_nodup : (committed sys.log).Nodup
  committed_lt : ∀ i ∈ committed sys.log, i < sys.clients.length
  committed_iff : ∀ (i : Nat) (c : Client), sys.clients[i]? = some c →
    (i ∈ committed sys.log ↔ c.response?.isSome)
  serial : Call.serveAll σ₀ (sys.serialOrder.map Prod.fst) =
    (sys.serialOrder.map fun p => .ok p.2, sys.store)
  clients : ∀ (i : Nat) (c : Client), sys.clients[i]? = some c →
    ClientInv servicePath sys.store sys.log c

variable {servicePath} {σ₀ : Store} {sys : System}

theorem Inv.init (h₀ : σ₀.Sound servicePath) {calls : List Call}
    (hcalls : ∀ c ∈ calls, c.isUpdate = true) : Inv servicePath σ₀ (System.init σ₀ calls) where
  sound := h₀
  later := .refl σ₀
  committed_nodup := List.nodup_nil
  committed_lt := by simp [System.init, committed]
  committed_iff := by
    intro i c hc
    obtain ⟨call, hcall, rfl⟩ := by simpa [System.init] using hc
    obtain ⟨p, hp⟩ := Call.start_of_isUpdate (hcalls call (List.getElem?_mem hcall))
    simp [System.init, committed, Client.response?, hp]
  serial := rfl
  clients := by
    intro i c hc
    obtain ⟨call, hcall, rfl⟩ := by simpa [System.init] using hc
    obtain ⟨p, hp⟩ := Call.start_of_isUpdate (hcalls call (List.getElem?_mem hcall))
    simp only [ClientInv, hp]
    exact ⟨p, [], rfl, .refl p⟩

/-- A client's knowledge survives the store moving to a later one that agrees with it on every
set of watch keys the new log entry does not write. -/
theorem ClientInv.advance {σ σ' : Store} {log : List Entry} {e : Entry} (hl : σ.Later σ')
    (hA : ∀ W, (∀ k ∈ e.keys, k ∉ W) → σ.AgreeOn W σ') {c : Client}
    (h : ClientInv servicePath σ log c) : ClientInv servicePath σ' (log ++ [e]) c := by
  obtain ⟨call, phase⟩ := c
  cases phase with
  | deleting r => exact h.elim
  | preamble q =>
    obtain ⟨p, ws, hp, hs⟩ := h
    exact ⟨p, ws, hp, hs.mono fun _ h => h.trans hl⟩
  | attempt tr start b ws =>
    obtain ⟨p, ws₀, hp, hrun, hst, hs⟩ := h
    refine ⟨p, ws₀, hp, Call.run_preamble_later hp hrun hl, by simp; omega, fun hnc => ?_⟩
    rw [conflict_append hst] at hnc
    have hA' := hA tr.watchKeys fun k hk hkW => hnc (.inr ⟨k, hk, hkW⟩)
    exact (hs fun h => hnc (.inl h)).mono fun _ h => ⟨h.1.trans hA', h.2⟩
  | done o => trivial

/-- A step of one client that changes neither the store nor the log, nor makes it return. -/
theorem Inv.set (h : Inv servicePath σ₀ sys) {i : Nat} {c : Call} {ph ph' : Phase}
    (hc : sys.clients[i]? = some ⟨c, ph⟩) (hold : (Client.mk c ph).response? = none)
    (hnew : (Client.mk c ph').response? = none)
    (hinv : ClientInv servicePath sys.store sys.log ⟨c, ph'⟩) :
    Inv servicePath σ₀ (sys.set i ⟨c, ph'⟩) := by
  have hi : i ∉ committed sys.log := fun hm => by simpa [hold] using (h.committed_iff i _ hc).mp hm
  have hget : ∀ j, j ≠ i → (sys.set i ⟨c, ph'⟩).clients[j]? = sys.clients[j]? :=
    fun j hj => List.getElem?_set_ne (Ne.symm hj)
  have hgeti := System.getElem?_set_self hc ⟨c, ph'⟩
  have horder : (sys.set i ⟨c, ph'⟩).serialOrder = sys.serialOrder := by
    simp only [System.serialOrder, System.set_log]
    exact List.filterMap_congr fun j hj => by rw [hget j fun e => hi (e ▸ hj)]
  refine ⟨h.sound, h.later, h.committed_nodup, fun j hj => by simpa using h.committed_lt j hj,
    fun j c' hc' => ?_, by simpa [horder] using h.serial, forall_getElem?_set hinv h.clients⟩
  by_cases hj : j = i
  · subst hj; rw [hgeti] at hc'; cases hc'; simp [hi, hnew]
  · rw [hget j hj] at hc'; exact h.committed_iff j c' hc'

theorem committed_append_commit (log : List Entry) (i start : Nat) (keys : List WatchKey) :
    committed (log ++ [.commit i start keys]) = committed log ++ [i] := by
  simp [committed, List.filterMap_append]

/-- **A commit without conflict is its call's preamble and transaction run on the current
store**: the attempt read stores that agree with the current one on its watch keys. -/
theorem Inv.commit_run (h : Inv servicePath σ₀ sys) {i : Nat} {c : Call} {tr : Transaction Reply}
    {start : Nat} {a : Reply} {ws : List Write}
    (hc : sys.clients[i]? = some ⟨c, .attempt tr start (.pure a) ws⟩)
    (hok : ¬Conflict sys.log start tr.watchKeys) :
    ∃ p ws₀, c.start = .preamble p ∧ p.run sys.store = .ok tr ws₀ ∧
      tr.fn.run sys.store = .ok a ws := by
  obtain ⟨p, ws₀, hp, hrun, -, hsteps⟩ := h.clients i _ hc
  refine ⟨p, ws₀, hp, hrun, ?_⟩
  simpa using ((hsteps hok).mono fun σ' hσ' => ⟨hσ'.1, hσ'.2, h.sound, rfl⟩).run_of_stable
    (Call.transaction_stable hp hrun) (Body.run_pure sys.store a)

/-- No client of a run of status updates is ever about to write before `Execute`. -/
theorem Inv.not_preambleWrite (h : Inv servicePath σ₀ sys) {i : Nat} {c : Call} {w : Write}
    {k : Body (Transaction Reply)} (hc : sys.clients[i]? = some ⟨c, .preamble (.write w k)⟩) :
    False :=
  let ⟨_, _, hp, hsteps⟩ := h.clients _ _ hc
  (Call.preamble_writesNothing hp).not_steps_write hsteps

/-- **A commit is the committing call run alone, after the calls committed before it.** -/
theorem Inv.commit (h₀ : σ₀.Nodup) (h : Inv servicePath σ₀ sys) {i : Nat} {c : Call}
    {tr : Transaction Reply} {start : Nat} {a : Reply} {ws : List Write}
    (hc : sys.clients[i]? = some ⟨c, .attempt tr start (.pure a) ws⟩)
    (hok : ¬Conflict sys.log start tr.watchKeys) :
    Inv servicePath σ₀ ⟨sys.store.commit ws, sys.log ++ [.commit i start (ws.map Write.key)],
      sys.clients.set i ⟨c, .done (.ok a)⟩⟩ := by
  obtain ⟨p, ws₀, hp, hrun, hfn⟩ := h.commit_run hc hok
  have hserve := Call.serve_of_run hp hrun hfn
  have hnd : sys.store.Nodup := h.later.nodup h₀
  have hfu := Call.transaction_flagUpdate hp hrun hfn
  have hi : i ∉ committed sys.log := fun hm => by
    simpa [Client.response?] using (h.committed_iff i _ hc).mp hm
  have hget : ∀ j, j ≠ i → (sys.clients.set i ⟨c, .done (.ok a)⟩)[j]? = sys.clients[j]? :=
    fun j hj => List.getElem?_set_ne (Ne.symm hj)
  have hgeti : (sys.clients.set i ⟨c, .done (.ok a)⟩)[i]? = some ⟨c, .done (.ok a)⟩ :=
    System.getElem?_set_self hc _
  have horder : System.serialOrder ⟨sys.store.commit ws,
      sys.log ++ [.commit i start (ws.map Write.key)], sys.clients.set i ⟨c, .done (.ok a)⟩⟩ =
      sys.serialOrder ++ [(c, a)] := by
    simp only [System.serialOrder, committed_append_commit, List.filterMap_append]
    rw [List.filterMap_congr fun j hj => by rw [hget j fun e => hi (e ▸ hj)]]
    simp [hgeti, Client.result?, Client.response?]
  refine ⟨h.sound.commit (Call.transaction_sound hp h.sound hrun hfn),
    h.later.trans (Store.later_commit hnd hfu), ?_, ?_, fun j c' hc' => ?_, ?_, ?_⟩
  · simpa [committed_append_commit, List.nodup_append, hi] using h.committed_nodup
  · simp only [committed_append_commit, List.mem_append, List.mem_singleton, List.length_set]
    rintro j (hj | rfl)
    · exact h.committed_lt j hj
    · exact (List.getElem?_eq_some_iff.mp hc).1
  · rw [committed_append_commit]
    by_cases hj : j = i
    · subst hj; rw [hgeti] at hc'; cases hc'; simp [Client.response?]
    · rw [hget j hj] at hc'; simpa [hj] using h.committed_iff j c' hc'
  · simp only [horder, List.map_append, List.map_cons, List.map_nil]
    rw [Call.serveAll_append_singleton, h.serial]
    simp [hserve]
  · exact forall_getElem?_set trivial fun j c' hc' =>
      (h.clients j c' hc').advance (Store.later_commit hnd hfu)
        fun W (hW : ∀ k ∈ (Entry.commit i start (ws.map Write.key)).keys, k ∉ W) =>
          Store.agreeOn_commit hnd hfu hW

/-- **Every step of a run of status updates keeps the invariant.** -/
theorem Inv.step (h₀ : σ₀.Nodup) (h : Inv servicePath σ₀ sys) {sys' : System}
    (hs : Step sys sys') : Inv servicePath σ₀ sys' := by
  cases hs with
  | preambleRead hc =>
    obtain ⟨p, ws, hp, hsteps⟩ := h.clients _ _ hc
    exact h.set hc rfl rfl ⟨p, ws, hp, hsteps.read_last (.refl _)⟩
  | preambleWrite hc => exact (h.not_preambleWrite hc).elim
  | preambleThrow hc => exact h.set hc rfl rfl trivial
  | preamblePanic hc => exact h.set hc rfl rfl trivial
  | begin hc =>
    obtain ⟨p, ws, hp, hsteps⟩ := h.clients _ _ hc
    have hrun := hsteps.run_of_stable (Call.preamble_stable hp) (Body.run_pure _ _)
    rw [List.append_nil] at hrun
    exact h.set hc rfl rfl ⟨p, ws, hp, hrun, le_refl _, fun _ => .refl _⟩
  | attemptRead hc =>
    obtain ⟨p, ws₀, hp, hrun, hst, hsteps⟩ := h.clients _ _ hc
    exact h.set hc rfl rfl ⟨p, ws₀, hp, hrun, hst, fun hnc =>
      (hsteps hnc).read_last ⟨.refl _ _, h.sound⟩⟩
  | attemptWrite hc =>
    obtain ⟨p, ws₀, hp, hrun, hst, hsteps⟩ := h.clients _ _ hc
    exact h.set hc rfl rfl ⟨p, ws₀, hp, hrun, hst, fun hnc => (hsteps hnc).write_last⟩
  | attemptThrow hc => exact h.set hc rfl rfl trivial
  | attemptPanic hc => exact h.set hc rfl rfl trivial
  | commit hc hok => exact h.commit h₀ hc hok
  | retry hc _ =>
    obtain ⟨p, ws₀, hp, hrun, -, -⟩ := h.clients _ _ hc
    exact h.set hc rfl rfl ⟨p, ws₀, hp, hrun, le_refl _, fun _ => .refl _⟩
  | giveUp hc _ => exact h.set hc rfl rfl trivial
  | delete hc => exact (h.clients _ _ hc).elim

theorem Inv.run (h₀ : σ₀.Nodup) (h : Inv servicePath σ₀ sys) {sys' : System}
    (hr : Run sys sys') : Inv servicePath σ₀ sys' := by
  induction hr with
  | refl => exact h
  | tail _ hs ih => exact ih.step h₀ hs

/-- A step that logs nothing about the list of `t` leaves the lists written so far. -/
theorem exists_entry_append {log : List Entry} {e : Entry} {k : WatchKey} (hk : k ∉ e.keys)
    (h : ∃ e' ∈ log ++ [e], k ∈ e'.keys) : ∃ e' ∈ log, k ∈ e'.keys := by
  obtain ⟨e', he', hk'⟩ := h
  rcases List.mem_append.mp he' with he' | he'
  · exact ⟨e', he', hk'⟩
  · rw [List.mem_singleton.mp he'] at hk'
    exact absurd hk' hk

/-- What a run of flag-setting updates keeps of the status lists: every client's call sets a flag,
and a triple's list that was exact at the start, or that a logged step wrote, is exact now. -/
structure ListsInv (σ₀ : Store) (sys : System) : Prop where
  calls : ∀ (i : Nat) (c : Client), sys.clients[i]? = some c → c.call.setsFlag = true
  lists : ∀ t, σ₀.ListsFlagsAt t ∨ (∃ e ∈ sys.log, .statusListCredential t ∈ e.keys) →
    sys.store.ListsFlagsAt t

theorem ListsInv.init {calls : List Call} (hcalls : ∀ c ∈ calls, c.setsFlag = true) :
    ListsInv σ₀ (System.init σ₀ calls) where
  calls := by
    intro i c hc
    obtain ⟨call, hcall, rfl⟩ := by simpa [System.init] using hc
    exact hcalls call (List.getElem?_mem hcall)
  lists := by simp [System.init]

/-- A step of one client that changes neither the store nor the log. -/
theorem ListsInv.set (h : ListsInv σ₀ sys) {i : Nat} {c : Call} {ph ph' : Phase}
    (hc : sys.clients[i]? = some ⟨c, ph⟩) : ListsInv σ₀ (sys.set i ⟨c, ph'⟩) :=
  ⟨forall_getElem?_set (P := fun c : Client => c.call.setsFlag = true) (h.calls i ⟨c, ph⟩ hc)
    h.calls, h.lists⟩

/-- **A commit of a flag-setting update leaves every list it may have rebuilt exact**: the
update writes nothing, or its target and its triple's rebuilt list, which leaves the other triples'
lists and members as they were. -/
theorem ListsInv.commit (h₀ : σ₀.Nodup) (hinv : Inv servicePath σ₀ sys) (h : ListsInv σ₀ sys)
    {i : Nat} {c : Call} {tr : Transaction Reply} {start : Nat} {a : Reply} {ws : List Write}
    (hc : sys.clients[i]? = some ⟨c, .attempt tr start (.pure a) ws⟩)
    (hok : ¬Conflict sys.log start tr.watchKeys) :
    ListsInv σ₀ ⟨sys.store.commit ws, sys.log ++ [.commit i start (ws.map Write.key)],
      sys.clients.set i ⟨c, .done (.ok a)⟩⟩ := by
  have hflag := h.calls i _ hc
  refine ⟨forall_getElem?_set (P := fun c : Client => c.call.setsFlag = true) hflag h.calls,
    fun t' ht' => ?_⟩
  obtain ⟨p, ws₀, hp, hrun, hfn⟩ := hinv.commit_run hc hok
  obtain ⟨s, r, rfl, hset⟩ := Call.eq_update_of_setsFlag hflag
  cases hp
  obtain ⟨tr', htr', rfl⟩ := (Body.run_map_eq_ok _ _ _).mp hrun
  obtain ⟨_, hfn', -⟩ := (Body.run_map_eq_ok _ _ _).mp hfn
  obtain ⟨g, t, hg, ht, ⟨rfl, -⟩ | ⟨slc, rfl, hpurpose, hbits⟩⟩ :=
    run_update_rebuilds_list hinv.sound hset htr' hfn'
  · -- nothing written, and the entry names no key
    exact h.lists t' (ht'.imp_right (exists_entry_append (by simp [Entry.keys])))
  by_cases htt : t = t'
  · subst htt
    exact Store.listsFlagsAt_rebuilt hpurpose hbits
  · have hold := ht'.imp_right (exists_entry_append (by simp [Entry.keys, Write.key, Ne.symm htt]))
    exact (h.lists t' hold).rewrite (hinv.later.nodup h₀) (findCredential_mem hg).1 ht htt _ _ _

/-- **Every step of a run of flag-setting updates keeps the lists exact.** -/
theorem ListsInv.step (h₀ : σ₀.Nodup) (hinv : Inv servicePath σ₀ sys) (h : ListsInv σ₀ sys)
    {sys' : System} (hs : Step sys sys') : ListsInv σ₀ sys' := by
  cases hs with
  | preambleWrite hc => exact (hinv.not_preambleWrite hc).elim
  | commit hc hok => exact h.commit h₀ hinv hc hok
  | delete hc => exact (hinv.clients _ _ hc).elim
  | preambleRead hc | preambleThrow hc | preamblePanic hc | begin hc | attemptRead hc
    | attemptWrite hc | attemptThrow hc | attemptPanic hc | retry hc _ | giveUp hc _ =>
    exact h.set hc

theorem ListsInv.run (h₀ : σ₀.Nodup) (hinv : Inv servicePath σ₀ sys) (h : ListsInv σ₀ sys)
    {sys' : System} (hr : Run sys sys') : ListsInv σ₀ sys' := by
  induction hr with
  | refl => exact h
  | tail hr' hs ih => exact ih.step h₀ (hinv.run h₀ hr') hs

end Invariant

/-- **Interleaved status updates keep the store's invariants**: however they interleave, the
records of the committed store are those of the initial store up to their flags, every status list
of the initial store is still there, and every record's flags still agree with its status purpose
(`Store.Sound`, as in every reachable store). -/
theorem concurrent_updates_keep_invariants {servicePath : String} {σ₀ : Store}
    (h₀ : Reachable servicePath σ₀) {calls : List Call} (hcalls : ∀ c ∈ calls, c.isUpdate = true)
    {sys : System} (hrun : Run (System.init σ₀ calls) sys) :
    σ₀.Later sys.store ∧ sys.store.Sound servicePath :=
  have h := (Inv.init h₀.sound hcalls).run h₀.nodup hrun
  ⟨h.later, h.sound⟩

/-- Revoking `a` and `b` of the demo triple at once. -/
def demoRevocations : List Call :=
  [.updateCredentialStatus demoService ⟨"a", true, false⟩,
    .updateCredentialStatus demoService ⟨"b", true, false⟩]

/-- Both calls read the status list before either commits; `b`'s first attempt then conflicts
with `a`'s commit and is retried. -/
def demoInterleaving : System :=
  ((System.init demoRevocablePairStore demoRevocations).runSchedule
    [0, 0, 0, 1, 1, 1, 0, 0, 0, 0, 1, 1, 1, 1, 0, 1, 1, 1, 1, 1, 1]).getD
    (System.init demoRevocablePairStore demoRevocations)

theorem demo_interleaving_keeps_invariants :
    demoRevocablePairStore.Later demoInterleaving.store ∧
      demoInterleaving.store.Sound demoService.servicePath :=
  have hrun : Run (System.init demoRevocablePairStore demoRevocations) demoInterleaving :=
    System.run_runSchedule _ _
  concurrent_updates_keep_invariants (Reachable.applyAll demoService rfl .empty _) (by decide) hrun

end CredentialService
