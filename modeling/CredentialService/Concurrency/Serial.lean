import CredentialService.Concurrency.System

/-!
# Concurrency/Serial — every serial execution is a run

The converse of `Concurrency/Serializable`: the concurrent system loses none of the serial
behaviour.  A client that moves while no other does runs its call exactly as `Call.serve` runs it
alone — its preamble against the committed store, then one attempt that begins with the log as it
is and so commits without a conflict:

    preamble p ──▸ ⋯ ──▸ attempt tr |log| tr.fn [] ──▸ ⋯ ──▸ done (c.serve σ).1,  store (c.serve σ).2

`run_call_alone` is that run, by induction on the preamble (`run_preamble_alone`) and on the
attempt's body (`run_attempt_alone`); `serial_execution_is_run` chains it over the clients in
order.
-/

namespace CredentialService

/-- What a method returns once the body it hands to `Execute`, run with no other call moving, has
produced `r`: the value with the buffered writes committed, or the body's error wrapped by
`errors.Wrap(err, "execute")`. -/
def executeResult (σ : Store) : Result Reply → Outcome Reply × Store
  | .ok a ws => (.ok a, σ.commit ws)
  | .error e => (.error ("execute: " ++ e), σ)
  | .panic m => (.panic m, σ)

theorem serve_pure (σ : Store) (tr : Transaction Reply) :
    serve σ (.pure tr) = executeResult σ (tr.fn.run σ) := by
  simp only [serve, Body.runDirect_pure, execute]
  cases tr.fn.run σ <;> rfl

theorem serve_write {α : Type} (σ : Store) (w : Write) (k : Body (Transaction α)) :
    serve σ (.write w k) = serve (σ.apply w) k := rfl

theorem serve_transactionMap_eq {α : Type} (f : α → Reply) :
    ∀ (m : Body (Transaction α)) (σ : Store),
      serve σ (Transaction.map f <$> m) = ((serve σ m).1.map f, (serve σ m).2)
  | .pure tr, σ => by
    simp only [serve, Body.map_eq, Body.pure_bind, Body.runDirect_pure, Transaction.map, execute,
      Body.run_bind, Body.run_pure]
    cases tr.fn.run σ <;> simp [Outcome.map]
  | .throw e, σ => rfl
  | .panic m, σ => rfl
  | .read k, σ => serve_transactionMap_eq f (k σ) σ
  | .write w k, σ => serve_transactionMap_eq f k (σ.apply w)

namespace System

variable {c : Call}

/-- **An attempt that begins with the log as it is runs to its end while no other client
moves**, and ends as `Execute` does alone. -/
theorem run_attempt_alone {tr : Transaction Reply} :
    ∀ (b : Body Reply) {sys : System} {i : Nat} {ws : List Write},
      sys.clients[i]? = some ⟨c, .attempt tr sys.log.length b ws⟩ →
      ∃ log, Run sys ⟨(executeResult sys.store ((b.run sys.store).prepend ws)).2, log,
        sys.clients.set i ⟨c, .done (executeResult sys.store ((b.run sys.store).prepend ws)).1⟩⟩
  | .pure a, sys, i, ws, hc => by
    have hnc : ¬Conflict sys.log sys.log.length tr.watchKeys := by simp [Conflict]
    simpa [executeResult] using ⟨_, Relation.ReflTransGen.single (Step.commit hc hnc)⟩
  | .throw e, sys, i, ws, hc => ⟨sys.log, .single (.attemptThrow hc)⟩
  | .panic m, sys, i, ws, hc => ⟨sys.log, .single (.attemptPanic hc)⟩
  | .read k, sys, i, ws, hc => by
    obtain ⟨log, h⟩ := run_attempt_alone (k sys.store)
      (getElem?_set_self hc ⟨c, .attempt tr sys.log.length (k sys.store) ws⟩)
    simp only [set_store, set_clients, List.set_set] at h
    exact ⟨log, .head (.attemptRead hc) h⟩
  | .write w k, sys, i, ws, hc => by
    obtain ⟨log, h⟩ := run_attempt_alone k
      (getElem?_set_self hc ⟨c, .attempt tr sys.log.length k (ws ++ [w])⟩)
    simp only [set_store, set_clients, List.set_set, ← Result.prepend_prepend] at h
    exact ⟨log, .head (.attemptWrite hc) h⟩

/-- **A preamble runs to its end while no other client moves**, and the call ends as it does
alone. -/
theorem run_preamble_alone :
    ∀ (p : Body (Transaction Reply)) {sys : System} {i : Nat},
      sys.clients[i]? = some ⟨c, .preamble p⟩ →
      ∃ log, Run sys ⟨(serve sys.store p).2, log, sys.clients.set i ⟨c, .done (serve sys.store p).1⟩⟩
  | .pure tr, sys, i, hc => by
    obtain ⟨log, h⟩ := run_attempt_alone tr.fn
      (getElem?_set_self hc ⟨c, .attempt tr sys.log.length tr.fn []⟩)
    simp only [set_store, set_clients, List.set_set, Result.prepend_nil] at h
    rw [serve_pure]
    exact ⟨log, .head (.begin hc) h⟩
  | .throw e, sys, i, hc => ⟨sys.log, .single (.preambleThrow hc)⟩
  | .panic m, sys, i, hc => ⟨sys.log, .single (.preamblePanic hc)⟩
  | .read k, sys, i, hc => by
    obtain ⟨log, h⟩ := run_preamble_alone (k sys.store)
      (getElem?_set_self hc ⟨c, .preamble (k sys.store)⟩)
    simp only [set_store, set_clients, List.set_set] at h
    exact ⟨log, .head (.preambleRead hc) h⟩
  | .write w k, sys, i, hc => by
    have hc' : (System.mk (sys.store.apply w) (sys.log ++ [.write w.key])
        (sys.clients.set i ⟨c, .preamble k⟩)).clients[i]? = some ⟨c, .preamble k⟩ :=
      getElem?_set_self hc _
    obtain ⟨log, h⟩ := run_preamble_alone k hc'
    simp only [List.set_set] at h
    rw [serve_write]
    exact ⟨log, .head (.preambleWrite hc) h⟩

/-- **A call runs alone as `Call.serve` runs it.** -/
theorem run_call_alone {sys : System} {i : Nat} (hc : sys.clients[i]? = some ⟨c, c.start⟩) :
    ∃ log, Run sys ⟨(c.serve sys.store).2, log,
      sys.clients.set i ⟨c, .done (c.serve sys.store).1⟩⟩ := by
  cases c with
  | updateCredentialStatus s r =>
    simpa only [Call.serve, serve_transactionMap_eq] using run_preamble_alone _ hc
  | batchUpdateCredentialStatus s r =>
    simpa only [Call.serve, serve_transactionMap_eq] using run_preamble_alone _ hc
  | deleteCredential r => exact ⟨_, .single (.delete hc)⟩

end System

theorem Call.length_serveAll (σ : Store) (calls : List Call) :
    (Call.serveAll σ calls).1.length = calls.length := by
  induction calls using List.reverseRecOn with
  | nil => rfl
  | append_singleton calls c ih => simp [Call.serveAll_append_singleton, ih]

/-- The calls in front run one after the other, each alone, while the clients behind wait. -/
theorem run_serial_prefix (σ₀ : Store) (calls : List Call) (rest : List Client) :
    ∃ log, Run ⟨σ₀, [], calls.map (fun c => ⟨c, c.start⟩) ++ rest⟩
      ⟨(Call.serveAll σ₀ calls).2, log,
        List.zipWith (fun c o => ⟨c, .done o⟩) calls (Call.serveAll σ₀ calls).1 ++ rest⟩ := by
  induction calls using List.reverseRecOn generalizing rest with
  | nil => exact ⟨[], .refl⟩
  | append_singleton calls c ih =>
    obtain ⟨log₁, h₁⟩ := ih (⟨c, c.start⟩ :: rest)
    have hlen := Call.length_serveAll σ₀ calls
    have hz : (List.zipWith (fun c o => (⟨c, .done o⟩ : Client)) calls
        (Call.serveAll σ₀ calls).1).length = calls.length := by
      simp [hlen]
    have hc : (System.mk (Call.serveAll σ₀ calls).2 log₁
        (List.zipWith (fun c o => ⟨c, .done o⟩) calls (Call.serveAll σ₀ calls).1 ++
          ⟨c, c.start⟩ :: rest)).clients[calls.length]? = some ⟨c, c.start⟩ := by
      dsimp only
      rw [List.getElem?_append_right hz.le, hz, Nat.sub_self, List.getElem?_cons_zero]
    obtain ⟨log₂, h₂⟩ := System.run_call_alone hc
    refine ⟨log₂, ?_⟩
    simp only [List.map_append, List.map_cons, List.map_nil, List.append_assoc,
      List.singleton_append, Call.serveAll_append_singleton,
      List.zipWith_append _ _ _ _ _ hlen.symm] at h₁ ⊢
    simpa [hlen] using h₁.trans h₂

/-- **Every serial execution is a run**: the calls run alone one after the other, in list order,
are a run of the concurrent system, which ends with the store and every outcome of the serial
execution. -/
theorem serial_execution_is_run (σ₀ : Store) (calls : List Call) :
    ∃ log, Run (System.init σ₀ calls) ⟨(Call.serveAll σ₀ calls).2, log,
      List.zipWith (fun c o => ⟨c, .done o⟩) calls (Call.serveAll σ₀ calls).1⟩ := by
  simpa [System.init] using run_serial_prefix σ₀ calls []

end CredentialService
