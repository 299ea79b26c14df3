import CredentialService.Concurrency.Stable
import CredentialService.Service.UpdateSpec

/-!
# Concurrency/System — status updates and deletes, interleaved one suspension point at a time

Each client of the system runs one call (spec §5: handlers run concurrently and share only the
storage engine).  A status update or batch update runs as its method does alone (`serve`), but
one read or write at a time, other clients moving in between:

    preamble ──read / write──▸ ⋯ ──pure tr──▸ attempt tr (start := |log|) ──read / write──▸ ⋯
                                                  │ pure a, no key of tr.watchKeys written since
                                                  │   start ──▸ commit: the buffered writes
                                                  │ pure a, some watched key written ──▸ retry
                                                  │   from scratch, or give up with `conflict`

A delete writes the committed store directly, in one step, and so would a write before
`Execute` (the methods make none: `Call.preamble_writesNothing`).  The log records, for every
commit and every direct write, the keys it wrote; a watched key has *changed since start* when an
entry after `start` wrote it (spec §4.1 "records the versions of all watchKeys at start").  Reads
before `Execute` and reads inside it both see the committed store as it is when they run; writes
inside `Execute` stay in the attempt until it commits.

`Call.serve` is the same call run alone, and `Call.serveAll` a list of calls run one after the
other: the serial executions the interleavings are compared with.
-/

namespace CredentialService

/-- Modelled from the spec (§7 "`conflict` | `Execute` exhausted its retry budget"): the error
`Execute` returns when it stops retrying. -/
def conflictError : String := "conflict"

/-- A call one client makes. -/
inductive Call where
  | updateCredentialStatus (s : Service) (request : UpdateCredentialStatusRequest)
  | batchUpdateCredentialStatus (s : Service) (batchRequest : BatchUpdateCredentialStatusRequest)
  | deleteCredential (request : DeleteCredentialRequest)

/-- What a call returns when it succeeds. -/
inductive Reply where
  | updateCredentialStatus (response : UpdateCredentialStatusResponse)
  | batchUpdateCredentialStatus (response : BatchUpdateCredentialStatusResponse)
  | deleteCredential
deriving DecidableEq

/-- The same transaction with its value mapped. -/
def Transaction.map {α β : Type} (f : α → β) (tr : Transaction α) : Transaction β :=
  ⟨tr.watchKeys, f <$> tr.fn⟩

/-- An outcome with its value mapped. -/
def Outcome.map {α β : Type} (f : α → β) : Outcome α → Outcome β
  | .ok a => .ok (f a)
  | .error e => .error e
  | .panic m => .panic m

/-- Where a client is in its call. -/
inductive Phase where
  /-- A delete, not yet made. -/
  | deleting (request : DeleteCredentialRequest)
  /-- The method before `Execute`. -/
  | preamble (p : Body (Transaction Reply))
  /-- An attempt of `Execute`, begun when the log had `start` entries, with its buffered writes. -/
  | attempt (tr : Transaction Reply) (start : Nat) (b : Body Reply) (ws : List Write)
  | done (o : Outcome Reply)

/-- The phase a call starts in. -/
def Call.start : Call → Phase
  | .updateCredentialStatus s r =>
    .preamble (Transaction.map Reply.updateCredentialStatus <$> s.UpdateCredentialStatus r)
  | .batchUpdateCredentialStatus s r =>
    .preamble (Transaction.map Reply.batchUpdateCredentialStatus <$> s.batchUpdateCredentialStatus r)
  | .deleteCredential r => .deleting r

/-- A client: its call and where it is in it. -/
structure Client where
  call : Call
  phase : Phase

/-- The response a client has returned, once it has. -/
def Client.response? (c : Client) : Option Reply :=
  match c.phase with
  | .done (.ok a) => some a
  | _ => none

/-- An entry of the commit log: the keys a commit wrote, with its client and the log length when
its attempt began; a delete; or a write made outside `Execute`. -/
inductive Entry where
  | commit (client start : Nat) (keys : List WatchKey)
  | delete (id : String)
  | write (key : WatchKey)
deriving DecidableEq

/-- The keys an entry wrote. -/
def Entry.keys : Entry → List WatchKey
  | .commit _ _ keys => keys
  | .delete id => [.credential id]
  | .write key => [key]

/-- The committed store, the commit log and the clients. -/
structure System where
  store : Store
  log : List Entry
  clients : List Client

/-- Clients about to make their calls against a committed store. -/
def System.init (σ : Store) (calls : List Call) : System :=
  ⟨σ, [], calls.map fun c => ⟨c, c.start⟩⟩

/-- A key of `watchKeys` was written after the first `start` entries of the log. -/
def Conflict (log : List Entry) (start : Nat) (watchKeys : List WatchKey) : Prop :=
  ∃ e ∈ log.drop start, ∃ k ∈ e.keys, k ∈ watchKeys

instance (log : List Entry) (start : Nat) (watchKeys : List WatchKey) :
    Decidable (Conflict log start watchKeys) :=
  inferInstanceAs (Decidable (∃ e ∈ log.drop start, ∃ k ∈ e.keys, k ∈ watchKeys))

/-- Client `i` becomes `c`. -/
def System.set (sys : System) (i : Nat) (c : Client) : System :=
  { sys with clients := sys.clients.set i c }

@[simp] theorem System.set_store (sys : System) (i : Nat) (c : Client) :
    (sys.set i c).store = sys.store := rfl

@[simp] theorem System.set_log (sys : System) (i : Nat) (c : Client) :
    (sys.set i c).log = sys.log := rfl

@[simp] theorem System.set_clients (sys : System) (i : Nat) (c : Client) :
    (sys.set i c).clients = sys.clients.set i c := rfl

theorem System.set_set (sys : System) (i : Nat) (c c' : Client) :
    (sys.set i c).set i c' = sys.set i c' := by
  simp [System.set, List.set_set]

/-- What holds of every client still holds after one of them is replaced by a client it holds
of. -/
theorem forall_getElem?_set {α : Type} {P : α → Prop} {l : List α} {i : Nat} {x : α} (hx : P x)
    (h : ∀ (j : Nat) (y : α), l[j]? = some y → P y) :
    ∀ (j : Nat) (y : α), (l.set i x)[j]? = some y → P y := by
  intro j y hy
  rw [List.getElem?_set] at hy
  split_ifs at hy
  · cases hy; exact hx
  · exact h j y hy

/-- The client just put in place is there. -/
theorem System.getElem?_set_self {sys : System} {i : Nat} {c : Client}
    (hc : sys.clients[i]? = some c) (c' : Client) : (sys.set i c').clients[i]? = some c' := by
  simp [List.getElem?_set_self', hc]

/-- One step of one client. -/
inductive Step : System → System → Prop
  | preambleRead {sys : System} {i : Nat} {c : Call} {k : Store → Body (Transaction Reply)} :
      sys.clients[i]? = some ⟨c, .preamble (.read k)⟩ →
      Step sys (sys.set i ⟨c, .preamble (k sys.store)⟩)
  /-- A write before `Execute` goes to the committed store at once, as `serve` makes it. -/
  | preambleWrite {sys : System} {i : Nat} {c : Call} {w : Write}
      {k : Body (Transaction Reply)} :
      sys.clients[i]? = some ⟨c, .preamble (.write w k)⟩ →
      Step sys ⟨sys.store.apply w, sys.log ++ [.write w.key], sys.clients.set i ⟨c, .preamble k⟩⟩
  | preambleThrow {sys : System} {i : Nat} {c : Call} {e : String} :
      sys.clients[i]? = some ⟨c, .preamble (.throw e)⟩ →
      Step sys (sys.set i ⟨c, .done (.error e)⟩)
  | preamblePanic {sys : System} {i : Nat} {c : Call} {m : String} :
      sys.clients[i]? = some ⟨c, .preamble (.panic m)⟩ →
      Step sys (sys.set i ⟨c, .done (.panic m)⟩)
  /-- `Execute` begins its first attempt. -/
  | begin {sys : System} {i : Nat} {c : Call} {tr : Transaction Reply} :
      sys.clients[i]? = some ⟨c, .preamble (.pure tr)⟩ →
      Step sys (sys.set i ⟨c, .attempt tr sys.log.length tr.fn []⟩)
  | attemptRead {sys : System} {i : Nat} {c : Call} {tr : Transaction Reply} {start : Nat}
      {k : Store → Body Reply} {ws : List Write} :
      sys.clients[i]? = some ⟨c, .attempt tr start (.read k) ws⟩ →
      Step sys (sys.set i ⟨c, .attempt tr start (k sys.store) ws⟩)
  | attemptWrite {sys : System} {i : Nat} {c : Call} {tr : Transaction Reply} {start : Nat}
      {w : Write} {k : Body Reply} {ws : List Write} :
      sys.clients[i]? = some ⟨c, .attempt tr start (.write w k) ws⟩ →
      Step sys (sys.set i ⟨c, .attempt tr start k (ws ++ [w])⟩)
  | attemptThrow {sys : System} {i : Nat} {c : Call} {tr : Transaction Reply} {start : Nat}
      {e : String} {ws : List Write} :
      sys.clients[i]? = some ⟨c, .attempt tr start (.throw e) ws⟩ →
      Step sys (sys.set i ⟨c, .done (.error ("execute: " ++ e))⟩)
  | attemptPanic {sys : System} {i : Nat} {c : Call} {tr : Transaction Reply} {start : Nat}
      {m : String} {ws : List Write} :
      sys.clients[i]? = some ⟨c, .attempt tr start (.panic m) ws⟩ →
      Step sys (sys.set i ⟨c, .done (.panic m)⟩)
  /-- No watched key was written since the attempt began: its writes commit. -/
  | commit {sys : System} {i : Nat} {c : Call} {tr : Transaction Reply} {start : Nat} {a : Reply}
      {ws : List Write} :
      sys.clients[i]? = some ⟨c, .attempt tr start (.pure a) ws⟩ →
      ¬Conflict sys.log start tr.watchKeys →
      Step sys ⟨sys.store.commit ws, sys.log ++ [.commit i start (ws.map Write.key)],
        sys.clients.set i ⟨c, .done (.ok a)⟩⟩
  /-- A watched key was written since the attempt began: `Execute` runs the body again. -/
  | retry {sys : System} {i : Nat} {c : Call} {tr : Transaction Reply} {start : Nat} {a : Reply}
      {ws : List Write} :
      sys.clients[i]? = some ⟨c, .attempt tr start (.pure a) ws⟩ →
      Conflict sys.log start tr.watchKeys →
      Step sys (sys.set i ⟨c, .attempt tr sys.log.length tr.fn []⟩)
  /-- …or, its retry budget spent, gives up. -/
  | giveUp {sys : System} {i : Nat} {c : Call} {tr : Transaction Reply} {start : Nat} {a : Reply}
      {ws : List Write} :
      sys.clients[i]? = some ⟨c, .attempt tr start (.pure a) ws⟩ →
      Conflict sys.log start tr.watchKeys →
      Step sys (sys.set i ⟨c, .done (.error ("execute: " ++ conflictError))⟩)
  /-- `DeleteCredential` writes the committed store directly. -/
  | delete {sys : System} {i : Nat} {c : Call} {r : DeleteCredentialRequest} :
      sys.clients[i]? = some ⟨c, .deleting r⟩ →
      Step sys ⟨Service.deleteCredential sys.store r, sys.log ++ [.delete r.id],
        sys.clients.set i ⟨c, .done (.ok .deleteCredential)⟩⟩

/-- The systems a run can reach. -/
abbrev Run : System → System → Prop := Relation.ReflTransGen Step

/-- The step client `i` takes next, if it can move; an attempt that ends commits when no watched
key was written since it began, and retries otherwise. -/
def System.advance (sys : System) (i : Nat) : Option System :=
  match sys.clients[i]? with
  | none => none
  | some ⟨c, .deleting r⟩ => some ⟨Service.deleteCredential sys.store r, sys.log ++ [.delete r.id],
      sys.clients.set i ⟨c, .done (.ok .deleteCredential)⟩⟩
  | some ⟨c, .preamble (.read k)⟩ => some (sys.set i ⟨c, .preamble (k sys.store)⟩)
  | some ⟨c, .preamble (.write w k)⟩ =>
    some ⟨sys.store.apply w, sys.log ++ [.write w.key], sys.clients.set i ⟨c, .preamble k⟩⟩
  | some ⟨c, .preamble (.throw e)⟩ => some (sys.set i ⟨c, .done (.error e)⟩)
  | some ⟨c, .preamble (.panic m)⟩ => some (sys.set i ⟨c, .done (.panic m)⟩)
  | some ⟨c, .preamble (.pure tr)⟩ => some (sys.set i ⟨c, .attempt tr sys.log.length tr.fn []⟩)
  | some ⟨c, .attempt tr start (.read k) ws⟩ =>
    some (sys.set i ⟨c, .attempt tr start (k sys.store) ws⟩)
  | some ⟨c, .attempt tr start (.write w k) ws⟩ =>
    some (sys.set i ⟨c, .attempt tr start k (ws ++ [w])⟩)
  | some ⟨c, .attempt _ _ (.throw e) _⟩ => some (sys.set i ⟨c, .done (.error ("execute: " ++ e))⟩)
  | some ⟨c, .attempt _ _ (.panic m) _⟩ => some (sys.set i ⟨c, .done (.panic m)⟩)
  | some ⟨c, .attempt tr start (.pure a) ws⟩ =>
    if Conflict sys.log start tr.watchKeys then
      some (sys.set i ⟨c, .attempt tr sys.log.length tr.fn []⟩)
    else some ⟨sys.store.commit ws, sys.log ++ [.commit i start (ws.map Write.key)],
      sys.clients.set i ⟨c, .done (.ok a)⟩⟩
  | some ⟨_, .done _⟩ => none

/-- Each move `advance` makes is a step. -/
theorem System.step_of_advance {sys sys' : System} {i : Nat} (h : sys.advance i = some sys') :
    Step sys sys' := by
  unfold advance at h
  split at h
  next => cases h
  next hc => cases h; exact .delete hc
  next hc => cases h; exact .preambleRead hc
  next hc => cases h; exact .preambleWrite hc
  next hc => cases h; exact .preambleThrow hc
  next hc => cases h; exact .preamblePanic hc
  next hc => cases h; exact .begin hc
  next hc => cases h; exact .attemptRead hc
  next hc => cases h; exact .attemptWrite hc
  next hc => cases h; exact .attemptThrow hc
  next hc => cases h; exact .attemptPanic hc
  next hc =>
    split_ifs at h with hconf
    · cases h; exact .retry hc hconf
    · cases h; exact .commit hc hconf
  next => cases h

/-- The clients move in the order `schedule` names them, as long as each can. -/
def System.runSchedule (sys : System) : List Nat → Option System
  | [] => some sys
  | i :: schedule => (sys.advance i).bind fun sys' => sys'.runSchedule schedule

theorem System.run_of_runSchedule {sys sys' : System} :
    ∀ {schedule : List Nat}, sys.runSchedule schedule = some sys' → Run sys sys'
  | [], h => by cases h; exact .refl
  | i :: schedule, h => by
    obtain ⟨sys₁, h₁, h₂⟩ := Option.bind_eq_some.mp h
    exact .head (step_of_advance h₁) (run_of_runSchedule h₂)

/-- **A schedule is a run**: the system reached, or the start when some client named cannot
move. -/
theorem System.run_runSchedule (sys : System) (schedule : List Nat) :
    Run sys ((sys.runSchedule schedule).getD sys) := by
  cases h : sys.runSchedule schedule with
  | none => exact .refl
  | some sys' => exact run_of_runSchedule h

/-! ## Running calls alone -/

/-- The call run alone (`serve`). -/
def Call.serve (σ : Store) : Call → Outcome Reply × Store
  | .updateCredentialStatus s r =>
    ((CredentialService.serve σ (s.UpdateCredentialStatus r)).1.map Reply.updateCredentialStatus,
      (CredentialService.serve σ (s.UpdateCredentialStatus r)).2)
  | .batchUpdateCredentialStatus s r =>
    ((CredentialService.serve σ (s.batchUpdateCredentialStatus r)).1.map
        Reply.batchUpdateCredentialStatus,
      (CredentialService.serve σ (s.batchUpdateCredentialStatus r)).2)
  | .deleteCredential r => (.ok .deleteCredential, Service.deleteCredential σ r)

/-- The calls run alone one after the other: their outcomes, and the store they leave. -/
def Call.serveAll (σ : Store) (calls : List Call) : List (Outcome Reply) × Store :=
  calls.foldl (fun acc c => (acc.1 ++ [(c.serve acc.2).1], (c.serve acc.2).2)) ([], σ)

theorem Call.serveAll_append_singleton (σ : Store) (calls : List Call) (c : Call) :
    Call.serveAll σ (calls ++ [c]) =
      ((Call.serveAll σ calls).1 ++ [(c.serve (Call.serveAll σ calls).2).1],
        (c.serve (Call.serveAll σ calls).2).2) := by
  simp [Call.serveAll, List.foldl_append]

theorem Call.foldl_serve (pre : List (Outcome Reply)) (σ : Store) (calls : List Call) :
    calls.foldl (fun acc c => (acc.1 ++ [(c.serve acc.2).1], (c.serve acc.2).2)) (pre, σ) =
      (pre ++ (Call.serveAll σ calls).1, (Call.serveAll σ calls).2) := by
  induction calls generalizing pre σ with
  | nil => simp [Call.serveAll]
  | cons c calls ih =>
    have h₁ := ih (pre ++ [(c.serve σ).1]) (c.serve σ).2
    have h₂ := ih [(c.serve σ).1] (c.serve σ).2
    simp only [Call.serveAll, List.foldl_cons, List.nil_append] at h₁ h₂ ⊢
    rw [h₁, h₂, List.append_assoc]

theorem Call.serveAll_cons (σ : Store) (c : Call) (calls : List Call) :
    Call.serveAll σ (c :: calls) = ((c.serve σ).1 :: (Call.serveAll (c.serve σ).2 calls).1,
      (Call.serveAll (c.serve σ).2 calls).2) := by
  simp only [Call.serveAll, List.foldl_cons, List.nil_append]
  rw [Call.foldl_serve]
  rfl

/-- **A call's code before `Execute` writes nothing.** -/
theorem Call.preamble_writesNothing {c : Call} {p : Body (Transaction Reply)}
    (hp : c.start = .preamble p) : p.WritesNothing := by
  cases c with
  | updateCredentialStatus s r =>
    cases hp
    exact (Service.UpdateCredentialStatus_writesNothing s r).map _
  | batchUpdateCredentialStatus s r =>
    cases hp
    exact (Service.batchUpdateCredentialStatus_writesNothing s r).map _
  | deleteCredential r => cases hp

theorem serve_transactionMap {α : Type} (f : α → Reply) {m : Body (Transaction α)}
    (hpre : m.WritesNothing) {σ : Store} {tr : Transaction α} {ws₀ : List Write}
    (hm : m.run σ = .ok tr ws₀) {a : Reply} {ws : List Write} (hfn : (tr.map f).fn.run σ = .ok a ws) :
    ∃ a', a = f a' ∧ serve σ m = (.ok a', σ.commit ws) := by
  obtain ⟨a', h, rfl⟩ := (Body.run_map_eq_ok _ _ _).mp hfn
  exact ⟨a', rfl, serve_of_ok hpre hm h⟩

/-- **A call whose preamble and transaction succeed against one store is that call run alone**:
it returns the transaction's value and commits its writes. -/
theorem Call.serve_of_run {c : Call} {p : Body (Transaction Reply)} (hp : c.start = .preamble p)
    {σ : Store} {tr : Transaction Reply} {ws₀ : List Write} (hm : p.run σ = .ok tr ws₀) {a : Reply}
    {ws : List Write} (hfn : tr.fn.run σ = .ok a ws) : c.serve σ = (.ok a, σ.commit ws) := by
  cases c with
  | updateCredentialStatus s r =>
    cases hp
    obtain ⟨tr', hm', rfl⟩ := (Body.run_map_eq_ok _ _ _).mp hm
    obtain ⟨a', rfl, h⟩ :=
      serve_transactionMap _ (Service.UpdateCredentialStatus_writesNothing s r) hm' hfn
    simp [Call.serve, h, Outcome.map]
  | batchUpdateCredentialStatus s r =>
    cases hp
    obtain ⟨tr', hm', rfl⟩ := (Body.run_map_eq_ok _ _ _).mp hm
    obtain ⟨a', rfl, h⟩ :=
      serve_transactionMap _ (Service.batchUpdateCredentialStatus_writesNothing s r) hm' hfn
    simp [Call.serve, h, Outcome.map]
  | deleteCredential r => cases hp

end CredentialService
