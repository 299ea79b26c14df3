import CredentialService.Model.Store

/-!
# Model/Body — transaction bodies with their suspension points

The service talks to the storage engine in two ways (spec §4.1): reads through `s.storage`, which
see the **committed** store at the moment they run, and writes through `tx`, which are buffered
until `Execute(fn, watchKeys)` commits.  A `Body` is such a program written out as a tree:

* `read k` — a suspension point: `k` continues with the committed store as it is then;
* `write w k` — buffer `w` in `tx`;
* `throw e` / `panic m` — return a Go error / stop with a runtime panic.

`Body.run σ` runs a body alone against one store, which is how a call behaves when no other call
interleaves with it.  The concurrency model (`Concurrency/`) runs the same tree one suspension
point at a time, the committed store changing in between.

A service method first runs outside any transaction and then calls `Execute`: it is a
`Body (Transaction α)` whose value names the watch keys and the closure, and `serve` runs it.  Code
outside `Execute` talks to `s.storage` directly, so `serve` runs the method with `runDirect`, which
applies each write to the committed store at once; `Model/Ensures` proves that the four methods
write nothing there.
-/

namespace CredentialService

/-- The `errors.Wrap(err, msg)` of `github.com/pkg/errors` on an error that may be nil: a nil
error stays nil. -/
def errorsWrap (err : Option String) (msg : String) : Option String :=
  err.map fun e => msg ++ ": " ++ e

/-- How a body ends when run against one store: a value with the writes it buffered, a Go error,
or a runtime panic. -/
inductive Result (α : Type) where
  | ok (a : α) (writes : List Write)
  | error (e : String)
  | panic (msg : String)

namespace Result

/-- Keep the writes `ws` in front of a result's writes. -/
def prepend {α : Type} (ws : List Write) : Result α → Result α
  | .ok a ws' => .ok a (ws ++ ws')
  | .error e => .error e
  | .panic m => .panic m

/-- Continue a result with `f`, keeping the writes made so far in front. -/
def andThen {α β : Type} (r : Result α) (f : α → Result β) : Result β :=
  match r with
  | .ok a ws => (f a).prepend ws
  | .error e => .error e
  | .panic m => .panic m

@[simp] theorem prepend_nil {α : Type} (r : Result α) : r.prepend [] = r := by
  cases r <;> rfl

@[simp] theorem prepend_ok {α : Type} (ws ws' : List Write) (a : α) :
    (Result.ok a ws').prepend ws = .ok a (ws ++ ws') := rfl

@[simp] theorem prepend_error {α : Type} (ws : List Write) (e : String) :
    (Result.error e : Result α).prepend ws = .error e := rfl

@[simp] theorem prepend_panic {α : Type} (ws : List Write) (m : String) :
    (Result.panic m : Result α).prepend ws = .panic m := rfl

theorem prepend_prepend {α : Type} (ws ws' : List Write) (r : Result α) :
    (r.prepend ws').prepend ws = r.prepend (ws ++ ws') := by
  cases r <;> simp [prepend]

@[simp] theorem ok_andThen {α β : Type} (a : α) (ws : List Write) (f : α → Result β) :
    (Result.ok a ws).andThen f = (f a).prepend ws := rfl

@[simp] theorem error_andThen {α β : Type} (e : String) (f : α → Result β) :
    (Result.error e).andThen f = .error e := rfl

@[simp] theorem panic_andThen {α β : Type} (m : String) (f : α → Result β) :
    (Result.panic m).andThen f = .panic m := rfl

theorem prepend_andThen {α β : Type} (ws : List Write) (r : Result α) (f : α → Result β) :
    (r.prepend ws).andThen f = (r.andThen f).prepend ws := by
  cases r with
  | ok a ws' => exact (prepend_prepend ws ws' (f a)).symm
  | error e => rfl
  | panic m => rfl

theorem prepend_eq_ok {α : Type} {ws ws' : List Write} {r : Result α} {a : α} :
    r.prepend ws = .ok a ws' ↔ ∃ ws₂, r = .ok a ws₂ ∧ ws' = ws ++ ws₂ := by
  cases r with
  | ok a' ws₂ =>
    simp only [prepend, ok.injEq]
    exact ⟨fun ⟨ha, hw⟩ => ⟨ws₂, ⟨ha, rfl⟩, hw.symm⟩, fun ⟨_, ⟨ha, rfl⟩, hw⟩ => ⟨ha, hw.symm⟩⟩
  | error e => simp [prepend]
  | panic m => simp [prepend]

/-- A continued result succeeds exactly when the first part does and the continuation does on
its value; the writes are the two parts' in order. -/
theorem andThen_eq_ok {α β : Type} {r : Result α} {f : α → Result β} {b : β} {ws : List Write} :
    r.andThen f = .ok b ws ↔ ∃ a ws₁ ws₂, r = .ok a ws₁ ∧ f a = .ok b ws₂ ∧ ws = ws₁ ++ ws₂ := by
  cases r with
  | ok a ws₁ =>
    simp only [andThen, prepend_eq_ok, ok.injEq]
    exact ⟨fun ⟨ws₂, h, hw⟩ => ⟨a, ws₁, ws₂, ⟨rfl, rfl⟩, h, hw⟩,
      fun ⟨_, _, ws₂, ⟨rfl, rfl⟩, h, hw⟩ => ⟨ws₂, h, hw⟩⟩
  | error e => simp [andThen]
  | panic m => simp [andThen]

/-- The result is a value, not an error or a panic. -/
def isOk {α : Type} : Result α → Bool
  | .ok _ _ => true
  | _ => false

theorem isOk_iff {α : Type} {r : Result α} : r.isOk = true ↔ ∃ a ws, r = .ok a ws := by
  cases r <;> simp [isOk]

end Result

/-- How a service call ends: a response, an error, or a runtime panic. -/
inductive Outcome (α : Type) where
  | ok (a : α)
  | error (e : String)
  | panic (msg : String)

/-- A program over the storage engine with its suspension points (reads) made explicit. -/
inductive Body (α : Type) where
  | pure (a : α)
  | throw (e : String)
  | panic (msg : String)
  | read (k : Store → Body α)
  | write (w : Write) (k : Body α)

namespace Body

/-- Sequencing: run `p`, then `f` on its value. -/
def bind {α β : Type} : Body α → (α → Body β) → Body β
  | .pure a, f => f a
  | .throw e, _ => .throw e
  | .panic m, _ => .panic m
  | .read k, f => .read fun σ => (k σ).bind f
  | .write w k, f => .write w (k.bind f)

instance : Monad Body where
  pure := .pure
  bind := bind

/-- One read of the committed store. -/
def get {β : Type} (f : Store → β) : Body β := .read fun σ => .pure (f σ)

/-- Buffer one write in `tx`. -/
def put (w : Write) : Body Unit := .write w (.pure ())

/-- A pure Go computation that returns `(value, error)`. -/
def ofExcept {β : Type} : Except String β → Body β
  | .ok b => .pure b
  | .error e => .throw e

/-- The Go pattern `if err != nil { return nil, errors.Wrap(err, msg) }` around `p`: an error of
`p` comes back as `msg: err`. -/
def wrapError {β : Type} (msg : String) : Body β → Body β
  | .pure b => .pure b
  | .throw e => .throw (msg ++ ": " ++ e)
  | .panic m => .panic m
  | .read k => .read fun σ => wrapError msg (k σ)
  | .write w k => .write w (wrapError msg k)

/-- The Go guard `if cond { return nil, err }`. -/
def check (cond : Bool) (err : String) : Body Unit := if cond then .throw err else .pure ()

/-- The Go guard `if err != nil { return nil, err }` on an error that may be nil. -/
def ofError : Option String → Body Unit
  | some e => .throw e
  | none => .pure ()

/-- Run a body alone against one committed store. -/
def run {α : Type} (σ : Store) : Body α → Result α
  | .pure a => .ok a []
  | .throw e => .error e
  | .panic m => .panic m
  | .read k => (k σ).run σ
  | .write w k => (k.run σ).prepend [w]

/-- Run a body outside any transaction: each read sees the committed store and each write goes to
it at once, as calls on `s.storage` before `Execute` do. -/
def runDirect {α : Type} (σ : Store) : Body α → Outcome α × Store
  | .pure a => (.ok a, σ)
  | .throw e => (.error e, σ)
  | .panic m => (.panic m, σ)
  | .read k => (k σ).runDirect σ
  | .write w k => k.runDirect (σ.apply w)

/-! ## Running a body alone -/

section Run

variable {α β : Type} (σ : Store)

/-- Symbolic execution works on `Body.bind`; `>>=` and `pure` of the `Monad` instance unfold to
it. -/
@[simp] theorem bind_eq (p : Body α) (f : α → Body β) : p >>= f = p.bind f := rfl

@[simp] theorem pure_eq (a : α) : (Pure.pure a : Body α) = .pure a := rfl

@[simp] theorem map_eq (f : α → β) (p : Body α) : f <$> p = p.bind (fun a => .pure (f a)) := rfl

@[simp] theorem run_pure (a : α) : (Body.pure a).run σ = .ok a [] := rfl

@[simp] theorem run_throw (e : String) : (Body.throw e : Body α).run σ = .error e := rfl

@[simp] theorem run_panic (m : String) : (Body.panic m : Body α).run σ = .panic m := rfl

@[simp] theorem run_get (f : Store → α) : (get f).run σ = .ok (f σ) [] := rfl

@[simp] theorem run_put (w : Write) : (put w).run σ = .ok () [w] := rfl

theorem run_bind (p : Body α) (f : α → Body β) :
    (p.bind f).run σ = (p.run σ).andThen fun a => (f a).run σ := by
  induction p with
  | pure a => simp [bind, run]
  | throw e => rfl
  | panic m => rfl
  | read k ih => exact ih σ
  | write w k ih => simp only [bind, run, ih, Result.prepend_andThen]

theorem run_map_eq_ok (f : α → β) (p : Body α) {b : β} {ws : List Write} :
    (f <$> p).run σ = .ok b ws ↔ ∃ a, p.run σ = .ok a ws ∧ b = f a := by
  simp only [map_eq, run_bind, run_pure, Result.andThen_eq_ok, Result.ok.injEq]
  exact ⟨fun ⟨a, _, _, h, ⟨hb, rfl⟩, hw⟩ => ⟨a, by simpa [hw] using h, hb.symm⟩,
    fun ⟨a, h, hb⟩ => ⟨a, ws, [], h, ⟨hb.symm, rfl⟩, by simp⟩⟩

@[simp] theorem get_bind (f : Store → β) (g : β → Body α) :
    (get f).bind g = .read fun σ => g (f σ) := rfl

@[simp] theorem read_bind (k : Store → Body β) (g : β → Body α) :
    (Body.read k).bind g = .read fun σ => (k σ).bind g := rfl

@[simp] theorem bind_assoc {γ : Type} (p : Body γ) (f : γ → Body β) (g : β → Body α) :
    (p.bind f).bind g = p.bind fun c => (f c).bind g := by
  induction p with
  | pure c => rfl
  | throw e => rfl
  | panic m => rfl
  | read k ih => simp only [bind, ih]
  | write w k ih => simp only [bind, ih]

@[simp] theorem put_bind (w : Write) (g : Unit → Body α) : (put w).bind g = .write w (g ()) := rfl

@[simp] theorem throw_bind (e : String) (g : β → Body α) : (Body.throw e).bind g = .throw e := rfl

@[simp] theorem panic_bind (m : String) (g : β → Body α) : (Body.panic m).bind g = .panic m := rfl

@[simp] theorem pure_bind (b : β) (g : β → Body α) : (Body.pure b).bind g = g b := rfl

@[simp] theorem check_bind (c : Bool) (e : String) (g : Unit → Body α) :
    (check c e).bind g = if c then .throw e else g () := by
  cases c <;> rfl

@[simp] theorem run_ite (c : Prop) [Decidable c] (p q : Body α) :
    (if c then p else q).run σ = if c then p.run σ else q.run σ := by
  split <;> rfl

@[simp] theorem run_read (k : Store → Body α) : (Body.read k).run σ = (k σ).run σ := rfl

@[simp] theorem run_write (w : Write) (k : Body α) : (Body.write w k).run σ = (k.run σ).prepend [w] :=
  rfl

@[simp] theorem runDirect_pure (a : α) : (Body.pure a).runDirect σ = (.ok a, σ) := rfl

@[simp] theorem runDirect_read (k : Store → Body α) : (Body.read k).runDirect σ = (k σ).runDirect σ :=
  rfl

@[simp] theorem runDirect_write (w : Write) (k : Body α) :
    (Body.write w k).runDirect σ = k.runDirect (σ.apply w) := rfl

@[simp] theorem run_ofExcept (x : Except String α) :
    (ofExcept x).run σ = match x with | .ok a => .ok a [] | .error e => .error e := by
  cases x <;> rfl

@[simp] theorem wrapError_pure (msg : String) (a : α) :
    wrapError msg (Body.pure a) = .pure a := rfl

@[simp] theorem wrapError_throw (msg e : String) :
    wrapError msg (Body.throw e : Body α) = .throw (msg ++ ": " ++ e) := rfl

@[simp] theorem wrapError_panic (msg m : String) :
    wrapError msg (Body.panic m : Body α) = .panic m := rfl

@[simp] theorem wrapError_bind (msg : String) (p : Body α) (f : α → Body β) :
    wrapError msg (p.bind f) = (wrapError msg p).bind fun a => wrapError msg (f a) := by
  induction p with
  | pure a => rfl
  | throw e => rfl
  | panic m => rfl
  | read k ih => simp only [bind, wrapError, ih]
  | write w k ih => simp only [bind, wrapError, ih]

@[simp] theorem wrapError_read (msg : String) (k : Store → Body α) :
    wrapError msg (Body.read k) = .read fun σ => wrapError msg (k σ) := rfl

@[simp] theorem wrapError_get (msg : String) (f : Store → α) :
    wrapError msg (get f) = get f := rfl

@[simp] theorem wrapError_put (msg : String) (w : Write) : wrapError msg (put w) = put w := rfl

@[simp] theorem ofExcept_ok (a : α) : ofExcept (.ok a : Except String α) = .pure a := rfl

@[simp] theorem ofExcept_error (e : String) : ofExcept (.error e : Except String α) = .throw e := rfl

@[simp] theorem run_check (c : Bool) (e : String) :
    (check c e).run σ = if c then .error e else .ok () [] := by
  cases c <;> rfl

@[simp] theorem run_ofError (err : Option String) :
    (ofError err).run σ = match err with | some e => .error e | none => .ok () [] := by
  cases err <;> rfl

theorem run_wrapError (msg : String) (p : Body α) :
    (wrapError msg p).run σ = match p.run σ with
      | .error e => .error (msg ++ ": " ++ e)
      | r => r := by
  induction p with
  | pure a => rfl
  | throw e => rfl
  | panic m => rfl
  | read k ih => exact ih σ
  | write w k ih =>
    simp only [wrapError, run, ih]
    cases k.run σ <;> rfl

end Run

section RunOk

variable {α : Type} {σ : Store} {a : α} {ws : List Write}

theorem wrapError_eq_ok (msg : String) {p : Body α} :
    (wrapError msg p).run σ = .ok a ws ↔ p.run σ = .ok a ws := by
  rw [run_wrapError]
  cases p.run σ <;> simp

theorem ofExcept_eq_ok {x : Except String α} :
    (ofExcept x).run σ = .ok a ws ↔ x = .ok a ∧ ws = [] := by
  cases x <;> simp [eq_comm]

theorem ofError_eq_ok {err : Option String} {u : Unit} :
    (ofError err).run σ = .ok u ws ↔ err = none ∧ ws = [] := by
  cases err <;> simp [eq_comm]

end RunOk

end Body

/-! ## Service methods and `Execute` -/

/-- What a service method hands to `Execute(fn, watchKeys)`. -/
structure Transaction (α : Type) where
  watchKeys : List WatchKey
  fn : Body α

/-- `Execute(fn, watchKeys)` with no other call interleaved: the body reads the committed store,
and its buffered writes commit only when it returns without error. -/
def execute {α : Type} (σ : Store) (fn : Body α) : Outcome α × Store :=
  match fn.run σ with
  | .ok a ws => (.ok a, σ.commit ws)
  | .error e => (.error e, σ)
  | .panic m => (.panic m, σ)

/-- A service method run alone: the code before `Execute` against the committed store, then
`Execute`, whose error the method returns as `errors.Wrap(err, "execute")`. -/
def serve {α : Type} (σ : Store) (method : Body (Transaction α)) : Outcome α × Store :=
  match method.runDirect σ with
  | (.ok tr, σ₁) =>
    match execute σ₁ tr.fn with
    | (.error e, σ') => (.error ("execute: " ++ e), σ')
    | r => r
  | (.error e, σ₁) => (.error e, σ₁)
  | (.panic m, σ₁) => (.panic m, σ₁)

/-- **A failed `Execute` commits nothing**: whatever the body buffered is dropped. -/
theorem execute_error {α : Type} {σ σ' : Store} {fn : Body α} {e : String}
    (h : execute σ fn = (.error e, σ')) : σ' = σ := by
  unfold execute at h
  split at h <;> simp_all

end CredentialService
