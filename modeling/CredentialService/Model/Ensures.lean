import CredentialService.Model.Body

/-!
# Model/Ensures — what a body may write, whatever it reads

`Ensures S P Q b` is a weakest-precondition reading of a body: run with every read answered by a
store satisfying `S`, it makes only writes satisfying `P` and returns only values satisfying `Q`.
It is defined by recursion on the body, so it is proved by pushing it through binds
(`ensures_bind`, an equivalence) down to the writes; `Ensures.run_ok` turns it into a fact about
every successful run.

It says what a transaction body can do in *any* interleaving, which `Body.run` alone does not:
the reads of an interleaved body see different stores, and `S` is what they are known to have in
common.

`WritesNothing` is `Ensures` with no write allowed: code before `Execute` of which it holds runs
against the committed store as it runs alone, so `serve` then changes the store only by committing
the transaction (`serve_error`, `serve_ok`, `serve_cases`).
-/

namespace CredentialService

namespace Body

/-- Run with every read answered by a store satisfying `S`, the body makes only writes satisfying
`P` and returns only values satisfying `Q`. -/
def Ensures {α : Type} (S : Store → Prop) (P : Write → Prop) (Q : α → Prop) : Body α → Prop
  | .pure a => Q a
  | .throw _ => True
  | .panic _ => True
  | .read k => ∀ σ, S σ → Ensures S P Q (k σ)
  | .write w k => P w ∧ Ensures S P Q k

section Ensures

variable {α β : Type} {S : Store → Prop} {P : Write → Prop} {Q : α → Prop}

@[simp] theorem ensures_pure (a : α) : Ensures S P Q (.pure a) ↔ Q a := Iff.rfl

@[simp] theorem ensures_throw (e : String) : Ensures S P Q (.throw e) := trivial

@[simp] theorem ensures_panic (m : String) : Ensures S P Q (.panic m) := trivial

@[simp] theorem ensures_read (k : Store → Body α) :
    Ensures S P Q (.read k) ↔ ∀ σ, S σ → Ensures S P Q (k σ) := Iff.rfl

@[simp] theorem ensures_write (w : Write) (k : Body α) :
    Ensures S P Q (.write w k) ↔ P w ∧ Ensures S P Q k := Iff.rfl

@[simp] theorem ensures_bind (p : Body β) (f : β → Body α) :
    Ensures S P Q (p.bind f) ↔ Ensures S P (fun b => Ensures S P Q (f b)) p := by
  induction p with
  | pure b => rfl
  | throw e => rfl
  | panic m => rfl
  | read k ih => simp only [bind, ensures_read, ih]
  | write w k ih => simp only [bind, ensures_write, ih]

@[simp] theorem ensures_wrapError (msg : String) (p : Body α) :
    Ensures S P Q (wrapError msg p) ↔ Ensures S P Q p := by
  induction p with
  | pure b => rfl
  | throw e => rfl
  | panic m => rfl
  | read k ih => simp only [wrapError, ensures_read, ih]
  | write w k ih => simp only [wrapError, ensures_write, ih]

@[simp] theorem ensures_ite (c : Prop) [Decidable c] (p q : Body α) :
    Ensures S P Q (if c then p else q) ↔ (c → Ensures S P Q p) ∧ (¬c → Ensures S P Q q) := by
  split <;> simp_all

@[simp] theorem ensures_get (f : Store → α) :
    Ensures S P Q (get f) ↔ ∀ σ, S σ → Q (f σ) := Iff.rfl

@[simp] theorem ensures_put {Q : Unit → Prop} (w : Write) :
    Ensures S P Q (put w) ↔ P w ∧ Q () := Iff.rfl

@[simp] theorem ensures_check {Q : Unit → Prop} (c : Bool) (e : String) :
    Ensures S P Q (check c e) ↔ (c = false → Q ()) := by
  cases c <;> simp [check]

@[simp] theorem ensures_ofError {Q : Unit → Prop} (err : Option String) :
    Ensures S P Q (ofError err) ↔ (err = none → Q ()) := by
  cases err <;> simp [ofError]

@[simp] theorem ensures_ofExcept (x : Except String α) :
    Ensures S P Q (ofExcept x) ↔ ∀ a, x = .ok a → Q a := by
  cases x <;> simp [ofExcept]

theorem Ensures.mono {S' : Store → Prop} {P' : Write → Prop} {Q' : α → Prop} {b : Body α}
    (h : Ensures S P Q b) (hS : ∀ σ, S' σ → S σ) (hP : ∀ w, P w → P' w) (hQ : ∀ a, Q a → Q' a) :
    Ensures S' P' Q' b := by
  induction b with
  | pure a => exact hQ a h
  | throw e => trivial
  | panic m => trivial
  | read k ih => exact fun σ hσ => ih σ (h σ (hS σ hσ))
  | write w k ih => exact ⟨hP w h.1, ih h.2⟩

/-- Every body ensures what holds of every write and every value. -/
theorem ensures_of_forall (hP : ∀ w, P w) (hQ : ∀ a, Q a) (b : Body α) : Ensures S P Q b := by
  induction b with
  | pure a => exact hQ a
  | throw e => trivial
  | panic m => trivial
  | read k ih => exact fun σ _ => ih σ
  | write w k ih => exact ⟨hP w, ih⟩

/-- **What `Ensures` promises of a run**: its value satisfies `Q` and every write it buffered
satisfies `P`. -/
theorem Ensures.run_ok {b : Body α} (h : Ensures S P Q b) {σ : Store} (hσ : S σ) {a : α}
    {ws : List Write} (hr : b.run σ = .ok a ws) : Q a ∧ ∀ w ∈ ws, P w := by
  induction b generalizing ws with
  | pure a' => cases hr; exact ⟨h, by simp⟩
  | throw e => cases hr
  | panic m => cases hr
  | read k ih => exact ih σ (h σ hσ) hr
  | write w k ih =>
    cases hk : k.run σ with
    | ok a' ws' =>
      simp only [run, hk, Result.prepend_ok, Result.ok.injEq] at hr
      obtain ⟨rfl, rfl⟩ := hr
      obtain ⟨hq, hws⟩ := ih h.2 hk
      exact ⟨hq, by simpa [h.1] using hws⟩
    | error e => simp [run, hk] at hr
    | panic m => simp [run, hk] at hr

/-- The body makes no write, whatever the stores its reads see. -/
def WritesNothing (b : Body α) : Prop := b.Ensures (fun _ => True) (fun _ => False) (fun _ => True)

theorem WritesNothing.map {β : Type} {b : Body β} (h : b.WritesNothing) (f : β → α) :
    (f <$> b).WritesNothing := by
  simpa only [WritesNothing, map_eq, ensures_bind] using h

/-- **Code that writes nothing runs outside a transaction as it runs alone**, leaving the store as
it was. -/
theorem WritesNothing.runDirect {b : Body α} (h : b.WritesNothing) (σ : Store) :
    b.runDirect σ = (match b.run σ with
      | .ok a _ => .ok a
      | .error e => .error e
      | .panic m => .panic m, σ) := by
  induction b with
  | pure a => rfl
  | throw e => rfl
  | panic m => rfl
  | read k ih => exact ih σ (h σ trivial)
  | write w k ih => exact h.1.elim

end Ensures

end Body

/-! ## Calls whose code before `Execute` writes nothing -/

section Serve

variable {α : Type} {σ σ' : Store} {method : Body (Transaction α)}

/-- A call whose method writes nothing before `Execute` runs `Execute` on the store it is given. -/
theorem serve_of_writesNothing (hpre : method.WritesNothing) :
    serve σ method = match method.run σ with
      | .ok tr _ =>
        match execute σ tr.fn with
        | (.error e, σ') => (.error ("execute: " ++ e), σ')
        | r => r
      | .error e => (.error e, σ)
      | .panic m => (.panic m, σ) := by
  rw [serve, hpre.runDirect]
  cases method.run σ <;> rfl

/-- **A call changes the committed store only by committing its transaction's writes**, and
then it returns the transaction's value; otherwise it returns no value and the store is as it
was. -/
theorem serve_cases (hpre : method.WritesNothing) {o : Outcome α} (h : serve σ method = (o, σ')) :
    (σ' = σ ∧ ∀ a, o ≠ .ok a) ∨ ∃ tr ws₀ a ws, method.run σ = .ok tr ws₀ ∧
      tr.fn.run σ = .ok a ws ∧ o = .ok a ∧ σ' = σ.commit ws := by
  rw [serve_of_writesNothing hpre] at h
  cases hm : method.run σ with
  | ok tr ws₀ =>
    cases hx : tr.fn.run σ with
    | ok a ws =>
      simp only [hm, execute, hx, Prod.mk.injEq] at h
      exact .inr ⟨tr, ws₀, a, ws, rfl, hx, h.1.symm, h.2.symm⟩
    | error e | panic m =>
      simp only [hm, execute, hx, Prod.mk.injEq] at h
      exact .inl ⟨h.2.symm, by simp [← h.1]⟩
  | error e | panic m =>
    simp only [hm, Prod.mk.injEq] at h
    exact .inl ⟨h.2.symm, by simp [← h.1]⟩

/-- **A call that returns an error leaves the committed store as it was** when its method writes
nothing before `Execute`: a failed `Execute` commits nothing. -/
theorem serve_error (hpre : method.WritesNothing) {e : String}
    (h : serve σ method = (.error e, σ')) : σ' = σ :=
  ((serve_cases hpre h).resolve_right fun ⟨_, _, _, _, _, _, ho, _⟩ => nomatch ho).1

/-- A call that returns a value ran its transaction to that value and committed its writes. -/
theorem serve_ok (hpre : method.WritesNothing) {a : α} (h : serve σ method = (.ok a, σ')) :
    ∃ tr ws₀ ws, method.run σ = .ok tr ws₀ ∧ tr.fn.run σ = .ok a ws ∧ σ' = σ.commit ws := by
  rcases serve_cases hpre h with ⟨-, hno⟩ | ⟨tr, ws₀, a', ws, hm, hfn, ⟨⟩, hσ⟩
  · exact absurd rfl (hno a)
  · exact ⟨tr, ws₀, ws, hm, hfn, hσ⟩

/-- A call whose method hands over a transaction that returns a value commits the transaction's
writes and returns the value. -/
theorem serve_of_ok (hpre : method.WritesNothing) {tr : Transaction α} {ws₀ : List Write} {a : α}
    {ws : List Write} (hm : method.run σ = .ok tr ws₀) (hfn : tr.fn.run σ = .ok a ws) :
    serve σ method = (.ok a, σ.commit ws) := by
  simp [serve_of_writesNothing hpre, hm, execute, hfn]

end Serve

end CredentialService
