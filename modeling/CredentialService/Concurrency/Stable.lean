import CredentialService.Model.Ensures

/-!
# Concurrency/Stable — bodies whose reads may be answered early

In the concurrent system a body does not run against one store: each read is answered by the
committed store at the moment it runs, and other calls commit in between.

    b ──read σ₁──▸ k σ₁ ──write w──▸ ⋯ ──read σₙ──▸ b'          `Steps S b ws b'`,  S σ₁ … S σₙ

`Stable R Q b` says that answering a read with an earlier store `σ`, related to the final store
`τ` by `R σ τ`, changes nothing a successful run returns.  `Steps.run_of_stable` then turns a whole
interleaved run into one run against `τ`: this is how an interleaving is replaced by a serial
order.  `stable_bind` composes the property, so each service function proves it once.
-/

namespace CredentialService

namespace Body

/-- A partial run of a body, each read answered by a store satisfying `S`, each write kept. -/
inductive Steps {α : Type} (S : Store → Prop) : Body α → List Write → Body α → Prop
  | refl (b : Body α) : Steps S b [] b
  | read {k : Store → Body α} {σ : Store} {ws : List Write} {b : Body α} :
      S σ → Steps S (k σ) ws b → Steps S (.read k) ws b
  | write {w : Write} {k : Body α} {ws : List Write} {b : Body α} :
      Steps S k ws b → Steps S (.write w k) (w :: ws) b

section Steps

variable {α : Type} {S S' : Store → Prop} {b b' : Body α} {ws : List Write}

theorem Steps.mono (h : Steps S b ws b') (hS : ∀ σ, S σ → S' σ) : Steps S' b ws b' := by
  induction h with
  | refl b => exact .refl b
  | read hσ _ ih => exact .read (hS _ hσ) ih
  | write _ ih => exact .write ih

/-- One more read at the end of a partial run. -/
theorem Steps.read_last {k : Store → Body α} (h : Steps S b ws (.read k)) {σ : Store}
    (hσ : S σ) : Steps S b ws (k σ) := by
  generalize hc : Body.read k = c at h
  induction h with
  | refl => subst hc; exact .read hσ (.refl _)
  | read hσ' _ ih => exact .read hσ' (ih hc)
  | write _ ih => exact .write (ih hc)

/-- One more write at the end of a partial run. -/
theorem Steps.write_last {w : Write} {k : Body α} (h : Steps S b ws (.write w k)) :
    Steps S b (ws ++ [w]) k := by
  generalize hc : Body.write w k = c at h
  induction h with
  | refl => subst hc; exact .write (.refl _)
  | read hσ _ ih => exact .read hσ (ih hc)
  | write _ ih => exact .write (ih hc)

/-- **What a body ensures, the rest of a partial run ensures**, and the writes made so far
satisfy `P`. -/
theorem Steps.ensures {S' : Store → Prop} {P : Write → Prop} {Q : α → Prop}
    (hs : Steps S b ws b') (h : b.Ensures S' P Q) (hS : ∀ σ, S σ → S' σ) :
    b'.Ensures S' P Q ∧ ∀ w ∈ ws, P w := by
  induction hs with
  | refl => exact ⟨h, by simp⟩
  | read hσ _ ih => exact ih (h _ (hS _ hσ))
  | write _ ih =>
    obtain ⟨hb', hws⟩ := ih h.2
    exact ⟨hb', List.forall_mem_cons.mpr ⟨h.1, hws⟩⟩

/-- Code that writes nothing never reaches a write, whatever its reads see. -/
theorem WritesNothing.not_steps_write (h : b.WritesNothing) {w : Write} {k : Body α}
    (hs : Steps S b ws (.write w k)) : False :=
  (hs.ensures h fun _ _ => trivial).1.1

/-- A run against one store is a partial run that answers every read with that store. -/
theorem steps_of_run {σ : Store} {a : α} (h : b.run σ = .ok a ws) :
    Steps (· = σ) b ws (.pure a) := by
  induction b generalizing ws with
  | pure a' => cases h; exact .refl _
  | throw e => cases h
  | panic m => cases h
  | read k ih => exact .read rfl (ih σ h)
  | write w k ih =>
    obtain ⟨ws₂, hk, rfl⟩ := Result.prepend_eq_ok.mp h
    exact .write (ih hk)

end Steps

/-- Answering a read with a store `σ` related to the final store `τ` (`R σ τ`) instead of `τ`
itself changes nothing a successful run returns, at every read; every value returned satisfies
`Q`. -/
def Stable {α : Type} (R : Store → Store → Prop) (Q : α → Prop) : Body α → Prop
  | .pure a => Q a
  | .throw _ => True
  | .panic _ => True
  | .read k => ∀ σ τ, R σ τ →
      (∀ a ws, (k σ).run τ = .ok a ws → (k τ).run τ = .ok a ws) ∧ Stable R Q (k σ)
  | .write _ k => Stable R Q k

section Stable

variable {α β : Type} {R : Store → Store → Prop} {Q : α → Prop}

@[simp] theorem stable_pure (a : α) : Stable R Q (.pure a) ↔ Q a := Iff.rfl

@[simp] theorem stable_throw (e : String) : Stable R Q (.throw e) := trivial

@[simp] theorem stable_panic (m : String) : Stable R Q (.panic m) := trivial

@[simp] theorem stable_read (k : Store → Body α) :
    Stable R Q (.read k) ↔ ∀ σ τ, R σ τ →
      (∀ a ws, (k σ).run τ = .ok a ws → (k τ).run τ = .ok a ws) ∧ Stable R Q (k σ) := Iff.rfl

@[simp] theorem stable_write (w : Write) (k : Body α) : Stable R Q (.write w k) ↔ Stable R Q k :=
  Iff.rfl

@[simp] theorem stable_ite (c : Prop) [Decidable c] (p q : Body α) :
    Stable R Q (if c then p else q) ↔ (c → Stable R Q p) ∧ (¬c → Stable R Q q) := by
  split <;> simp_all

@[simp] theorem stable_check {Q : Unit → Prop} (c : Bool) (e : String) :
    Stable R Q (check c e) ↔ (c = false → Q ()) := by
  cases c <;> simp [check]

@[simp] theorem stable_ofExcept (x : Except String α) :
    Stable R Q (ofExcept x) ↔ ∀ a, x = .ok a → Q a := by
  cases x <;> simp [ofExcept]

theorem Stable.mono {R' : Store → Store → Prop} {Q' : α → Prop} {b : Body α} (h : Stable R Q b)
    (hR : ∀ σ τ, R' σ τ → R σ τ) (hQ : ∀ a, Q a → Q' a) : Stable R' Q' b := by
  induction b with
  | pure a => exact hQ a h
  | throw e => trivial
  | panic m => trivial
  | read k ih => exact fun σ τ hr => ⟨(h σ τ (hR σ τ hr)).1, ih σ (h σ τ (hR σ τ hr)).2⟩
  | write w k ih => exact ih h

/-- **Stability composes**: a stable body whose every value continues into a stable body. -/
theorem stable_bind {p : Body β} {f : β → Body α} (h : Stable R (fun b => Stable R Q (f b)) p) :
    Stable R Q (p.bind f) := by
  induction p with
  | pure b => exact h
  | throw e => trivial
  | panic m => trivial
  | read k ih =>
    refine fun σ τ hr => ⟨fun a ws hrun => ?_, ih σ (h σ τ hr).2⟩
    rw [run_bind, Result.andThen_eq_ok] at hrun ⊢
    obtain ⟨b, ws₁, ws₂, h₁, h₂, rfl⟩ := hrun
    exact ⟨b, ws₁, ws₂, (h σ τ hr).1 b ws₁ h₁, h₂, rfl⟩
  | write w k ih => exact ih h

/-- A stable body followed by continuations that are all stable. -/
theorem Stable.bind {p : Body β} {f : β → Body α} (hp : Stable R (fun _ => True) p)
    (hf : ∀ b, Stable R Q (f b)) : Stable R Q (p.bind f) :=
  stable_bind (hp.mono (fun _ _ h => h) fun b _ => hf b)

/-- A read of what `R` fixes, then a stable continuation. -/
theorem stable_get_bind {f : Store → β} {g : β → Body α} (hf : ∀ σ τ, R σ τ → f σ = f τ)
    (hg : ∀ b, Stable R Q (g b)) : Stable R Q ((get f).bind g) := by
  rw [get_bind, stable_read]
  exact fun σ τ hr => ⟨fun a ws h => hf σ τ hr ▸ h, hg _⟩

@[simp] theorem stable_ofError {Q : Unit → Prop} (err : Option String) :
    Stable R Q (ofError err) ↔ (err = none → Q ()) := by
  cases err <;> simp [ofError]

@[simp] theorem stable_wrapError (msg : String) (p : Body α) :
    Stable R Q (wrapError msg p) ↔ Stable R Q p := by
  induction p with
  | pure a => rfl
  | throw e => simp [wrapError]
  | panic m => rfl
  | read k ih => simp only [wrapError, Stable, wrapError_eq_ok, ih]
  | write w k ih => exact ih

/-- **A stable body run with early answers is the body run at the end**: the partial run's
writes, then the rest's. -/
theorem Steps.run_of_stable {b b' : Body α} {ws ws' : List Write} {τ : Store} {a : α}
    (hs : Steps (R · τ) b ws b') (hb : Stable R Q b) (hr : b'.run τ = .ok a ws') :
    b.run τ = .ok a (ws ++ ws') := by
  induction hs with
  | refl => simpa using hr
  | read hσ _ ih => exact (hb _ τ hσ).1 _ _ (ih (hb _ τ hσ).2 hr)
  | write _ ih => simp [run, ih hb hr]

end Stable

end Body

end CredentialService
