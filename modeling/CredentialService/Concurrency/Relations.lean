import CredentialService.Sequential.Sound

/-!
# Concurrency/Relations — what a status update can change, as relations between stores

A status update changes a stored credential in its two flags only, and writes status lists; it
never adds, removes or moves a record.  Two relations between an earlier store `σ` and a later
store `τ` say what therefore survives:

* `σ.Later τ` — the same records up to their flags (`skeleton`), and every status list of `σ`
  still present;
* `σ.AgreeOn W τ` — the same records, whole where their triple's status-list key is in `W` and up
  to flags elsewhere (`mask W`): what a transaction watching `W` can rely on.

`Write.FlagUpdate` is a write a status update can make.  The frame lemmas `Store.later_commit` and
`Store.agreeOn_commit` say that committing such writes gives a later store, and one that agrees
on every `W` whose keys the writes do not touch.
-/

namespace CredentialService

namespace StoredCredential

/-- The record with both flags cleared: what a status update leaves as it was. -/
def unflagged (sc : StoredCredential) : StoredCredential := sc.withFlags false false

/-- Whether the status-list key of the record's triple is among the watch keys `W`. -/
def Watched (W : List WatchKey) (sc : StoredCredential) : Bool :=
  sc.triple.any fun t => decide (WatchKey.statusListCredential t ∈ W)

/-- The record as a transaction watching `W` sees it for certain: whole when its triple is
watched, up to flags otherwise. -/
def mask (W : List WatchKey) (sc : StoredCredential) : StoredCredential :=
  if sc.Watched W then sc else sc.unflagged

variable {W : List WatchKey} {sc sc' : StoredCredential}

@[simp] theorem localCredentialID_unflagged :
    sc.unflagged.localCredentialID = sc.localCredentialID := rfl

@[simp] theorem triple_unflagged : sc.unflagged.triple = sc.triple := rfl

@[simp] theorem watched_unflagged : sc.unflagged.Watched W = sc.Watched W := rfl

@[simp] theorem unflagged_withFlags (r s : Bool) : (sc.withFlags r s).unflagged = sc.unflagged :=
  rfl

@[simp] theorem localCredentialID_mask : (sc.mask W).localCredentialID = sc.localCredentialID := by
  unfold mask; split <;> rfl

@[simp] theorem unflagged_mask : (sc.mask W).unflagged = sc.unflagged := by
  unfold mask; split <;> rfl

@[simp] theorem credential_mask : (sc.mask W).credential = sc.credential := by
  unfold mask; split <;> rfl

@[simp] theorem issuer_mask : (sc.mask W).issuer = sc.issuer := by
  simp [StoredCredential.issuer]

@[simp] theorem schema_mask : (sc.mask W).schema = sc.schema := by
  simp [StoredCredential.schema]

theorem mask_of_watched (h : sc.Watched W = true) : sc.mask W = sc := if_pos h

theorem triple_eq_of_unflagged (h : sc.unflagged = sc'.unflagged) : sc.triple = sc'.triple := by
  rw [← triple_unflagged, h, triple_unflagged]

theorem watched_eq_of_unflagged (h : sc.unflagged = sc'.unflagged) :
    sc.Watched W = sc'.Watched W := by
  rw [← watched_unflagged, h, watched_unflagged]

/-- Records equal up to flags look the same to a transaction that does not watch them. -/
theorem mask_eq_of_unflagged (h : sc.unflagged = sc'.unflagged) (hw : sc.Watched W = false) :
    sc.mask W = sc'.mask W := by
  have hw' : sc'.Watched W = false := (watched_eq_of_unflagged h).symm.trans hw
  simp [mask, hw, hw', h]

theorem Watched.mono {W' : List WatchKey} (h : sc.Watched W' = true) (hW : W' ⊆ W) :
    sc.Watched W = true := by
  revert h
  unfold Watched
  cases sc.triple <;> simp
  exact fun h => hW h

/-- What a transaction watching fewer keys sees of a record is what it sees of its mask. -/
theorem mask_mask {W' : List WatchKey} (hW : W' ⊆ W) : (sc.mask W).mask W' = sc.mask W' := by
  by_cases hw : sc.Watched W' = true
  · simp [mask, hw, Watched.mono hw hW]
  · have hw' : (sc.mask W).Watched W' = false :=
      (watched_eq_of_unflagged unflagged_mask).trans (by simpa using hw)
    rw [mask_eq_of_unflagged unflagged_mask hw']

end StoredCredential

open StoredCredential

namespace Store

variable {σ τ υ : Store} {W : List WatchKey}

/-! ## Later stores -/

/-- The records of the store with their flags cleared. -/
def skeleton (σ : Store) : List StoredCredential := σ.credentials.map unflagged

/-- `τ` can follow `σ` by status updates: the same records up to flags, and every status list of
`σ` still there. -/
structure Later (σ τ : Store) : Prop where
  skeleton_eq : τ.skeleton = σ.skeleton
  statusList_isSome : ∀ t, (σ.statusListCredentials t).isSome → (τ.statusListCredentials t).isSome

theorem Later.refl (σ : Store) : σ.Later σ := ⟨rfl, fun _ h => h⟩

theorem Later.trans (h₁ : σ.Later τ) (h₂ : τ.Later υ) : σ.Later υ :=
  ⟨h₂.skeleton_eq.trans h₁.skeleton_eq, fun t h => h₂.statusList_isSome t (h₁.statusList_isSome t h)⟩

theorem getCredential_unflagged (σ : Store) (id : String) :
    (σ.getCredential id).map unflagged = findCredential σ.skeleton id :=
  (@findCredential_map unflagged (fun _ => rfl) _ _).symm

/-- A later store holds the same record under each id, up to flags. -/
theorem Later.getCredential (h : σ.Later τ) (id : String) :
    (τ.getCredential id).map unflagged = (σ.getCredential id).map unflagged := by
  rw [getCredential_unflagged, getCredential_unflagged, h.skeleton_eq]

theorem nodup_iff_skeleton (σ : Store) :
    σ.Nodup ↔ (σ.skeleton.map (·.localCredentialID)).Nodup := by
  simp [Store.Nodup, skeleton, Function.comp_def]

theorem Later.nodup (h : σ.Later τ) (hσ : σ.Nodup) : τ.Nodup := by
  rw [nodup_iff_skeleton, h.skeleton_eq]
  exact (nodup_iff_skeleton σ).mp hσ

/-! ## Stores that agree on the watched triples -/

/-- `σ` and `τ` hold the same records, with the same flags on every record of a watched triple. -/
def AgreeOn (W : List WatchKey) (σ τ : Store) : Prop :=
  σ.credentials.map (mask W) = τ.credentials.map (mask W)

theorem AgreeOn.refl (W : List WatchKey) (σ : Store) : σ.AgreeOn W σ := rfl

theorem AgreeOn.symm (h : σ.AgreeOn W τ) : τ.AgreeOn W σ := Eq.symm h

theorem AgreeOn.trans (h₁ : σ.AgreeOn W τ) (h₂ : τ.AgreeOn W υ) : σ.AgreeOn W υ := Eq.trans h₁ h₂

theorem AgreeOn.mono {W' : List WatchKey} (h : σ.AgreeOn W τ) (hW : W' ⊆ W) : σ.AgreeOn W' τ := by
  simpa [AgreeOn, Function.comp_def, mask_mask hW] using congrArg (List.map (mask W')) h

theorem AgreeOn.skeleton_eq (h : σ.AgreeOn W τ) : σ.skeleton = τ.skeleton := by
  simpa [skeleton, Function.comp_def] using congrArg (List.map unflagged) h

/-- **Stores that agree on `W` hold the same record of a watched triple.** -/
theorem AgreeOn.getCredential_eq (h : σ.AgreeOn W τ) {id : String}
    (hw : ∀ g, τ.getCredential id = some g → g.Watched W = true) :
    σ.getCredential id = τ.getCredential id := by
  have hm : (σ.getCredential id).map (mask W) = (τ.getCredential id).map (mask W) := by
    simp only [Store.getCredential, ← findCredential_map (fun _ => localCredentialID_mask)]
    rw [show σ.credentials.map (mask W) = τ.credentials.map (mask W) from h]
  cases hτ : τ.getCredential id with
  | none => simpa [hτ] using hm
  | some g =>
    rw [hτ, Option.map_some', mask_of_watched (hw g hτ), Option.map_eq_some'] at hm
    obtain ⟨g', hg', rfl⟩ := hm
    rw [hg', mask_of_watched ((watched_eq_of_unflagged unflagged_mask).symm.trans (hw _ hτ))]

/-- Stores with one skeleton hold records of the same triple under each id. -/
theorem triple_eq_of_skeleton (h : τ.skeleton = σ.skeleton) {id : String}
    {g g' : StoredCredential} (hg : σ.getCredential id = some g)
    (hg' : τ.getCredential id = some g') : g'.triple = g.triple := by
  have := getCredential_unflagged τ id
  rw [h, ← getCredential_unflagged, hg, hg', Option.map_some', Option.map_some'] at this
  exact triple_eq_of_unflagged (Option.some.inj this)

/-- **In a later store, storing a record with new flags under its id changes no view that
ignores flags.** -/
theorem Later.map_putCredential (hσ : σ.Nodup) (h : σ.Later τ) {sc g : StoredCredential}
    (hg : σ.getCredential sc.localCredentialID = some g) (hu : sc.unflagged = g.unflagged)
    {β : Type} (f : StoredCredential → β) (hf : ∀ c, c.unflagged = sc.unflagged → f c = f sc) :
    (putCredential τ.credentials sc).map f = τ.credentials.map f := by
  obtain ⟨hgm, hgid⟩ := findCredential_mem hg
  have hτ : ∀ c ∈ τ.credentials, ∃ c' ∈ σ.credentials, c'.unflagged = c.unflagged := fun c hc =>
    List.mem_map.mp (h.skeleton_eq ▸ List.mem_map_of_mem unflagged hc : c.unflagged ∈ σ.skeleton)
  have hsame : ∀ c ∈ τ.credentials, c.localCredentialID = sc.localCredentialID →
      c.unflagged = sc.unflagged := by
    intro c hc hid
    obtain ⟨c', hc', hcu⟩ := hτ c hc
    have : c' = g := List.inj_on_of_nodup_map hσ hc' hgm (by
      show c'.localCredentialID = g.localCredentialID
      rw [← localCredentialID_unflagged, hcu, localCredentialID_unflagged, hid, hgid])
    rw [← hcu, this, hu]
  obtain ⟨c, hc, hcu⟩ :=
    List.mem_map.mp (h.skeleton_eq.symm ▸ List.mem_map_of_mem unflagged hgm : g.unflagged ∈ τ.skeleton)
  refine map_putCredential_eq f ⟨c, hc, ?_⟩ fun c hc hid => (hf c (hsame c hc hid)).symm
  rw [← localCredentialID_unflagged, hcu, localCredentialID_unflagged, hgid]

end Store

/-! ## The frame of a status update -/

/-- A write a status update can make: a status list, or a record of `σ` with new flags, whose
triple's status-list key is among `keys`. -/
def Write.FlagUpdate (σ : Store) (keys : List WatchKey) : Write → Prop
  | .credential sc => ∃ gotCred t, σ.getCredential sc.localCredentialID = some gotCred ∧
      sc.unflagged = gotCred.unflagged ∧ gotCred.triple = some t ∧
      WatchKey.statusListCredential t ∈ keys
  | .statusListCredential _ _ => True
  | _ => False

theorem Write.FlagUpdate.mono {σ : Store} {keys keys' : List WatchKey} {w : Write}
    (h : w.FlagUpdate σ keys) (hk : keys ⊆ keys') : w.FlagUpdate σ keys' := by
  cases w with
  | credential sc =>
    obtain ⟨g, t, hg, hu, ht, hkt⟩ := h
    exact ⟨g, t, hg, hu, ht, hk hkt⟩
  | statusListCredential => trivial
  | _ => exact h

namespace Store

variable {σ τ : Store} {W keys : List WatchKey}

theorem Later.apply (hσ : σ.Nodup) (h : σ.Later τ) {w : Write} (hw : w.FlagUpdate σ keys) :
    σ.Later (τ.apply w) := by
  cases w with
  | credential sc =>
    obtain ⟨g, -, hg, hu, -⟩ := hw
    exact ⟨(h.map_putCredential hσ hg hu unflagged fun _ hc => hc).trans h.skeleton_eq,
      h.statusList_isSome⟩
  | statusListCredential t slc =>
    refine ⟨h.skeleton_eq, fun t' ht' => ?_⟩
    simp only [statusListCredentials_apply_statusListCredential, Function.update_apply]
    split <;> simp [h.statusList_isSome t' ht']
  | statusListIndexPool => exact hw.elim
  | statusListCurrentIndex => exact hw.elim

/-- **Committing what a status update writes gives a later store.** -/
theorem later_commit (hσ : σ.Nodup) {ws : List Write} (hws : ∀ w ∈ ws, w.FlagUpdate σ keys) :
    σ.Later (σ.commit ws) := by
  suffices ∀ τ, σ.Later τ → σ.Later (τ.commit ws) from this σ (.refl σ)
  induction ws with
  | nil => exact fun _ h => h
  | cons w ws ih =>
    exact fun τ h => ih (fun w' hw' => hws w' (List.mem_cons_of_mem _ hw')) _
      (h.apply hσ (hws w (List.mem_cons_self _ _)))

theorem AgreeOn.apply (hσ : σ.Nodup) (hl : σ.Later τ) (h : σ.AgreeOn W τ) {w : Write}
    (hw : w.FlagUpdate σ keys) (hkeys : ∀ k ∈ keys, k ∉ W) : σ.AgreeOn W (τ.apply w) := by
  cases w with
  | credential sc =>
    obtain ⟨g, t, hg, hu, ht, hk⟩ := hw
    have hsw : sc.Watched W = false :=
      (watched_eq_of_unflagged hu).trans (by simp [Watched, ht, hkeys _ hk])
    refine h.trans (hl.map_putCredential hσ hg hu (mask W) fun c hc => ?_).symm
    exact mask_eq_of_unflagged hc ((watched_eq_of_unflagged hc).trans hsw)
  | statusListCredential => exact h
  | statusListIndexPool => exact hw.elim
  | statusListCurrentIndex => exact hw.elim

/-- **Committing what a status update writes keeps every triple whose status-list key it does not
write**: the store agrees with the one before on every such `W`. -/
theorem agreeOn_commit (hσ : σ.Nodup) {ws : List Write} (hws : ∀ w ∈ ws, w.FlagUpdate σ keys)
    (hkeys : ∀ k ∈ keys, k ∉ W) : σ.AgreeOn W (σ.commit ws) := by
  suffices ∀ τ, σ.Later τ → σ.AgreeOn W τ → σ.AgreeOn W (τ.commit ws) from
    this σ (.refl σ) (.refl W σ)
  induction ws with
  | nil => exact fun _ _ h => h
  | cons w ws ih =>
    have hw := hws w (List.mem_cons_self _ _)
    exact fun τ hl h => ih (fun w' hw' => hws w' (List.mem_cons_of_mem _ hw')) _
      (hl.apply hσ hw) (h.apply hσ hl hw hkeys)

end Store

end CredentialService
