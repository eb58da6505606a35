/-
  File:      Matternode/Base/Script.lean
  Subject:   Scripts: programs over a state that may throw, and keep the state of a throw.

  A script is an `EStateM` program: what it changed before it throws stays changed. Nothing here
  knows what the state is:

  * `lift` -- a pure computation that may throw, as a script;
  * `zoom` -- a script over a part of the state, run on the whole;
  * `final` -- the state a run leaves, thrown or not;
  * `Triple P m Q E` -- from `P`, the script ends in `Q` with its answer or throws in `E`; one rule
    for each way scripts are put together (`Triple.pure`, `.bind`, `.throw`, `.lift`, `.modify`,
    `.zoom`, …);
  * `Keeps P m` -- the script keeps `P`, thrown or not;
  * `Leads K X m` -- the script keeps `K` until it ends, perhaps in `X`.
-/
import Mathlib.Logic.Basic

namespace Matternode.Base

variable {ε σ τ α β : Type}

/-- What a sequence of pure computations answers, its first has answered before. -/
theorem bind_eq_ok {x : Except ε α} {f : α → Except ε β} {b : β} (h : (x >>= f) = .ok b) :
    ∃ a, x = .ok a ∧ f a = .ok b := by
  cases x with
  | ok a => exact ⟨a, rfl, h⟩
  | error e => cases h

/-! ## 1. Scripts -/

/-- A pure computation as a script. -/
def lift (x : Except ε α) : EStateM ε σ α := fun s =>
  match x with
  | .ok a => .ok a s
  | .error e => .error e s

/-- A script over the part of the state that `get` reads and `set` puts back. -/
def zoom (get : σ → τ) (set : τ → σ → σ) (m : EStateM ε τ α) : EStateM ε σ α := fun s =>
  match m.run (get s) with
  | .ok a t => .ok a (set t s)
  | .error e t => .error e (set t s)

/-- The state a run leaves. -/
def final : EStateM.Result ε σ α → σ
  | .ok _ s => s
  | .error _ s => s

@[simp] theorem final_ok (a : α) (s : σ) : final (EStateM.Result.ok a s : EStateM.Result ε σ α) = s :=
  rfl

@[simp] theorem final_error (e : ε) (s : σ) :
    final (EStateM.Result.error e s : EStateM.Result ε σ α) = s := rfl

/-! ## 2. Running -/

section Running

variable {m : EStateM ε σ α} {f : α → EStateM ε σ β} {s s' : σ}

/-- A first script that answers hands over. -/
theorem run_bind_ok {a : α} (h : m.run s = .ok a s') : (m >>= f).run s = (f a).run s' := by
  show EStateM.bind m f s = _
  unfold EStateM.bind
  rw [show m s = .ok a s' from h]
  rfl

/-- A first script that throws ends the run. -/
theorem run_bind_error {e : ε} (h : m.run s = .error e s') :
    (m >>= f).run s = .error e s' := by
  show EStateM.bind m f s = _
  unfold EStateM.bind
  rw [show m s = .error e s' from h]

/-- Two first scripts that run alike go on alike. -/
theorem run_bind_congr {m' : EStateM ε σ α} (h : m.run s = m'.run s') :
    (m >>= f).run s = (m' >>= f).run s' := by
  cases hrun : m'.run s' with
  | ok a t => rw [run_bind_ok (h.trans hrun), run_bind_ok hrun]
  | error e t => rw [run_bind_error (h.trans hrun), run_bind_error hrun]

theorem run_throw (e : ε) (s : σ) : (throw e : EStateM ε σ α).run s = .error e s := rfl

theorem run_get (s : σ) : (get : EStateM ε σ σ).run s = .ok s s := rfl

theorem run_modify (g : σ → σ) (s : σ) :
    (modify g : EStateM ε σ PUnit).run s = .ok ⟨⟩ (g s) := rfl

theorem run_lift_ok (a : α) (s : σ) : (lift (.ok a) : EStateM ε σ α).run s = .ok a s := rfl

/-- A pure computation that answers. -/
theorem run_lift_of {x : Except ε α} {a : α} (h : x = .ok a) (s : σ) :
    (lift x : EStateM ε σ α).run s = .ok a s := by
  rw [h]
  rfl

theorem run_lift_error (e : ε) (s : σ) :
    (lift (.error e) : EStateM ε σ α).run s = .error e s := rfl

/-- A pure computation, and what is made of its answer. -/
theorem run_lift_map (f : α → β) (x : Except ε α) (s : σ) :
    (do let a ← lift x; pure (f a) : EStateM ε σ β).run s = (lift (f <$> x)).run s := by
  cases x <;> rfl

/-- Two pure computations in a row are one. -/
theorem lift_bind {γ : Type} (x : Except ε α) (f : α → Except ε β) (g : β → EStateM ε σ γ) :
    (lift x >>= fun a => lift (f a) >>= g) = (lift (x >>= f) >>= g) := by
  funext s
  cases x <;> rfl

/-- What a sequence answers, its first script has answered before. -/
theorem run_bind_eq_ok {b : β} (h : (m >>= f).run s = .ok b s') :
    ∃ a t, m.run s = .ok a t ∧ (f a).run t = .ok b s' := by
  cases hm : m.run s with
  | ok a t => exact ⟨a, t, rfl, by rw [← run_bind_ok hm, h]⟩
  | error e t =>
    rw [run_bind_error hm] at h
    cases h

theorem run_lift_eq_ok {x : Except ε α} {a : α} (h : (lift x : EStateM ε σ α).run s = .ok a s') :
    x = .ok a ∧ s' = s := by
  cases x with
  | ok b =>
    cases h
    exact ⟨rfl, rfl⟩
  | error e => cases h

theorem run_zoom_ok {get : σ → τ} {set : τ → σ → σ} {n : EStateM ε τ α} {a : α} {t : τ}
    (h : n.run (get s) = .ok a t) : (zoom get set n).run s = .ok a (set t s) := by
  show (match n.run (get s) with
    | .ok a t => EStateM.Result.ok a (set t s)
    | .error e t => .error e (set t s)) = _
  rw [h]

theorem run_zoom_error {get : σ → τ} {set : τ → σ → σ} {n : EStateM ε τ α} {e : ε} {t : τ}
    (h : n.run (get s) = .error e t) : (zoom get set n).run s = .error e (set t s) := by
  show (match n.run (get s) with
    | .ok a t => EStateM.Result.ok a (set t s)
    | .error e t => .error e (set t s)) = _
  rw [h]

theorem run_zoom_eq_ok {get : σ → τ} {set : τ → σ → σ} {n : EStateM ε τ α} {a : α}
    (h : (zoom get set n).run s = .ok a s') :
    ∃ t, n.run (get s) = .ok a t ∧ s' = set t s := by
  change (match n.run (get s) with
    | .ok a t => EStateM.Result.ok a (set t s)
    | .error e t => .error e (set t s)) = _ at h
  cases hn : n.run (get s) with
  | ok b t =>
    rw [hn] at h
    cases h
    exact ⟨t, rfl, rfl⟩
  | error e t =>
    rw [hn] at h
    cases h

/-- What comes after and does nothing leaves the state. -/
theorem final_bind_pure (m : EStateM ε σ α) (b : β) (s : σ) :
    final ((m >>= fun _ => pure b).run s) = final (m.run s) := by
  cases hm : m.run s with
  | ok a s' =>
    rw [run_bind_ok hm]
    rfl
  | error e s' =>
    rw [run_bind_error hm]
    rfl

theorem final_zoom (get : σ → τ) (set : τ → σ → σ) (n : EStateM ε τ α) (s : σ) :
    final ((zoom get set n).run s) = set (final (n.run (get s))) s := by
  show final (match n.run (get s) with
    | .ok a t => EStateM.Result.ok a (set t s)
    | .error e t => .error e (set t s)) = _
  cases n.run (get s) <;> rfl

end Running

/-! ## 3. Triples -/

/-- From `P` the script ends in `Q` with its answer, or throws in `E`. -/
def Triple (P : σ → Prop) (m : EStateM ε σ α) (Q : α → σ → Prop) (E : σ → Prop) : Prop :=
  ∀ s, P s → match m.run s with
    | .ok a s' => Q a s'
    | .error _ s' => E s'

namespace Triple

variable {P P' : σ → Prop} {Q Q' : α → σ → Prop} {R : β → σ → Prop} {E E' : σ → Prop}

theorem ok {m : EStateM ε σ α} (h : Triple P m Q E) {s s' : σ} {a : α} (hP : P s)
    (hr : m.run s = .ok a s') : Q a s' := by
  have hs := h s hP
  rwa [hr] at hs

theorem error {m : EStateM ε σ α} (h : Triple P m Q E) {s s' : σ} {e : ε} (hP : P s)
    (hr : m.run s = .error e s') : E s' := by
  have hs := h s hP
  rwa [hr] at hs

theorem conseq {m : EStateM ε σ α} (h : Triple P m Q E) (hP : ∀ s, P' s → P s)
    (hQ : ∀ a s, Q a s → Q' a s) (hE : ∀ s, E s → E' s) : Triple P' m Q' E' := by
  intro s hs
  have hr := h s (hP s hs)
  cases hm : m.run s with
  | ok a s' =>
    rw [hm] at hr
    exact hQ a s' hr
  | error e s' =>
    rw [hm] at hr
    exact hE s' hr

theorem pure (a : α) (h : ∀ s, P s → Q a s) : Triple P (Pure.pure a : EStateM ε σ α) Q E :=
  fun s hs => h s hs

theorem throw (e : ε) (h : ∀ s, P s → E s) :
    Triple P (MonadExcept.throw e : EStateM ε σ α) Q E :=
  fun s hs => h s hs

theorem bind {m : EStateM ε σ α} {f : α → EStateM ε σ β} (hm : Triple P m Q E)
    (hf : ∀ a, Triple (Q a) (f a) R E) : Triple P (m >>= f) R E := by
  intro s hs
  cases hr : m.run s with
  | ok a s' =>
    rw [run_bind_ok hr]
    exact hf a s' (hm.ok hs hr)
  | error e s' =>
    rw [run_bind_error hr]
    exact hm.error hs hr

theorem lift {x : Except ε α} (hok : ∀ a s, x = .ok a → P s → Q a s)
    (herr : ∀ e s, x = .error e → P s → E s) : Triple P (lift x : EStateM ε σ α) Q E := by
  intro s hs
  cases x with
  | ok a => exact hok a s rfl hs
  | error e => exact herr e s rfl hs

/-- What a pure computation answers is known to what follows. -/
theorem after_lift {x : Except ε α} {f : α → EStateM ε σ β} (hE : ∀ s, P s → E s)
    (hf : ∀ a, x = .ok a → Triple P (f a) R E) : Triple P (Base.lift x >>= f) R E := by
  cases x with
  | ok a => exact hf a rfl
  | error e => exact hE

theorem get {Q : σ → σ → Prop} (h : ∀ s, P s → Q s s) :
    Triple P (MonadState.get : EStateM ε σ σ) Q E :=
  fun s hs => h s hs

theorem modify {g : σ → σ} {Q : PUnit → σ → Prop} (h : ∀ s, P s → Q ⟨⟩ (g s)) :
    Triple P (modify g : EStateM ε σ PUnit) Q E :=
  fun s hs => h s hs

theorem final {m : EStateM ε σ α} {F : σ → Prop} (h : Triple P m (fun _ => F) F) {s : σ}
    (hP : P s) : F (Base.final (m.run s)) := by
  cases hr : m.run s with
  | ok a s' => exact h.ok hP hr
  | error e s' => exact h.error hP hr

theorem of_final {m : EStateM ε σ α} {F : σ → Prop} (h : ∀ s, P s → F (Base.final (m.run s))) :
    Triple P m (fun _ => F) F := by
  intro s hs
  have hf := h s hs
  cases hr : m.run s <;> rwa [hr] at hf

/-- Two triples about one script. -/
theorem and {m : EStateM ε σ α} (h : Triple P m Q E) (h' : Triple P' m Q' E') :
    Triple (fun s => P s ∧ P' s) m (fun a s => Q a s ∧ Q' a s) fun s => E s ∧ E' s := by
  rintro s ⟨hP, hP'⟩
  have hr := h s hP
  have hr' := h' s hP'
  cases hm : m.run s with
  | ok a s' =>
    rw [hm] at hr hr'
    exact ⟨hr, hr'⟩
  | error e s' =>
    rw [hm] at hr hr'
    exact ⟨hr, hr'⟩

/-- A part of the state that changes in any way. -/
theorem zoom {get : σ → τ} {set : τ → σ → σ} {n : EStateM ε τ α}
    (hok : ∀ s a t, P s → n.run (get s) = .ok a t → Q a (set t s))
    (herr : ∀ s e t, P s → n.run (get s) = .error e t → E (set t s)) :
    Triple P (zoom get set n) Q E := by
  intro s hs
  show match (match n.run (get s) with
    | .ok a t => EStateM.Result.ok a (set t s)
    | .error e t => .error e (set t s)) with
    | .ok a s' => Q a s'
    | .error _ s' => E s'
  cases hr : n.run (get s) with
  | ok a t => exact hok s a t hs hr
  | error e t => exact herr s e t hs hr

end Triple

/-! ## 4. What a script keeps -/

/-- The script keeps `P`, whether it answers or throws. -/
def Keeps (P : σ → Prop) (m : EStateM ε σ α) : Prop := Triple P m (fun _ => P) P

namespace Keeps

variable {P : σ → Prop} {m : EStateM ε σ α}

theorem final (h : Keeps P m) {s : σ} (hs : P s) : P (Base.final (m.run s)) := Triple.final h hs

theorem of_final (h : ∀ s, P s → P (Base.final (m.run s))) : Keeps P m := Triple.of_final h

theorem pure (a : α) : Keeps P (Pure.pure a : EStateM ε σ α) := Triple.pure a fun _ h => h

theorem throw (e : ε) : Keeps P (MonadExcept.throw e : EStateM ε σ α) :=
  Triple.throw e fun _ h => h

theorem bind {f : α → EStateM ε σ β} (hm : Keeps P m) (hf : ∀ a, Keeps P (f a)) :
    Keeps P (m >>= f) :=
  Triple.bind hm hf

/-- What keeps the precondition may come first. -/
theorem after {f : α → EStateM ε σ β} {Q : β → σ → Prop} {E : σ → Prop} (hm : Keeps P m)
    (hE : ∀ s, P s → E s) (hf : ∀ a, Triple P (f a) Q E) : Triple P (m >>= f) Q E :=
  Triple.bind (Triple.conseq hm (fun _ hs => hs) (fun _ _ hs => hs) hE) hf

theorem lift (x : Except ε α) : Keeps P (Base.lift x : EStateM ε σ α) :=
  Triple.lift (fun _ _ _ h => h) fun _ _ _ h => h

theorem get : Keeps P (MonadState.get : EStateM ε σ σ) := Triple.get fun _ h => h

theorem modify {g : σ → σ} (h : ∀ s, P s → P (g s)) :
    Keeps P (modify g : EStateM ε σ PUnit) :=
  Triple.modify h

theorem zoom {get : σ → τ} {set : τ → σ → σ} (n : EStateM ε τ α) (h : ∀ s t, P s → P (set t s)) :
    Keeps P (Base.zoom get set n) :=
  Triple.zoom (fun s _ t hs _ => h s t hs) fun s _ t hs _ => h s t hs

/-- A part of the state that its script keeps `Q` of. -/
theorem zoom_of {get : σ → τ} {set : τ → σ → σ} {n : EStateM ε τ α} {Q : τ → Prop}
    (hn : Keeps Q n) (hget : ∀ s, P s → Q (get s)) (hset : ∀ s t, P s → Q t → P (set t s)) :
    Keeps P (Base.zoom get set n) :=
  Triple.zoom (fun s _ t hs hr => hset s t hs (Triple.ok hn (hget s hs) hr))
    fun s _ t hs hr => hset s t hs (Triple.error hn (hget s hs) hr)

end Keeps

/-! ## 5. What a script leads to -/

/-- From `K` the script ends in `K` still, or in `X`. -/
def Leads (K X : σ → Prop) (m : EStateM ε σ α) : Prop :=
  Triple K m (fun _ s => K s ∨ X s) fun s => K s ∨ X s

namespace Leads

variable {K X : σ → Prop} {m : EStateM ε σ α}

theorem of_keeps (h : Keeps K m) : Leads K X m :=
  Triple.conseq h (fun _ hs => hs) (fun _ _ => Or.inl) fun _ => Or.inl

theorem of_triple (h : Triple K m (fun _ => X) X) : Leads K X m :=
  Triple.conseq h (fun _ hs => hs) (fun _ _ => Or.inr) fun _ => Or.inr

/-- What keeps `K` may come first. -/
theorem after {f : α → EStateM ε σ β} (hm : Keeps K m) (hf : ∀ a, Leads K X (f a)) :
    Leads K X (m >>= f) :=
  Triple.bind (Triple.conseq hm (fun _ hs => hs) (fun _ _ hs => hs) fun _ => Or.inl) hf

/-- What a pure computation answers is known to what follows. -/
theorem after_lift {x : Except ε α} {f : α → EStateM ε σ β}
    (hf : ∀ a, x = .ok a → Leads K X (f a)) : Leads K X (Base.lift x >>= f) :=
  Triple.after_lift (fun _ => Or.inl) hf

/-- The state that is read is one of `K`. -/
theorem after_get {f : σ → EStateM ε σ β} (hf : ∀ s, K s → Leads K X (f s)) :
    Leads K X (MonadState.get >>= f) :=
  fun s hs => hf s hs s hs

/-- What turns `K` into something stronger may come first. -/
theorem onto {K' : σ → Prop} {f : α → EStateM ε σ β} (hm : Triple K m (fun _ => K') K)
    (hK : ∀ s, K' s → K s) (hf : ∀ a, Leads K' X (f a)) : Leads K X (m >>= f) :=
  Triple.bind (Triple.conseq hm (fun _ hs => hs) (fun _ _ hs => hs) fun _ => Or.inl) fun a =>
    Triple.conseq (hf a) (fun _ hs => hs) (fun _ s => Or.imp_left (hK s)) fun s => Or.imp_left (hK s)

theorem final (h : Leads K X m) {s : σ} (hs : K s) :
    K (Base.final (m.run s)) ∨ X (Base.final (m.run s)) := Triple.final h hs

end Leads

end Matternode.Base
