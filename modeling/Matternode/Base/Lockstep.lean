/-
  File:      Matternode/Base/Lockstep.lean
  Subject:   One script, or two, run from two states side by side.

  * `Together Q r r'` -- both answer the same, or throw the same, in states that are related;
  * `Lockstep R Q m m'` -- **from related states the two go on together**;
  * `Lockstep.after`, `Lockstep.before` -- a script in front or behind, whose relation is the one that
    the rest ends or begins in;
  * `Lockstep.keeping` -- with what each side keeps on its own;
  * `Together.of_discard`, `Lockstep.after_lifts` -- two scripts whose answers differ.
-/
import Matternode.Base.Script

namespace Matternode.Base

variable {ε σ τ σ' τ' α β : Type}

/-- The same answer or the same exception, in related states. -/
def Together (Q : σ → τ → Prop) : EStateM.Result ε σ α → EStateM.Result ε τ α → Prop
  | .ok a s, .ok b t => a = b ∧ Q s t
  | .error e s, .error f t => e = f ∧ Q s t
  | .ok _ _, .error _ _ => False
  | .error _ _, .ok _ _ => False

/-- From states in `R` the scripts answer or throw together, in states in `Q`. -/
def Lockstep (R Q : σ → τ → Prop) (m : EStateM ε σ α) (m' : EStateM ε τ α) : Prop :=
  ∀ s t, R s t → Together Q (m.run s) (m'.run t)

namespace Together

variable {Q Q' : σ → τ → Prop} {r : EStateM.Result ε σ α} {r' : EStateM.Result ε τ α}

/-- Both answer, or both throw. -/
theorem cases (h : Together Q r r') :
    (∃ a s t, r = .ok a s ∧ r' = .ok a t ∧ Q s t) ∨
      ∃ e s t, r = .error e s ∧ r' = .error e t ∧ Q s t := by
  cases r with
  | ok a s =>
    cases r' with
    | ok b t => exact .inl ⟨a, s, t, rfl, by rw [h.1], h.2⟩
    | error e t => exact h.elim
  | error e s =>
    cases r' with
    | ok b t => exact h.elim
    | error f t => exact .inr ⟨e, s, t, rfl, by rw [h.1], h.2⟩

theorem final (h : Together Q r r') : Q (Base.final r) (Base.final r') := by
  obtain ⟨a, s, t, rfl, rfl, hq⟩ | ⟨e, s, t, rfl, rfl, hq⟩ := h.cases
  · exact hq
  · exact hq

theorem mono (h : Together Q r r') (hQ : ∀ s t, Q s t → Q' s t) : Together Q' r r' := by
  obtain ⟨a, s, t, rfl, rfl, hq⟩ | ⟨e, s, t, rfl, rfl, hq⟩ := h.cases
  · exact ⟨rfl, hQ s t hq⟩
  · exact ⟨rfl, hQ s t hq⟩

/-- Two scripts whose answers are thrown away. -/
theorem of_discard {β : Type} {m : EStateM ε σ α} {m' : EStateM ε τ β} {s : σ} {t : τ}
    (h : Together Q ((do let _ ← m : EStateM ε σ Unit).run s)
      ((do let _ ← m' : EStateM ε τ Unit).run t)) :
    (∃ a b s' t', m.run s = .ok a s' ∧ m'.run t = .ok b t' ∧ Q s' t') ∨
      ∃ e s' t', m.run s = .error e s' ∧ m'.run t = .error e t' ∧ Q s' t' := by
  cases hr : m.run s with
  | ok a s' =>
    rw [run_bind_ok hr] at h
    cases hr' : m'.run t with
    | ok b t' =>
      rw [run_bind_ok hr'] at h
      exact .inl ⟨a, b, s', t', rfl, rfl, h.2⟩
    | error e t' =>
      rw [run_bind_error hr'] at h
      exact h.elim
  | error e s' =>
    rw [run_bind_error hr] at h
    cases hr' : m'.run t with
    | ok b t' =>
      rw [run_bind_ok hr'] at h
      exact h.elim
    | error f t' =>
      rw [run_bind_error hr'] at h
      obtain ⟨rfl, hq⟩ := h
      exact .inr ⟨e, s', t', rfl, rfl, hq⟩

end Together

namespace Lockstep

variable {R R' Q S : σ → τ → Prop} {m : EStateM ε σ α} {m' : EStateM ε τ α}
  {f : α → EStateM ε σ β} {f' : α → EStateM ε τ β}

theorem final (h : Lockstep R Q m m') {s : σ} {t : τ} (hs : R s t) :
    Q (Base.final (m.run s)) (Base.final (m'.run t)) :=
  (h s t hs).final

theorem mono (h : Lockstep R Q m m') (hQ : ∀ s t, Q s t → S s t) : Lockstep R S m m' :=
  fun s t hs => (h s t hs).mono hQ

theorem pure (a : α) (h : ∀ s t, R s t → Q s t) :
    Lockstep R Q (Pure.pure a : EStateM ε σ α) (Pure.pure a : EStateM ε τ α) :=
  fun s t hs => ⟨rfl, h s t hs⟩

theorem throw (e : ε) (h : ∀ s t, R s t → Q s t) :
    Lockstep R Q (MonadExcept.throw e : EStateM ε σ α) (MonadExcept.throw e : EStateM ε τ α) :=
  fun s t hs => ⟨rfl, h s t hs⟩

theorem bind (hm : Lockstep R Q m m') (hQ : ∀ s t, Q s t → S s t)
    (hf : ∀ a, Lockstep Q S (f a) (f' a)) : Lockstep R S (m >>= f) (m' >>= f') := by
  intro s t hs
  obtain ⟨a, s', t', hr, hr', hq⟩ | ⟨e, s', t', hr, hr', hq⟩ := (hm s t hs).cases
  · rw [run_bind_ok hr, run_bind_ok hr']
    exact hf a s' t' hq
  · rw [run_bind_error hr, run_bind_error hr']
    exact ⟨rfl, hQ s' t' hq⟩

/-- What leaves the relation as it is may come first. -/
theorem after (hm : Lockstep R R m m') (hQ : ∀ s t, R s t → Q s t)
    (hf : ∀ a, Lockstep R Q (f a) (f' a)) : Lockstep R Q (m >>= f) (m' >>= f') :=
  bind hm hQ hf

/-- What leaves the relation as it is may come last. -/
theorem before (hm : Lockstep R Q m m') (hf : ∀ a, Lockstep Q Q (f a) (f' a)) :
    Lockstep R Q (m >>= f) (m' >>= f') :=
  bind hm (fun _ _ h => h) hf

/-- Both sides read their state. -/
theorem after_get {f : σ → EStateM ε σ β} {f' : τ → EStateM ε τ β}
    (hf : ∀ s t, R s t → Lockstep R Q (f s) (f' t)) : Lockstep R Q (get >>= f) (get >>= f') :=
  fun s t hs => hf s t hs s t hs

/-- One pure computation on both sides; what it answers is known to what follows. -/
theorem after_lift {x : Except ε α} (hQ : ∀ s t, R s t → Q s t)
    (hf : ∀ a, x = .ok a → Lockstep R Q (f a) (f' a)) :
    Lockstep R Q (Base.lift x >>= f) (Base.lift x >>= f') := by
  cases x with
  | ok a => exact hf a rfl
  | error e => exact fun s t hs => ⟨rfl, hQ s t hs⟩

/-- Two pure computations that throw alike; what they answer may differ. -/
theorem after_lifts {γ : Type} {x : Except ε α} {x' : Except ε γ} {g : γ → EStateM ε τ β}
    (hx : x.map (fun _ => ()) = x'.map fun _ => ()) (hQ : ∀ s t, R s t → Q s t)
    (hf : ∀ a c, Lockstep R Q (f a) (g c)) :
    Lockstep R Q (Base.lift x >>= f) (Base.lift x' >>= g) := by
  cases x with
  | ok a =>
    cases x' with
    | ok c => exact hf a c
    | error e' => cases hx
  | error e =>
    cases x' with
    | ok c => cases hx
    | error e' =>
      cases hx
      exact fun s t hs => ⟨rfl, hQ s t hs⟩

theorem modify {g : σ → σ} {g' : τ → τ} (h : ∀ s t, R s t → Q (g s) (g' t)) :
    Lockstep R Q (modify g : EStateM ε σ PUnit) (modify g' : EStateM ε τ PUnit) :=
  fun s t hs => ⟨rfl, h s t hs⟩

/-- Both sides work on a part of their state. -/
theorem zoom {get : σ → σ'} {set : σ' → σ → σ} {get' : τ → τ'} {set' : τ' → τ → τ}
    {n : EStateM ε σ' α} {n' : EStateM ε τ' α} {N : σ → τ → σ' → τ' → Prop}
    (hn : ∀ s t, R s t → Together (N s t) (n.run (get s)) (n'.run (get' t)))
    (hset : ∀ s t u v, R s t → N s t u v → Q (set u s) (set' v t)) :
    Lockstep R Q (Base.zoom get set n) (Base.zoom get' set' n') := by
  intro s t hs
  obtain ⟨a, u, v, hr, hr', hq⟩ | ⟨e, u, v, hr, hr', hq⟩ := (hn s t hs).cases
  · rw [run_zoom_ok hr, run_zoom_ok hr']
    exact ⟨rfl, hset s t u v hs hq⟩
  · rw [run_zoom_error hr, run_zoom_error hr']
    exact ⟨rfl, hset s t u v hs hq⟩

/-- The answer of a part is not looked at. -/
theorem zoom_discard (get : σ → σ') (set : σ' → σ → σ) (n : EStateM ε σ' α) (b : β) :
    (do let _ ← Base.zoom get set n; Pure.pure b : EStateM ε σ β) =
      Base.zoom get set (do let _ ← n; Pure.pure b) := by
  funext s
  cases hr : n.run (get s) with
  | ok a u =>
    have hbind : (n >>= fun _ => Pure.pure b).run (get s) = .ok b u := run_bind_ok hr
    have hzoom : (Base.zoom get set n).run s = .ok a (set u s) := run_zoom_ok hr
    exact (run_bind_ok hzoom).trans (run_zoom_ok hbind).symm
  | error e u =>
    have hbind : (n >>= fun _ => Pure.pure b).run (get s) = .error e u := run_bind_error hr
    have hzoom : (Base.zoom get set n).run s = .error e (set u s) := run_zoom_error hr
    exact (run_bind_error hzoom).trans (run_zoom_error hbind).symm

/-- Each side keeps something on its own. -/
theorem keeping {P : σ → Prop} {P' : τ → Prop} (h : Lockstep R Q m m') (hm : Keeps P m)
    (hm' : Keeps P' m') :
    Lockstep (fun s t => R s t ∧ P s ∧ P' t) (fun s t => Q s t ∧ P s ∧ P' t) m m' := by
  rintro s t ⟨hs, hp, hp'⟩
  obtain ⟨a, s', t', hr, hr', hq⟩ | ⟨e, s', t', hr, hr', hq⟩ := (h s t hs).cases
  · rw [hr, hr']
    exact ⟨rfl, hq, Triple.ok hm hp hr, Triple.ok hm' hp' hr'⟩
  · rw [hr, hr']
    exact ⟨rfl, hq, Triple.error hm hp hr, Triple.error hm' hp' hr'⟩

/-- One script on equal states. -/
theorem diagonal {P P' : σ → Prop} (hm : Triple P m (fun _ => P') P') :
    Lockstep (fun s t => t = s ∧ P s) (fun s t => t = s ∧ P' s) m m := by
  rintro s t ⟨rfl, hs⟩
  cases hrun : m.run t with
  | ok a s₁ => exact ⟨rfl, rfl, hm.ok hs hrun⟩
  | error e s₁ => exact ⟨rfl, rfl, hm.error hs hrun⟩

end Lockstep

end Matternode.Base
