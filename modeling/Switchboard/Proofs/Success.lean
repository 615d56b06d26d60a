/-! Work that cannot fail, work that fails without a trace, and what comes of work that may do either. All
speak of one state, so a specification can mention that state in its postcondition, and a chain of
actions is a chain of specifications. -/
namespace Switchboard

section Bind

variable {act : EStateM ε σ α} {next : α → EStateM ε σ β} {s t : σ}

theorem bind_of_ok {a : α} (run : act s = .ok a t) : (act >>= next) s = next a t := by
  change EStateM.bind act next s = _
  rw [EStateM.bind, run]

theorem bind_of_error {e : ε} (run : act s = .error e t) : (act >>= next) s = .error e t := by
  change EStateM.bind act next s = _
  rw [EStateM.bind, run]

theorem bind_eq_ok_iff {b : β} {u : σ} :
    (act >>= next) s = .ok b u ↔ ∃ a t, act s = .ok a t ∧ next a t = .ok b u := by
  cases run : act s with
  | ok a t => simp [bind_of_ok run, and_assoc]
  | error e t => simp [bind_of_error run]

theorem bind_congr_of_ok {other : α → EStateM ε σ β}
    (same : ∀ a t, act s = .ok a t → next a t = other a t) :
    (act >>= next) s = (act >>= other) s := by
  cases run : act s with
  | ok a t => rw [bind_of_ok run, bind_of_ok run, same a t run]
  | error e t => rw [bind_of_error run, bind_of_error run]

theorem bind_congr_first {other : EStateM ε σ α} (same : act s = other s) :
    (act >>= next) s = (other >>= next) s := by
  cases run : act s with
  | ok a t => rw [bind_of_ok run, bind_of_ok (same ▸ run)]
  | error e t => rw [bind_of_error run, bind_of_error (same ▸ run)]

end Bind

@[simp] theorem Except.ok_bind {next : α → Except ε β} (a : α) : (Except.ok a >>= next) = next a := rfl

theorem Except.bind_eq_ok_iff {act : Except ε α} {next : α → Except ε β} {b : β} :
    act >>= next = .ok b ↔ ∃ a, act = .ok a ∧ next a = .ok b := by
  cases act <;> simp [bind, Except.bind]

theorem Except.map_eq_ok_iff {act : Except ε α} {f : α → β} {b : β} :
    act.map f = .ok b ↔ ∃ a, act = .ok a ∧ f a = b := by
  cases act <;> simp [Except.map]

/-- From this state the action returns, and what it returns and leaves behind satisfies `post`. -/
def Succeeds (act : EStateM ε σ α) (s : σ) (post : α → σ → Prop) : Prop :=
  ∃ a t, act s = .ok a t ∧ post a t

namespace Succeeds

variable {act : EStateM ε σ α} {s : σ} {post weaker : α → σ → Prop}

theorem mono (h : Succeeds act s post) (imp : ∀ a t, post a t → weaker a t) :
    Succeeds act s weaker := by
  obtain ⟨a, t, run, holds⟩ := h
  exact ⟨a, t, run, imp a t holds⟩

@[simp] theorem bind_iff {next : α → EStateM ε σ β} {post : β → σ → Prop} :
    Succeeds (act >>= next) s post ↔ Succeeds act s fun a t => Succeeds (next a) t post := by
  simp only [Succeeds, bind_eq_ok_iff]
  constructor
  · intro h
    obtain ⟨b, u, ⟨a, t, first, second⟩, holds⟩ := h
    exact ⟨a, t, first, b, u, second, holds⟩
  · intro h
    obtain ⟨a, t, first, b, u, second, holds⟩ := h
    exact ⟨b, u, ⟨a, t, first, second⟩, holds⟩

theorem seq {next : α → EStateM ε σ β} {after : β → σ → Prop} (h : Succeeds act s post)
    (then_ : ∀ a t, post a t → Succeeds (next a) t after) : Succeeds (act >>= next) s after :=
  bind_iff.2 (h.mono then_)

theorem ok_iff {a : α} {t : σ} (run : act s = .ok a t) : Succeeds act s post ↔ post a t := by
  constructor
  · intro h
    obtain ⟨b, u, run', holds⟩ := h
    rw [run] at run'
    cases run'
    exact holds
  · intro holds
    exact ⟨a, t, run, holds⟩

@[simp] theorem pure_iff {a : α} {post : α → σ → Prop} :
    Succeeds (pure a : EStateM ε σ α) s post ↔ post a s := ok_iff rfl

@[simp] theorem get_iff {post : σ → σ → Prop} :
    Succeeds (get : EStateM ε σ σ) s post ↔ post s s := ok_iff rfl

@[simp] theorem modify_iff {f : σ → σ} {post : PUnit → σ → Prop} :
    Succeeds (modify f : EStateM ε σ PUnit) s post ↔ post ⟨⟩ (f s) := ok_iff rfl

end Succeeds

/-- The action is refused and leaves this very state, or it succeeds. -/
def Attempts (act : EStateM ε σ α) (s : σ) (post : α → σ → Prop) : Prop :=
  (∃ e, act s = .error e s) ∨ Succeeds act s post

namespace Attempts

variable {act : EStateM ε σ α} {s : σ} {post weaker : α → σ → Prop}

theorem mono (h : Attempts act s post) (imp : ∀ a t, post a t → weaker a t) :
    Attempts act s weaker :=
  h.imp_right fun done => done.mono imp

theorem seq {next : α → EStateM ε σ β} {after : β → σ → Prop} (h : Attempts act s post)
    (then_ : ∀ a t, post a t → Succeeds (next a) t after) : Attempts (act >>= next) s after := by
  rcases h with ⟨e, refused⟩ | done
  · exact .inl ⟨e, bind_of_error refused⟩
  · exact .inr (done.seq then_)

theorem of_error {e : ε} {t : σ} (h : Attempts act s post) (run : act s = .error e t) : t = s := by
  rcases h with ⟨e', refused⟩ | ⟨a, u, done, -⟩
  · rw [run] at refused
    exact (EStateM.Result.error.inj refused).2
  · rw [run] at done
    contradiction

end Attempts

/-- However the action ends: what it returns and leaves satisfies `returns`, and what a failure leaves
satisfies `fails`. -/
structure Ends (act : EStateM ε σ α) (s : σ) (returns : α → σ → Prop) (fails : σ → Prop) : Prop where
  ok : ∀ a t, act s = .ok a t → returns a t
  error : ∀ e t, act s = .error e t → fails t

namespace Ends

variable {act : EStateM ε σ α} {s : σ} {returns weaker : α → σ → Prop} {fails worse : σ → Prop}

theorem ok_iff {a : α} {t : σ} (run : act s = .ok a t) :
    Ends act s returns fails ↔ returns a t := by
  refine ⟨fun h => h.ok a t run, fun holds => ⟨?_, ?_⟩⟩ <;> simp_all

theorem error_iff {e : ε} {t : σ} (run : act s = .error e t) :
    Ends act s returns fails ↔ fails t := by
  refine ⟨fun h => h.error e t run, fun holds => ⟨?_, ?_⟩⟩ <;> simp_all

theorem mono (h : Ends act s returns fails) (good : ∀ a t, returns a t → weaker a t)
    (bad : ∀ t, fails t → worse t) : Ends act s weaker worse :=
  ⟨fun a t run => good a t (h.ok a t run), fun e t run => bad t (h.error e t run)⟩

@[simp] theorem bind_iff {next : α → EStateM ε σ β} {returns : β → σ → Prop} :
    Ends (act >>= next) s returns fails ↔
      Ends act s (fun a t => Ends (next a) t returns fails) fails := by
  cases run : act s with
  | ok a t =>
    have whole : (act >>= next) s = next a t := bind_of_ok run
    rw [ok_iff run]
    exact ⟨fun h => ⟨whole ▸ h.ok, whole ▸ h.error⟩, fun h => ⟨whole ▸ h.ok, whole ▸ h.error⟩⟩
  | error e t => rw [error_iff run, error_iff (bind_of_error run)]

@[simp] theorem pure_iff {a : α} :
    Ends (pure a : EStateM ε σ α) s returns fails ↔ returns a s := ok_iff rfl

@[simp] theorem throw_iff {e : ε} :
    Ends (throw e : EStateM ε σ α) s returns fails ↔ fails s := error_iff rfl

@[simp] theorem get_iff {returns : σ → σ → Prop} :
    Ends (get : EStateM ε σ σ) s returns fails ↔ returns s s := ok_iff rfl

@[simp] theorem modify_iff {f : σ → σ} {returns : PUnit → σ → Prop} :
    Ends (modify f : EStateM ε σ PUnit) s returns fails ↔ returns ⟨⟩ (f s) := ok_iff rfl

end Ends

def Respects (R : σ → σ → Prop) (act : EStateM ε σ α) : Prop :=
  ∀ s, Ends act s (fun _ t => R s t) (R s)

namespace Respects

variable {R : σ → σ → Prop} [Std.Refl R]

theorem pure (a : α) : Respects R (Pure.pure a : EStateM ε σ α) := fun s =>
  Ends.pure_iff.2 (Std.Refl.refl s)

theorem throw (e : ε) : Respects R (MonadExcept.throw e : EStateM ε σ α) := fun s =>
  Ends.throw_iff.2 (Std.Refl.refl s)

theorem get : Respects R (MonadState.get : EStateM ε σ σ) := fun s =>
  Ends.get_iff.2 (Std.Refl.refl s)

omit [Std.Refl R] in
theorem modify {f : σ → σ} (step : ∀ s, R s (f s)) :
    Respects R (MonadState.modifyGet fun s => (PUnit.unit, f s) : EStateM ε σ PUnit) := fun s =>
  Ends.modify_iff.2 (step s)

omit [Std.Refl R] in
theorem bind [Trans R R R] {act : EStateM ε σ α} {next : α → EStateM ε σ β}
    (first : Respects R act) (second : ∀ a, Respects R (next a)) : Respects R (act >>= next) :=
  fun s => Ends.bind_iff.2 ((first s).mono
    (fun a t step => (second a t).mono (fun _ _ => Trans.trans step) fun _ => Trans.trans step)
    fun _ step => step)

end Respects

/-- The outcome of an action that asks its guard first and cannot fail afterwards: `t` and `a` are what
it leaves and returns unless the guard refuses. -/
def guarded (guard : Option ε) (a : α) (s t : σ) : EStateM.Result ε σ α :=
  match guard with
  | some e => .error e s
  | none => .ok a t

theorem Attempts.of_guarded {act : EStateM ε σ α} {guard : Option ε} {a : α} {s t : σ}
    {post : α → σ → Prop} (run : act s = guarded guard a s t) (h : guard = none → post a t) :
    Attempts act s post := by
  cases guard with
  | some e => exact .inl ⟨e, run⟩
  | none => exact .inr ⟨a, t, run, h rfl⟩

theorem Succeeds.of_guarded {act : EStateM ε σ α} {guard : Option ε} {a : α} {s t : σ}
    {post : α → σ → Prop} (run : act s = guarded guard a s t) (allowed : guard = none)
    (h : post a t) : Succeeds act s post := by
  subst allowed
  exact ⟨a, t, run, h⟩

theorem Ends.of_guarded {act : EStateM ε σ α} {guard : Option ε} {a : α} {s t : σ}
    {returns : α → σ → Prop} {fails : σ → Prop} (run : act s = guarded guard a s t)
    (refused : fails s) (allowed : returns a t) : Ends act s returns fails := by
  cases guard with
  | some e => exact (Ends.error_iff run).2 refused
  | none => exact (Ends.ok_iff run).2 allowed

section Guarded

variable {act : EStateM ε σ α} {guard : Option ε} {a b : α} {s t u : σ}

theorem guarded_eq_ok_iff : guarded guard a s t = .ok b u ↔ guard = none ∧ b = a ∧ u = t := by
  cases guard <;> simp [guarded, eq_comm]

theorem guarded_eq_error_iff {e : ε} :
    guarded guard a s t = .error e u ↔ guard = some e ∧ u = s := by
  cases guard <;> simp [guarded, eq_comm]

theorem guarded_discard (run : act s = guarded guard a s t) :
    (do let _ ← act : EStateM ε σ Unit) s = guarded guard () s t := by
  cases guard with
  | some e => exact bind_of_error run
  | none => exact bind_of_ok run

def stateAfter (act : EStateM ε σ α) (s : σ) : σ :=
  match act s with
  | .ok _ t => t
  | .error _ t => t

def resultOf (act : EStateM ε σ α) (s : σ) : Except ε α :=
  match act s with
  | .ok a _ => .ok a
  | .error e _ => .error e

theorem Ends.stateAfter {post : σ → Prop} (h : Ends act s (fun _ t => post t) post) :
    post (stateAfter act s) := by
  unfold Switchboard.stateAfter
  cases run : act s with
  | ok a t => exact h.ok a t run
  | error e t => exact h.error e t run

theorem stateAfter_of_ok (run : act s = .ok a t) : stateAfter act s = t := by
  rw [stateAfter, run]

theorem stateAfter_of_refused {e : ε} (run : act s = guarded (some e) a s t) :
    stateAfter act s = s := by
  rw [stateAfter, run]
  rfl

theorem stateAfter_of_allowed (run : act s = guarded none a s t) : stateAfter act s = t := by
  rw [stateAfter, run]
  rfl

end Guarded

end Switchboard
