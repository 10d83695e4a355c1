import WidgetRepair.Disk.Basic

/-! Computations that pass a state on, as functions of that state. The loop, the disk and the
store are all written in this form, with or without faults. -/

namespace WidgetRepair

variable {σ ε α β : Type}

theorem bind_ok {first : Except ε α} {next : α → Except ε β} {b : β} (ran : (first >>= next) = .ok b) :
    ∃ a, first = .ok a ∧ next a = .ok b := by
  cases first with
  | error e => cases ran
  | ok a => exact ⟨a, rfl, ran⟩

theorem mem_of_mapM {f : α → Except ε β} {items : List α} {results : List β}
    (ran : items.mapM f = .ok results) : ∀ b ∈ results, ∃ a ∈ items, f a = .ok b := by
  induction items generalizing results with
  | nil =>
    cases ran
    simp
  | cons first rest ih =>
    rw [List.mapM_cons] at ran
    obtain ⟨b, head, ran⟩ := bind_ok ran
    obtain ⟨later, tail, ran⟩ := bind_ok ran
    cases ran
    intro c member
    obtain rfl | member := List.mem_cons.mp member
    · exact ⟨first, List.mem_cons_self, head⟩
    · obtain ⟨a, among, found⟩ := ih tail c member
      exact ⟨a, List.mem_cons_of_mem first among, found⟩

theorem stateM_pure (a : α) (s : σ) : (pure a : StateM σ α) s = (a, s) := rfl

theorem stateM_bind (first : StateM σ α) (next : α → StateM σ β) (s : σ) :
    (first >>= next) s = next (first s).1 (first s).2 := rfl

theorem run_looked (next : σ → ExceptT ε (StateM σ) α) (s : σ) :
    (get >>= next).run s = (next s).run s := rfl

section Bind

variable {first : ExceptT ε (StateM σ) α} {s after : σ}

theorem run_bind_ok {a : α} (ran : first.run s = (.ok a, after)) (next : α → ExceptT ε (StateM σ) β) :
    (first >>= next).run s = (next a).run after := by
  have step : (first >>= next).run s = ExceptT.bindCont next (first.run s).1 (first.run s).2 := rfl
  rw [step, ran]
  rfl

theorem run_bind_error {e : ε} (ran : first.run s = (.error e, after))
    (next : α → ExceptT ε (StateM σ) β) : (first >>= next).run s = (.error e, after) := by
  have step : (first >>= next).run s = ExceptT.bindCont next (first.run s).1 (first.run s).2 := rfl
  rw [step, ran]
  rfl

/-- What a computation leaves does not depend on what is made of its result. -/
theorem run_mapped (f : α → β) : ((first >>= fun a => pure (f a)).run s).2 = (first.run s).2 := by
  cases ran : first.run s with
  | mk result after =>
    cases result with
    | ok a =>
      rw [run_bind_ok ran]
      rfl
    | error e => rw [run_bind_error ran]

end Bind

/-- What a computation with faults comes to from a state on: its result and the state it leaves
are as `post` says. -/
def Ends (job : ExceptT ε (StateM σ) α) (s : σ) (post : Except ε α → σ → Prop) : Prop :=
  post (job.run s).1 (job.run s).2

namespace Ends

variable {s : σ} {post weaker : Except ε α → σ → Prop} {job : ExceptT ε (StateM σ) α}

theorem returned {a : α} (fits : post (.ok a) s) : Ends (pure a) s post := fits

theorem failed {e : ε} (fits : post (.error e) s) : Ends (throw e) s post := fits

theorem mono (ends : Ends job s post)
    (implied : ∀ result after, post result after → weaker result after) : Ends job s weaker :=
  implied _ _ ends

theorem bind {first : ExceptT ε (StateM σ) α} {next : α → ExceptT ε (StateM σ) β}
    {mid : Except ε α → σ → Prop} {post : Except ε β → σ → Prop} (began : Ends first s mid)
    (rest : ∀ a after, mid (.ok a) after → Ends (next a) after post)
    (broke : ∀ e after, mid (.error e) after → post (.error e) after) :
    Ends (first >>= next) s post := by
  cases ran : first.run s with
  | mk result after =>
    unfold Ends at began ⊢
    rw [ran] at began
    cases result with
    | ok a =>
      rw [run_bind_ok ran]
      exact rest a after began
    | error e =>
      rw [run_bind_error ran]
      exact broke e after began

theorem ran (ends : Ends job s post) :
    Ends job s fun result after => job.run s = (result, after) ∧ post result after := ⟨rfl, ends⟩

theorem same : Ends job s fun result after => job.run s = (result, after) := rfl

theorem of_mapped {f : α → β} {left : σ → Prop} (ends : Ends (job >>= fun a => pure (f a)) s fun _ => left) :
    Ends job s fun _ => left := by
  unfold Ends at ends ⊢
  rwa [run_mapped] at ends

theorem looked {next : σ → ExceptT ε (StateM σ) α} (rest : Ends (next s) s post) :
    Ends (get >>= next) s post := rest

theorem broken {e : ε} {next : β → ExceptT ε (StateM σ) α} (fits : post (.error e) s) :
    Ends (throw e >>= next) s post := fits

theorem caught {handler : ε → ExceptT ε (StateM σ) α} {mid : Except ε α → σ → Prop}
    (began : Ends job s mid) (fine : ∀ a after, mid (.ok a) after → post (.ok a) after)
    (handled : ∀ e after, mid (.error e) after → Ends (handler e) after post) :
    Ends (tryCatchThe ε job handler) s post := by
  have step : (tryCatchThe ε job handler).run s = (match job.run s with
      | (.ok a, after) => (.ok a, after)
      | (.error e, after) => (handler e).run after) := by
    show (ExceptT.tryCatch job handler).run s = _
    simp only [ExceptT.tryCatch, ExceptT.run, ExceptT.mk, stateM_bind]
    generalize job s = run
    obtain ⟨result, after⟩ := run
    cases result <;> rfl
  unfold Ends at began ⊢
  rw [step]
  generalize job.run s = run at began
  obtain ⟨result, after⟩ := run
  cases result with
  | ok a => exact fine a after began
  | error e => exact handled e after began

theorem replaced {later : σ} {next : PUnit → ExceptT ε (StateM σ) α}
    (rest : Ends (next ⟨⟩) later post) : Ends (set later >>= next) s post := rest

theorem granted {x : Except ε β} {next : β → ExceptT ε (StateM σ) α}
    (fine : ∀ b, x = .ok b → Ends (next b) s post) (broke : ∀ e, x = .error e → post (.error e) s) :
    Ends (liftM x >>= next) s post := by
  cases x with
  | ok b => exact fine b rfl
  | error e => exact broke e rfl

theorem adapted {fault : Type} {f : ε → fault} {post : Except fault α → σ → Prop}
    {mid : Except ε α → σ → Prop} (ends : Ends job s mid)
    (implied : ∀ result after, mid result after → post (result.mapError f) after) :
    Ends (ExceptT.adapt f job) s post :=
  implied _ _ ends

theorem modified {f : σ → σ} {next : PUnit → ExceptT ε (StateM σ) α}
    (rest : Ends (next ⟨⟩) (f s) post) : Ends (modify f >>= next) s post := rest

end Ends

end WidgetRepair
