import StagedBuild.Build

/-!
# Laws of steps

Steps are a lawful monad.  `run_bind_ok` and `run_bind_error` follow a run
through one step: the rest runs where the step ended, behind its log, or a stop
is passed on.  The combinators that end a step by a result or by an operation on
the disk are given in closed form.
-/

namespace StagedBuild

/-- What ended, behind entries that were logged before. -/
def Ended.behind {σ ε α : Type} (log : List ε) (ended : Ended σ ε α) : Ended σ ε α :=
  { ended with log := log ++ ended.log }

section Behind

variable {σ ε α : Type}

@[simp] theorem Ended.log_behind (log : List ε) (ended : Ended σ ε α) :
    (ended.behind log).log = log ++ ended.log := rfl

@[simp] theorem Ended.result_behind (log : List ε) (ended : Ended σ ε α) :
    (ended.behind log).result = ended.result := rfl

@[simp] theorem Ended.tools_behind (log : List ε) (ended : Ended σ ε α) :
    (ended.behind log).tools = ended.tools := rfl

@[simp] theorem Ended.disk_behind (log : List ε) (ended : Ended σ ε α) :
    (ended.behind log).disk = ended.disk := rfl

@[simp] theorem Ended.behind_nil (ended : Ended σ ε α) : ended.behind [] = ended := rfl

theorem Ended.behind_behind (first second : List ε) (ended : Ended σ ε α) :
    (ended.behind second).behind first = ended.behind (first ++ second) := by
  simp [Ended.behind]

end Behind

section Results

variable {ε ε' α : Type}

@[simp] theorem mapError_ok (f : ε → ε') (a : α) :
    (Except.ok a : Except ε α).mapError f = .ok a := rfl

@[simp] theorem mapError_error (f : ε → ε') (e : ε) :
    (Except.error e : Except ε α).mapError f = .error (f e) := rfl

end Results

namespace Build

variable {σ ε α β γ : Type}

/-- Steps that run alike are equal. -/
theorem ext_run {first second : Build σ ε α}
    (h : ∀ tools disk, first.run tools disk = second.run tools disk) : first = second :=
  funext fun tools => funext fun disk => h tools disk

/-! ## One step after the other -/

theorem run_bind_ok {step : Build σ ε α} {next : α → Build σ ε β} {tools tools' : σ}
    {disk disk' : Disk} {log : List ε} {a : α}
    (h : step.run tools disk = ⟨log, .ok a, tools', disk'⟩) :
    (step >>= next).run tools disk = ((next a).run tools' disk').behind log := by
  rw [run_bind, h]
  rfl

theorem run_bind_error {step : Build σ ε α} {next : α → Build σ ε β} {tools tools' : σ}
    {disk disk' : Disk} {log : List ε} {why : Stop}
    (h : step.run tools disk = ⟨log, .error why, tools', disk'⟩) :
    (step >>= next).run tools disk = ⟨log, .error why, tools', disk'⟩ := by
  rw [run_bind, h]

theorem pure_bind (a : α) (next : α → Build σ ε β) : (pure a >>= next) = next a :=
  ext_run fun _ _ => rfl

theorem bind_pure (step : Build σ ε α) : step >>= pure = step := by
  apply ext_run
  intro tools disk
  cases h : step.run tools disk with
  | mk log result tools' disk' =>
    cases result with
    | ok a => rw [run_bind_ok h, run_pure, Ended.behind, List.append_nil]
    | error why => rw [run_bind_error h]

theorem bind_assoc (step : Build σ ε α) (next : α → Build σ ε β) (last : β → Build σ ε γ) :
    step >>= next >>= last = step >>= fun a => next a >>= last := by
  apply ext_run
  intro tools disk
  cases h : step.run tools disk with
  | mk log result tools' disk' =>
    cases result with
    | error why => rw [run_bind_error h, run_bind_error (run_bind_error h)]
    | ok a =>
      rw [run_bind_ok h]
      cases h' : (next a).run tools' disk' with
      | mk log' result' tools'' disk'' =>
        have both : (step >>= next).run tools disk = ⟨log ++ log', result', tools'', disk''⟩ := by
          rw [run_bind_ok h, h', Ended.behind]
        cases result' with
        | error why => rw [run_bind_error both, run_bind_error h', Ended.behind]
        | ok b => rw [run_bind_ok both, run_bind_ok h', Ended.behind_behind]

instance : LawfulMonad (Build σ ε) := LawfulMonad.mk' _ bind_pure pure_bind bind_assoc

@[simp] theorem run_map (f : α → β) (step : Build σ ε α) (tools : σ) (disk : Disk) :
    (f <$> step).run tools disk =
      ⟨(step.run tools disk).log, (step.run tools disk).result.map f,
        (step.run tools disk).tools, (step.run tools disk).disk⟩ := by
  rw [← bind_pure_comp]
  cases h : step.run tools disk with
  | mk log result tools' disk' =>
    cases result with
    | error why => rw [run_bind_error h]; rfl
    | ok a => rw [run_bind_ok h, run_pure, Ended.behind, List.append_nil]; rfl

/-! ## Results and operations on the disk -/

@[simp] theorem run_fail (error : BuildError) (tools : σ) (disk : Disk) :
    (fail error : Build σ ε α).run tools disk = ⟨[], .error (.failed error), tools, disk⟩ := rfl

@[simp] theorem run_ofResult (result : Except BuildError α) (tools : σ) (disk : Disk) :
    (ofResult result : Build σ ε α).run tools disk =
      ⟨[], result.mapError .failed, tools, disk⟩ := by
  cases result <;> rfl

@[simp] theorem run_onFile (path : Path) (operation : DiskM α) (tools : σ) (disk : Disk) :
    (onFile path operation : Build σ ε α).run tools disk =
      ⟨[], (operation disk).1.mapError fun cause => .failed (.file path cause), tools,
        (operation disk).2⟩ := by
  have h : (onDisk operation : Build σ ε _).run tools disk =
      ⟨[], .ok (operation disk).1, tools, (operation disk).2⟩ := rfl
  rw [onFile, run_bind_ok h, Ended.behind_nil]
  cases (operation disk).1 <;> rfl

end Build

end StagedBuild
