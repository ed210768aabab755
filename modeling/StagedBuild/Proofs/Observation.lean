import Mathlib.Data.List.Basic
import StagedBuild.Batch
import StagedBuild.Proofs.RunParts

/-!
# What observers change

An observer adds to the log of a build and changes nothing else.  To say so, an
observer is heard *through* a function that gives some entries for each of its
entries.  A build that is watched through a function ends as the watched build
does, with the same state of the tools and the same disk, and its log is what the
function makes of the other log.  `stage_through` says so of one stage, and from it
`run_through` and `serveAll_through` of a run and of a batch of orders.

From stages to runs, the same goes for any pipeline whose stages end as those of
another do, but for their logs and the reasons of their stops (`run_retold`).

Every observer heard through the function that gives nothing is the one that logs
nothing, so all observers agree on everything but the log (`serveAll_settled`).  The
brief and the deaf observer are the full one heard through a filter.
-/

namespace StagedBuild

section Through

variable {σ ε ε' α : Type}

/-- An observer whose entries are given to a function. -/
def Observer.through (observer : Observer ε) (tell : ε → List ε') : Observer ε' where
  started stage := (observer.started stage).flatMap tell
  completed stage := (observer.completed stage).flatMap tell
  foundMain name := (observer.foundMain name).flatMap tell
  failed stage error := (observer.failed stage error).flatMap tell
  called call disk reply := (observer.called call disk reply).flatMap tell
  unlinking path := (observer.unlinking path).flatMap tell

/-- What ended, with the entries of its log given to a function. -/
def Ended.through (ended : Ended σ ε α) (tell : ε → List ε') : Ended σ ε' α :=
  ⟨ended.log.flatMap tell, ended.result, ended.tools, ended.disk⟩

/-- What ended, told again: the entries of its log are given to one function and the
reason of its stop to another. -/
def Ended.retold (ended : Ended σ ε α) (tell : ε → List ε') (explain : Stop → Stop) :
    Ended σ ε' α :=
  ⟨ended.log.flatMap tell, ended.result.mapError explain, ended.tools, ended.disk⟩

theorem Ended.retold_behind (log : List ε) (ended : Ended σ ε α) (tell : ε → List ε')
    (explain : Stop → Stop) :
    (ended.behind log).retold tell explain =
      (ended.retold tell explain).behind (log.flatMap tell) := by
  simp [Ended.retold, Ended.behind]

theorem Ended.retold_id (ended : Ended σ ε α) (tell : ε → List ε') :
    ended.retold tell id = ended.through tell := by
  cases result : ended.result <;> simp [Ended.retold, Ended.through, result]

theorem Observer.ending_through (observer : Observer ε) (tell : ε → List ε') (stage : Stage)
    (result : Except Stop α) :
    (observer.through tell).ending stage result = (observer.ending stage result).flatMap tell := by
  cases result with
  | ok a => rfl
  | error why => cases why <;> rfl

end Through

namespace Pipeline

variable {σ ε ε' : Type}

/-! ## Runs that are told again -/

section Retold

variable {pipeline : Pipeline σ ε} {other : Pipeline σ ε'} {tell : ε → List ε'}
  {explain : Stop → Stop} {request : Request}
  (again : ∀ stage tools disk, (other.stage request stage).run tools disk =
    ((pipeline.stage request stage).run tools disk).retold tell explain)

include again

/-- If each stage is told again, some stages are, by induction on them. -/
theorem stages_retold (report : Report) (planned : List Stage) (tools : σ) (disk : Disk) :
    (other.stages request report planned).run tools disk =
      ((pipeline.stages request report planned).run tools disk).retold tell explain := by
  induction planned generalizing report tools disk with
  | nil => rfl
  | cons next later ih =>
    have first := again next tools disk
    rw [stages_cons, stages_cons]
    cases done : (pipeline.stage request next).run tools disk with
    | mk log result tools' disk' =>
      rw [done] at first
      cases result with
      | error why =>
        rw [Build.run_bind_error done, Build.run_bind_error first]
        rfl
      | ok main? =>
        rw [Build.run_bind_ok done, Build.run_bind_ok first, ih, Ended.retold_behind]

/-- If each stage is told again, a run is, provided that the failure to make the output
directory is told as it is. -/
theorem run_retold
    (own : ∀ cause, explain (.failed (.file request.output cause)) =
      .failed (.file request.output cause))
    (tools : σ) (disk : Disk) :
    (other.run request).run tools disk =
      ((pipeline.run request).run tools disk).retold tell explain := by
  cases made : Disk.makeFolders request.output disk with
  | mk result disk' =>
    cases result with
    | error cause =>
      rw [run_unmade _ tools made, run_unmade _ tools made]
      simp [Ended.retold, own]
    | ok u => rw [run_made _ tools made, run_made _ tools made, stages_retold again]

end Retold

/-! ## Stages and runs -/

/-- A pipeline whose observer is heard through a function. -/
def heard (pipeline : Pipeline σ ε) (tell : ε → List ε') : Pipeline σ ε' :=
  pipeline.watchedBy (pipeline.observer.through tell)

/-- A stage that is heard through a function ends the same, and its log is given to the
function. -/
theorem stage_through (pipeline : Pipeline σ ε) (tell : ε → List ε') (request : Request)
    (stage : Stage) (tools : σ) (disk : Disk) :
    ((pipeline.heard tell).stage request stage).run tools disk =
      ((pipeline.stage request stage).run tools disk).through tell := by
  rcases stage_cases pipeline request stage tools disk with
    ⟨error, disk₁, unready, ran⟩ |
      ⟨main?, disk₁, reply, tools₂, disk₂, result, ready, answered, came, ran⟩
  · have again : (pipeline.heard tell).prepare request stage disk = (.error error, disk₁) := unready
    rw [ran, run_stage, run_body_unready tools again]
    simp [Ended.through, heard, Observer.through, Observer.ending]
  · have again : (pipeline.heard tell).prepare request stage disk = (.ok main?, disk₁) := ready
    rw [ran, run_stage_called again answered came]
    simp only [Ended.through, heard, observer_watchedBy, Observer.ending_through]
    simp [Observer.through, List.flatMap_assoc]

theorem run_through (pipeline : Pipeline σ ε) (tell : ε → List ε') (request : Request)
    (tools : σ) (disk : Disk) :
    ((pipeline.heard tell).run request).run tools disk =
      ((pipeline.run request).run tools disk).through tell := by
  have again : ∀ stage tools disk, ((pipeline.heard tell).stage request stage).run tools disk =
      ((pipeline.stage request stage).run tools disk).retold tell id := by
    intro stage tools disk
    rw [stage_through, Ended.retold_id]
  rw [run_retold again (fun _ => rfl), Ended.retold_id]

/-! ## Batches -/

theorem serve_through (pipeline : Pipeline σ ε) (tell : ε → List ε') (order : Order) (tools : σ)
    (disk : Disk) :
    (pipeline.heard tell).serve order tools disk =
      (pipeline.serve order tools disk).through tell := by
  rw [serve, serve]
  cases Request.make order.source order.output order.choice with
  | error error => rfl
  | ok request => exact run_through pipeline tell request tools _

/-- The same of a batch, by induction on its orders: each order ends with the same tools
and disk, from which the next one goes on. -/
theorem serveAll_through (pipeline : Pipeline σ ε) (tell : ε → List ε') (tools : σ) (disk : Disk)
    (orders : List Order) :
    (pipeline.heard tell).serveAll tools disk orders =
      (pipeline.serveAll tools disk orders).map (·.through tell) := by
  induction orders generalizing tools disk with
  | nil => rfl
  | cons order later ih =>
    rw [serveAll, serveAll, serve_through, List.map_cons]
    exact congrArg _ (ih _ _)

end Pipeline

/-! ## What is not the log -/

/-- All of what ended but its log. -/
def Ended.settled {σ ε α : Type} (ended : Ended σ ε α) : Except Stop α × σ × Disk :=
  (ended.result, ended.tools, ended.disk)

namespace Pipeline

variable {σ ε ε₁ ε₂ : Type}

/-- Any two observers, heard through the function that gives nothing, are the same. -/
theorem heard_nothing (pipeline : Pipeline σ ε) (first : Observer ε₁) (second : Observer ε₂) :
    (pipeline.watchedBy first).heard (fun _ => ([] : List ε)) =
      (pipeline.watchedBy second).heard fun _ => [] := by
  have nothing : ∀ {ε' : Type} (log : List ε'), (log.flatMap fun _ => ([] : List ε)) = [] :=
    fun log => List.flatMap_eq_nil_iff.mpr fun _ _ => rfl
  simp only [heard, watchedBy, Observer.through, nothing]

/-- Any two observers see batches end alike. -/
theorem serveAll_settled (pipeline : Pipeline σ ε) (first : Observer ε₁) (second : Observer ε₂)
    (tools : σ) (disk : Disk) (orders : List Order) :
    ((pipeline.watchedBy first).serveAll tools disk orders).map Ended.settled =
      ((pipeline.watchedBy second).serveAll tools disk orders).map Ended.settled := by
  have untold := congrArg (fun silent => (silent.serveAll tools disk orders).map Ended.settled)
    (heard_nothing pipeline first second)
  simp only [serveAll_through, List.map_map] at untold
  exact untold

end Pipeline

/-! ## Parts of the full log -/

/-- A call of a tool. -/
def Event.isCall : Event → Bool
  | .called .. => true
  | _ => false

/-- An event that an observer need not hear: the main machine or the failure of a
stage. -/
def Event.isOptional : Event → Bool
  | .foundMain _ => true
  | .failed .. => true
  | _ => false

section Parts

variable {σ ε α : Type}

/-- An observer that tells only some of its entries. -/
def Observer.only (observer : Observer ε) (keep : ε → Bool) : Observer ε :=
  observer.through fun entry => (Option.guard keep entry).toList

/-- What ended, with only some of the entries of its log. -/
def Ended.only (ended : Ended σ ε α) (keep : ε → Bool) : Ended σ ε α :=
  { ended with log := ended.log.filter keep }

theorem Ended.through_guard (ended : Ended σ ε α) (keep : ε → Bool) :
    (ended.through fun entry => (Option.guard keep entry).toList) = ended.only keep := by
  rw [Ended.through, ← List.filterMap_eq_flatMap_toList, List.filterMap_eq_filter, Ended.only]

/-- Entries are kept twice if they are kept by the stricter test. -/
theorem Ended.only_only (ended : Ended σ ε α) {keep strict : ε → Bool}
    (stricter : ∀ entry, strict entry = true → keep entry = true) :
    (ended.only keep).only strict = ended.only strict := by
  have both : (fun entry => strict entry && keep entry) = strict := by
    funext entry
    cases kept : strict entry with
    | false => rfl
    | true => exact stricter entry kept
  simp only [Ended.only, List.filter_filter, both]

theorem Observer.brief_eq : Observer.brief = Observer.full.only (!·.isOptional) := rfl

theorem Observer.deaf_eq : Observer.deaf = Observer.full.only Event.isCall := rfl

theorem Event.not_isOptional {event : Event} (call : event.isCall = true) :
    (!event.isOptional) = true := by
  cases event with
  | called call disk reply => rfl
  | _ => cases call

end Parts

namespace Pipeline

variable {σ ε ε' : Type}

theorem serveAll_only (pipeline : Pipeline σ ε) (observer : Observer ε') (keep : ε' → Bool)
    (tools : σ) (disk : Disk) (orders : List Order) :
    (pipeline.watchedBy (observer.only keep)).serveAll tools disk orders =
      ((pipeline.watchedBy observer).serveAll tools disk orders).map (·.only keep) := by
  have told := serveAll_through (pipeline.watchedBy observer)
    (fun entry => (Option.guard keep entry).toList) tools disk orders
  simp only [Ended.through_guard] at told
  exact told

/-- What three observers log of a batch of orders.  The brief log of each order is the full
one without the optional events, and the deaf log is the full one without any events.  So
all three have the same calls on the same disks.  Whoever watches, each order ends with the
same result, the same state of the tools and the same disk. -/
theorem serveAll_observed (pipeline : Pipeline σ ε) (tools : σ) (disk : Disk)
    (orders : List Order) :
    let full := (pipeline.watchedBy .full).serveAll tools disk orders
    let brief := (pipeline.watchedBy .brief).serveAll tools disk orders
    let deaf := (pipeline.watchedBy .deaf).serveAll tools disk orders
    (brief = full.map fun ended => ended.only (!·.isOptional)) ∧
    (deaf = full.map fun ended => ended.only Event.isCall) ∧
    ((brief.map fun ended => ended.only Event.isCall) = deaf) ∧
    ∀ {ε' : Type} (observer : Observer ε'),
      ((pipeline.watchedBy observer).serveAll tools disk orders).map Ended.settled =
        full.map Ended.settled := by
  intro full brief deaf
  have heardBrief : brief = full.map fun ended => ended.only (!·.isOptional) := by
    simp only [brief, Observer.brief_eq]
    exact serveAll_only pipeline .full _ tools disk orders
  have heardDeaf : deaf = full.map fun ended => ended.only Event.isCall := by
    simp only [deaf, Observer.deaf_eq]
    exact serveAll_only pipeline .full _ tools disk orders
  refine ⟨heardBrief, heardDeaf, ?_, ?_⟩
  · rw [heardBrief, heardDeaf, List.map_map]
    exact List.map_congr_left fun ended _ => ended.only_only fun _ => Event.not_isOptional
  · intro ε' observer
    exact serveAll_settled pipeline observer .full tools disk orders

end Pipeline

end StagedBuild
