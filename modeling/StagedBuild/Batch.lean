import StagedBuild.Disk.Effect
import StagedBuild.Pipeline

/-!
# Builds one after the other

One pipeline serves a batch of orders.  An order makes some changes, forms a
request and runs it.  The state of the tools and the disk pass from each order
to the next, however a build ends.
-/

namespace StagedBuild

/-- What is ordered: changes to be made before, and the parts of a request. -/
structure Order where
  /-- The changes to make before. -/
  before : List Effect
  /-- The program. -/
  source : Path
  /-- The output directory. -/
  output : Path
  /-- The stages to run. -/
  choice : StageChoice
deriving DecidableEq, Repr

namespace Pipeline

variable {σ ε : Type}

/-- Serve one order.  A request that is refused calls no tool. -/
def serve (pipeline : Pipeline σ ε) (order : Order) (tools : σ) (disk : Disk) :
    Ended σ ε Report :=
  let disk := Effect.applyAll disk order.before
  match Request.make order.source order.output order.choice with
  | .ok request => (pipeline.run request).run tools disk
  | .error e => ⟨[], .error (.failed e), tools, disk⟩

/-- Serve some orders, one after the other. -/
def serveAll (pipeline : Pipeline σ ε) (tools : σ) (disk : Disk) :
    List Order → List (Ended σ ε Report)
  | [] => []
  | order :: later =>
      let ended := pipeline.serve order tools disk
      ended :: pipeline.serveAll ended.tools ended.disk later

end Pipeline

end StagedBuild
