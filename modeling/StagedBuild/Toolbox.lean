import StagedBuild.Observer

/-!
# Tools

A toolbox answers calls.  The answer depends on the call, the state of the
toolbox and the disk, and may change the last two.  Nothing else is known of a
toolbox.

`Script.toolbox` answers from a script, one line for each call.
-/

namespace StagedBuild

/-- Answers calls of tools, with a state `σ`. -/
structure Toolbox (σ : Type) where
  /-- Answer a call: the reply, the state after it and the disk after it. -/
  answer : Invocation → σ → Disk → Reply × σ × Disk

/-- No tool of a toolbox is thrown out of its call. -/
def Toolbox.Returns {σ : Type} (toolbox : Toolbox σ) : Prop :=
  ∀ call tools disk, (toolbox.answer call tools disk).1 ≠ .thrown

/-- Call a tool and log the call. -/
def Toolbox.call {σ ε : Type} (toolbox : Toolbox σ) (observer : Observer ε)
    (call : Invocation) : Build σ ε Reply := fun tools disk =>
  let (reply, tools', disk') := toolbox.answer call tools disk
  ⟨observer.called call disk reply, .ok reply, tools', disk'⟩

end StagedBuild
