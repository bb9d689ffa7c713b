import StageChain.Session.Basic

/-!
# Dry runs

A substrate that runs nothing: it logs each stage and reports success. If it is to mark outputs,
it adds the output location of each stage to a storage in memory, so that what cleans up later
finds something.

* `dryRun_submit`: no stage fails, and at most its output location is new.
-/

namespace StageChain

namespace Stage

/-- Which location in which format a stage makes of which. -/
def route (s : Stage) : String :=
  s.inputLocation ++ " (" ++ s.inputFormat ++ ") -> " ++ s.outputLocation ++ " (" ++ s.outputFormat
    ++ ")"

end Stage

namespace Substrate

/-- The substrate of dry runs, which marks outputs or not. -/
def dryRun (marksOutputs : Bool) : Substrate MemoryStorage where
  submit stage storage :=
    (.answered true, if marksOutputs then storage.add stage.outputLocation else storage)
  notes stage :=
    [.plain Level.info "graphstage.substrate" ("[noop] " ++ stage.name ++ ": " ++ stage.route)]

theorem dryRun_submit (b : Bool) (stage : Stage) (storage : MemoryStorage) :
    (dryRun b).submit stage storage
      = (.answered true, if b then storage.add stage.outputLocation else storage) := rfl

end Substrate

end StageChain
