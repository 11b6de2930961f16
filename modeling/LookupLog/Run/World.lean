import LookupLog.Files.Store
import LookupLog.Run.Execution

/-!
# Runs on a store

A world is a store of files and what was printed so far. As a `Host` it lets a run be a pure
function from the world before it to the world after it.
-/

namespace LookupLog

/-- The surroundings of a run. -/
structure World where
  store : Store
  printed : Text := []

namespace World

/-- The world as a state that files are opened and created in and texts are printed to. -/
def host : Host (StateM World) where
  openNode path := do return (← get).store.openNode path
  create path content := do
    match (← get).store.create path content with
    | .ok store =>
      modify fun w => { w with store }
      return .ok ()
    | .error e => return .error e
  print text := modify fun w => { w with printed := w.printed ++ text }

/-- A run in a world, and the world after it. -/
def run (w : World) (options : Options) : Outcome × World :=
  (LookupLog.run host options).run w

/-- An execution of the whole program in a world, and the world after it. -/
def execute (w : World) (logSetting : Text) (arguments : List Text) : Execution × World :=
  (LookupLog.execute host logSetting arguments).run w

end World

end LookupLog
