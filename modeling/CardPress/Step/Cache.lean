import CardPress.Expression.Data
import CardPress.Generation.WriteMode

/-!
# Writing to caches

A step that binds keys in the face's cache, and in the global one if it says so. Each entry is
written by itself, in key order: what was written before a fault stays written.
-/

namespace CardPress.Step

/-- How a step writes its entries. -/
structure CacheWriting where
  mode : WriteMode
  /-- Values are stored unresolved. -/
  isLazy : Bool
  isGlobal : Bool
  isLogged : Bool

namespace CacheWriting

def read (scene : Scene) (params : Mapping) : Generation CacheWriting := do
  let mode ← scene.paramOr params "mode" (.string "add")
  return {
    mode := ← WriteMode.parse (← mode.readString "mode")
    isLazy := ← scene.flag params "is_lazy" true
    isGlobal := ← scene.flag params "is_global" false
    isLogged := ← scene.shouldLog params }

def skip (w : CacheWriting) (key reason : String) : Generation Unit := do
  if w.isLogged then
    Generation.info ("Skipping cache entry, key already exists" ++ reason) [("key", key)]

/-- Bind a key, in the global cache too if the step says so. -/
def bind (w : CacheWriting) (key : String) (v : Value) : Generation Unit := do
  if w.isLogged then
    Generation.info "Writing to cache" [
      ("key", key), ("value", v.text), ("mode", w.mode.name), ("is_lazy", toString w.isLazy),
      ("is_global", toString w.isGlobal)]
  if w.isGlobal then
    Generation.modifyRun fun r => { r with globalCache := r.globalCache.insert key v }
  Generation.modifyDraft fun d => { d with cache := d.cache.insert key v }

/-- Whether every cache addressed admits a key. -/
def admits (w : CacheWriting) (key : String) : Generation Bool := do
  if ← w.mode.admits key ((← get).draft.cache.contains key) false then
    if w.isGlobal then
      if ← w.mode.admits key ((← get).run.globalCache.contains key) true then return true
      w.skip key " globally"
      return false
    return true
  w.skip key ""
  return false

/-- Write an entry if its key is admitted. -/
def writeEntry (w : CacheWriting) (scene : Scene) (key : String) (v : Value) :
    Generation Unit := do
  if ← w.admits key then
    w.bind key (← if w.isLazy then pure v else scene.resolve v)

def writeEntries (w : CacheWriting) (scene : Scene) : List (String × Value) → Generation Unit
  | [] => return
  | (key, v) :: rest => do
    w.writeEntry scene key v
    writeEntries w scene rest

end CacheWriting

/-- Either a mapping of entries or a single key with its value. -/
def cacheEntries (scene : Scene) (params : Mapping) : Generation (List (String × Value)) := do
  let single := do
    let key ← Expression.cacheKey (← scene.param params "key")
    return [(key, ← rawParam params "value")]
  match params.get? "entries" with
  | none | some .null => single
  | some entries =>
    if params.contains "key" || params.contains "value" then
      throw (.invalidParameter "entries" "either entries or key and value" "both")
    return (← entries.readMapping "entries").entries

def writeToCache : StepHandler := fun scene params canvas => do
  let w ← CacheWriting.read scene params
  w.writeEntries scene (← cacheEntries scene params)
  return .go canvas

end CardPress.Step
