import Nomenclator.Failure

/-!
# Loaders

A loader produces the values that a cache lacks. It may be asked for one key or for several at
once, and the two ways report failures differently: a single load says whether an absence is
confirmed, a bulk load answers for every key or fails as a whole.
-/

namespace Nomenclator

/-- Why a single load gave no value. -/
inductive LoadError where
  /-- There is nothing to show; this may be kept. -/
  | notFound
  | failed (message : String)
  deriving Repr, DecidableEq

/-- The text of a load error. -/
def LoadError.message : LoadError → String
  | .notFound => "no value found"
  | .failed m => s!"loader failed: {m}"

/-- A source of values for keys, acting on a state. -/
structure Loader (σ κ ν : Type) where
  load : StoreName → κ → StateM σ (Except LoadError ν)
  loadAll : StoreName → List κ → Effect σ (Answers κ ν)

namespace Loader

variable {σ κ ν : Type}

/-- How a bulk load records the outcome of a single one: a failure counts as an absence. -/
def recorded : Except LoadError ν → Resolution ν
  | .ok v => .found v
  | .error _ => .notFound

/-- Loads keys one after the other and adds their outcomes to the answers; this never fails. -/
def eachAlone [BEq κ] (load : κ → StateM σ (Except LoadError ν)) (answers : Answers κ ν) :
    List κ → StateM σ (Answers κ ν)
  | [] => pure answers
  | k :: rest => do
    let outcome ← load k
    eachAlone load (answers.put k (recorded outcome)) rest

/-- The loader that knows single loads only. -/
def ofSingle [BEq κ] (load : StoreName → κ → StateM σ (Except LoadError ν)) :
    Loader σ κ ν where
  load := load
  loadAll store keys := ExceptT.lift (eachAlone (load store) [] keys)

/-- The outcome of a single load, read off a bulk load of one key. -/
def single [BEq κ] (key : κ) : Except ResolveError (Answers κ ν) → Except LoadError ν
  | .error e => .error (.failed e.message)
  | .ok answers =>
    match answers.get? key with
    | some (.found v) => .ok v
    | _ => .error .notFound

/-- The loader that knows bulk loads only. -/
def ofBulk [BEq κ] (loadAll : StoreName → List κ → Effect σ (Answers κ ν)) :
    Loader σ κ ν where
  load store key := single key <$> (loadAll store [key]).run
  loadAll := loadAll

end Loader

end Nomenclator
