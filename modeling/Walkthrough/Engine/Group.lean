import Walkthrough.Engine.Step

/-! Steps that are repeated together. -/
namespace Walkthrough

/-- A single step, or adjacent steps of one group. -/
structure StepRun where
  steps : List Step
  group : Option String := none
  deriving Inhabited

namespace StepRun

/-- A step in front of some runs: it joins the first one if that is of its group. -/
def push (s : Step) (runs : List StepRun) : List StepRun :=
  match s.group, runs with
  | none, runs => ⟨[s], none⟩ :: runs
  | some g, r :: rest =>
    if r.group = some g then ⟨s :: r.steps, some g⟩ :: rest else ⟨[s], some g⟩ :: r :: rest
  | some g, [] => [⟨[s], some g⟩]

/-- Steps in runs. Steps of one group belong together only where nothing stands between them. -/
def ofSteps (steps : List Step) : List StepRun := steps.foldr push []

/-- A group as messages show it. -/
def groupText (r : StepRun) : String := r.group.getD "None"

/-- The query of a step in a pass, which must find enough elements unless the step has an index of
its own. -/
def scopedQuery (r : StepRun) (s : Step) (index total : Nat) : Run (Option Query) :=
  match Query.ofStep? s (some index) with
  | none => Act.pure none
  | some q => do
    if s.index.isSome then Act.pure ()
    else
      Step.ensureAvailable q index
        (s!"Iterative group '{r.groupText}' pass {index + 1}/{total}: step '{s.title}'")
        [("group", .ofOption r.group), ("step", .str s.title)]
    return some q

/-- One step of a pass. -/
def passStep (once : Runner) (r : StepRun) (ctx : Context) (total index : Nat) (s : Step) :
    Run Unit := do
  let q ← r.scopedQuery s index total
  once s q (ctx.repetition index total r.group)

/-- All steps once, for the same number of a match. -/
def pass (once : Runner) (r : StepRun) (ctx : Context) (total index : Nat) : Run Unit :=
  Act.each r.steps (r.passStep once ctx total index)

/-- Runs a group once for each element that the selector of its first step finds at the beginning,
and returns how often that was. Without that selector its steps run one after the other. -/
def runBy (once : Runner) (r : StepRun) (ctx : Context) : Run Nat :=
  match r.steps with
  | [] => Act.pure 0
  | first :: _ =>
    match Query.ofStep? first none with
    | none => do
      Act.log .warning Step.logName
        (s!"Iterative group '{r.groupText}' starts with step '{first.title}' which has no " ++
          "selector; running its steps sequentially")
      Act.each r.steps fun s => s.runBy once ctx
      return 0
    | some q => do
      let total ← Run.onScene q.count
      if total = 0 then
        Act.log .warning Step.logName
          (s!"Iterative group '{r.groupText}': '" ++ q.describe ++
            "' matched nothing; skipping group")
        return 0
      else
        Act.each (List.range total) (r.pass once ctx total)
        return total

/-- Runs a group. -/
def run (engine : Engine) (r : StepRun) (ctx : Context) : Run Nat :=
  r.runBy (Step.runOnce engine) ctx

end StepRun

namespace Scenario

/-- Runs one run of steps, alone or as a group. -/
def runPart (once : Runner) (ctx : Context) (r : StepRun) : Run Unit :=
  match r.group with
  | some _ => do
    let _ ← r.runBy once ctx
  | none => Act.each r.steps fun s => s.runBy once ctx

/-- Records the steps of some runs as skipped. -/
def skipAll (runs : List StepRun) : Run Unit :=
  Act.each (runs.flatMap StepRun.steps) fun s => Recorder.skip s.title

/-- Runs one run of steps after the other. After a failure the steps of the rest are skipped. -/
def runParts (once : Runner) (ctx : Context) : List StepRun → Run Unit
  | [] => Act.pure ()
  | r :: rest => do
    Act.handle (runPart once ctx r) fun e => do
      skipAll rest
      Act.fail e
    runParts once ctx rest

/-- Runs steps in order, each time in the given way. -/
def driveBy (once : Runner) (steps : List Step) (ctx : Context) : Run Unit :=
  runParts once ctx (StepRun.ofSteps steps)

/-- Runs steps in order. -/
def drive (engine : Engine) (steps : List Step) (ctx : Context) : Run Unit :=
  driveBy (Step.runOnce engine) steps ctx

end Scenario
end Walkthrough
