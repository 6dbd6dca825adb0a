/-
Module: Formicary.Console.War
Purpose: The program that plays a match, checks brains and traces a battle.
Main exports: War.Command, War.Command.parse, War.program
-/
import Formicary.Battle.Dump
import Formicary.Console.Arguments
import Formicary.Console.Program
import Formicary.Match
import Formicary.Text.Column

namespace Formicary

/-! ### Loading -/

namespace Job

/-- Load a map. -/
def loadWorld (path : String) : Job World := do
  ofExcept .world (World.read (← readFile path))

/-- Load a brain. -/
def loadBrain (path : String) : Job Brain := do
  ofExcept .brain (Brain.read (← readFile path))

/-- Load settings. -/
def loadSettings (path : String) : Job Settings := do
  match ← contents path with
  | .ok text => ofExcept .settings (Settings.read text)
  | .error fault => ofExcept .settings (.error (.unreadable path fault))

end Job

namespace War

/-! ### Commands -/

/-- The files of a battle. -/
structure Sources where
  world : String
  red : String
  black : String
deriving DecidableEq, Repr

/-- What to do in a match. -/
structure MatchOrder where
  sources : Sources
  seed : Option Nat
  rounds : Option Nat
  settings : Option String
  report : Option String
  snapshot : Option String
deriving DecidableEq, Repr

/-- What to do in a trace. -/
structure TraceOrder where
  sources : Sources
  seed : Nat
  rounds : Nat
  out : Option String
deriving DecidableEq, Repr

/-- What the program is asked to do. -/
inductive Command where
  | play (order : MatchOrder)
  | check (brains : List String)
  | trace (order : TraceOrder)
  | version
deriving DecidableEq, Repr

namespace Command

/-- The arguments for a command without positional arguments. -/
def scanOptions (known : List String) (args : List String) : Except UsageFault (List Argument) := do
  let args ← Argument.scan known args
  if (Arguments.positionals args).isEmpty then return args else .error "unexpected argument"

/-- The files named by the options. -/
def sources (args : List Argument) : Except UsageFault Sources := do
  return {
    world := ← Arguments.requiredPath args "world"
    red := ← Arguments.requiredPath args "red"
    black := ← Arguments.requiredPath args "black" }

/-- The arguments of a match. -/
def parsePlay (args : List String) : Except UsageFault Command := do
  let args ← scanOptions
    ["world", "red", "black", "seed", "rounds", "config", "report", "snapshot"] args
  return .play {
    sources := ← sources args
    seed := ← Arguments.number? args "seed"
    rounds := ← Arguments.number? args "rounds"
    settings := ← Arguments.path? args "config"
    report := ← Arguments.path? args "report"
    snapshot := ← Arguments.path? args "snapshot" }

/-- The arguments of a check. -/
def parseCheck (args : List String) : Except UsageFault Command := do
  let args ← Argument.scan [] args
  let brains ← (Arguments.positionals args).mapM Arguments.path
  if brains.isEmpty then .error "brains were not provided"
  return .check brains

/-- Rounds of a trace when nothing else is said. -/
def defaultTraceRounds : Nat := 10000

/-- The arguments of a trace. -/
def parseTrace (args : List String) : Except UsageFault Command := do
  let args ← scanOptions ["world", "red", "black", "seed", "rounds", "out"] args
  return .trace {
    sources := ← sources args
    seed := (← Arguments.number? args "seed").getD Settings.default.seed
    rounds := (← Arguments.number? args "rounds").getD defaultTraceRounds
    out := ← Arguments.path? args "out" }

/-- Whether an argument asks for the version. Short options may be written in one piece, and this
one is heeded before any others behind it are looked at. -/
def asksVersion (arg : String) : Bool := arg == "--version" || arg.startsWith "-V"

/-- The arguments of the program. -/
def parse : List String → Except UsageFault Command
  | "run" :: args => parsePlay args
  | "check" :: args => parseCheck args
  | "trace" :: args => parseTrace args
  | arg :: _ =>
    if asksVersion arg then .ok .version else .error "a command is required: run, check or trace"
  | [] => .error "a command is required: run, check or trace"

end Command

/-! ### Matches -/

/-- The line for a colony in the summary of a match. -/
def summaryLine (r : Report) (c : Colony) : String :=
  let food := Text.alignRight 4 (toString (r.finalTally.hill.get c))
  let left := Text.alignRight 3 (toString (r.survivingAnts.get c))
  let initial := Text.alignLeft 3 (toString (r.initialAnts.get c))
  s!"  {Text.alignLeft 5 c.name}  food {food}  ants {left}/{initial}"

/-- The summary of a match. -/
def summary (r : Report) : List String :=
  s!"Ant War - {r.rounds} rounds, seed {r.seed}" ::
    (Colony.all.map (summaryLine r) ++ [s!"Result: {r.outcome.text}"])

/-- The settings of a match. Options go before the document, and a seed is drawn if neither is
there. -/
def chooseSettings (order : MatchOrder) : Job Settings := do
  let settings ← match order.settings with
    | some path => Job.loadSettings path
    | none => pure Settings.default
  let seed ← match order.seed, order.settings with
    | some seed, _ => pure seed
    | none, some _ => pure settings.seed
    | none, none => Job.drawSeed
  return { settings with seed, rounds := order.rounds.getD settings.rounds }

/-- Play a match, print its summary and write what is asked for. -/
def play (order : MatchOrder) : Job Exit := do
  let settings ← chooseSettings order
  let world ← Job.loadWorld order.sources.world
  let red ← Job.loadBrain order.sources.red
  let black ← Job.loadBrain order.sources.black
  let m ← Job.ofExcept id (Match.start world { red, black } settings)
  let (m, _) := m.playOut (fun _ _ => ()) ()
  let report := m.report
  (summary report).forM Job.printLine
  if let some path := order.report then
    Job.writeFile path report.toJson.pretty
  if let some path := order.snapshot then
    Job.writeFile path m.battle.snapshot.toJson.pretty
  return .success

/-! ### Checks -/

/-- What is printed for a brain. -/
def verdict (path : String) : Except Fault Brain → String
  | .ok brain => s!"{path}: ok, {brain.size} instructions"
  | .error fault => s!"{path}: {fault.message}"

/-- Check brains and print a line for each; they must all be sound. -/
def check (brains : List String) : Job Exit := do
  let sound ← brains.mapM fun path => do
    let answer ← ExceptT.lift (Job.loadBrain path).run
    Job.printLine (verdict path answer)
    return answer.isOk
  return if sound.all id then .success else .failure

/-! ### Traces -/

/-- Trace a battle. -/
def trace (order : TraceOrder) : Job Exit := do
  let world ← Job.loadWorld order.sources.world
  let red ← Job.loadBrain order.sources.red
  let black ← Job.loadBrain order.sources.black
  let battle ← Job.ofExcept .layout (Battle.start world { red, black } order.seed)
  let text := (battle.trace order.rounds).1
  match order.out with
  | some path => Job.writeFile path text
  | none => ExceptT.lift (.print text (.done ()))
  return .success

/-- The program. -/
def program (args : List String) : Program Exit :=
  match Command.parse args with
  | .error reason => .done (.usage reason)
  | .ok (.play order) => (play order).finish
  | .ok (.check brains) => (check brains).finish
  | .ok (.trace order) => (trace order).finish
  | .ok .version => .print "ant-war 0.1.0\n" (.done .success)

end War

end Formicary
