import ResourceWait.Record.Basic
import ResourceWait.Text.Blank
import ResourceWait.Wait.Options

/-!
# Configuration

How often to ask and for how long, and which statuses the services settle in. Whatever a configuration
leaves out has its usual value; but where it speaks about a service, it has to name the status, and
failures that it does not list there are none.

A configuration can be read that makes no sense. `PollConfig.validate` finds that out: there has to be
a pause of at least a second, and a status has to hold something other than white space.
-/

namespace ResourceWait

/-- **The statuses a service waits for** unless it is told otherwise. -/
structure StatusDefaults where
  /-- The status in which its resources are ready. -/
  status : String
  /-- The statuses in which they have failed. -/
  failures : List String
deriving DecidableEq, Repr

namespace StatusDefaults

/-- The usual statuses of block storage. -/
def blockStorage : StatusDefaults := ⟨"available", ["error"]⟩

/-- The usual statuses of compute. -/
def compute : StatusDefaults := ⟨"ACTIVE", ["ERROR"]⟩

end StatusDefaults

instance : Record StatusDefaults where
  typeName := "StatusDefaults"
  Tuple := String × List String × Unit
  fields := .cons ⟨"status", .text, none⟩ <| .cons ⟨"failures", .texts, some []⟩ .nil
  ofTuple := fun (status, failures, ()) => { status, failures }
  toTuple d := (d.status, d.failures, ())

/-- **A configuration** of waits. -/
structure PollConfig where
  /-- The seconds between two fetches. -/
  intervalSecs : UInt64 := 2
  /-- The seconds a wait may take. -/
  timeoutSecs : UInt64 := 120
  /-- Whether a wait may take as long as it likes. -/
  waitForever : Bool := false
  /-- The statuses of block storage. -/
  blockStorage : StatusDefaults := .blockStorage
  /-- The statuses of compute. -/
  compute : StatusDefaults := .compute
deriving DecidableEq, Repr

instance : Record PollConfig where
  typeName := "PollConfig"
  Tuple := UInt64 × UInt64 × Bool × StatusDefaults × StatusDefaults × Unit
  fields :=
    .cons ⟨"interval_secs", .u64, some 2⟩ <| .cons ⟨"timeout_secs", .u64, some 120⟩ <|
    .cons ⟨"wait_forever", .flag, some false⟩ <|
    .cons ⟨"block_storage", Record.codec StatusDefaults, some .blockStorage⟩ <|
    .cons ⟨"compute", Record.codec StatusDefaults, some .compute⟩ .nil
  ofTuple := fun (intervalSecs, timeoutSecs, waitForever, blockStorage, compute, ()) =>
    { intervalSecs, timeoutSecs, waitForever, blockStorage, compute }
  toTuple c := (c.intervalSecs, c.timeoutSecs, c.waitForever, c.blockStorage, c.compute, ())

/-- **Why a configuration makes no sense.** -/
inductive InvalidConfig where
  /-- There is no pause between two fetches. -/
  | noInterval
  /-- The status of a service is blank. -/
  | blankStatus (service : String)
deriving DecidableEq, Repr

/-- What is said about a configuration that makes no sense. -/
def InvalidConfig.message : InvalidConfig → String
  | noInterval => "interval_secs must be at least 1"
  | blankStatus service => service ++ ".status must not be empty"

namespace PollConfig

/-- **Whether a configuration makes sense**, and if not, the first reason. -/
def validate (config : PollConfig) : Except InvalidConfig Unit :=
  if config.intervalSecs = 0 then .error .noInterval
  else if Text.isBlank config.blockStorage.status then .error (.blankStatus "block_storage")
  else if Text.isBlank config.compute.status then .error (.blankStatus "compute")
  else .ok ()

/-- The pause between two fetches. -/
def interval (config : PollConfig) : Duration := .ofSeconds config.intervalSecs.toNat

/-- The budget of a wait, if it has one. -/
def timeout (config : PollConfig) : Option Duration :=
  if config.waitForever then none else some (.ofSeconds config.timeoutSecs.toNat)

/-- The pace of the waits under a configuration. -/
def pace (config : PollConfig) : Pace := { interval := config.interval, timeout := config.timeout }

/-- The options of the waits under a configuration; none of them has a token. -/
def waitOptions (config : PollConfig) : WaitOptions := { config.pace with cancel := none }

end PollConfig

end ResourceWait
