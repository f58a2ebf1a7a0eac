import EverTrace.L2Machine.Spool
import EverTrace.Lib.Trace
import Mathlib.Data.String.Basic
/-!
# Committing a configuration (`evertrace-engine/src/config_reload.rs`)

A configuration is in force in three places: the daemon's engine holds it, the runtime
file that the hooks read carries its hash and its recovery limits, and the journal has an
audit that it was applied. A reload replaces it in all three. It reads the file, writes an
audit that it is prepared, closes admission and takes the maintenance fence, reads the
file again, publishes the runtime file, sets the engine and writes an audit that it is
applied. When the journal does not have that audit, it puts the old configuration back;
when it cannot tell, it stops the daemon, which then admits nothing more.

One lock orders the commits, so that one of them is under way at a time (`Task`). Between
any two of its steps the file may be edited, requests may be admitted or the process may
be killed, and each step may fail (`Fault`). The file is read from disk in every step that
reads it.

The parser of the file, the check of a runtime file and the synthesis planner's check are
parameters. A recall cue is kept as its text, and times are left out.

* `Inv`: what holds in every state.
* `admit_agrees`: an admitted request works under the configuration that is in force everywhere.
* `reload_atomic`: a commit is done in all three places or in none.
* `audits_chain`: each audit names the configuration that was in force when it was written.
-/
namespace EverTrace.L2.Config
open EverTrace.Lib
open EverTrace.L2.Capture (SpoolLimits)

/-! ## The three places -/

deriving instance DecidableEq for SpoolLimits

/-- The part of a configuration that its commit reads. -/
structure EffectiveConfig where
  hash : Bytes
  configVersion : Nat
  dataDir : String
  backgroundWorkers : Nat
  captureTimeoutSeconds : Nat
  maxBundleMib : Nat
  maxUntrackedFileMib : Nat
  maxUntrackedTotalMib : Nat
  deriving DecidableEq

/-- mirrors evertrace-capture/src/runtime_snapshot.rs:197-219 -/
structure RuntimeSnapshot where
  generation : Nat
  spoolLimits : SpoolLimits
  effectiveConfigHash : Bytes
  recoveryPreflightTimeoutMs : Nat
  recoveryMaxBundleBytes : Nat
  recoveryMaxUntrackedFileBytes : Nat
  recoveryMaxUntrackedTotalBytes : Nat
  recallCueGate : Bool
  recallCueAdapterManifestId : Option String
  recallCues : List String
  deriving DecidableEq

/-- mirrors evertrace-store/src/command.rs:330-335 -/
inductive ConfigReloadOutcome where
  | prepared
  | applied
  | rejected
  | restartRequired
  deriving DecidableEq

/-- mirrors evertrace-store/src/command.rs:339-344 -/
inductive ConfigReloadSource where
  | startup
  | watcher
  | cli
  | tui
  deriving DecidableEq

/-- mirrors evertrace-store/src/command.rs:321-326 -/
structure ConfigReloadAudit where
  previousConfigHash : Bytes
  outcome : ConfigReloadOutcome
  source : ConfigReloadSource
  actor : String
  deriving DecidableEq

/-- mirrors evertrace-store/src/command.rs:312-317 -/
structure ConfigAudit where
  configVersion : Nat
  effectiveConfigHash : Bytes
  reload : Option ConfigReloadAudit
  deriving DecidableEq

/-- mirrors evertrace-store/src/command.rs:347-351 -/
def ConfigAudit.isApplied (audit : ConfigAudit) : Bool := audit.reload.all fun detail => detail.outcome == .applied

/-- The row `runtime:config:current` of the projection.
mirrors evertrace-store/src/projections.rs:11841-11843 -/
def currentConfig (audits : List ConfigAudit) : Option ConfigAudit :=
  audits.foldl (fun current audit => if audit.isApplied then some audit else current) none

structure ConfinedFile where
  bytes : Bytes
  identity : Nat
  deriving DecidableEq

/-- What a commit is given: `parseToml` is `EffectiveConfig::parse_toml`, `validate` is `RuntimeSnapshot::validate`,
`reconfigured` tells whether the planner of one configuration can take over another, and `actor` is the user. -/
structure Host where
  parseToml : Bytes → Option EffectiveConfig
  validate : RuntimeSnapshot → Bool
  reconfigured : EffectiveConfig → EffectiveConfig → Bool
  fileHash : Bytes → String
  actor : String

variable (host : Host)

/-- mirrors evertrace-engine/src/recovery.rs:1186-1191 -/
def captureTimeoutMs (config : EffectiveConfig) : Option Nat :=
  if config.captureTimeoutSeconds * 1000 < 2 ^ 32 then some (config.captureTimeoutSeconds * 1000) else none

def mib (value : Nat) : Nat := value * 2 ^ 20

/-- mirrors evertrace-engine/src/config_reload.rs:573-588 -/
def operationRuntime (authority : RuntimeSnapshot) (config : EffectiveConfig) : Option RuntimeSnapshot := do
  let timeout ← captureTimeoutMs config
  let runtime := { authority with
    effectiveConfigHash := config.hash
    recoveryPreflightTimeoutMs := timeout
    recoveryMaxBundleBytes := mib config.maxBundleMib
    recoveryMaxUntrackedFileBytes := mib config.maxUntrackedFileMib
    recoveryMaxUntrackedTotalBytes := mib config.maxUntrackedTotalMib }
  if host.validate runtime then some runtime else none

/-- mirrors evertrace-engine/src/recovery.rs:1276-1281 -/
def firstSpoolLimits : SpoolLimits := ⟨(64 : UInt64) <<< 20, (48 : UInt64) <<< 20, 64, 8⟩

/-- mirrors evertrace-engine/src/recovery.rs:1260-1284 -/
def nextGeneration : Option RuntimeSnapshot → Option (Nat × SpoolLimits)
  | some current => if current.generation + 1 < 2 ^ 64 then some (current.generation + 1, current.spoolLimits) else none
  | none => some (1, firstSpoolLimits)

/-- mirrors evertrace-engine/src/recovery.rs:1251-1305 -/
def prepareRecoveryRuntime (current : Option RuntimeSnapshot) (config : EffectiveConfig) : Option RuntimeSnapshot := do
  let next ← nextGeneration current
  let timeout ← captureTimeoutMs config
  let runtime :=
    { generation := next.1
      spoolLimits := next.2
      effectiveConfigHash := config.hash
      recoveryPreflightTimeoutMs := timeout
      recoveryMaxBundleBytes := mib config.maxBundleMib
      recoveryMaxUntrackedFileBytes := mib config.maxUntrackedFileMib
      recoveryMaxUntrackedTotalBytes := mib config.maxUntrackedTotalMib
      recallCueGate := false
      recallCueAdapterManifestId := none
      recallCues := [] }
  if host.validate runtime then some runtime else none

/-- mirrors evertrace-engine/src/config_reload.rs:493-525 -/
def prepareAudit (candidate : EffectiveConfig) (previousConfigHash : Bytes) (outcome : ConfigReloadOutcome)
    (source : ConfigReloadSource) : ConfigAudit :=
  ⟨candidate.configVersion, candidate.hash, some ⟨previousConfigHash, outcome, source, host.actor⟩⟩

/-! ## The daemon -/

/-- mirrors evertrace-engine/src/config_reload.rs:20-24 -/
structure ConfigReloadResult where
  activeHash : Bytes
  pendingHash : Option Bytes
  outcome : ConfigReloadOutcome
  deriving DecidableEq

/-- mirrors evertrace-engine/src/config_reload.rs:27-34 -/
inductive ConfigReloadError where
  | invalid
  | stopped
  | busy
  deriving DecidableEq

abbrev Answer := Except ConfigReloadError ConfigReloadResult

/-- A reload whose candidate is valid. -/
structure Plan where
  source : ConfigReloadSource
  input : ConfinedFile
  candidate : EffectiveConfig
  old : EffectiveConfig
  previous : RuntimeSnapshot
  runtime : RuntimeSnapshot
  deriving DecidableEq

def Plan.audit (plan : Plan) (outcome : ConfigReloadOutcome) : ConfigAudit :=
  prepareAudit host plan.candidate plan.old.hash outcome plan.source

structure StartPlan where
  input : ConfinedFile
  config : EffectiveConfig
  previousHash : Bytes
  runtime : RuntimeSnapshot
  deriving DecidableEq

def StartPlan.audit (plan : StartPlan) (outcome : ConfigReloadOutcome) : ConfigAudit :=
  prepareAudit host plan.config plan.previousHash outcome .startup

/-- What an audit is written for. -/
inductive After where
  | rejected (active : Bytes) (input : Option ConfinedFile)
  | restartRequired (active : Bytes) (input : ConfinedFile) (pending : Bytes)
  | prepared (plan : Plan)
  | applied (plan : Plan)
  | rolledBack
  | startPrepared (plan : StartPlan)
  | startApplied (plan : StartPlan)
  deriving DecidableEq

/-- Where the holder of the lock is. `resolving` asks the journal, which did not answer, for the audit. -/
inductive Task where
  | starting
  | startWaiting (plan : StartPlan)
  | idle (answer : Option Answer)
  | entered (source : ConfigReloadSource)
  | writing (previous : ConfinedFile) (replacement : ConfinedFile)
  | committing (audit : ConfigAudit) (after : After)
  | resolving (stored : Bool) (after : After)
  | waiting (plan : Plan)
  | guarded (plan : Plan)
  | published (plan : Plan)
  | rollingBack (plan : Plan)
  deriving DecidableEq

/-- The daemon has not opened its handlers. -/
def After.startup : After → Bool
  | .startPrepared _ | .startApplied _ => true
  | _ => false

def Task.startup : Task → Bool
  | .starting | .startWaiting _ => true
  | .committing _ after | .resolving _ after => after.startup
  | _ => false

/-- Admission is closed. -/
def After.gated : After → Bool
  | .applied _ | .rolledBack => true
  | _ => false

def Task.gated : Task → Bool
  | .guarded _ | .published _ | .rollingBack _ => true
  | .committing _ after | .resolving _ after => after.gated
  | _ => false

structure Daemon where
  engine : EffectiveConfig
  stopped : Bool
  pending : Option Bytes
  observed : Option ConfinedFile
  task : Task
  /-- The configuration that the engine held when the last operation began; no step reads it. -/
  began : EffectiveConfig
  deriving DecidableEq

/-- `file` is none when there is no file that can be read, `runtime` when there is none. -/
structure World where
  file : Option ConfinedFile
  runtime : Option RuntimeSnapshot
  audits : List ConfigAudit
  daemon : Option Daemon

def World.initial (file : Option ConfinedFile) (runtime : Option RuntimeSnapshot) : World := ⟨file, runtime, [], none⟩

/-- mirrors evertrace-engine/src/config_reload.rs:75-91 -/
def World.admitConfig (w : World) : Option EffectiveConfig :=
  w.daemon.bind fun d => if d.stopped || d.task.startup || d.task.gated then none else some d.engine

inductive Fault where
  | none
  /-- The configuration file cannot be read. -/
  | read
  /-- The runtime file cannot be read. -/
  | load
  /-- There is no time to give to the command. -/
  | clock
  /-- The journal does not take the command. -/
  | refused
  /-- The journal takes the command and does not say so. -/
  | lost
  /-- The journal cannot be asked. -/
  | lookup
  /-- The maintenance fence cannot be opened. -/
  | unopened
  /-- The maintenance fence fails. -/
  | fence
  /-- The maintenance fence stays taken. -/
  | busy
  /-- A file is not put in place. -/
  | unpublished
  /-- A file is put in place and that is not known. -/
  | published
  deriving DecidableEq

def Daemon.finish (d : Daemon) (answer : Answer) : Daemon := { d with task := .idle (some answer) }

/-- mirrors evertrace-engine/src/config_reload.rs:472-475 -/
def Daemon.stop (d : Daemon) : Daemon := { d with stopped := true }.finish (.error .stopped)

def World.set (w : World) (d : Daemon) : World := { w with daemon := some d }

def World.exit (w : World) : World := { w with daemon := none }

def World.readConfig (w : World) (fault : Fault) : Option ConfinedFile := if fault = .read then none else w.file

def World.loadRuntime (w : World) (fault : Fault) : Option RuntimeSnapshot := if fault = .load then none else w.runtime

def World.publish (w : World) (runtime : RuntimeSnapshot) (fault : Fault) : World :=
  if fault = .unpublished then w else { w with runtime := some runtime }

/-- A file is put in place, and that is known. -/
def Fault.publishes : Fault → Bool
  | .unpublished | .published => false
  | _ => true

/-! ## Steps -/

/-- What the writer of an audit does next.
mirrors evertrace-engine/src/config_reload.rs:162-168, 190-192, 359-366, 374-390, 402-408, 441-469 -/
def World.settle (w : World) (d : Daemon) : After → Except ConfigReloadError Unit → World
  | .rejected active input, .ok () => w.set ({ d with observed := input }.finish (.ok ⟨active, none, .rejected⟩))
  | .restartRequired active input pending, .ok () =>
    w.set ({ d with pending := some pending, observed := some input }.finish
      (.ok ⟨active, some pending, .restartRequired⟩))
  | .prepared plan, .ok () => w.set { d with task := .waiting plan }
  | .applied plan, .ok () =>
    w.set ({ d with pending := none, observed := some plan.input }.finish (.ok ⟨plan.candidate.hash, none, .applied⟩))
  | .rolledBack, .ok () => w.set (d.finish (.error .invalid))
  | .startPrepared plan, .ok () => w.set { d with task := .startWaiting plan }
  | .startApplied plan, .ok () => w.set { d with observed := some plan.input, task := .idle none }
  | .startPrepared _, .error _ | .startApplied _, .error _ => w.exit
  | .applied plan, .error .invalid => w.set { d with task := .rollingBack plan }
  | .applied _, .error _ => w.set d.stop
  | .rejected .., .error e | .restartRequired .., .error e | .prepared _, .error e | .rolledBack, .error e =>
    w.set (d.finish (.error e))

/-- mirrors evertrace-engine/src/config_reload.rs:527-561 -/
def World.commitAudit (w : World) (d : Daemon) (audit : ConfigAudit) (after : After) (fault : Fault) : World :=
  match fault with
  | .clock => w.settle { d with stopped := true } after (.error .stopped)
  | .refused => w.set { d with task := .resolving false after }
  | .lost => { w with audits := w.audits ++ [audit] }.set { d with task := .resolving true after }
  | _ => { w with audits := w.audits ++ [audit] }.settle d after (.ok ())

/-- mirrors evertrace-engine/src/config_reload.rs:556-560 -/
def World.resolve (w : World) (d : Daemon) (stored : Bool) (after : After) (fault : Fault) : World :=
  if fault = .lookup then w.settle { d with stopped := true } after (.error .stopped)
  else w.settle d after (if stored then .ok () else .error .invalid)

/-- mirrors evertrace-engine/src/config_reload.rs:392-401 -/
def World.planReload (w : World) (old : EffectiveConfig) (source : ConfigReloadSource) (input : ConfinedFile)
    (candidate : EffectiveConfig) (fault : Fault) : Option Plan := do
  let previous ← w.loadRuntime fault
  let runtime ← operationRuntime host previous candidate
  if host.reconfigured old candidate then some ⟨source, input, candidate, old, previous, runtime⟩ else none

/-- mirrors evertrace-engine/src/config_reload.rs:333-408 -/
def World.enter (w : World) (d : Daemon) (source : ConfigReloadSource) (fault : Fault) : World :=
  if d.stopped then w.set (d.finish (.error .stopped))
  else
    let old := d.engine
    let d := { d with pending := none }
    let input := w.readConfig fault
    match input.bind fun file => (host.parseToml file.bytes).map (Prod.mk file) with
    | none =>
      w.set { d with task := .committing (prepareAudit host old old.hash .rejected source) (.rejected old.hash input) }
    | some (file, candidate) =>
      if candidate.dataDir ≠ old.dataDir ∨ candidate.backgroundWorkers ≠ old.backgroundWorkers then
        w.set { d with
          task := .committing (prepareAudit host candidate old.hash .restartRequired source)
            (.restartRequired old.hash file candidate.hash) }
      else
        match w.planReload host old source file candidate fault with
        | none => w.set (d.finish (.error .invalid))
        | some plan => w.set { d with task := .committing (plan.audit host .prepared) (.prepared plan) }

/-- Admission is closed before the fence is taken, and open again when the fence is not.
mirrors evertrace-engine/src/config_reload.rs:409-425 -/
def World.wait (w : World) (d : Daemon) (plan : Plan) (fault : Fault) : World :=
  match fault with
  | .unopened => w.set (d.finish (.error .invalid))
  | .busy => w.set (d.finish (.error .busy))
  | .fence => w.set d.stop
  | _ => w.set { d with task := .guarded plan }

/-- mirrors evertrace-engine/src/config_reload.rs:426-435 -/
def World.publishCandidate (w : World) (d : Daemon) (plan : Plan) (fault : Fault) : World :=
  if w.readConfig fault ≠ some plan.input then w.set (d.finish (.error .invalid))
  else if w.loadRuntime fault ≠ some plan.previous then w.set d.stop
  else if fault.publishes then (w.publish plan.runtime fault).set { d with task := .published plan }
  else (w.publish plan.runtime fault).set d.stop

/-- mirrors evertrace-engine/src/config_reload.rs:440-441 -/
def World.applyConfig (w : World) (d : Daemon) (plan : Plan) : World :=
  w.set { d with engine := plan.candidate, task := .committing (plan.audit host .applied) (.applied plan) }

/-- mirrors evertrace-engine/src/config_reload.rs:443-454 -/
def World.rollBack (w : World) (d : Daemon) (plan : Plan) (fault : Fault) : World :=
  if fault.publishes then
    (w.publish plan.previous fault).set
      { d with engine := plan.old, task := .committing (plan.audit host .rejected) .rolledBack }
  else (w.publish plan.previous fault).set d.stop

/-- mirrors evertrace-engine/src/config_reload.rs:124-155 -/
def World.planStart (w : World) (config : EffectiveConfig) (fault : Fault) : Option StartPlan := do
  let input ← w.readConfig fault
  let parsed ← host.parseToml input.bytes
  if parsed.hash = config.hash ∧ fault ≠ .load ∧ fault ≠ .lookup then
    let runtime ← prepareRecoveryRuntime host w.runtime config
    return ⟨input, config, (currentConfig w.audits).elim config.hash ConfigAudit.effectiveConfigHash, runtime⟩
  else none

/-- mirrors evertrace-engine/src/config_reload.rs:122-168 -/
def World.start (w : World) (d : Daemon) (fault : Fault) : World :=
  match w.planStart host d.engine fault with
  | none => w.exit
  | some plan => w.set { d with task := .committing (plan.audit host .prepared) (.startPrepared plan) }

/-- mirrors evertrace-engine/src/config_reload.rs:169-190 -/
def World.startPublish (w : World) (d : Daemon) (plan : StartPlan) (fault : Fault) : World :=
  if fault = .unopened ∨ fault = .busy ∨ fault = .fence ∨ w.readConfig fault ≠ some plan.input then w.exit
  else if fault.publishes then
    (w.publish plan.runtime fault).set { d with task := .committing (plan.audit host .applied) (.startApplied plan) }
  else (w.publish plan.runtime fault).exit

/-- mirrors evertrace-engine/src/config_reload.rs:303-330 -/
def World.replaceFile (w : World) (d : Daemon) (previous replacement : ConfinedFile) (fault : Fault) : World :=
  if w.readConfig fault ≠ some previous then w.set (d.finish (.error .invalid))
  else
    match fault with
    | .unpublished => w.set d.stop
    | .published => { w with file := some replacement }.set d.stop
    | _ => { w with file := some replacement }.set { d with task := .entered .tui }

/-- The next step of the operation that is under way. -/
def World.proceed (w : World) (d : Daemon) (fault : Fault) : World :=
  match d.task with
  | .starting => w.start host d fault
  | .startWaiting plan => w.startPublish host d plan fault
  | .idle _ => w
  | .entered source => w.enter host d source fault
  | .writing previous replacement => w.replaceFile d previous replacement fault
  | .committing audit after => w.commitAudit d audit after fault
  | .resolving stored after => w.resolve d stored after fault
  | .waiting plan => w.wait d plan fault
  | .guarded plan => w.publishCandidate d plan fault
  | .published plan => w.applyConfig host d plan
  | .rollingBack plan => w.rollBack host d plan fault

/-! ## Operations -/

/-- mirrors evertrace-engine/src/config_reload.rs:197-209 -/
def World.watchOnce (w : World) (d : Daemon) (fault : Fault) : World :=
  if d.stopped then w.set (d.finish (.error .stopped))
  else if d.observed = w.readConfig fault then w.set { d with task := .idle none }
  else w.set { d with task := .entered .watcher }

/-- mirrors evertrace-engine/src/config_reload.rs:253-302 -/
def World.writeOptimistic (w : World) (d : Daemon) (replacement : ConfinedFile) (expectedHash : String)
    (fault : Fault) : World :=
  if d.stopped then w.set (d.finish (.error .stopped))
  else if 128 * 1024 < replacement.bytes.length ∨ (host.parseToml replacement.bytes).isNone then
    w.set (d.finish (.error .invalid))
  else
    match w.readConfig fault with
    | none => w.set (d.finish (.error .invalid))
    | some previous =>
      if host.fileHash previous.bytes ≠ expectedHash ∨ fault = .unpublished then w.set (d.finish (.error .invalid))
      else if fault = .busy then w.set (d.finish (.error .busy))
      else w.set { d with task := .writing previous replacement }

/-- mirrors evertrace-engine/src/config_reload.rs:213-233 -/
def World.publishRecallCues (w : World) (d : Daemon) (proposed : RuntimeSnapshot) (fault : Fault) : World :=
  if d.stopped then w.set (d.finish (.error .stopped))
  else
    match w.loadRuntime fault with
    | none => w.set d.stop
    | some current =>
      if current.generation ≠ proposed.generation ∨ current.recallCueGate ≠ proposed.recallCueGate
          ∨ current.recallCueAdapterManifestId ≠ proposed.recallCueAdapterManifestId
          ∨ host.validate { current with recallCues := proposed.recallCues } = false then
        w.set (d.finish (.error .invalid))
      else if fault.publishes then
        (w.publish { current with recallCues := proposed.recallCues } fault).set { d with task := .idle none }
      else (w.publish { current with recallCues := proposed.recallCues } fault).set d.stop

inductive Event where
  /-- The configuration file is edited, replaced or removed. -/
  | edit (file : Option ConfinedFile)
  /-- A runtime file is installed while no daemon runs. -/
  | install (runtime : Option RuntimeSnapshot)
  | boot
  | crash
  | reload (source : ConfigReloadSource)
  | watch (fault : Fault)
  | write (replacement : ConfinedFile) (expectedHash : String) (fault : Fault)
  | cues (proposed : RuntimeSnapshot) (fault : Fault)
  | proceed (fault : Fault)

/-- A process starts with the configuration that it finds.
mirrors evertraced/src/main.rs:177-184 -/
def World.boot (w : World) : World :=
  match w.file.bind fun file => host.parseToml file.bytes with
  | none => w
  | some config => w.set ⟨config, false, none, none, .starting, config⟩

/-- An operation begins when no other one is under way. -/
def World.begin (w : World) (operation : Daemon → World) : World :=
  match w.daemon with
  | none => w
  | some d =>
    match d.task with
    | .idle _ => operation { d with began := d.engine }
    | _ => w

def World.next (w : World) : Event → World
  | .edit file => { w with file := file }
  | .install runtime => if w.daemon.isNone then { w with runtime := runtime } else w
  | .boot => if w.daemon.isNone then w.boot host else w
  | .crash => w.exit
  | .reload source => w.begin fun d => w.set { d with task := .entered source }
  | .watch fault => w.begin fun d => w.watchOnce d fault
  | .write replacement expectedHash fault => w.begin fun d => w.writeOptimistic host d replacement expectedHash fault
  | .cues proposed fault => w.begin fun d => w.publishRecallCues host d proposed fault
  | .proceed fault => (w.daemon.map fun d => w.proceed host d fault).getD w

/-! ## What holds in every state -/

/-- What a step may rely on. -/
structure View where
  runtime : Option RuntimeSnapshot
  audits : List ConfigAudit
  engine : EffectiveConfig
  began : EffectiveConfig

def view (w : World) (d : Daemon) : View := ⟨w.runtime, w.audits, d.engine, d.began⟩

/-- The hash of the configuration that was last applied. -/
def inForce (audits : List ConfigAudit) : Option Bytes := (currentConfig audits).map ConfigAudit.effectiveConfigHash

/-- A runtime file that was made for a configuration. -/
structure Fits (runtime : RuntimeSnapshot) (config : EffectiveConfig) : Prop where
  hash : runtime.effectiveConfigHash = config.hash
  timeout : runtime.recoveryPreflightTimeoutMs = config.captureTimeoutSeconds * 1000
  bundle : runtime.recoveryMaxBundleBytes = mib config.maxBundleMib
  file : runtime.recoveryMaxUntrackedFileBytes = mib config.maxUntrackedFileMib
  total : runtime.recoveryMaxUntrackedTotalBytes = mib config.maxUntrackedTotalMib

/-- A configuration is in force in the engine, in the runtime file and in the journal. -/
structure Agree (runtime : Option RuntimeSnapshot) (audits : List ConfigAudit) (engine : EffectiveConfig) : Prop where
  runtime : ∃ current, runtime = some current ∧ Fits current engine
  journal : inForce audits = some engine.hash

/-- An audit that may follow: it names the configuration that is in force, and one that is applied was prepared just
before. The first start names its own. -/
def Follows (audits : List ConfigAudit) (audit : ConfigAudit) : Prop :=
  ∀ detail, audit.reload = some detail →
    detail.previousConfigHash = (inForce audits).getD audit.effectiveConfigHash ∧
    (detail.outcome = .applied →
      ∃ before, audits = before ++ [{ audit with reload := some { detail with outcome := .prepared } }])

def Chained (audits : List ConfigAudit) : Prop :=
  ∀ before audit after, audits = before ++ audit :: after → Follows before audit

/-- The configuration is the one that was in force when the operation began. -/
structure View.Unchanged (v : View) : Prop where
  agree : Agree v.runtime v.audits v.engine
  began : v.engine = v.began

/-- What a prepared reload knows. -/
structure Plan.Ready (v : View) (plan : Plan) : Prop where
  unchanged : v.Unchanged
  engine : v.engine = plan.old
  previous : v.runtime = some plan.previous
  fits : Fits plan.runtime plan.candidate
  last : ∃ before, v.audits = before ++ [plan.audit host .prepared]

/-- What a reload that has published its runtime file needs in order to be taken back. -/
structure Plan.Undoable (v : View) (plan : Plan) : Prop where
  journal : inForce v.audits = some plan.old.hash
  fits : Fits plan.previous plan.old
  began : plan.old = v.began

/-- What it needs in order to go on. -/
structure Plan.Published (v : View) (plan : Plan) : Prop where
  undoable : plan.Undoable v
  runtime : v.runtime = some plan.runtime
  fits : Fits plan.runtime plan.candidate
  last : ∃ before, v.audits = before ++ [plan.audit host .prepared]

structure StartPlan.Ready (v : View) (plan : StartPlan) : Prop where
  engine : v.engine = plan.config
  previous : plan.previousHash = (inForce v.audits).getD plan.config.hash
  fits : Fits plan.runtime plan.config
  last : ∃ before, v.audits = before ++ [plan.audit host .prepared]

/-- What holds once the audit is in the journal. -/
def After.Stored (v : View) : After → Prop
  | .rejected active _ | .restartRequired active _ _ => v.Unchanged ∧ active = v.engine.hash
  | .prepared plan => plan.Ready host v
  | .applied plan => Agree v.runtime v.audits v.engine ∧ v.engine = plan.candidate
  | .rolledBack => v.Unchanged
  | .startPrepared plan => plan.Ready host v
  | .startApplied _ => Agree v.runtime v.audits v.engine

/-- What holds while it is not. -/
def After.Missing (v : View) : After → Prop
  | .rejected .. | .restartRequired .. | .prepared _ | .rolledBack => v.Unchanged
  | .applied plan => plan.Undoable v
  | .startPrepared _ | .startApplied _ => True

/-- An answer tells what was done. -/
def Truthful (v : View) : Option Answer → Prop
  | none => True
  | some (.ok result) => result.activeHash = v.engine.hash ∧ (result.outcome ≠ .applied → v.engine = v.began)
  | some (.error _) => v.engine = v.began

/-- What holds where a daemon that is not stopped is. -/
def Task.Sound (v : View) : Task → Prop
  | .starting => True
  | .startWaiting plan => plan.Ready host v
  | .idle answer => Agree v.runtime v.audits v.engine ∧ Truthful v answer
  | .entered _ | .writing .. => v.Unchanged
  | .committing audit after =>
    after.Missing v ∧ after.Stored host { v with audits := v.audits ++ [audit] } ∧ Follows v.audits audit
  | .resolving stored after => if stored then after.Stored host v else after.Missing v
  | .waiting plan | .guarded plan => plan.Ready host v
  | .published plan => plan.Published host v
  | .rollingBack plan => plan.Undoable v

/-- A daemon that is stopped does nothing more. -/
def Task.quiet : Task → Bool
  | .idle _ | .entered _ => true
  | _ => false

structure Daemon.Sound (w : World) (d : Daemon) : Prop where
  live : d.stopped = false → d.task.Sound host (view w d)
  quiet : d.stopped = true → d.task.quiet = true

structure Inv (w : World) : Prop where
  chained : Chained w.audits
  daemon : ∀ d, w.daemon = some d → d.Sound host w

section Steps

variable {host} {w : World} {d : Daemon} {plan : Plan} {fault : Fault}

/-! ### The journal -/

theorem split_concat {η : Type} {before after history : List η} {l e : η} (h : history ++ [e] = before ++ l :: after) :
    (after = [] ∧ history = before ∧ e = l) ∨ ∃ rest, after = rest ++ [e] ∧ history = before ++ l :: rest := by
  rcases List.eq_nil_or_concat after with rfl | ⟨rest, x, rfl⟩
  · obtain ⟨hh, he⟩ := List.append_inj' h rfl
    exact .inl ⟨rfl, hh, (List.cons.inj he).1⟩
  · rw [List.concat_eq_append] at h ⊢
    have hassoc : before ++ l :: (rest ++ [x]) = (before ++ l :: rest) ++ [x] := by
      rw [List.append_assoc, List.cons_append]
    rw [hassoc] at h
    obtain ⟨hh, he⟩ := List.append_inj' h rfl
    obtain rfl := (List.cons.inj he).1
    exact .inr ⟨rest, rfl, hh⟩

theorem inForce_append (audits : List ConfigAudit) (audit : ConfigAudit) : inForce (audits ++ [audit]) =
    if audit.isApplied then some audit.effectiveConfigHash else inForce audits := by
  unfold inForce currentConfig
  rw [List.foldl_append, List.foldl_cons, List.foldl_nil]
  split <;> rfl

theorem chained_append {audits : List ConfigAudit} {audit : ConfigAudit} (h : Chained audits)
    (hnext : Follows audits audit) : Chained (audits ++ [audit]) := by
  intro before x after hsplit
  rcases split_concat hsplit with ⟨-, rfl, rfl⟩ | ⟨rest, -, hrest⟩
  · exact hnext
  · exact h before x rest hrest

theorem named {audits : List ConfigAudit} {hash other : Bytes} (h : inForce audits = some hash) :
    hash = (inForce audits).getD other := by
  rw [h]
  rfl

/-- An audit that is not the end of a commit leaves the configuration in force. -/
theorem Agree.append {runtime : Option RuntimeSnapshot} {audits : List ConfigAudit} {engine candidate : EffectiveConfig}
    {previous : Bytes} {outcome : ConfigReloadOutcome} {source : ConfigReloadSource} (h : Agree runtime audits engine)
    (hopen : outcome ≠ .applied) :
    Agree runtime (audits ++ [prepareAudit host candidate previous outcome source]) engine := by
  refine ⟨h.runtime, ?_⟩
  rw [inForce_append, if_neg (by simpa [ConfigAudit.isApplied, prepareAudit] using hopen)]
  exact h.journal

theorem follows_open {audits : List ConfigAudit} {candidate : EffectiveConfig} {previous : Bytes}
    {outcome : ConfigReloadOutcome} {source : ConfigReloadSource}
    (hprevious : previous = (inForce audits).getD candidate.hash) (hopen : outcome ≠ .applied) :
    Follows audits (prepareAudit host candidate previous outcome source) := by
  intro detail hdetail
  cases hdetail
  exact ⟨hprevious, fun h => absurd h hopen⟩

theorem follows_applied {audits : List ConfigAudit} {candidate : EffectiveConfig} {previous : Bytes}
    {source : ConfigReloadSource} (hprevious : previous = (inForce audits).getD candidate.hash)
    (hlast : ∃ before, audits = before ++ [prepareAudit host candidate previous .prepared source]) :
    Follows audits (prepareAudit host candidate previous .applied source) := by
  intro detail hdetail
  cases hdetail
  exact ⟨hprevious, fun _ => hlast⟩

/-! ### Where a step leads -/

theorem inv_set (hc : Chained w.audits) (hd : d.Sound host w) : Inv host (w.set d) where
  chained := hc
  daemon := by
    intro d' h
    obtain rfl := Option.some.inj h
    exact ⟨hd.live, hd.quiet⟩

theorem inv_exit (hc : Chained w.audits) : Inv host w.exit where
  chained := hc
  daemon := fun d' h => (by cases h)

theorem inv_live (hc : Chained w.audits) (hlive : d.stopped = false) (ht : d.task.Sound host (view w d)) :
    Inv host (w.set d) :=
  inv_set hc ⟨fun _ => ht, fun h => absurd (hlive.symm.trans h) (by decide)⟩

theorem inv_stop (hc : Chained w.audits) : Inv host (w.set d.stop) :=
  inv_set hc ⟨fun h => (by cases h), fun _ => rfl⟩

theorem inv_error {e : ConfigReloadError} (hc : Chained w.audits) (h : d.stopped = false → (view w d).Unchanged) :
    Inv host (w.set (d.finish (.error e))) :=
  inv_set hc ⟨fun hlive => ⟨(h hlive).agree, (h hlive).began⟩, fun _ => rfl⟩

theorem settle_ok {after : After} (hc : Chained w.audits) (hlive : d.stopped = false)
    (h : after.Stored host (view w d)) : Inv host (w.settle d after (.ok ())) := by
  cases after with
  | rejected active input =>
    obtain ⟨hu, hactive⟩ := h
    exact inv_live hc hlive ⟨hu.agree, hactive, fun _ => hu.began⟩
  | restartRequired active input pending =>
    obtain ⟨hu, hactive⟩ := h
    exact inv_live hc hlive ⟨hu.agree, hactive, fun _ => hu.began⟩
  | prepared plan => exact inv_live hc hlive h
  | applied plan =>
    obtain ⟨ha, hengine⟩ := h
    refine inv_live hc hlive ⟨ha, congrArg EffectiveConfig.hash hengine.symm, fun hne => absurd rfl hne⟩
  | rolledBack => exact inv_error hc fun _ => h
  | startPrepared plan => exact inv_live hc hlive h
  | startApplied plan => exact inv_live hc hlive ⟨h, trivial⟩

theorem settle_invalid {after : After} (hc : Chained w.audits) (hlive : d.stopped = false)
    (h : after.Missing (view w d)) : Inv host (w.settle d after (.error .invalid)) := by
  cases after with
  | rejected | restartRequired | prepared | rolledBack => exact inv_error hc fun _ => h
  | applied plan => exact inv_live hc hlive h
  | startPrepared | startApplied => exact inv_exit hc

theorem settle_stopped {after : After} (hc : Chained w.audits) :
    Inv host (w.settle { d with stopped := true } after (.error .stopped)) := by
  cases after with
  | rejected | restartRequired | prepared | rolledBack => exact inv_error hc fun h => (by cases h)
  | applied plan => exact inv_stop hc
  | startPrepared | startApplied => exact inv_exit hc

theorem inv_commitAudit {audit : ConfigAudit} {after : After} (hc : Chained w.audits) (hlive : d.stopped = false)
    (h : (Task.committing audit after).Sound host (view w d)) : Inv host (w.commitAudit d audit after fault) := by
  obtain ⟨hmissing, hstored, hfollows⟩ := h
  have hchained : Chained (w.audits ++ [audit]) := chained_append hc hfollows
  unfold World.commitAudit
  split
  · exact settle_stopped hc
  · exact inv_live hc hlive hmissing
  · exact inv_live (w := { w with audits := w.audits ++ [audit] }) hchained hlive hstored
  · exact settle_ok (w := { w with audits := w.audits ++ [audit] }) hchained hlive hstored

theorem inv_resolve {stored : Bool} {after : After} (hc : Chained w.audits) (hlive : d.stopped = false)
    (h : (Task.resolving stored after).Sound host (view w d)) : Inv host (w.resolve d stored after fault) := by
  unfold World.resolve
  split
  · exact settle_stopped hc
  · cases stored with
    | true => exact settle_ok hc hlive h
    | false => exact settle_invalid hc hlive h

/-! ### A reload -/

theorem captureTimeoutMs_eq {config : EffectiveConfig} {timeout : Nat} (h : captureTimeoutMs config = some timeout) :
    timeout = config.captureTimeoutSeconds * 1000 := by
  unfold captureTimeoutMs at h
  split at h
  · exact (Option.some.inj h).symm
  · cases h

theorem operationRuntime_fits {authority runtime : RuntimeSnapshot} {config : EffectiveConfig}
    (h : operationRuntime host authority config = some runtime) : Fits runtime config := by
  obtain ⟨timeout, htimeout, h⟩ := Option.bind_eq_some_iff.mp h
  dsimp only at h
  split at h
  · cases h
    exact ⟨rfl, captureTimeoutMs_eq htimeout, rfl, rfl, rfl⟩
  · cases h

theorem prepareRecoveryRuntime_fits {current : Option RuntimeSnapshot} {runtime : RuntimeSnapshot}
    {config : EffectiveConfig} (h : prepareRecoveryRuntime host current config = some runtime) :
    Fits runtime config := by
  obtain ⟨next, -, h⟩ := Option.bind_eq_some_iff.mp h
  obtain ⟨timeout, htimeout, h⟩ := Option.bind_eq_some_iff.mp h
  dsimp only at h
  split at h
  · cases h
    exact ⟨rfl, captureTimeoutMs_eq htimeout, rfl, rfl, rfl⟩
  · cases h

theorem planReload_eq {old candidate : EffectiveConfig} {source : ConfigReloadSource} {input : ConfinedFile}
    (h : w.planReload host old source input candidate fault = some plan) :
    plan.old = old ∧ plan.candidate = candidate ∧ w.runtime = some plan.previous ∧ Fits plan.runtime candidate := by
  obtain ⟨previous, hprevious, h⟩ := Option.bind_eq_some_iff.mp h
  obtain ⟨runtime, hruntime, h⟩ := Option.bind_eq_some_iff.mp h
  have hread : w.runtime = some previous := by
    unfold World.loadRuntime at hprevious
    split at hprevious
    · cases hprevious
    · exact hprevious
  split at h
  · cases h
    exact ⟨rfl, rfl, hread, operationRuntime_fits hruntime⟩
  · cases h

/-- What a reload writes first. -/
theorem inv_enter {source : ConfigReloadSource} (hc : Chained w.audits)
    (h : d.stopped = false → (view w d).Unchanged) : Inv host (w.enter host d source fault) := by
  unfold World.enter
  split
  · exact inv_error hc h
  · next hstopped =>
    have hlive : d.stopped = false := by simpa using hstopped
    have hu := h hlive
    have hprevious : ∀ candidate : EffectiveConfig, d.engine.hash = (inForce w.audits).getD candidate.hash :=
      fun candidate => named hu.agree.journal
    dsimp only
    split
    · exact inv_live hc hlive
        ⟨hu, ⟨⟨hu.agree.append (by decide), hu.began⟩, rfl⟩, follows_open (hprevious _) (by decide)⟩
    · next file candidate hread =>
      split
      · exact inv_live hc hlive
          ⟨hu, ⟨⟨hu.agree.append (by decide), hu.began⟩, rfl⟩, follows_open (hprevious _) (by decide)⟩
      · split
        · exact inv_error (d := { d with pending := none }) hc fun _ => ⟨hu.agree, hu.began⟩
        · next plan hplan =>
          obtain ⟨hold, hcandidate, hruntime, hfits⟩ := planReload_eq hplan
          refine inv_live hc hlive ⟨⟨hu.agree, hu.began⟩, ?_, ?_⟩
          · exact ⟨⟨hu.agree.append (by decide), hu.began⟩, hold.symm, hruntime, hcandidate ▸ hfits, ⟨_, rfl⟩⟩
          · exact follows_open (hold ▸ hprevious _) (by decide)

theorem inv_wait (hc : Chained w.audits) (hlive : d.stopped = false) (h : plan.Ready host (view w d)) :
    Inv host (w.wait d plan fault) := by
  unfold World.wait
  split
  · exact inv_error hc fun _ => h.unchanged
  · exact inv_error hc fun _ => h.unchanged
  · exact inv_stop hc
  · exact inv_live hc hlive h

theorem Plan.Ready.undoable {v : View} (h : plan.Ready host v) : plan.Undoable v := by
  obtain ⟨runtime, hruntime, hfits⟩ := h.unchanged.agree.runtime
  have hjournal := h.unchanged.agree.journal
  rw [h.engine] at hfits hjournal
  refine ⟨hjournal, ?_, h.engine.symm.trans h.unchanged.began⟩
  rw [h.previous] at hruntime
  cases hruntime
  exact hfits

theorem publish_runtime {runtime : RuntimeSnapshot} (h : fault.publishes = true) :
    w.publish runtime fault = { w with runtime := some runtime } := by
  unfold World.publish
  rw [if_neg]
  rintro rfl
  cases h

theorem publish_audits (w : World) (runtime : RuntimeSnapshot) (fault : Fault) :
    (w.publish runtime fault).audits = w.audits := by
  unfold World.publish
  split <;> rfl

theorem inv_publishCandidate (hc : Chained w.audits) (hlive : d.stopped = false) (h : plan.Ready host (view w d)) :
    Inv host (w.publishCandidate d plan fault) := by
  unfold World.publishCandidate
  split
  · exact inv_error hc fun _ => h.unchanged
  · split
    · exact inv_stop hc
    · split
      · next hpublishes =>
        rw [publish_runtime hpublishes]
        have hundo := h.undoable
        exact inv_live (w := { w with runtime := some plan.runtime }) hc hlive
          ⟨⟨hundo.journal, hundo.fits, hundo.began⟩, rfl, h.fits, h.last⟩
      · exact inv_stop (by rw [publish_audits]; exact hc)

theorem inv_applyConfig (hc : Chained w.audits) (hlive : d.stopped = false) (h : plan.Published host (view w d)) :
    Inv host (w.applyConfig host d plan) := by
  have hundo := h.undoable
  refine inv_live hc hlive ⟨⟨hundo.journal, hundo.fits, hundo.began⟩, ⟨⟨⟨_, h.runtime, h.fits⟩, ?_⟩, rfl⟩, ?_⟩
  · show inForce (w.audits ++ [plan.audit host .applied]) = _
    rw [inForce_append]
    rfl
  · exact follows_applied (named hundo.journal) h.last

theorem inv_rollBack (hc : Chained w.audits) (hlive : d.stopped = false) (h : plan.Undoable (view w d)) :
    Inv host (w.rollBack host d plan fault) := by
  unfold World.rollBack
  split
  · next hpublishes =>
    rw [publish_runtime hpublishes]
    have hagree : Agree (some plan.previous) w.audits plan.old := ⟨⟨_, rfl, h.fits⟩, h.journal⟩
    exact inv_live (w := { w with runtime := some plan.previous }) hc hlive
      ⟨⟨hagree, h.began⟩, ⟨hagree.append (by decide), h.began⟩, follows_open (named h.journal) (by decide)⟩
  · exact inv_stop (by rw [publish_audits]; exact hc)

/-! ### A start -/

theorem inv_start (hc : Chained w.audits) (hlive : d.stopped = false) : Inv host (w.start host d fault) := by
  unfold World.start
  split
  · exact inv_exit hc
  · next plan hplan =>
    obtain ⟨input, -, hplan⟩ := Option.bind_eq_some_iff.mp hplan
    obtain ⟨parsed, -, hplan⟩ := Option.bind_eq_some_iff.mp hplan
    split at hplan
    · obtain ⟨runtime, hruntime, hplan⟩ := Option.bind_eq_some_iff.mp hplan
      cases hplan
      have hprevious : (currentConfig w.audits).elim d.engine.hash ConfigAudit.effectiveConfigHash =
          (inForce w.audits).getD d.engine.hash := by
        unfold inForce
        cases currentConfig w.audits <;> rfl
      refine inv_live hc hlive ⟨trivial, ⟨rfl, ?_, prepareRecoveryRuntime_fits hruntime, ⟨_, rfl⟩⟩, ?_⟩
      · show _ = (inForce (w.audits ++ [_])).getD _
        rw [inForce_append]
        exact hprevious
      · exact follows_open hprevious (by decide)
    · cases hplan

theorem inv_startPublish {plan : StartPlan} (hc : Chained w.audits) (hlive : d.stopped = false)
    (h : plan.Ready host (view w d)) : Inv host (w.startPublish host d plan fault) := by
  unfold World.startPublish
  split
  · exact inv_exit hc
  · split
    · next hpublishes =>
      rw [publish_runtime hpublishes]
      refine inv_live (w := { w with runtime := some plan.runtime }) hc hlive ⟨trivial, ⟨⟨_, rfl, ?_⟩, ?_⟩, ?_⟩
      · show Fits plan.runtime d.engine
        rw [show d.engine = _ from h.engine]
        exact h.fits
      · show inForce (w.audits ++ [plan.audit host .applied]) = some d.engine.hash
        rw [inForce_append, show d.engine = _ from h.engine]
        rfl
      · exact follows_applied h.previous h.last
    · exact inv_exit (by rw [publish_audits]; exact hc)

/-! ### The other operations -/

theorem inv_replaceFile {previous replacement : ConfinedFile} (hc : Chained w.audits) (hlive : d.stopped = false)
    (h : (view w d).Unchanged) : Inv host (w.replaceFile d previous replacement fault) := by
  unfold World.replaceFile
  split
  · exact inv_error hc fun _ => h
  · split
    · exact inv_stop hc
    · exact inv_stop (w := { w with file := some replacement }) hc
    · exact inv_live (w := { w with file := some replacement }) hc hlive ⟨h.agree, h.began⟩

theorem inv_watchOnce (hc : Chained w.audits) (h : d.stopped = false → (view w d).Unchanged) :
    Inv host (w.watchOnce d fault) := by
  unfold World.watchOnce
  split
  · exact inv_error hc h
  · next hstopped =>
    have hlive : d.stopped = false := by simpa using hstopped
    split
    · exact inv_live hc hlive ⟨(h hlive).agree, trivial⟩
    · exact inv_live hc hlive (h hlive)

theorem inv_writeOptimistic {replacement : ConfinedFile} {expectedHash : String} (hc : Chained w.audits)
    (h : d.stopped = false → (view w d).Unchanged) :
    Inv host (w.writeOptimistic host d replacement expectedHash fault) := by
  unfold World.writeOptimistic
  split
  · exact inv_error hc h
  · next hstopped =>
    have hlive : d.stopped = false := by simpa using hstopped
    split
    · exact inv_error hc h
    · split
      · exact inv_error hc h
      · split
        · exact inv_error hc h
        · split
          · exact inv_error hc h
          · exact inv_live hc hlive (h hlive)

/-- New cues are published with the configuration that is in force. -/
theorem inv_publishRecallCues {proposed : RuntimeSnapshot} (hc : Chained w.audits)
    (h : d.stopped = false → (view w d).Unchanged) : Inv host (w.publishRecallCues host d proposed fault) := by
  unfold World.publishRecallCues
  split
  · exact inv_error hc h
  · next hstopped =>
    have hlive : d.stopped = false := by simpa using hstopped
    split
    · exact inv_stop hc
    · next current hload =>
      split
      · exact inv_error hc h
      · split
        · next hpublishes =>
          have hagree := (h hlive).agree
          obtain ⟨runtime, hruntime, hfits⟩ := hagree.runtime
          have hcurrent : w.runtime = some current := by
            unfold World.loadRuntime at hload
            split at hload
            · cases hload
            · exact hload
          obtain rfl := Option.some.inj (hcurrent.symm.trans hruntime)
          rw [publish_runtime hpublishes]
          exact inv_live (w := { w with runtime := some { current with recallCues := proposed.recallCues } }) hc hlive
            ⟨⟨⟨_, rfl, hfits.hash, hfits.timeout, hfits.bundle, hfits.file, hfits.total⟩, hagree.journal⟩, trivial⟩
        · exact inv_stop (by rw [publish_audits]; exact hc)

theorem inv_boot (hi : Inv host w) : Inv host (w.boot host) := by
  unfold World.boot
  split
  · exact hi
  · exact inv_live hi.chained rfl trivial

/-! ### Every step -/

theorem inv_begin {operation : Daemon → World} (hi : Inv host w)
    (h : ∀ d, (d.stopped = false → (view w d).Unchanged) → Inv host (operation d)) : Inv host (w.begin operation) := by
  unfold World.begin
  cases hd : w.daemon with
  | none => exact hi
  | some d =>
    dsimp only
    split
    · next answer htask =>
      refine h _ fun hlive => ?_
      have hsound := (hi.daemon d hd).live hlive
      rw [htask] at hsound
      exact ⟨hsound.1, rfl⟩
    · exact hi

theorem inv_proceed (hi : Inv host w) (hd : d.Sound host w) :
    Inv host (w.proceed host d fault) := by
  have hc := hi.chained
  unfold World.proceed
  cases hstopped : d.stopped with
  | true =>
    have hquiet := hd.quiet hstopped
    cases htask : d.task with
    | idle => exact hi
    | entered source => exact inv_enter hc fun hlive => absurd (hstopped.symm.trans hlive) (by decide)
    | starting | startWaiting | writing | committing | resolving | waiting | guarded | published | rollingBack =>
      rw [htask] at hquiet
      cases hquiet
  | false =>
    have hsound := hd.live hstopped
    generalize d.task = task at hsound ⊢
    cases task with
    | starting => exact inv_start hc hstopped
    | startWaiting plan => exact inv_startPublish hc hstopped hsound
    | idle => exact hi
    | entered source => exact inv_enter hc fun _ => hsound
    | writing previous replacement => exact inv_replaceFile hc hstopped hsound
    | committing audit after => exact inv_commitAudit hc hstopped hsound
    | resolving stored after => exact inv_resolve hc hstopped hsound
    | waiting plan => exact inv_wait hc hstopped hsound
    | guarded plan => exact inv_publishCandidate hc hstopped hsound
    | published plan => exact inv_applyConfig hc hstopped hsound
    | rollingBack plan => exact inv_rollBack hc hstopped hsound

theorem inv_next (hi : Inv host w) (e : Event) : Inv host (w.next host e) := by
  have hc := hi.chained
  cases e with
  | edit file => exact ⟨hc, fun d hd => ⟨(hi.daemon d hd).live, (hi.daemon d hd).quiet⟩⟩
  | install runtime =>
    show Inv host (if w.daemon.isNone then _ else w)
    split
    · next hnone =>
      refine ⟨hc, fun d hd => ?_⟩
      rw [show w.daemon = some d from hd] at hnone
      cases hnone
    · exact hi
  | boot =>
    show Inv host (if w.daemon.isNone then w.boot host else w)
    split
    · exact inv_boot hi
    · exact hi
  | crash => exact inv_exit hc
  | reload source =>
    show Inv host (w.begin fun d => w.set { d with task := .entered source })
    refine inv_begin hi fun d h => ?_
    exact inv_set (d := { d with task := .entered source }) hc ⟨h, fun _ => rfl⟩
  | watch fault => exact inv_begin hi fun d h => inv_watchOnce hc h
  | write replacement expectedHash fault => exact inv_begin hi fun d h => inv_writeOptimistic hc h
  | cues proposed fault => exact inv_begin hi fun d h => inv_publishRecallCues hc h
  | proceed fault =>
    show Inv host ((w.daemon.map _).getD w)
    cases hd : w.daemon with
    | none => exact hi
    | some d => exact inv_proceed hi (hi.daemon d hd)

theorem inv_initial (file : Option ConfinedFile) (runtime : Option RuntimeSnapshot) :
    Inv host (World.initial file runtime) where
  chained := by
    intro before audit after h
    simp [World.initial] at h
  daemon := fun d h => (by cases h)

theorem inv_run (file : Option ConfinedFile) (runtime : Option RuntimeSnapshot) (events : List Event) :
    Inv host (run (World.next host) (World.initial file runtime) events) :=
  run_invariant (P := Inv host) events (fun _ e _ hw => inv_next hw e) _ (inv_initial file runtime)

theorem Inv.open_agrees {config : EffectiveConfig} (hi : Inv host w) (h : w.admitConfig = some config) :
    Agree w.runtime w.audits config := by
  obtain ⟨d, hd, h⟩ := Option.bind_eq_some_iff.mp h
  split at h
  · cases h
  · next hopen =>
    cases h
    simp only [Bool.or_eq_true, not_or, Bool.not_eq_true] at hopen
    obtain ⟨⟨hlive, hstartup⟩, hgated⟩ := hopen
    have hsound := (hi.daemon d hd).live hlive
    cases htask : d.task with
    | starting | startWaiting =>
      rw [htask] at hstartup
      cases hstartup
    | guarded | published | rollingBack =>
      rw [htask] at hgated
      cases hgated
    | idle answer =>
      rw [htask] at hsound
      exact hsound.1
    | entered | writing =>
      rw [htask] at hsound
      exact hsound.agree
    | waiting plan =>
      rw [htask] at hsound
      exact hsound.unchanged.agree
    | committing audit after =>
      rw [htask] at hsound hstartup hgated
      cases after with
      | rejected | restartRequired | prepared => exact hsound.1.agree
      | applied | rolledBack => cases hgated
      | startPrepared | startApplied => cases hstartup
    | resolving stored after =>
      rw [htask] at hsound hstartup hgated
      cases after with
      | rejected | restartRequired =>
        cases stored with
        | true => exact hsound.1.agree
        | false => exact View.Unchanged.agree hsound
      | prepared plan =>
        cases stored with
        | true => exact (Plan.Ready.unchanged hsound).agree
        | false => exact View.Unchanged.agree hsound
      | applied | rolledBack => cases hgated
      | startPrepared | startApplied => cases hstartup

end Steps

/-- **An admitted request works under the configuration in force.** In every run, with edits of the file, lost
acknowledgements, failed publications, rollbacks and crashes at any step, a configuration that admission hands out is
the one that the runtime file was made for and that the journal says was applied last. -/
theorem admit_agrees (file : Option ConfinedFile) (runtime : Option RuntimeSnapshot) (events : List Event)
    (config : EffectiveConfig)
    (h : (run (World.next host) (World.initial file runtime) events).admitConfig = some config) :
    Agree (run (World.next host) (World.initial file runtime) events).runtime
      (run (World.next host) (World.initial file runtime) events).audits config :=
  (inv_run file runtime events).open_agrees h

section Sample

def firstConfig : EffectiveConfig := ⟨[1], 1, "/data", 2, 30, 64, 8, 32⟩

def secondConfig : EffectiveConfig := { firstConfig with hash := [2], captureTimeoutSeconds := 60 }

def sampleHost : Host where
  parseToml := fun bytes => if bytes = [1] then some firstConfig else if bytes = [2] then some secondConfig else none
  validate := fun runtime => runtime.generation != 0
  reconfigured := fun _ _ => true
  fileHash := fun bytes => toString bytes.length
  actor := "uid:1000"

def firstFile : ConfinedFile := ⟨[1], 10⟩

def secondFile : ConfinedFile := ⟨[2], 11⟩

def started : List Event := .boot :: List.replicate 4 (.proceed .none)

/-- The file is edited and reloaded, up to the audit that it is applied. -/
def reloading : List Event := started ++ .edit (some secondFile) :: .reload .cli :: List.replicate 5 (.proceed .none)

/-- The acknowledgement of the last audit is lost, and the journal has it. -/
def lostReload : List Event := reloading ++ [.proceed .lost, .proceed .none]

/-- The journal does not take the last audit, and the reload is taken back. -/
def refusedReload : List Event := reloading ++ .proceed .refused :: List.replicate 3 (.proceed .none)

def sampleRun (events : List Event) : World :=
  run (World.next sampleHost) (World.initial (some firstFile) none) events

theorem admit_agrees_lost : (sampleRun lostReload).admitConfig = some secondConfig ∧
    Agree (sampleRun lostReload).runtime (sampleRun lostReload).audits secondConfig :=
  ⟨by decide +kernel, admit_agrees sampleHost (some firstFile) none lostReload secondConfig (by decide +kernel)⟩

end Sample

/-- **A commit is done in all three places or in none.** In every run, when a daemon that has not stopped has finished
an operation, its configuration is in force everywhere. An answer that a configuration is active is right; and any
answer other than that a configuration was applied, an error too, leaves in force the configuration that was in force
when the operation began. -/
theorem reload_atomic (file : Option ConfinedFile) (runtime : Option RuntimeSnapshot) (events : List Event) (d : Daemon)
    (hd : (run (World.next host) (World.initial file runtime) events).daemon = some d) (hlive : d.stopped = false)
    (answer : Answer) (htask : d.task = .idle (some answer)) :
    Agree (run (World.next host) (World.initial file runtime) events).runtime
      (run (World.next host) (World.initial file runtime) events).audits d.engine ∧
    (∀ result, answer = .ok result → result.activeHash = d.engine.hash) ∧
    ((∀ result, answer = .ok result → result.outcome ≠ .applied) → d.engine = d.began) := by
  have hsound := ((inv_run file runtime events).daemon d hd).live hlive
  rw [htask] at hsound
  obtain ⟨hagree, htruthful⟩ := hsound
  refine ⟨hagree, fun result heq => ?_, fun hother => ?_⟩
  · rw [heq] at htruthful
    exact htruthful.1
  · cases answer with
    | ok result => exact htruthful.2 (hother result rfl)
    | error e => exact htruthful

theorem reload_atomic_refused :
    Agree (sampleRun refusedReload).runtime (sampleRun refusedReload).audits firstConfig :=
  (reload_atomic sampleHost (some firstFile) none refusedReload
    ⟨firstConfig, false, none, some firstFile, .idle (some (.error .invalid)), firstConfig⟩ (by decide +kernel) rfl
    (.error .invalid) rfl).1

/-- **The audits are a chain.** In every run, every audit in the journal names as the previous configuration the one
that was applied last before it (the first start its own), and an audit that a configuration was applied comes right
after the audit that the same commit was prepared. -/
theorem audits_chain (file : Option ConfinedFile) (runtime : Option RuntimeSnapshot) (events : List Event)
    (before after : List ConfigAudit) (audit : ConfigAudit) (detail : ConfigReloadAudit)
    (hsplit : (run (World.next host) (World.initial file runtime) events).audits = before ++ audit :: after)
    (hdetail : audit.reload = some detail) :
    detail.previousConfigHash = (inForce before).getD audit.effectiveConfigHash ∧
    (detail.outcome = .applied →
      ∃ front, before = front ++ [{ audit with reload := some { detail with outcome := .prepared } }]) :=
  (inv_run file runtime events).chained before audit after hsplit detail hdetail

/-- The audits of a reload before its last one. -/
def reloadAudits : List ConfigAudit :=
  [prepareAudit sampleHost firstConfig [1] .prepared .startup,
    prepareAudit sampleHost firstConfig [1] .applied .startup, prepareAudit sampleHost secondConfig [1] .prepared .cli]

theorem audits_chain_lost : [1] = (inForce reloadAudits).getD [2] ∧ (ConfigReloadOutcome.applied = .applied →
    ∃ front, reloadAudits = front ++ [prepareAudit sampleHost secondConfig [1] .prepared .cli]) :=
  audits_chain sampleHost (some firstFile) none lostReload reloadAudits []
    (prepareAudit sampleHost secondConfig [1] .applied .cli) ⟨[1], .applied, .cli, "uid:1000"⟩ (by decide +kernel) rfl

end EverTrace.L2.Config
