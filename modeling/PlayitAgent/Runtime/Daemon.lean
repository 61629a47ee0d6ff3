import PlayitAgent.Runtime.RunAgent

/-!
# `run_daemon`

The second half of `run_daemon` of `playitd/src/daemon.rs`: the runtime and the IPC server are
running, and the daemon waits for Ctrl+C, for a stop request over IPC, for the end of the runtime,
or for the end of the IPC task. It then waits for the IPC task for at most five seconds and shuts
the runtime down.
-/

namespace PlayitAgent

/-- `IpcError`, by the text that shows it. -/
structure IpcError where
  text : String
  deriving DecidableEq

/-- `DaemonError`. -/
inductive DaemonError where
  | ipc (error : IpcError)
  | runtime (error : RuntimeError)
  | setupError (message : String)
  deriving DecidableEq

/-- Where `run_daemon` is. -/
inductive DaemonAt where
  /-- At its `select!`. -/
  | selecting
  /-- About to cancel `host_shutdown`. -/
  | stopping (result : Except DaemonError Unit)
  /-- In the timeout around the IPC task. -/
  | waitingIpc (result : Except DaemonError Unit)
  /-- In `PlayitRuntime::shutdown`, about to request it. -/
  | shutdown (result : Except DaemonError Unit)
  /-- In `PlayitRuntime::wait`. -/
  | waitingRuntime (result : Except DaemonError Unit)
  | returned (result : Except DaemonError Unit)
  /-- A handle was polled that had given its result. -/
  | panicked

/-- `run_daemon`, with the two tasks it waits for. -/
structure Daemon where
  interrupted : Bool
  host_shutdown : Bool
  /-- The runtime's `cancel_token`. -/
  runtime_cancelled : Bool
  ipc_task : JoinHandle (Except IpcError Unit)
  /-- `PlayitRuntime::supervisor`. -/
  supervisor : Option (JoinHandle (Except RuntimeError Unit))
  main : DaemonAt

namespace Daemon

/-- The tasks were just spawned. -/
def spawned : Daemon := ⟨false, false, false, .spawned, some .spawned, .selecting⟩

/-- `PlayitRuntime::wait`, once the supervisor has ended. -/
def waitResult : Except JoinError (Except RuntimeError Unit) → Except RuntimeError Unit
  | .ok result => result
  | .error error => .error (.ofSetup s!"runtime task failed: {error.text}" false)

/-- What `run_daemon` returns, from the result of its `select!` and of the shutdown. -/
def outcome (result : Except DaemonError Unit) (shutdown_result : Except RuntimeError Unit) :
    Except DaemonError Unit :=
  match result, shutdown_result with
  | .error error, _ => .error error
  | .ok (), .error error => .error (.runtime error)
  | .ok (), .ok () => .ok ()

/-- What happens around `run_daemon`, and what it does. -/
inductive Action where
  /-- Ctrl+C. -/
  | interrupt
  /-- A stop request over IPC. -/
  | requestStop
  /-- The supervisor ends. -/
  | runtimeEnds (result : Except JoinError (Except RuntimeError Unit))
  /-- `IpcServer::run` leaves its loop. -/
  | ipcBreaks
  | ipcPanics (text : String)
  /-- The branches of the `select!`. -/
  | takeInterrupt
  | takeHostShutdown
  | takeRuntime
  | takeIpc
  /-- It goes on to the next statement. -/
  | proceed
  /-- It awaits the next handle. -/
  | await
  /-- The five seconds are over. -/
  | timeout

/-- `PlayitRuntime::wait`: the supervisor is forgotten when it has ended. -/
def wait (d : Daemon) (then_ : Except RuntimeError Unit → DaemonAt) : Option Daemon :=
  match d.supervisor with
  | none => some { d with main := then_ (.ok ()) }
  | some handle => match handle.poll with
    | .pending => none
    | .ready result => some { d with supervisor := none, main := then_ (waitResult result) }
    | .panics => some { d with main := .panicked }

/-- The IPC task is awaited. -/
def awaitIpc (d : Daemon) (then_ : Except JoinError (Except IpcError Unit) → DaemonAt) :
    Option Daemon :=
  match d.ipc_task.poll with
  | .pending => none
  | .ready result => some { d with ipc_task := d.ipc_task.take, main := then_ result }
  | .panics => some { d with main := .panicked }

/-- What the `select!` makes of the end of the IPC task: a `JoinError` is returned at once. -/
def ipcEnded : Except JoinError (Except IpcError Unit) → DaemonAt
  | .error error => .returned (.error (.setupError s!"IPC task failed: {error.text}"))
  | .ok (.error error) => .stopping (.error (.ipc error))
  | .ok (.ok ()) => .stopping (.ok ())

/-- What the `select!` makes of the end of the runtime. -/
def runtimeEnded : Except RuntimeError Unit → DaemonAt
  | .error error => .stopping (.error (.runtime error))
  | .ok () => .stopping (.ok ())

/-- One step, if it is possible. -/
def next (d : Daemon) : Action → Option Daemon
  | .interrupt => some { d with interrupted := true }
  | .requestStop => some { d with host_shutdown := true }
  | .runtimeEnds result => match d.supervisor with
    | some handle =>
      if handle.result.isNone then some { d with supervisor := some (handle.finish result) }
      else none
    | none => none
  -- The loop of the server ends only when the host shuts down.
  | .ipcBreaks =>
    if d.host_shutdown && d.ipc_task.result.isNone then
      some { d with ipc_task := d.ipc_task.finish (.ok (.ok ())) }
    else none
  | .ipcPanics text =>
    if d.ipc_task.result.isNone then
      some { d with ipc_task := d.ipc_task.finish (.error (.panic text)) }
    else none
  | .takeInterrupt => match d.main with
    | .selecting => if d.interrupted then some { d with main := .stopping (.ok ()) } else none
    | _ => none
  | .takeHostShutdown => match d.main with
    | .selecting => if d.host_shutdown then some { d with main := .stopping (.ok ()) } else none
    | _ => none
  | .takeRuntime => match d.main with
    | .selecting => d.wait runtimeEnded
    | _ => none
  | .takeIpc => match d.main with
    | .selecting => d.awaitIpc ipcEnded
    | _ => none
  | .proceed => match d.main with
    -- `host_shutdown.cancel()`, and then the wait for the IPC task.
    | .stopping result => some { d with host_shutdown := true, main := .waitingIpc result }
    | .shutdown result => some { d with runtime_cancelled := true, main := .waitingRuntime result }
    | _ => none
  | .await => match d.main with
    | .waitingIpc result => d.awaitIpc fun _ => .shutdown result
    | .waitingRuntime result =>
      d.wait fun shutdown_result => .returned (outcome result shutdown_result)
    | _ => none
  -- A timeout polls the future it limits first, so the handle it waits for was pending.
  | .timeout => match d.main with
    | .waitingIpc result =>
      if d.ipc_task.taken then none else some { d with main := .shutdown result }
    | _ => none

/-- The daemon as a system that takes a step at a time. -/
def step : Daemon → Action → Except Unit (Daemon × Unit) := ofOption next

end Daemon

end PlayitAgent
