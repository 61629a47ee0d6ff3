import PlayitAgent.Control.Maintained
import PlayitAgent.Lib.JoinHandle
import PlayitAgent.Udp.ChannelTasks
import PlayitAgent.Udp.Clients

/-!
# `PlayitAgent::run`

`run` of `agent_core/src/playit_agent.rs` spawns two tasks and waits for them. The tunnel task keeps
the control connection, and gives the sessions that come over it to the UDP task. The UDP task moves
packets between the channel to the tunnel server and the clients. `AgentCore` has both, with the
tasks of the channel, and an action lets one of them take one step: a step ends at an `await`, or
after one access to what the tasks share.

What the control connection, the TCP clients and the origins do is part of the actions. A call of
`UdpClients` is one step; a task that is aborted in a call leaves it before it starts, as nobody
sees its clients afterwards.
-/

namespace PlayitAgent

/-- How a task ends that panics. The text is only logged. -/
def taskPanicked : Except JoinError Unit := .error (.panic "panicked")

/-- How a task ends that is aborted. The text is only logged. -/
def taskAborted : Except JoinError Unit := .error (.cancelled "cancelled")

/-- What the tasks share. -/
structure CoreShared where
  /-- `cancel_token`; the tasks have children of it. -/
  cancelled : Bool
  /-- `udp_session_should_renew`. -/
  should_renew : Bool
  /-- From `udp_session_tx` to `udp_session_rx`. -/
  udp_session : Channel UdpChannelDetails

/-! ## The tunnel task -/

/-- Where the tunnel task is. -/
inductive TunnelAt where
  /-- Not polled yet. -/
  | starting
  /-- In `yield_now`. -/
  | yielding
  /-- About to load the flag. -/
  | loading
  /-- In `send_udp_session_auth`. -/
  | renewing
  /-- At `take_hard_reconnect_request`. -/
  | checking
  /-- In `reload_control_addr`. -/
  | reloading (force_reload : Bool)
  /-- About to set the flag. -/
  | flagging
  /-- In `control.update`. -/
  | updating
  /-- In `handle_new_client`. -/
  | accepting
  deriving DecidableEq

/-- The tunnel task. When its handle has a result, it has ended where it is. -/
structure TunnelTask where
  place : TunnelAt
  last_control_addr_check : UInt64
  handle : JoinHandle Unit

/-- What can happen in the tunnel task. -/
inductive TunnelAction where
  | start (now : UInt64)
  | yielded
  /-- A `select!` or `run_until_cancelled` takes the cancellation. -/
  | cancelled
  | load
  | renewed
  /-- With what `take_hard_reconnect_request` gives. -/
  | check (now : UInt64) (force_reload : Bool)
  /-- The reload returns, with success or not. -/
  | reloaded (ok : Bool)
  | flag
  | update (event : Option TunnelControlEvent)
  | accepted
  /-- What the task calls panics. -/
  | panics
  /-- The task was aborted. -/
  | aborts

namespace TunnelTask

/-- The task was just spawned. -/
def spawned : TunnelTask := ⟨.starting, 0, .spawned⟩

/-- The task goes somewhere. -/
def goto (task : TunnelTask) (place : TunnelAt) : TunnelTask := { task with place }

/-- The task ends. -/
def finish (task : TunnelTask) (result : Except JoinError Unit) : TunnelTask :=
  { task with handle := task.handle.finish result }

/-- The task runs code of the control connection or of the TCP clients. -/
def calls (task : TunnelTask) : Bool :=
  match task.place with
  | .renewing | .reloading _ | .updating | .accepting => true
  | _ => false

/-- The task is where it can be aborted: at an `await`, or not polled yet. -/
def awaits (task : TunnelTask) : Bool :=
  match task.place with
  | .loading | .checking | .flagging => false
  | _ => true

/-- What follows an event of the control connection. `udp_over` says that the UDP task has ended,
and with it the receiver of the sessions. -/
def onEvent (shared : CoreShared) (task : TunnelTask) (udp_over : Bool) :
    Option TunnelControlEvent → CoreShared × TunnelTask
  | none => (shared, task.goto .yielding)
  | some (.newClient _) => (shared, task.goto .accepting)
  | some (.udpChannelDetails details) =>
    -- `try_send` drops the session when the channel is full or closed.
    let sent := if udp_over then none else shared.udp_session.send details
    ({ shared with udp_session := sent.getD shared.udp_session }, task.goto .yielding)

/-- One step, if it is possible. -/
def next (shared : CoreShared) (task : TunnelTask) (udp_over : Bool) (a : TunnelAction) :
    Option (CoreShared × TunnelTask) :=
  if task.handle.result.isSome then none else
  match a with
  | .start now => match task.place with
    | .starting => some (shared, { task with place := .yielding, last_control_addr_check := now })
    | _ => none
  | .yielded => match task.place with
    | .yielding => some (shared, task.goto .loading)
    | _ => none
  | .cancelled =>
    if !shared.cancelled then none else
    match task.place with
    | .yielding | .renewing | .updating | .accepting => some (shared, task.finish (.ok ()))
    -- The loop goes on to its next `select!`.
    | .reloading _ => some (shared, task.goto .updating)
    | _ => none
  | .load => match task.place with
    | .loading => some (shared, task.goto (if shared.should_renew then .renewing else .checking))
    | _ => none
  | .renewed => match task.place with
    | .renewing => some (shared, task.goto .checking)
    | _ => none
  | .check now force_reload => match task.place with
    | .checking =>
      if force_reload || decide (30000 < now.toNat - task.last_control_addr_check.toNat) then
        some (shared, ⟨.reloading force_reload, now, task.handle⟩)
      else some (shared, task.goto .updating)
    | _ => none
  | .reloaded ok => match task.place with
    | .reloading force_reload =>
      some (shared, task.goto (if ok && force_reload then .flagging else .updating))
    | _ => none
  | .flag => match task.place with
    | .flagging => some ({ shared with should_renew := true }, task.goto .updating)
    | _ => none
  | .update event => match task.place with
    | .updating => some (onEvent shared task udp_over event)
    | _ => none
  | .accepted => match task.place with
    | .accepting => some (shared, task.goto .yielding)
    | _ => none
  | .panics => if task.calls then some (shared, task.finish taskPanicked) else none
  | .aborts =>
    if task.handle.aborted && task.awaits then some (shared, task.finish taskAborted) else none

end TunnelTask

/-! ## The UDP task -/

/-- Where the UDP task is. -/
inductive UdpAt where
  /-- Not polled yet. -/
  | starting
  /-- In `yield_now`. -/
  | yielding
  /-- At its `select!`. -/
  | selecting
  /-- In `dispatch_origin_packet`. -/
  | dispatching (packet : UdpReceivedPacket)
  /-- In `udp_channel.send`. -/
  | sending (flow : UdpFlow) (packet : Packet)
  /-- In `handle_tunneled_packet`. -/
  | handling (flow : UdpFlow) (packet : Packet)
  /-- In `update_session`. -/
  | updating (details : UdpChannelDetails)
  /-- In `clear_old`. -/
  | clearing
  /-- About to read when the channel was established. -/
  | looking
  /-- About to store the flag. -/
  | storing (udp_needs_renew : Bool)

/-- The UDP task, with the clients and the channel that it owns. When its handle has a result, it
has ended where it is. -/
structure UdpTask (σ : Type) where
  place : UdpAt
  next_clear : ℕ
  handle : JoinHandle Unit
  clients : UdpClients σ
  /-- What the tasks of the clients have received: `rx` of the clients. -/
  origin : Channel UdpReceivedPacket
  udp_channel : UdpChannel
  /-- The calls of the clients that have returned. -/
  calls : List (UdpClients.Call × UdpClients.Returned)

/-- What can happen in the UDP task. -/
inductive UdpAction where
  | start
  | yielded
  /-- A `select!` takes the cancellation. -/
  | cancelled
  /-- `recv_origin_packet` gives a packet. -/
  | origin
  | dispatch (now : UInt64)
  /-- `udp_channel.send` returns, or panics. -/
  | send
  /-- `udp_channel.recv` gives a packet, or panics. -/
  | tunneled
  | handle (io : TunneledIo) (now : UInt64)
  /-- `udp_session_rx.recv` gives a session, or nothing. -/
  | session
  /-- `update_session` returns, or panics. -/
  | update
  /-- The timer for old clients fires. -/
  | clear
  | clearOld (io : UdpClients.ClearIo) (now : UInt64)
  /-- The sleep of three seconds ends. -/
  | idle
  | look (now : UInt64)
  | store
  /-- The task was aborted. -/
  | aborts

/-- The action is not one of the owner of the channel. -/
def UdpChannel.Action.ofTask : UdpChannel.Action → Bool
  | .updateSession _ | .send _ _ | .recv | .drop => false
  | _ => true

/-- The sending task of the channel has ended, and with it its receivers. -/
def UdpChannel.sendOver (c : UdpChannel) : Bool :=
  match c.send_task.place with
  | .ended | .panicked => true
  | _ => false

/-- The receiving task of the channel has ended, and with it its sender. -/
def UdpChannel.recvOver (c : UdpChannel) : Bool :=
  match c.recv_task with
  | .ended | .panicked => true
  | _ => false

namespace UdpTask

variable {σ : Type} [Slab σ Client]

/-- The task was just spawned. -/
def spawned (instant : ℕ) : UdpTask σ where
  place := .starting
  next_clear := 0
  handle := .spawned
  clients := .new
  origin := .new 2048
  udp_channel := .new instant
  calls := []

/-- The task goes somewhere. -/
def goto (task : UdpTask σ) (place : UdpAt) : UdpTask σ := { task with place }

/-- The task ends, and drops the channel. -/
def finish (task : UdpTask σ) (result : Except JoinError Unit) : UdpTask σ :=
  { task with
    handle := task.handle.finish result
    udp_channel := { task.udp_channel with dropped := true } }

/-- The task is where it can be aborted: at an `await`, or not polled yet. -/
def awaits (task : UdpTask σ) : Bool :=
  match task.place with
  | .looking | .storing _ => false
  | _ => true

/-- Where the task goes after a call of the clients. -/
def afterCall : UdpClients.Returned → UdpAt
  | .dispatched (.reply flow packet) => .sending flow packet
  -- The loop goes on at its head.
  | .dispatched _ => .yielding
  | _ => .looking

/-- The clients are called. -/
def call (task : UdpTask σ) (call : UdpClients.Call) : UdpTask σ :=
  match task.clients.step call with
  | .error _ => task.finish taskPanicked
  | .ok (clients, returned) =>
    { task with clients, calls := task.calls ++ [(call, returned)], place := afterCall returned }

/-- The channel takes a step, and the task goes somewhere. -/
def onChannel (task : UdpTask σ) (a : UdpChannel.Action) (place : UdpAt) : Option (UdpTask σ) :=
  (task.udp_channel.next a).map fun udp_channel => { task with udp_channel, place }

/-- `udp_needs_renew`. -/
def needsRenew (task : UdpTask σ) (now : UInt64) : Bool :=
  match task.udp_channel.timeSinceEstablished now with
  | some since => decide (6000 ≤ since)
  | none => true

/-- One step of the task, if it is possible. `tunnel_over` says that the tunnel task has ended, and
with it the sender of the sessions. -/
def next (shared : CoreShared) (task : UdpTask σ) (tunnel_over : Bool) (a : UdpAction) :
    Option (CoreShared × UdpTask σ) :=
  if task.handle.result.isSome then none else
  match a with
  | .start => match task.place with
    | .starting => some (shared,
        { task with place := .yielding, next_clear := task.udp_channel.instant + 16000 })
    | _ => none
  | .yielded => match task.place with
    | .yielding => some (shared, task.goto .selecting)
    | _ => none
  | .cancelled =>
    if !shared.cancelled then none else
    match task.place with
    | .yielding | .selecting => some (shared, task.finish (.ok ()))
    | _ => none
  | .origin => match task.place with
    | .selecting => task.origin.recv.map fun p =>
        (shared, { task.goto (.dispatching p.1) with origin := p.2 })
    | _ => none
  | .dispatch now => match task.place with
    | .dispatching packet => some (shared, task.call (.dispatchOriginPacket now packet))
    | _ => none
  | .send => match task.place with
    | .sending flow packet =>
      if task.udp_channel.sendOver then some (shared, task.finish taskPanicked)
      else (task.onChannel (.send flow packet) .looking).map fun task => (shared, task)
    | _ => none
  | .tunneled => match task.place with
    | .selecting => match task.udp_channel.recv.recv with
      | some ((flow, packet), _) =>
        (task.onChannel .recv (.handling flow packet)).map fun task => (shared, task)
      | none =>
        if task.udp_channel.recvOver then some (shared, task.finish taskPanicked) else none
    | _ => none
  | .handle io now => match task.place with
    | .handling flow packet => some (shared, task.call (.handleTunneledPacket io now flow packet))
    | _ => none
  | .session => match task.place with
    | .selecting => match shared.udp_session.recv with
      | some (details, udp_session) =>
        some ({ shared with udp_session }, task.goto (.updating details))
      | none => if tunnel_over then some (shared, task.finish (.ok ())) else none
    | _ => none
  | .update => match task.place with
    | .updating details =>
      if task.udp_channel.sendOver then some (shared, task.finish taskPanicked)
      else (task.onChannel (.updateSession details) .looking).map fun task => (shared, task)
    | _ => none
  | .clear => match task.place with
    | .selecting =>
      if task.next_clear ≤ task.udp_channel.instant then
        some (shared,
          { task.goto .clearing with next_clear := task.udp_channel.instant + 16000 })
      else none
    | _ => none
  | .clearOld io now => match task.place with
    | .clearing => some (shared, task.call (.clearOld io now))
    | _ => none
  | .idle => match task.place with
    | .selecting => some (shared, task.goto .looking)
    | _ => none
  | .look now => match task.place with
    | .looking => some (shared, task.goto (.storing (task.needsRenew now)))
    | _ => none
  | .store => match task.place with
    | .storing udp_needs_renew =>
      some ({ shared with should_renew := udp_needs_renew }, task.goto .yielding)
    | _ => none
  | .aborts =>
    if task.handle.aborted && task.awaits then some (shared, task.finish taskAborted) else none

end UdpTask

/-! ## `run` -/

/-- The tasks that `run` spawns, by their handles. -/
inductive CoreTask where
  | tunnel
  | udp
  deriving DecidableEq

/-- Where `run` is. -/
inductive CoreAt where
  /-- At its `select!`. -/
  | selecting
  /-- About to cancel the token, with the handles that it will await. -/
  | cancelling (rest : List CoreTask)
  /-- With the handles that it has still to await, the first of them for five seconds at most. -/
  | awaiting (rest : List CoreTask)
  /-- About to abort the first task. -/
  | aborting (rest : List CoreTask)
  /-- Awaiting the first handle after the abort. -/
  | joining (rest : List CoreTask)
  | returned
  /-- The task that was running `run` was aborted, and has left the two tasks. -/
  | dropped
  /-- A handle was polled that had given its result. -/
  | panicked
  deriving DecidableEq

/-- What can happen in `run`. -/
inductive CoreMainAction where
  /-- The `select!` takes the result of a task. -/
  | ends (task : CoreTask)
  /-- The `select!` takes the cancellation. -/
  | cancelled
  | cancel
  /-- The first handle gives its result within the time. -/
  | awaited
  | timesOut
  | abort
  /-- The first handle gives its result after the abort. -/
  | joined
  | returns
  /-- The task that is running `run` is aborted. -/
  | aborts

/-- `run`, with its tasks. -/
structure AgentCore (σ : Type) where
  shared : CoreShared
  /-- Somebody else has cancelled the token. -/
  requested : Bool
  tunnel : TunnelTask
  udp : UdpTask σ
  main : CoreAt

namespace AgentCore

variable {σ : Type} [Slab σ Client]

/-- The tasks were just spawned. -/
def spawned (instant : ℕ) (cancelled : Bool) : AgentCore σ where
  shared := ⟨cancelled, false, .new 8⟩
  requested := cancelled
  tunnel := .spawned
  udp := .spawned instant
  main := .selecting

/-- The handle of a task. -/
def handle (s : AgentCore σ) : CoreTask → JoinHandle Unit
  | .tunnel => s.tunnel.handle
  | .udp => s.udp.handle

/-- The handle of a task changes. -/
def setHandle (s : AgentCore σ) (task : CoreTask) (handle : JoinHandle Unit) : AgentCore σ :=
  match task with
  | .tunnel => { s with tunnel := { s.tunnel with handle } }
  | .udp => { s with udp := { s.udp with handle } }

/-- The other tasks than the one that has ended. -/
def others : CoreTask → List CoreTask
  | .tunnel => [.udp]
  | .udp => [.tunnel]

/-- A handle is polled; when it gives its result, `run` goes somewhere. -/
def poll (s : AgentCore σ) (task : CoreTask) (place : CoreAt) : Option (AgentCore σ) :=
  match (s.handle task).poll with
  | .pending => none
  | .ready _ => some { s.setHandle task (s.handle task).take with main := place }
  | .panics => some { s with main := .panicked }

/-- One step of `run`, if it is possible. -/
def mainNext (s : AgentCore σ) : CoreMainAction → Option (AgentCore σ)
  | .ends task => match s.main with
    | .selecting => s.poll task (.cancelling (others task))
    | _ => none
  | .cancelled => match s.main with
    | .selecting =>
      if s.shared.cancelled then some { s with main := .cancelling [.tunnel, .udp] } else none
    | _ => none
  | .cancel => match s.main with
    | .cancelling rest =>
      some { s with shared := { s.shared with cancelled := true }, main := .awaiting rest }
    | _ => none
  | .awaited => match s.main with
    | .awaiting (task :: rest) => s.poll task (.awaiting rest)
    | _ => none
  | .timesOut => match s.main with
    | .awaiting (task :: rest) => match (s.handle task).poll with
      | .pending => some { s with main := .aborting (task :: rest) }
      | _ => none
    | _ => none
  | .abort => match s.main with
    | .aborting (task :: rest) =>
      some { s.setHandle task (s.handle task).abort with main := .joining (task :: rest) }
    | _ => none
  | .joined => match s.main with
    | .joining (task :: rest) => s.poll task (.awaiting rest)
    | _ => none
  | .returns => match s.main with
    | .awaiting [] => some { s with main := .returned }
    | _ => none
  | .aborts => match s.main with
    | .selecting | .awaiting (_ :: _) | .joining _ => some { s with main := .dropped }
    | _ => none

/-- What can happen. -/
inductive Action where
  /-- Somebody cancels the token. -/
  | cancel
  | tunnel (a : TunnelAction)
  | udp (a : UdpAction)
  | main (a : CoreMainAction)
  /-- The task of a client sends what it has received. -/
  | received (packet : UdpReceivedPacket)
  /-- A task of the channel takes a step, or time passes. -/
  | channel (a : UdpChannel.Action)

/-- One step, if it is possible. -/
def next (s : AgentCore σ) : Action → Option (AgentCore σ)
  | .cancel => some { s with shared := { s.shared with cancelled := true }, requested := true }
  | .tunnel a => (TunnelTask.next s.shared s.tunnel s.udp.handle.result.isSome a).map fun p =>
      { s with shared := p.1, tunnel := p.2 }
  | .udp a => (UdpTask.next s.shared s.udp s.tunnel.handle.result.isSome a).map fun p =>
      { s with shared := p.1, udp := p.2 }
  | .main a => s.mainNext a
  | .received packet =>
    if s.udp.handle.result.isSome then none
    else (s.udp.origin.send packet).map fun origin => { s with udp := { s.udp with origin } }
  | .channel a =>
    if a.ofTask then
      (s.udp.udp_channel.next a).map fun udp_channel => { s with udp := { s.udp with udp_channel } }
    else none

end AgentCore

end PlayitAgent
