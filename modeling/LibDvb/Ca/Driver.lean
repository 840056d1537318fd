import LibDvb.Ca.Controller.Recovery

namespace LibDvb

inductive CiDriverEvent where
  | ca (event : CaEvent)
  | fault (error : Error)
  | resetRetryFailed (error : Error)
  | resetRetrySucceeded
  | commandFailed (command : String) (error : Error)

inductive Command where
  | setProgram (program : Program)
  | removeProgram (programNumber : UInt16)
  | setCaPmtInterval (interval : Duration)
  | enterMenu (slotId : UInt8)
  | mmiMenuAnswer (slotId : UInt8) (sessionId : UInt16) (choice : UInt8)
  | mmiAnswer (slotId : UInt8) (sessionId : UInt16) (answer : Option Bytes)
  | mmiClose (slotId : UInt8) (sessionId : UInt16)
  | mmiListClose (slotId : UInt8) (sessionId : UInt16)
  | askRelease (slotId : UInt8)
  | reset
  | shutdown

-- The branch of `select!` that completes; a command is `none` when every handle is dropped.
inductive Wake where
  | command (command : Option Command)
  | timer
  | readable (guard : Except Error Unit)

-- A call of the controller, as it is remembered: when it was made, whether by `retry_reset`, what `reset_retry_at`,
-- `link_suspended` and `recovery_at` were then, and whether a CA_RESET of it failed.
structure DriverCall where
  time : Instant
  internal : Bool
  armed : Option Instant
  suspended : Bool
  recoveryAt : Option Instant
  failed : Bool
  label : ControllerLabel

-- `events` is what was sent, `ready` is the value of the readiness watch, which has a receiver while it is `watched`, and
-- `readable` is the readiness that the reactor keeps of the descriptor. `clock` is the time, and `delays` how long it
-- takes until the next readings and calls. `returned` is what `run` returned.
structure CiDriver where
  controller : CiController
  events : List CiDriverEvent := []
  ready : Bool := false
  resetRetryAt : Option Instant := none
  tickPeriod : Duration
  retryInterval : Duration
  nextTick : Instant := 0
  readable : Bool := false
  watched : Bool := true
  clock : Instant := 0
  delays : List Duration := []
  calls : List DriverCall := []
  returned : Option (Except Error Unit) := none

def tickPeriodMin : Duration := Duration.fromMillis 10

def tickPeriodMax : Duration := Duration.fromMillis 100

def drainBatch : Nat := 64

def tickPeriod (config : CiControllerConfig) : Duration :=
  max tickPeriodMin (min tickPeriodMax config.transportPollInterval)

def CiController.caPmtReady (c : CiController) : Bool := c.pacer.ready

def resetFailed (before after : CiController) : Bool :=
  (resets (after.trace.drop before.trace.length)).any fun result => !result.isOk

namespace CiDriver

open Act Outcome

def new (controller : CiController) (clock : Instant) : CiDriver where
  controller
  clock
  tickPeriod := LibDvb.tickPeriod controller.config
  retryInterval := controller.config.retryInterval

def controllerLens : Lens CiDriver CiController where
  get d := d.controller
  set controller d := { d with controller }

def elapsed (d : CiDriver) : CiDriver :=
  match d.delays with
  | [] => d
  | delay :: rest => { d with clock := d.clock + delay, delays := rest }

def instantNow : Act Error CiDriver Instant := do
  modify elapsed
  pure (← get).clock

def addDuration (now : Instant) (duration : Duration) : Act Error CiDriver Instant :=
  match now.checkedAdd duration with
  | some sum => pure sum
  | none => fault

def recorded (internal : Bool) (op : ControllerOp) (before : CiController) (reply : Except Error (Option CaEvent))
    (d : CiDriver) : CiDriver :=
  { d with
    calls := d.calls ++ [{
      time := d.clock
      internal
      armed := d.resetRetryAt
      suspended := before.linkSuspended
      recoveryAt := before.recoveryAt
      failed := resetFailed before d.controller
      label := ⟨CiController.linkLens.get before, op, reply⟩ }] }

def call (internal : Bool) (op : ControllerOp) : Act Error CiDriver (Except Error (Option CaEvent)) := do
  modify elapsed
  let before := (← get).controller
  let reply ← attempt (zoom controllerLens op.run)
  modify (recorded internal op before reply)
  pure reply

def emit (event : CiDriverEvent) : Act Error CiDriver Unit :=
  modify fun d => { d with events := d.events ++ [event] }

def publishReady : Act Error CiDriver Unit :=
  modify fun d => { d with ready := d.controller.caPmtReady }

-- `for _ in 0 .. DRAIN_BATCH`
def drainLoop : Nat → Act Error CiDriver Bool
  | 0 => do
      publishReady
      pure false
  | fuel + 1 => do
      match ← call false .pollEvent with
      | .ok (some event) => do
          emit (.ca event)
          drainLoop fuel
      | .ok none => do
          publishReady
          pure (!(← get).controller.linkSuspended)
      | .error e => do
          emit (.fault e)
          drainLoop fuel

def drainEvents : Act Error CiDriver Bool := drainLoop drainBatch

def emitFault : Except Error (Option CaEvent) → Act Error CiDriver Unit
  | .ok _ => pure ()
  | .error e => emit (.fault e)

def tickNow : Act Error CiDriver Unit := do
  let now ← instantNow
  emitFault (← call false (.tick now))
  let _ ← drainEvents

def retryReset : Act Error CiDriver Unit := do
  match ← call true .reset with
  | .ok _ => do
      modify ({ · with resetRetryAt := none })
      emit .resetRetrySucceeded
      tickNow
  | .error e => do
      let now ← instantNow
      let retryAt ← addDuration now (← get).retryInterval
      modify ({ · with resetRetryAt := some retryAt })
      emit (.resetRetryFailed e)
      publishReady

def slotCommand (command : String) (op : ControllerOp) : Act Error CiDriver Unit := do
  match ← call false op with
  | .ok _ => pure ()
  | .error e => emit (.commandFailed command e)

-- The arms of `apply` but for `Command::Shutdown`.
def applyCommand : Command → Act Error CiDriver Unit
  | .setProgram program => do
      let _ ← call false (.queueProgram program)
  | .removeProgram programNumber => do
      let _ ← call false (.removeProgram programNumber)
  | .setCaPmtInterval interval => do
      let _ ← call false (.setCaPmtInterval interval)
  | .enterMenu slotId => slotCommand "enter_menu" (.enterMenu slotId)
  | .mmiMenuAnswer slotId sessionId choice =>
      slotCommand "mmi_menu_answer" (.mmiMenuAnswer slotId sessionId choice)
  | .mmiAnswer slotId sessionId answer => slotCommand "mmi_answer" (.mmiAnswer slotId sessionId answer)
  | .mmiClose slotId sessionId => slotCommand "mmi_close" (.mmiClose slotId sessionId)
  | .mmiListClose slotId sessionId => slotCommand "mmi_list_close" (.mmiListClose slotId sessionId)
  | .askRelease slotId => slotCommand "ask_release" (.askRelease slotId)
  | .reset => do
      match ← call false .reset with
      | .ok _ => tickNow
      | .error e => emit (.commandFailed "reset" e)
  | .shutdown => pure ()

-- The loop goes on when it returns true.
def apply (command : Command) : Act Error CiDriver Bool := do
  match command with
  | .shutdown => pure false
  | command => do
      applyCommand command
      let _ ← drainEvents
      pure true

-- `next_tick = Instant::now() + tick_period`
def schedule : Act Error CiDriver Unit := do
  let now ← instantNow
  let nextTick ← addDuration now (← get).tickPeriod
  modify ({ · with nextTick })

-- The loop from its head to the `select!`.
def prepare : Act Error CiDriver Unit := do
  let d ← get
  if d.controller.linkSuspended then
    if d.controller.recoveryAt.isNone ∧ d.resetRetryAt.isNone then do
      let now ← instantNow
      let retryAt ← addDuration now d.retryInterval
      modify ({ · with resetRetryAt := some retryAt })
  else
    modify ({ · with resetRetryAt := none })

def wakeAt (d : CiDriver) : Option Instant :=
  if d.controller.linkSuspended then d.controller.recoveryAt.or d.resetRetryAt else some d.nextTick

def awaitsDescriptor (d : CiDriver) : Bool := !d.controller.linkSuspended

def completes (d : CiDriver) : Wake → Bool
  | .command _ => true
  | .timer => d.wakeAt.any fun wakeAt => wakeAt ≤ d.clock
  | .readable (.ok ()) => d.awaitsDescriptor && d.readable
  | .readable (.error _) => d.awaitsDescriptor

-- While the link is suspended the timer is for its recovery or, when none is scheduled, for the next CA_RESET.
def expire : Act Error CiDriver Unit := do
  let c := (← get).controller
  if c.linkSuspended ∧ c.recoveryAt.isNone then
    retryReset
  else
    tickNow

-- `if self.drain_events() { guard.clear_ready() }`
def drainReadable : Act Error CiDriver Unit := do
  let drained ← drainEvents
  modify fun d => { d with readable := !drained && d.readable }

-- The branch of the `select!` that completed; the loop goes on when it returns true.
def serve : Wake → Act Error CiDriver Bool
  | .command none => pure false
  | .command (some command) => apply command
  | .timer => do
      expire
      schedule
      pure true
  | .readable (.ok ()) => do
      drainReadable
      pure true
  | .readable (.error e) => fail e

-- `send` leaves the value as it is when no receiver of the watch is left.
def finish (result : Except Error Unit) : Act Error CiDriver Unit :=
  modify fun d => { d with ready := !d.watched && d.ready, returned := some result }

-- From one `select!` to the next, or to the end of `run`.
def turn (wake : Wake) : Act Error CiDriver Unit := do
  match ← attempt (serve wake) with
  | .ok true => prepare
  | .ok false => finish (.ok ())
  | .error e => finish (.error e)

-- From the call of `run` to the first `select!`; `registered` is what `AsyncFd::with_interest` returned.
def enter (registered : Except Error Unit) : Act Error CiDriver Unit := do
  match registered with
  | .ok () => do
      tickNow
      schedule
      prepare
  | .error e => finish (.error e)

-- What the world does until the next branch completes: the kernel answers as `link` says, time passes, and the
-- descriptor may become readable.
structure Surroundings where
  link : CaDevice := {}
  pause : Duration := 0
  delays : List Duration := []
  edge : Bool := false
  watched : Bool := true

def within (around : Surroundings) (d : CiDriver) : CiDriver :=
  { d with
    controller := CiController.linkLens.set around.link d.controller
    clock := d.clock + around.pause
    delays := around.delays
    watched := around.watched
    readable := d.readable || around.edge }

end CiDriver

structure DriverLabel where
  around : CiDriver.Surroundings
  wake : Wake

def DriverStep (d : CiDriver) (label : DriverLabel) (d' : CiDriver) : Prop :=
  d.returned = none ∧ (d.within label.around).completes label.wake = true ∧
    CiDriver.turn label.wake (d.within label.around) = (.ok (), d')

def DriverStarts (d : CiDriver) : Prop :=
  ∃ start labels c clock around registered, ControllerRun start labels c ∧
    CiDriver.enter registered ((CiDriver.new c clock).within around) = (.ok (), d)

def DriverRun (start : CiDriver) (labels : List DriverLabel) (d : CiDriver) : Prop :=
  DriverStarts start ∧ Run DriverStep start labels d

end LibDvb
