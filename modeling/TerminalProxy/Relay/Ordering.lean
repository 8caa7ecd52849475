import TerminalProxy.Relay.Session

/-! What the relay forwards. An observer reads each client message against the device's
`readyState` at its arrival, and each device message against the client's; the frames
sent on each socket are then exactly what the observer predicts. -/

namespace TerminalProxy.Relay

open Session

/-- What an observer of a run records: client messages by the device's state at arrival, whether the
device opened, and device messages the client can be sent. -/
structure Arrivals where
  whileConnecting : List Frame
  whileOpen : List Frame
  deviceOpened : Bool
  forwardable : List Frame
  deriving DecidableEq, Repr

def Arrivals.empty : Arrivals := ⟨[], [], false, []⟩

/-- The observer's reading of one event, taken in the state ws dispatched it in. -/
def Arrivals.record (a : Arrivals) (s : Session) : Event → Arrivals
  | .clientMessage frame =>
    match s.device with
    | .connecting => { a with whileConnecting := a.whileConnecting ++ [frame] }
    | .open => { a with whileOpen := a.whileOpen ++ [frame] }
    | .closing | .closed => a
  | .deviceOpen => { a with deviceOpened := true }
  | .deviceMessage frame =>
    if a.deviceOpened = true ∧ s.client = .open then
      { a with forwardable := a.forwardable ++ [frame] } else a
  | _ => a

/-- The observer along a run, stopping where the run stops. -/
def arrivalsOf (s : Session) (a : Arrivals) : List Event → Arrivals
  | [] => a
  | event :: rest =>
    match step s event with
    | some next => arrivalsOf next (a.record s event) rest
    | none => a

@[simp] theorem sentToDevice_sendDevice (s : Session) (frame : Frame) :
    (s.sendDevice frame).sentToDevice = s.sentToDevice ++ [frame] := by
  simp [sentToDevice]

@[simp] theorem sentToClient_sendClient (s : Session) (frame : Frame) :
    (s.sendClient frame).sentToClient = s.sentToClient ++ [frame] := by
  simp [sentToClient]

@[simp] theorem sentToDevice_sendClient (s : Session) (frame : Frame) :
    (s.sendClient frame).sentToDevice = s.sentToDevice := rfl

@[simp] theorem sentToClient_sendDevice (s : Session) (frame : Frame) :
    (s.sendDevice frame).sentToClient = s.sentToClient := rfl

@[simp] theorem sentToDevice_closeClient (s : Session) (code : Nat) (reason : String) :
    (s.closeClient code reason).sentToDevice = s.sentToDevice := rfl

@[simp] theorem sentToClient_closeDevice (s : Session) :
    s.closeDevice.sentToClient = s.sentToClient := rfl

@[simp] theorem sentToDevice_closeDevice (s : Session) :
    s.closeDevice.sentToDevice = s.sentToDevice := by
  simp [sentToDevice, Call.frame?]

@[simp] theorem sentToClient_closeClient (s : Session) (code : Nat) (reason : String) :
    (s.closeClient code reason).sentToClient = s.sentToClient := by
  simp [sentToClient, Call.frame?]

/-- The observer's invariant: what has been sent is what the arrivals so far predict. -/
structure Forwarding (s : Session) (a : Arrivals) : Prop where
  listeners : s.deviceListeners = if a.deviceOpened then 1 else 0
  buffering : s.device = .connecting → a.deviceOpened = false ∧ s.pending = a.whileConnecting
  opened : s.device = .open → a.deviceOpened = true
  notOpened : a.deviceOpened = false → a.whileOpen = []
  toDevice : s.sentToDevice = (if a.deviceOpened then a.whileConnecting else []) ++ a.whileOpen
  toClient : s.sentToClient = a.forwardable

theorem Forwarding.initial : Forwarding Session.initial Arrivals.empty where
  listeners := rfl
  buffering := fun _ => ⟨rfl, rfl⟩
  opened := nofun
  notOpened := fun _ => rfl
  toDevice := rfl
  toClient := rfl

theorem Forwarding.closeDeviceIfOpen {s : Session} {a : Arrivals} (inv : Forwarding s a) :
    Forwarding (closeDeviceIfOpen s) a := by
  unfold TerminalProxy.Relay.closeDeviceIfOpen
  split
  · rename_i opened
    exact ⟨inv.listeners, by simp, by simp, inv.notOpened, by simpa using inv.toDevice,
      inv.toClient⟩
  · exact inv

theorem Forwarding.closeClientIfOpen {s : Session} {a : Arrivals} (code : Nat) (reason : String)
    (inv : Forwarding s a) : Forwarding (closeClientIfOpen code reason s) a := by
  unfold TerminalProxy.Relay.closeClientIfOpen
  split
  · exact ⟨inv.listeners, by simpa using inv.buffering, by simpa using inv.opened, inv.notOpened,
      inv.toDevice, by simpa using inv.toClient⟩
  · exact inv

theorem Forwarding.setClient {s : Session} {a : Arrivals} (state : ReadyState)
    (inv : Forwarding s a) : Forwarding { s with client := state } a :=
  ⟨inv.listeners, inv.buffering, inv.opened, inv.notOpened, inv.toDevice, inv.toClient⟩

theorem Forwarding.clientMessage {s : Session} {a : Arrivals} (frame : Frame)
    (inv : Forwarding s a) :
    Forwarding (onClientMessage frame s) (a.record s (.clientMessage frame)) := by
  cases state : s.device with
  | connecting =>
    obtain ⟨notYet, buffered⟩ := inv.buffering state
    rw [onClientMessage_of_not_open frame (by simp [state])]
    simp only [Arrivals.record, state]
    exact ⟨inv.listeners, fun _ => ⟨notYet, by simp [buffered]⟩, by simp [state], inv.notOpened,
      by simpa [notYet] using inv.toDevice, inv.toClient⟩
  | «open» =>
    have opened := inv.opened state
    rw [onClientMessage_of_open frame state]
    simp only [Arrivals.record, state]
    refine ⟨inv.listeners, by simp [state], fun _ => opened, by simp [opened], ?_, inv.toClient⟩
    simp [inv.toDevice]
  | closing | closed =>
    rw [onClientMessage_of_not_open frame (by simp [state])]
    simp only [Arrivals.record, state]
    exact ⟨inv.listeners, by simp [state], by simp [state], inv.notOpened, inv.toDevice,
      inv.toClient⟩

theorem Forwarding.deviceOpen {s : Session} {a : Arrivals} (inv : Forwarding s a)
    (connecting : s.device = .connecting) :
    Forwarding (onDeviceOpen { s with device := .open }) (a.record s .deviceOpen) := by
  obtain ⟨notYet, buffered⟩ := inv.buffering connecting
  have noneOpen := inv.notOpened notYet
  rw [onDeviceOpen_eq rfl]
  refine ⟨by simp [inv.listeners, notYet, Arrivals.record], by simp, fun _ => rfl, nofun, ?_,
    inv.toClient⟩
  have sentNothing : s.deviceCalls.filterMap Call.frame? = [] := by
    simpa [sentToDevice, notYet, noneOpen] using inv.toDevice
  simp [sentToDevice, Arrivals.record, List.filterMap_map, sentNothing, buffered, noneOpen]

theorem Forwarding.deviceMessage {s : Session} {a : Arrivals} (frame : Frame)
    (inv : Forwarding s a) :
    Forwarding (onDeviceMessage frame s) (a.record s (.deviceMessage frame)) := by
  unfold onDeviceMessage Arrivals.record
  rw [inv.listeners]
  cases opened : a.deviceOpened with
  | false => simpa [Nat.repeat, opened] using inv
  | true =>
    simp only [Nat.repeat, ite_true, deviceMessageListener, true_and]
    split
    · rename_i clientOpen
      exact ⟨by simpa [opened] using inv.listeners, by simpa [opened] using inv.buffering,
        by simp, by simp, by simpa [opened] using inv.toDevice, by simp [inv.toClient]⟩
    · exact inv

/-- Every event ws can dispatch keeps the invariant. -/
theorem Forwarding.step {s s' : Session} {a : Arrivals} {event : Event} (inv : Forwarding s a)
    (stepped : step s event = some s') : Forwarding s' (a.record s event) := by
  cases event <;>
    simp only [Relay.step, Option.ite_none_right_eq_some, Option.some.injEq] at stepped <;>
    obtain ⟨enabled, rfl⟩ := stepped
  case clientMessage frame => exact inv.clientMessage frame
  case clientClosing => exact inv.setClient .closing
  case clientClose => exact (inv.setClient .closed).closeDeviceIfOpen
  case clientError => exact inv.closeDeviceIfOpen
  case deviceOpen => exact inv.deviceOpen enabled
  case deviceMessage frame => exact inv.deviceMessage frame
  case deviceClosing =>
    exact ⟨inv.listeners, nofun, nofun, inv.notOpened, inv.toDevice, inv.toClient⟩
  case deviceClose =>
    exact Forwarding.closeClientIfOpen _ _
      ⟨inv.listeners, nofun, nofun, inv.notOpened, inv.toDevice, inv.toClient⟩
  case deviceError => exact inv.closeClientIfOpen _ _

theorem Forwarding.run {s s' : Session} {a : Arrivals} {events : List Event}
    (inv : Forwarding s a) (ran : run s events = some s') :
    Forwarding s' (arrivalsOf s a events) := by
  induction events generalizing s a with
  | nil => cases Option.some.inj ran; exact inv
  | cons event rest ih =>
    obtain ⟨next, stepped, ran⟩ := Option.bind_eq_some.mp ran
    simpa [arrivalsOf, stepped] using ih (inv.step stepped) ran

/-- Over every run, the device is sent the client's messages in arrival order, those buffered while
it connected only once it opened, and the client the device's. -/
theorem relay_forwards_in_arrival_order {events : List Event} {s : Session}
    (ran : run Session.initial events = some s) :
    let a := arrivalsOf Session.initial Arrivals.empty events
    s.sentToDevice = (if a.deviceOpened then a.whileConnecting else []) ++ a.whileOpen ∧
      (a.deviceOpened = false → s.sentToDevice = []) ∧
      s.sentToClient = a.forwardable := by
  have inv := Forwarding.initial.run ran
  refine ⟨inv.toDevice, fun notYet => ?_, inv.toClient⟩
  simpa [notYet, inv.notOpened notYet] using inv.toDevice

theorem relay_forwards_around_the_open :
    let events := [Event.clientMessage ⟨[1], false⟩, .deviceOpen, .clientMessage ⟨[2], true⟩,
      .deviceMessage ⟨[3], false⟩]
    let a := arrivalsOf Session.initial Arrivals.empty events
    ∃ s, run Session.initial events = some s ∧
      s.sentToDevice = (if a.deviceOpened then a.whileConnecting else []) ++ a.whileOpen ∧
      (a.deviceOpened = false → s.sentToDevice = []) ∧ s.sentToClient = a.forwardable :=
  ⟨_, rfl, relay_forwards_in_arrival_order rfl⟩

/-- `deviceWs` carries one `'message'` listener once it has opened, and none before. -/
theorem deviceListeners_of_run {events : List Event} {s : Session}
    (ran : run Session.initial events = some s) :
    s.deviceListeners =
      if (arrivalsOf Session.initial Arrivals.empty events).deviceOpened then 1 else 0 :=
  (Forwarding.initial.run ran).listeners

theorem deviceListeners_after_open :
    run Session.initial [.deviceOpen] = some ⟨.open, .open, [], 1, [], []⟩ ∧
      (⟨.open, .open, [], 1, [], []⟩ : Session).deviceListeners =
        if (arrivalsOf Session.initial Arrivals.empty [.deviceOpen]).deviceOpened then 1 else 0 :=
  ⟨rfl, deviceListeners_of_run rfl⟩

end TerminalProxy.Relay
