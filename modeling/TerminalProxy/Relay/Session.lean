import Mathlib.Data.List.Basic

/-! The relay session set up by the `handleUpgrade` callback of `createProxyServer`: the
`readyState` of `clientWs` and `deviceWs`, the `pending` array, and the calls the handlers
make on each socket. One event is one dispatch by ws, followed by the handler it runs. -/

namespace TerminalProxy.Relay

inductive ReadyState where
  | connecting
  | «open»
  | closing
  | closed
  deriving DecidableEq, Repr

/-- ws dispatches `'message'` only on an OPEN or CLOSING socket. -/
def ReadyState.receiving : ReadyState → Bool
  | .open | .closing => true
  | .connecting | .closed => false

/-- A message as ws hands it to a listener: the payload and its `isBinary` flag. -/
structure Frame where
  data : List UInt8
  isBinary : Bool
  deriving DecidableEq, Repr

/-- The `code` and `reason` passed to `clientWs.close`. -/
structure CloseStatus where
  code : Nat
  reason : String
  deriving DecidableEq, Repr

inductive Call where
  | send (frame : Frame)
  | close (status : Option CloseStatus)
  deriving DecidableEq, Repr

def Call.frame? : Call → Option Frame
  | .send frame => some frame
  | .close _ => none

@[simp] theorem Call.frame?_send (frame : Frame) : (Call.send frame).frame? = some frame := rfl

@[simp] theorem Call.frame?_close (status : Option CloseStatus) :
    (Call.close status).frame? = none := rfl

@[simp] theorem Call.frame?_comp_send : Call.frame? ∘ Call.send = some := rfl

/-- One session: both `readyState`s, `pending`, the count of `deviceWs` `'message'` listeners, and
each socket's calls, oldest first. -/
structure Session where
  client : ReadyState
  device : ReadyState
  pending : List Frame
  deviceListeners : Nat
  clientCalls : List Call
  deviceCalls : List Call
  deriving DecidableEq, Repr

namespace Session

/-- The session when the callback returns: `clientWs` is OPEN and `connect(ttydUrl)` has
just returned a CONNECTING socket. -/
def initial : Session := ⟨.open, .connecting, [], 0, [], []⟩

def sentToDevice (s : Session) : List Frame := s.deviceCalls.filterMap Call.frame?

def sentToClient (s : Session) : List Frame := s.clientCalls.filterMap Call.frame?

/-- `deviceWs.send(data, { binary: isBinary })`. -/
def sendDevice (s : Session) (frame : Frame) : Session :=
  { s with deviceCalls := s.deviceCalls ++ [.send frame] }

/-- `clientWs.send(data, { binary: isBinary })`. -/
def sendClient (s : Session) (frame : Frame) : Session :=
  { s with clientCalls := s.clientCalls ++ [.send frame] }

/-- `deviceWs.close()` on an OPEN socket, which ws moves to CLOSING. -/
def closeDevice (s : Session) : Session :=
  { s with device := .closing, deviceCalls := s.deviceCalls ++ [.close none] }

/-- `clientWs.close(code, reason)` on an OPEN socket, which ws moves to CLOSING. -/
def closeClient (s : Session) (code : Nat) (reason : String) : Session :=
  { s with client := .closing, clientCalls := s.clientCalls ++ [.close (some ⟨code, reason⟩)] }

@[simp] theorem sendDevice_client (s : Session) (frame : Frame) :
    (s.sendDevice frame).client = s.client := rfl
@[simp] theorem sendDevice_device (s : Session) (frame : Frame) :
    (s.sendDevice frame).device = s.device := rfl
@[simp] theorem sendDevice_pending (s : Session) (frame : Frame) :
    (s.sendDevice frame).pending = s.pending := rfl
@[simp] theorem sendDevice_deviceListeners (s : Session) (frame : Frame) :
    (s.sendDevice frame).deviceListeners = s.deviceListeners := rfl
@[simp] theorem sendDevice_clientCalls (s : Session) (frame : Frame) :
    (s.sendDevice frame).clientCalls = s.clientCalls := rfl
@[simp] theorem sendDevice_deviceCalls (s : Session) (frame : Frame) :
    (s.sendDevice frame).deviceCalls = s.deviceCalls ++ [.send frame] := rfl

@[simp] theorem sendClient_client (s : Session) (frame : Frame) :
    (s.sendClient frame).client = s.client := rfl
@[simp] theorem sendClient_device (s : Session) (frame : Frame) :
    (s.sendClient frame).device = s.device := rfl
@[simp] theorem sendClient_pending (s : Session) (frame : Frame) :
    (s.sendClient frame).pending = s.pending := rfl
@[simp] theorem sendClient_deviceListeners (s : Session) (frame : Frame) :
    (s.sendClient frame).deviceListeners = s.deviceListeners := rfl
@[simp] theorem sendClient_clientCalls (s : Session) (frame : Frame) :
    (s.sendClient frame).clientCalls = s.clientCalls ++ [.send frame] := rfl
@[simp] theorem sendClient_deviceCalls (s : Session) (frame : Frame) :
    (s.sendClient frame).deviceCalls = s.deviceCalls := rfl

@[simp] theorem closeDevice_client (s : Session) : s.closeDevice.client = s.client := rfl
@[simp] theorem closeDevice_device (s : Session) : s.closeDevice.device = .closing := rfl
@[simp] theorem closeDevice_pending (s : Session) : s.closeDevice.pending = s.pending := rfl
@[simp] theorem closeDevice_deviceListeners (s : Session) :
    s.closeDevice.deviceListeners = s.deviceListeners := rfl
@[simp] theorem closeDevice_clientCalls (s : Session) :
    s.closeDevice.clientCalls = s.clientCalls := rfl
@[simp] theorem closeDevice_deviceCalls (s : Session) :
    s.closeDevice.deviceCalls = s.deviceCalls ++ [.close none] := rfl

@[simp] theorem closeClient_client (s : Session) (code : Nat) (reason : String) :
    (s.closeClient code reason).client = .closing := rfl
@[simp] theorem closeClient_device (s : Session) (code : Nat) (reason : String) :
    (s.closeClient code reason).device = s.device := rfl
@[simp] theorem closeClient_pending (s : Session) (code : Nat) (reason : String) :
    (s.closeClient code reason).pending = s.pending := rfl
@[simp] theorem closeClient_deviceListeners (s : Session) (code : Nat) (reason : String) :
    (s.closeClient code reason).deviceListeners = s.deviceListeners := rfl
@[simp] theorem closeClient_clientCalls (s : Session) (code : Nat) (reason : String) :
    (s.closeClient code reason).clientCalls = s.clientCalls ++ [.close (some ⟨code, reason⟩)] :=
  rfl
@[simp] theorem closeClient_deviceCalls (s : Session) (code : Nat) (reason : String) :
    (s.closeClient code reason).deviceCalls = s.deviceCalls := rfl

end Session

open Session

/-- `clientWs.on("message")`: send to an OPEN device, otherwise push onto `pending`. -/
def onClientMessage (frame : Frame) (s : Session) : Session :=
  if s.device = .open then s.sendDevice frame else { s with pending := s.pending ++ [frame] }

theorem onClientMessage_of_open {s : Session} (frame : Frame) (opened : s.device = .open) :
    onClientMessage frame s = s.sendDevice frame := if_pos opened

theorem onClientMessage_of_not_open {s : Session} (frame : Frame) (notOpen : s.device ≠ .open) :
    onClientMessage frame s = { s with pending := s.pending ++ [frame] } := if_neg notOpen

/-- One pass of the flush loop: `if (deviceWs.readyState === WebSocket.OPEN) deviceWs.send(...)`. -/
def flushPending (s : Session) (msg : Frame) : Session :=
  if s.device = .open then s.sendDevice msg else s

/-- `deviceWs.on("open")`: flush `pending` in order, set `pending.length = 0`, and register
the device `'message'` listener. -/
def onDeviceOpen (s : Session) : Session :=
  let flushed := s.pending.foldl flushPending s
  { flushed with pending := [], deviceListeners := flushed.deviceListeners + 1 }

theorem onDeviceOpen_eq {s : Session} (opened : s.device = .open) :
    onDeviceOpen s =
      { s with
        pending := []
        deviceListeners := s.deviceListeners + 1
        deviceCalls := s.deviceCalls ++ s.pending.map .send } := by
  suffices flushed : ∀ (pending : List Frame) (t : Session), t.device = .open →
      pending.foldl flushPending t = { t with deviceCalls := t.deviceCalls ++ pending.map .send }
    by simp [onDeviceOpen, flushed s.pending s opened]
  intro pending
  induction pending with
  | nil => simp
  | cons msg rest ih =>
    intro t opened
    rw [List.foldl_cons, flushPending, if_pos opened, ih _ (by simpa using opened)]
    simp [sendDevice]

def deviceMessageListener (frame : Frame) (s : Session) : Session :=
  if s.client = .open then s.sendClient frame else s

/-- ws runs every `'message'` listener of `deviceWs`, in registration order. -/
def onDeviceMessage (frame : Frame) (s : Session) : Session :=
  Nat.repeat (deviceMessageListener frame) s.deviceListeners s

theorem onDeviceMessage_eq (frame : Frame) (s : Session) :
    onDeviceMessage frame s = if s.client = .open then
      { s with clientCalls := s.clientCalls ++ List.replicate s.deviceListeners (.send frame) }
      else s := by
  suffices listeners : ∀ count, Nat.repeat (deviceMessageListener frame) count s =
      if s.client = .open then
        { s with clientCalls := s.clientCalls ++ List.replicate count (.send frame) } else s
    from listeners s.deviceListeners
  intro count
  induction count with
  | zero => split <;> simp [Nat.repeat]
  | succ count ih =>
    rw [Nat.repeat, ih]
    split
    · rename_i clientOpen
      simp [deviceMessageListener, clientOpen, sendClient, List.replicate_succ']
    · rename_i notOpen
      simp [deviceMessageListener, notOpen]

/-- The teardown of `deviceWs` shared by the client's `'close'` and `'error'` handlers. -/
def closeDeviceIfOpen (s : Session) : Session :=
  if s.device = .open then s.closeDevice else s

/-- The teardown of `clientWs` shared by the device's `'close'` and `'error'` handlers. -/
def closeClientIfOpen (code : Nat) (reason : String) (s : Session) : Session :=
  if s.client = .open then s.closeClient code reason else s

def onClientClose : Session → Session := closeDeviceIfOpen

def onDeviceClose : Session → Session := closeClientIfOpen 1001 "Device disconnected"

/-- `clientWs.on("error")`; the `console.error` line is not modelled. -/
def onClientError : Session → Session := closeDeviceIfOpen

/-- `deviceWs.on("error")`; the `console.error` line is not modelled. -/
def onDeviceError : Session → Session := closeClientIfOpen 1011 "Device connection error"

/-- What ws can dispatch: `clientClosing` and `deviceClosing` are ws's own moves to CLOSING, on a
peer's close frame or a failed handshake. -/
inductive Event where
  | clientMessage (frame : Frame)
  | clientClosing
  | clientClose
  | clientError
  | deviceOpen
  | deviceMessage (frame : Frame)
  | deviceClosing
  | deviceClose
  | deviceError
  deriving DecidableEq, Repr

/-- One dispatch, `none` where ws cannot dispatch the event. It over-approximates ws (`'error'` on
an OPEN socket, a CONNECTING device closed without it), so facts of every run hold of ws's. -/
def step (s : Session) : Event → Option Session
  | .clientMessage frame => if s.client.receiving then some (onClientMessage frame s) else none
  | .clientClosing => if s.client = .open then some { s with client := .closing } else none
  | .clientClose => if s.client ≠ .closed then some (onClientClose { s with client := .closed })
      else none
  | .clientError => if s.client ≠ .closed then some (onClientError s) else none
  | .deviceOpen => if s.device = .connecting then some (onDeviceOpen { s with device := .open })
      else none
  | .deviceMessage frame => if s.device.receiving then some (onDeviceMessage frame s) else none
  | .deviceClosing => if s.device = .connecting ∨ s.device = .open
      then some { s with device := .closing } else none
  | .deviceClose => if s.device ≠ .closed then some (onDeviceClose { s with device := .closed })
      else none
  | .deviceError => if s.device ≠ .closed then some (onDeviceError s) else none

/-- A finite interleaving of events from `s`; `none` if one of them cannot be dispatched. -/
def run (s : Session) : List Event → Option Session
  | [] => some s
  | event :: rest => (step s event).bind (run · rest)

@[simp] theorem run_nil (s : Session) : run s [] = some s := rfl

theorem run_cons (s : Session) (event : Event) (rest : List Event) :
    run s (event :: rest) = (step s event).bind (run · rest) := rfl

theorem run_preserves (P : Session → Prop)
    (preserved : ∀ {s s' : Session} {event : Event}, P s → step s event = some s' → P s')
    {s t : Session} {events : List Event} (start : P s) (ran : run s events = some t) : P t := by
  induction events generalizing s with
  | nil => cases Option.some.inj ran; exact start
  | cons event rest ih =>
    obtain ⟨next, stepped, ran⟩ := Option.bind_eq_some.mp ran
    exact ih (preserved start stepped) ran

end TerminalProxy.Relay
