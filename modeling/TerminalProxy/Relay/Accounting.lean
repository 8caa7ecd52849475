import TerminalProxy.Relay.Ordering
import TerminalProxy.Relay.Teardown

/-! What the relay's records account for over whole runs. Every client message that arrived
is either sent to the device or still in `pending`, in arrival order; and the calls made on
each socket are sends followed by at most one `close()`, made once that socket has left
OPEN, and no dispatch sends on a socket that is not OPEN. -/

namespace TerminalProxy.Relay

open Session

def Event.clientFrame? : Event → Option Frame
  | .clientMessage frame => some frame
  | _ => none

/-- The client messages among some events, in order. -/
def clientMessages (events : List Event) : List Frame :=
  events.filterMap Event.clientFrame?

@[simp] theorem closeDeviceIfOpen_pending (s : Session) :
    (closeDeviceIfOpen s).pending = s.pending := by
  unfold closeDeviceIfOpen; split <;> rfl

@[simp] theorem sentToDevice_closeDeviceIfOpen (s : Session) :
    (closeDeviceIfOpen s).sentToDevice = s.sentToDevice := by
  unfold closeDeviceIfOpen; split <;> simp

@[simp] theorem closeClientIfOpen_pending (code : Nat) (reason : String) (s : Session) :
    (closeClientIfOpen code reason s).pending = s.pending := by
  unfold closeClientIfOpen; split <;> rfl

@[simp] theorem onDeviceMessage_pending (frame : Frame) (s : Session) :
    (onDeviceMessage frame s).pending = s.pending := by
  rw [onDeviceMessage_eq]; split <;> rfl

/-- The relay's account: the frames sent to the device, then those pending, are every client message
in order; an OPEN device has none pending. -/
structure Conserving (s : Session) (arrived : List Frame) : Prop where
  complete : s.sentToDevice ++ s.pending = arrived
  drained : s.device = .open → s.pending = []

theorem Conserving.initial : Conserving Session.initial [] := ⟨rfl, fun _ => rfl⟩

theorem Conserving.of_same {s s' : Session} {arrived : List Frame} (inv : Conserving s arrived)
    (sent : s'.sentToDevice = s.sentToDevice) (pending : s'.pending = s.pending)
    (opened : s'.device = .open → s.device = .open) : Conserving s' arrived :=
  ⟨by rw [sent, pending, inv.complete], fun now => pending ▸ inv.drained (opened now)⟩

theorem Conserving.step {s s' : Session} {arrived : List Frame} {event : Event}
    (inv : Conserving s arrived) (stepped : step s event = some s') :
    Conserving s' (arrived ++ event.clientFrame?.toList) := by
  cases event <;>
    simp only [Relay.step, Option.ite_none_right_eq_some, Option.some.injEq] at stepped <;>
    obtain ⟨enabled, rfl⟩ := stepped <;>
    simp only [Event.clientFrame?, Option.toList, List.append_nil]
  case clientMessage frame =>
    by_cases opened : s.device = .open
    · rw [onClientMessage_of_open frame opened]
      exact ⟨by simp [← inv.complete, inv.drained opened], by simpa using inv.drained⟩
    · rw [onClientMessage_of_not_open frame opened]
      exact ⟨by simp [sentToDevice, ← inv.complete], fun reopened => absurd reopened opened⟩
  case deviceOpen =>
    rw [onDeviceOpen_eq rfl]
    exact ⟨by simp [sentToDevice, List.filterMap_map, ← inv.complete], fun _ => rfl⟩
  case clientClosing => exact inv.of_same rfl rfl id
  case clientClose =>
    exact inv.of_same (sentToDevice_closeDeviceIfOpen _) (closeDeviceIfOpen_pending _)
      (by simp only [onClientClose, closeDeviceIfOpen_device]; split <;> simp_all)
  case clientError =>
    exact inv.of_same (sentToDevice_closeDeviceIfOpen _) (closeDeviceIfOpen_pending _)
      (by simp only [onClientError, closeDeviceIfOpen_device]; split <;> simp_all)
  case deviceMessage frame =>
    exact inv.of_same (by simp [sentToDevice]) (onDeviceMessage_pending _ _) (by simp)
  case deviceClosing => exact inv.of_same rfl rfl nofun
  case deviceClose =>
    exact inv.of_same (by simp [onDeviceClose, sentToDevice]) (closeClientIfOpen_pending _ _ _)
      (by simp [onDeviceClose])
  case deviceError =>
    exact inv.of_same (by simp [onDeviceError, sentToDevice]) (closeClientIfOpen_pending _ _ _)
      (by simp [onDeviceError])

theorem Conserving.run {s t : Session} {arrived : List Frame} {events : List Event}
    (inv : Conserving s arrived) (ran : run s events = some t) :
    Conserving t (arrived ++ clientMessages events) := by
  induction events generalizing s arrived with
  | nil => cases Option.some.inj ran; simpa [clientMessages] using inv
  | cons event rest ih =>
    obtain ⟨next, stepped, ran⟩ := Option.bind_eq_some.mp ran
    have kept := ih (inv.step stepped) ran
    cases event <;> simpa [clientMessages, Event.clientFrame?] using kept

/-- In every reachable state the relay has lost, duplicated and reordered none of the client's
messages. -/
theorem relay_conserves_client_messages {events : List Event} {s : Session}
    (ran : run Session.initial events = some s) :
    s.sentToDevice ++ s.pending = clientMessages events ∧ (s.device = .open → s.pending = []) :=
  let inv := Conserving.initial.run ran
  ⟨inv.complete, inv.drained⟩

theorem relay_conserves_client_messages_past_the_close :
    let events := [Event.clientMessage ⟨[1], false⟩, .deviceOpen, .clientMessage ⟨[2], false⟩,
      .deviceClosing, .clientMessage ⟨[3], false⟩]
    ∃ s, run Session.initial events = some s ∧
      s.sentToDevice ++ s.pending = clientMessages events ∧ (s.device = .open → s.pending = []) :=
  ⟨_, rfl, relay_conserves_client_messages rfl⟩

/-- The calls on one socket: sends, then at most one `close(status)`, once the socket has `left`
OPEN and with a status `allowed` admits. -/
def SendsThenClose (calls : List Call) (left : Prop) (allowed : Option CloseStatus → Prop) :
    Prop :=
  ∃ frames : List Frame, calls = frames.map .send ∨
    ∃ status, calls = frames.map .send ++ [.close status] ∧ left ∧ allowed status

/-- The close statuses the relay gives the client: device gone, device failed. -/
def ClientCloseStatus (status : Option CloseStatus) : Prop :=
  status = some ⟨1001, "Device disconnected"⟩ ∨ status = some ⟨1011, "Device connection error"⟩

/-- What one dispatch adds on the device: sends while it is OPEN, or the `close()` of an OPEN
device. -/
theorem step_deviceCalls {s s' : Session} {event : Event} (stepped : step s event = some s') :
    (∃ frames : List Frame, s'.deviceCalls = s.deviceCalls ++ frames.map .send ∧
        (frames ≠ [] → s'.device = .open)) ∨
      (s'.device = .closing ∧ s'.deviceCalls = s.deviceCalls ++ [.close none]) := by
  have closeIfOpen : ∀ t : Session, t.deviceCalls = s.deviceCalls →
      (∃ frames : List Frame,
          (closeDeviceIfOpen t).deviceCalls = s.deviceCalls ++ frames.map .send ∧
            (frames ≠ [] → (closeDeviceIfOpen t).device = .open)) ∨
        ((closeDeviceIfOpen t).device = .closing ∧
          (closeDeviceIfOpen t).deviceCalls = s.deviceCalls ++ [.close none]) := by
    intro t same
    unfold closeDeviceIfOpen
    split
    · exact .inr ⟨rfl, by simp [same]⟩
    · exact .inl ⟨[], by simp [same], absurd rfl⟩
  cases event <;>
    simp only [step, Option.ite_none_right_eq_some, Option.some.injEq] at stepped <;>
    obtain ⟨enabled, rfl⟩ := stepped
  case clientMessage frame =>
    unfold onClientMessage
    split
    · exact .inl ⟨[frame], by simp, fun _ => by simpa⟩
    · exact .inl ⟨[], by simp, absurd rfl⟩
  case clientClose => exact closeIfOpen _ rfl
  case clientError => exact closeIfOpen _ rfl
  case deviceOpen =>
    exact .inl ⟨s.pending, by simp [onDeviceOpen_eq], fun _ => by simp [onDeviceOpen_eq]⟩
  case deviceClose => exact .inl ⟨[], by simp [onDeviceClose], absurd rfl⟩
  case deviceError => exact .inl ⟨[], by simp [onDeviceError], absurd rfl⟩
  all_goals exact .inl ⟨[], by simp, absurd rfl⟩

theorem step_clientCalls {s s' : Session} {event : Event} (stepped : step s event = some s') :
    (∃ frames : List Frame, s'.clientCalls = s.clientCalls ++ frames.map .send ∧
        (frames ≠ [] → s'.client = .open)) ∨
      (s'.client = .closing ∧ ∃ status, ClientCloseStatus status ∧
        s'.clientCalls = s.clientCalls ++ [.close status]) := by
  have closeIfOpen : ∀ (code : Nat) (reason : String) (t : Session),
      t.clientCalls = s.clientCalls → ClientCloseStatus (some ⟨code, reason⟩) →
      (∃ frames : List Frame,
          (closeClientIfOpen code reason t).clientCalls = s.clientCalls ++ frames.map .send ∧
            (frames ≠ [] → (closeClientIfOpen code reason t).client = .open)) ∨
        ((closeClientIfOpen code reason t).client = .closing ∧ ∃ status, ClientCloseStatus status ∧
          (closeClientIfOpen code reason t).clientCalls = s.clientCalls ++ [.close status]) := by
    intro code reason t same allowed
    unfold closeClientIfOpen
    split
    · exact .inr ⟨rfl, _, allowed, by simp [same]⟩
    · exact .inl ⟨[], by simp [same], absurd rfl⟩
  cases event <;>
    simp only [step, Option.ite_none_right_eq_some, Option.some.injEq] at stepped <;>
    obtain ⟨enabled, rfl⟩ := stepped
  case deviceMessage frame =>
    rw [onDeviceMessage_eq]
    split
    · exact .inl ⟨List.replicate s.deviceListeners frame, by simp [List.map_replicate],
        fun _ => by simpa⟩
    · exact .inl ⟨[], by simp, absurd rfl⟩
  case deviceClose => exact closeIfOpen _ _ _ rfl (.inl rfl)
  case deviceError => exact closeIfOpen _ _ _ rfl (.inr rfl)
  case clientMessage frame =>
    unfold onClientMessage
    split <;> exact .inl ⟨[], by simp, absurd rfl⟩
  case deviceOpen => exact .inl ⟨[], by simp [onDeviceOpen_eq], absurd rfl⟩
  case clientClose => exact .inl ⟨[], by simp [onClientClose], absurd rfl⟩
  case clientError => exact .inl ⟨[], by simp [onClientError], absurd rfl⟩
  all_goals exact .inl ⟨[], by simp, absurd rfl⟩

structure CallLogs (s : Session) : Prop where
  device : SendsThenClose s.deviceCalls s.device.gone (· = none)
  client : SendsThenClose s.clientCalls (s.client ≠ .open) ClientCloseStatus

theorem CallLogs.step {s s' : Session} {event : Event} (inv : CallLogs s)
    (stepped : step s event = some s') : CallLogs s' := by
  constructor
  · obtain ⟨frames, sends | ⟨status, calls, gone, allowed⟩⟩ := inv.device
    · rcases step_deviceCalls stepped with ⟨more, calls, -⟩ | ⟨closing, calls⟩
      · exact ⟨frames ++ more, .inl (by simp [calls, sends])⟩
      · exact ⟨frames, .inr ⟨none, by simp [calls, sends], by simp [closing, ReadyState.gone], rfl⟩⟩
    · obtain ⟨stillGone, same⟩ := step_device_gone gone stepped
      exact ⟨frames, .inr ⟨status, same.trans calls, stillGone, allowed⟩⟩
  · obtain ⟨frames, sends | ⟨status, calls, notOpen, allowed⟩⟩ := inv.client
    · rcases step_clientCalls stepped with ⟨more, calls, -⟩ | ⟨closing, status, allowed, calls⟩
      · exact ⟨frames ++ more, .inl (by simp [calls, sends])⟩
      · exact ⟨frames, .inr ⟨status, by simp [calls, sends], by simp [closing], allowed⟩⟩
    · obtain ⟨stillNotOpen, same⟩ := step_client_gone notOpen stepped
      exact ⟨frames, .inr ⟨status, same.trans calls, stillNotOpen, allowed⟩⟩

/-- In every reachable state each socket got sends, then at most one close: the device's without a
status, the client's with 1001 or 1011. -/
theorem relay_call_logs {events : List Event} {s : Session}
    (ran : run Session.initial events = some s) :
    SendsThenClose s.deviceCalls s.device.gone (· = none) ∧
      SendsThenClose s.clientCalls (s.client ≠ .open) ClientCloseStatus :=
  let inv := run_preserves CallLogs (fun inv stepped => inv.step stepped)
    ⟨⟨[], .inl rfl⟩, ⟨[], .inl rfl⟩⟩ ran
  ⟨inv.device, inv.client⟩

theorem relay_call_logs_after_device_close :
    let events := [Event.deviceOpen, .clientMessage ⟨[1], false⟩, .deviceMessage ⟨[2], false⟩,
      .deviceClose, .clientClose]
    ∃ s, run Session.initial events = some s ∧
      SendsThenClose s.deviceCalls s.device.gone (· = none) ∧
      SendsThenClose s.clientCalls (s.client ≠ .open) ClientCloseStatus :=
  ⟨_, rfl, relay_call_logs (show run Session.initial [Event.deviceOpen,
    .clientMessage ⟨[1], false⟩, .deviceMessage ⟨[2], false⟩, .deviceClose, .clientClose] = _
      from rfl)⟩

/-- No dispatch sends on a socket that is not OPEN; the device is never sent to while CONNECTING,
where ws throws. -/
theorem relay_sends_only_while_open {s s' : Session} {event : Event}
    (stepped : step s event = some s') :
    (∀ frame, .send frame ∈ s'.deviceCalls.drop s.deviceCalls.length → s'.device = .open) ∧
      ∀ frame, .send frame ∈ s'.clientCalls.drop s.clientCalls.length → s'.client = .open := by
  constructor
  · intro frame sent
    rcases step_deviceCalls stepped with ⟨frames, calls, opened⟩ | ⟨-, calls⟩
    · rw [calls, List.drop_left] at sent
      exact opened (by rintro rfl; simp at sent)
    · simp [calls] at sent
  · intro frame sent
    rcases step_clientCalls stepped with ⟨frames, calls, opened⟩ | ⟨-, _, -, calls⟩
    · rw [calls, List.drop_left] at sent
      exact opened (by rintro rfl; simp at sent)
    · simp [calls] at sent

theorem relay_sends_only_while_open_on_flush :
    let s : Session := { Session.initial with pending := [⟨[1], false⟩] }
    ∃ s', step s .deviceOpen = some s' ∧
      (∀ frame, .send frame ∈ s'.deviceCalls.drop s.deviceCalls.length → s'.device = .open) ∧
      ∀ frame, .send frame ∈ s'.clientCalls.drop s.clientCalls.length → s'.client = .open :=
  ⟨_, rfl, relay_sends_only_while_open
    (show step { Session.initial with pending := [⟨[1], false⟩] } .deviceOpen = _ from rfl)⟩

end TerminalProxy.Relay
