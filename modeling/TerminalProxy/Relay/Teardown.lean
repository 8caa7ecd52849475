import TerminalProxy.Relay.Session

/-! Teardown of a session. Once a socket has left OPEN, ws never reopens it, so the relay
sends it nothing more; the close handlers close the other side only when that side is
OPEN, which leaves a device that opens after the client has gone without a `close()`. -/

namespace TerminalProxy.Relay

open Session

/-- A socket that ws has moved past OPEN. -/
def ReadyState.gone : ReadyState → Bool
  | .closing | .closed => true
  | .connecting | .open => false

theorem closeDeviceIfOpen_of_not_open {s : Session} (notOpen : s.device ≠ .open) :
    closeDeviceIfOpen s = s := if_neg notOpen

theorem closeClientIfOpen_of_not_open {s : Session} (code : Nat) (reason : String)
    (notOpen : s.client ≠ .open) : closeClientIfOpen code reason s = s := if_neg notOpen

theorem onDeviceMessage_of_not_open {s : Session} (frame : Frame) (notOpen : s.client ≠ .open) :
    onDeviceMessage frame s = s := by
  rw [onDeviceMessage_eq, if_neg notOpen]

@[simp] theorem onDeviceMessage_device (frame : Frame) (s : Session) :
    (onDeviceMessage frame s).device = s.device := by
  rw [onDeviceMessage_eq]; split <;> rfl

@[simp] theorem onDeviceMessage_deviceCalls (frame : Frame) (s : Session) :
    (onDeviceMessage frame s).deviceCalls = s.deviceCalls := by
  rw [onDeviceMessage_eq]; split <;> rfl

@[simp] theorem onDeviceMessage_client (frame : Frame) (s : Session) :
    (onDeviceMessage frame s).client = s.client := by
  rw [onDeviceMessage_eq]; split <;> rfl

@[simp] theorem closeClientIfOpen_device (code : Nat) (reason : String) (s : Session) :
    (closeClientIfOpen code reason s).device = s.device := by
  unfold closeClientIfOpen; split <;> rfl

@[simp] theorem closeClientIfOpen_deviceCalls (code : Nat) (reason : String) (s : Session) :
    (closeClientIfOpen code reason s).deviceCalls = s.deviceCalls := by
  unfold closeClientIfOpen; split <;> rfl

@[simp] theorem onClientMessage_device (frame : Frame) (s : Session) :
    (onClientMessage frame s).device = s.device := by
  unfold onClientMessage; split <;> rfl

@[simp] theorem closeDeviceIfOpen_device (s : Session) :
    (closeDeviceIfOpen s).device = if s.device = .open then .closing else s.device := by
  unfold closeDeviceIfOpen; split <;> rfl

@[simp] theorem closeDeviceIfOpen_client (s : Session) :
    (closeDeviceIfOpen s).client = s.client := by
  unfold closeDeviceIfOpen; split <;> rfl

@[simp] theorem closeDeviceIfOpen_clientCalls (s : Session) :
    (closeDeviceIfOpen s).clientCalls = s.clientCalls := by
  unfold closeDeviceIfOpen; split <;> rfl

theorem step_device_gone {s s' : Session} {event : Event} (gone : s.device.gone)
    (stepped : step s event = some s') : s'.device.gone ∧ s'.deviceCalls = s.deviceCalls := by
  have notOpen : s.device ≠ .open := by rintro h; simp [h, ReadyState.gone] at gone
  cases event <;> simp only [step, Option.ite_none_right_eq_some, Option.some.injEq] at stepped <;>
    obtain ⟨enabled, rfl⟩ := stepped
  case clientMessage frame => simp [onClientMessage_of_not_open frame notOpen, gone]
  case clientClosing => exact ⟨gone, rfl⟩
  case clientClose => simp [onClientClose, closeDeviceIfOpen, notOpen, gone]
  case clientError => simp [onClientError, closeDeviceIfOpen_of_not_open notOpen, gone]
  case deviceOpen => simp [enabled, ReadyState.gone] at gone
  case deviceMessage frame => simp [gone]
  case deviceClosing => rcases enabled with h | h <;> simp [h, ReadyState.gone] at gone
  case deviceClose => simp [onDeviceClose, ReadyState.gone]
  case deviceError => simp [onDeviceError, gone]

theorem step_client_gone {s s' : Session} {event : Event} (notOpen : s.client ≠ .open)
    (stepped : step s event = some s') : s'.client ≠ .open ∧ s'.clientCalls = s.clientCalls := by
  cases event <;> simp only [step, Option.ite_none_right_eq_some, Option.some.injEq] at stepped <;>
    obtain ⟨enabled, rfl⟩ := stepped
  case clientMessage frame =>
    unfold onClientMessage; split <;> simp [notOpen]
  case clientClosing => exact absurd enabled notOpen
  case clientClose => simp [onClientClose]
  case clientError => simp [onClientError, notOpen]
  case deviceOpen => simp [onDeviceOpen_eq, notOpen]
  case deviceMessage frame => simp [onDeviceMessage_of_not_open frame notOpen, notOpen]
  case deviceClosing => exact ⟨notOpen, rfl⟩
  case deviceClose =>
    simp [onDeviceClose, closeClientIfOpen_of_not_open _ _ (show ({ s with device := .closed }
      : Session).client ≠ .open from notOpen), notOpen]
  case deviceError => simp [onDeviceError, closeClientIfOpen_of_not_open _ _ notOpen, notOpen]

theorem run_device_gone {s t : Session} {events : List Event} (gone : s.device.gone)
    (ran : run s events = some t) : t.device.gone ∧ t.deviceCalls = s.deviceCalls :=
  run_preserves (fun x => x.device.gone ∧ x.deviceCalls = s.deviceCalls)
    (fun ⟨gone, calls⟩ stepped => (step_device_gone gone stepped).imp_right (·.trans calls))
    ⟨gone, rfl⟩ ran

theorem run_client_gone {s t : Session} {events : List Event} (notOpen : s.client ≠ .open)
    (ran : run s events = some t) : t.client ≠ .open ∧ t.clientCalls = s.clientCalls :=
  run_preserves (fun x => x.client ≠ .open ∧ x.clientCalls = s.clientCalls)
    (fun ⟨notOpen, calls⟩ stepped => (step_client_gone notOpen stepped).imp_right (·.trans calls))
    ⟨notOpen, rfl⟩ ran

/-- When the client's `'close'` or `'error'` finds the device OPEN, the relay calls
`deviceWs.close()`, and on every continuation that is the last call the device gets. -/
theorem device_torn_down_after_client_leaves {s s' t : Session} {event : Event}
    {rest : List Event} (leaving : event = .clientClose ∨ event = .clientError)
    (deviceOpen : s.device = .open) (stepped : step s event = some s')
    (ran : run s' rest = some t) :
    t.device.gone ∧ t.deviceCalls = s.deviceCalls ++ [.close none] := by
  have torn : s'.device = .closing ∧ s'.deviceCalls = s.deviceCalls ++ [.close none] := by
    rcases leaving with rfl | rfl <;>
      simp only [step, Option.ite_none_right_eq_some, Option.some.injEq] at stepped <;>
      obtain ⟨_, rfl⟩ := stepped <;>
      simp [onClientClose, onClientError, closeDeviceIfOpen, deviceOpen]
  obtain ⟨tGone, tCalls⟩ := run_device_gone (by simp [torn.1, ReadyState.gone]) ran
  exact ⟨tGone, tCalls.trans torn.2⟩

theorem device_torn_down_after_client_close :
    let opened : Session := ⟨.open, .open, [], 1, [], []⟩
    (Event.clientClose = .clientClose ∨ Event.clientClose = .clientError) ∧
      opened.device = .open ∧
      step opened .clientClose = some ⟨.closed, .closing, [], 1, [], [.close none]⟩ ∧
      run ⟨.closed, .closing, [], 1, [], [.close none]⟩ [.deviceClose] =
        some ⟨.closed, .closed, [], 1, [], [.close none]⟩ ∧
      ((⟨.closed, .closed, [], 1, [], [.close none]⟩ : Session).device.gone ∧
        [Call.close none] = opened.deviceCalls ++ [.close none]) :=
  ⟨.inl rfl, rfl, rfl, rfl, device_torn_down_after_client_leaves (.inl rfl) rfl rfl
    (show run ⟨.closed, .closing, [], 1, [], [.close none]⟩ [.deviceClose] = _ from rfl)⟩

/-- When the device's `'close'` or `'error'` finds the client OPEN, the relay closes it
with 1001 or 1011, and on every continuation that is the last call the client gets. -/
theorem client_torn_down_after_device_leaves {s s' t : Session} {event : Event}
    {rest : List Event} (leaving : event = .deviceClose ∨ event = .deviceError)
    (clientOpen : s.client = .open) (stepped : step s event = some s')
    (ran : run s' rest = some t) :
    t.client ≠ .open ∧ ∃ status : CloseStatus,
      t.clientCalls = s.clientCalls ++ [.close (some status)] ∧
      (event = .deviceClose → status = ⟨1001, "Device disconnected"⟩) ∧
      (event = .deviceError → status = ⟨1011, "Device connection error"⟩) := by
  rcases leaving with rfl | rfl <;>
    simp only [step, Option.ite_none_right_eq_some, Option.some.injEq] at stepped <;>
    obtain ⟨_, rfl⟩ := stepped
  · obtain ⟨tGone, tCalls⟩ := run_client_gone (by simp [onDeviceClose, closeClientIfOpen,
      clientOpen]) ran
    exact ⟨tGone, _, by simpa [onDeviceClose, closeClientIfOpen, clientOpen] using tCalls,
      fun _ => rfl, nofun⟩
  · obtain ⟨tGone, tCalls⟩ := run_client_gone (by simp [onDeviceError, closeClientIfOpen,
      clientOpen]) ran
    exact ⟨tGone, _, by simpa [onDeviceError, closeClientIfOpen, clientOpen] using tCalls,
      nofun, fun _ => rfl⟩

theorem step_closes_device {s s' : Session} {event : Event} (notClosed : s.device ≠ .closed)
    (stepped : step s event = some s') (closed : s'.device = .closed) : event = .deviceClose := by
  cases event <;> simp only [step, Option.ite_none_right_eq_some, Option.some.injEq] at stepped <;>
    obtain ⟨enabled, rfl⟩ := stepped
  case deviceClose => rfl
  all_goals exfalso
  all_goals simp only [onClientClose, onClientError, onDeviceError, onDeviceOpen_eq,
    onClientMessage_device, onDeviceMessage_device, closeDeviceIfOpen_device,
    closeClientIfOpen_device] at closed
  all_goals first
    | exact notClosed closed
    | (split at closed <;> simp_all)
    | simp at closed

theorem client_torn_down_after_device_close :
    let opened : Session := ⟨.open, .open, [], 1, [], []⟩
    let closing : Session := ⟨.closing, .closed, [], 1, [.close (some ⟨1001, "Device disconnected"⟩)], []⟩
    (Event.deviceClose = .deviceClose ∨ Event.deviceClose = .deviceError) ∧
      opened.client = .open ∧ step opened .deviceClose = some closing ∧
      run closing [.clientClose] = some { closing with client := .closed } ∧
      ({ closing with client := .closed } : Session).client ≠ .open ∧
        ∃ status : CloseStatus,
          ({ closing with client := .closed } : Session).clientCalls =
            opened.clientCalls ++ [.close (some status)] ∧
          (Event.deviceClose = .deviceClose → status = ⟨1001, "Device disconnected"⟩) ∧
          (Event.deviceClose = .deviceError → status = ⟨1011, "Device connection error"⟩) :=
  ⟨.inl rfl, rfl, rfl, rfl, client_torn_down_after_device_leaves (.inl rfl) rfl rfl
    (show run ⟨.closing, .closed, [], 1, [.close (some ⟨1001, "Device disconnected"⟩)], []⟩
      [.clientClose] = _ from rfl)⟩

/-- A device CLOSED next to an OPEN client is a state no run reaches. -/
def DeviceGoneClientClosing (s : Session) : Prop := s.device = .closed → s.client ≠ .open

theorem DeviceGoneClientClosing.step {s s' : Session} {event : Event}
    (inv : DeviceGoneClientClosing s) (stepped : Relay.step s event = some s') :
    DeviceGoneClientClosing s' := by
  intro closed
  by_cases wasClosed : s.device = .closed
  · exact (step_client_gone (inv wasClosed) stepped).1
  · obtain rfl := step_closes_device wasClosed stepped closed
    simp only [Relay.step, Option.ite_none_right_eq_some, Option.some.injEq] at stepped
    obtain ⟨_, rfl⟩ := stepped
    simp only [onDeviceClose, closeClientIfOpen]
    split <;> simp_all

/-- In every state a session reaches, a CLOSED device stands next to a client that is
CLOSING or CLOSED. -/
theorem device_closed_client_not_open {events : List Event} {s : Session}
    (ran : run Session.initial events = some s) (closed : s.device = .closed) :
    s.client ≠ .open :=
  run_preserves DeviceGoneClientClosing (fun inv stepped => inv.step stepped)
    (by simp [DeviceGoneClientClosing, Session.initial]) ran closed

/-- A failed handshake: ws moves the device to CLOSING, emits `'error'`, then `'close'`. -/
theorem device_closed_client_not_open_after_failed_handshake :
    let s : Session :=
      ⟨.closing, .closed, [], 0, [.close (some ⟨1011, "Device connection error"⟩)], []⟩
    run Session.initial [.deviceClosing, .deviceError, .deviceClose] = some s ∧
      s.device = .closed ∧ s.client ≠ .open :=
  ⟨rfl, rfl, device_closed_client_not_open
    (show run Session.initial [.deviceClosing, .deviceError, .deviceClose] = _ from rfl) rfl⟩

theorem step_client_closed {s s' : Session} {event : Event} (closed : s.client = .closed)
    (stepped : step s event = some s') :
    s'.client = .closed ∧
      ∃ sent : List Frame, s'.deviceCalls = s.deviceCalls ++ sent.map .send := by
  have notOpen : s.client ≠ .open := by simp [closed]
  cases event <;>
    simp only [step, Option.ite_none_right_eq_some, Option.some.injEq] at stepped <;>
    obtain ⟨enabled, rfl⟩ := stepped
  case clientMessage => simp [closed, ReadyState.receiving] at enabled
  case clientClosing => simp [closed] at enabled
  case clientClose => exact absurd closed enabled
  case clientError => exact absurd closed enabled
  case deviceOpen => exact ⟨by simp [onDeviceOpen_eq, closed], s.pending, by simp [onDeviceOpen_eq]⟩
  case deviceMessage => exact ⟨by simp [closed], [], by simp⟩
  case deviceClosing => exact ⟨closed, [], by simp⟩
  case deviceClose =>
    exact ⟨by simp [onDeviceClose, closeClientIfOpen, closed], [], by simp [onDeviceClose]⟩
  case deviceError =>
    exact ⟨by simp [onDeviceError, closeClientIfOpen_of_not_open _ _ notOpen, closed], [],
      by simp [onDeviceError]⟩

theorem run_client_closed {s t : Session} {events : List Event} (closed : s.client = .closed)
    (ran : run s events = some t) :
    t.client = .closed ∧ ∃ sent : List Frame, t.deviceCalls = s.deviceCalls ++ sent.map .send :=
  run_preserves
    (fun x => x.client = .closed ∧
      ∃ sent : List Frame, x.deviceCalls = s.deviceCalls ++ sent.map .send)
    (fun ⟨closed, sent, calls⟩ stepped =>
      let ⟨closed', more, calls'⟩ := step_client_closed closed stepped
      ⟨closed', sent ++ more, by simp [calls', calls]⟩)
    ⟨closed, [], by simp⟩ ran

/-- When the client's `'close'` finds the device CONNECTING, every later call on the device is a
`send`, never `close()`. -/
theorem device_never_closed_after_client_closes_first {s s' t : Session} {rest : List Event}
    (connecting : s.device = .connecting) (stepped : step s .clientClose = some s')
    (ran : run s' rest = some t) :
    ∃ sent : List Frame, t.deviceCalls = s.deviceCalls ++ sent.map .send := by
  simp only [step, Option.ite_none_right_eq_some, Option.some.injEq] at stepped
  obtain ⟨_, rfl⟩ := stepped
  have calls : (onClientClose { s with client := .closed }).deviceCalls = s.deviceCalls := by
    simp [onClientClose, closeDeviceIfOpen, connecting]
  rw [← calls]
  exact (run_client_closed (by simp [onClientClose]) ran).2

theorem device_never_closed_after_client_close_then_open :
    let buffered : Session := ⟨.open, .connecting, [⟨[104, 105], false⟩], 0, [], []⟩
    buffered.device = .connecting ∧
      step buffered .clientClose = some { buffered with client := .closed } ∧
      run { buffered with client := .closed } [.deviceOpen] =
        some ⟨.closed, .open, [], 1, [], [.send ⟨[104, 105], false⟩]⟩ ∧
      ∃ sent : List Frame,
        [Call.send ⟨[104, 105], false⟩] = buffered.deviceCalls ++ sent.map .send :=
  ⟨rfl, rfl, rfl, device_never_closed_after_client_closes_first rfl
    (show step ⟨.open, .connecting, [⟨[104, 105], false⟩], 0, [], []⟩ .clientClose = some _
      from rfl)
    (show run ⟨.closed, .connecting, [⟨[104, 105], false⟩], 0, [], []⟩ [.deviceOpen] = _ from rfl)⟩

/-- The client closes while the device connects; the device then opens and stays OPEN, sent the
buffered message. -/
theorem client_close_during_connect_leaves_device_open :
    run Session.initial [.clientMessage ⟨[104, 105], false⟩, .clientClose, .deviceOpen] =
      some ⟨.closed, .open, [], 1, [], [.send ⟨[104, 105], false⟩]⟩ := rfl

end TerminalProxy.Relay
