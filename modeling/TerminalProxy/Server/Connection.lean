import TerminalProxy.Relay.Ordering
import TerminalProxy.Server.Upgrade

/-! One client connection through the proxy: the `'upgrade'` listener, then the relay its
`handleUpgrade` callback sets up. A relay session exists exactly for a request that passed
every check and whose device was dialled, and on it the relay forwards in arrival order
whatever order the two sockets' events come in. -/

namespace TerminalProxy.Server

open Js

/-- What a request has passed when the listener sets up a session: every check, the handshake, and
the dial of the resolved address. -/
def Admitted (deps : ServerDeps) (runtime : Runtime) (request : Request) : Prop :=
  ∃ parsed deviceId token vpnIp,
    runtime.parseUrl (request.url.getD "/") = .ok parsed ∧
    parseDeviceId parsed.pathname = some deviceId ∧
    parsed.get "token" = some token ∧ token ≠ "" ∧
    deps.verifyToken token = .ok () ∧
    deps.resolveIp deviceId = .ok (some vpnIp) ∧ vpnIp ≠ "" ∧
    request.handshakeAccepted = true ∧
    connect deps runtime ("ws://" ++ vpnIp ++ ":" ++ toString deps.ttydPort) = .ok ()

theorem upgradeListener_session_eq_some_iff (deps : ServerDeps) (runtime : Runtime)
    (request : Request) (session : Relay.Session) :
    (upgradeListener deps runtime request).session = some session ↔
      session = Relay.Session.initial ∧ Admitted deps runtime request := by
  constructor
  · intro started
    have exit := upgradeListener_exit deps runtime request
    generalize upgradeListener deps runtime request = run at exit started
    cases exit with
    | dialled parse routed present verified resolved known accepted =>
      obtain ⟨given, nonempty⟩ := truthy_eq_some.mp present
      obtain ⟨rfl, address⟩ := truthy_eq_some.mp known
      dsimp only at started
      split at started
      · cases started
        exact ⟨rfl, _, _, _, _, parse, routed, given, nonempty, verified, resolved, address,
          accepted, ‹_›⟩
      · cases started
    | _ => simp [rejected, Run.after] at started
  · rintro ⟨rfl, parsed, deviceId, token, vpnIp, parse, routed, given, nonempty, verified,
      resolved, address, accepted, connected⟩
    have present : truthy (parsed.get "token") = some token := truthy_eq_some.mpr ⟨given, nonempty⟩
    have known : truthy (some vpnIp) = some vpnIp := truthy_eq_some.mpr ⟨rfl, address⟩
    simp only [upgradeListener, parse, truthy_parseDeviceId]
    simp only [routed, validateToken, present, verified, lookupDevice, resolved, known, proxy,
      ttydUrl, accepted, connected, Run.after, if_true]

/-- A session exactly for an admitted request; on it the device gets the client's messages in order,
the client the device's from its open on, while the client is OPEN. -/
theorem connection_relays_exactly_admitted (deps : ServerDeps) (runtime : Runtime)
    (request : Request) :
    ((upgradeListener deps runtime request).session.isSome ↔ Admitted deps runtime request) ∧
    ∀ session events s, (upgradeListener deps runtime request).session = some session →
      Relay.run session events = some s →
      let a := Relay.arrivalsOf Relay.Session.initial Relay.Arrivals.empty events
      s.sentToDevice = (if a.deviceOpened then a.whileConnecting else []) ++ a.whileOpen ∧
      s.sentToClient = a.forwardable := by
  refine ⟨?_, fun session events s started ran => ?_⟩
  · simp [Option.isSome_iff_exists, upgradeListener_session_eq_some_iff]
  · obtain ⟨rfl, -⟩ := (upgradeListener_session_eq_some_iff deps runtime request session).mp started
    have forwarding := Relay.Forwarding.initial.run ran
    exact ⟨forwarding.toDevice, forwarding.toClient⟩

example :
    (upgradeListener ⟨fun _ => .ok (), fun _ => .ok (some "10.13.13.2"), 7681, none⟩
      ⟨fun _ => .ok ⟨"/terminal/dev1", [("token", "t")]⟩, fun _ => .ok ()⟩
      ⟨some "/terminal/dev1?token=t", true⟩).session = some Relay.Session.initial := rfl

end TerminalProxy.Server
