import TerminalProxy.Js.Value
import TerminalProxy.Relay.Session
import TerminalProxy.Server.Route

/-! The `'upgrade'` listener of `createProxyServer`: `new URL`, the route check, JWT
validation, the device IP lookup, then `wss.handleUpgrade` with the callback that dials the
device. The injected dependencies and the library calls are parameters; a run lists the
calls the listener made, in order, and how its promise settled. -/

namespace TerminalProxy.Server

open Js

/-- What the listener reads of the `URL` object: `pathname`, and the decoded `searchParams` in
order. -/
structure ParsedUrl where
  pathname : String
  searchParams : List (String × String)
  deriving DecidableEq, Repr

def ParsedUrl.get (url : ParsedUrl) (name : String) : Option String :=
  url.searchParams.lookup name

/-- `ServerDeps`. `verifyToken` is how its promise settles (a synchronous throw lands in the
same `catch`); `resolveIp` returns a `string | null` or throws. -/
structure ServerDeps where
  verifyToken : String → Except JsError Unit
  resolveIp : String → Except JsError (Option String)
  ttydPort : Nat
  connectToDevice : Option (String → Except JsError Unit)

/-- What the listener takes from the runtime: `new URL(rawUrl, "ws://localhost")`, and
`new WebSocket(url)`, which throws on a URL it cannot dial. -/
structure Runtime where
  parseUrl : String → Except JsError ParsedUrl
  newWebSocket : String → Except JsError Unit

/-- One upgrade request: `request.url`, and whether `wss.handleUpgrade` accepts its handshake
and calls back (on a bad handshake ws answers by itself and never calls back). -/
structure Request where
  url : Option String
  handshakeAccepted : Bool

inductive Effect where
  | verifyToken (token : String)
  | resolveIp (deviceId : String)
  | write (text : String)
  | destroy
  | handleUpgrade
  | connect (url : String)
  deriving DecidableEq, Repr

inductive Outcome where
  | returned
  | threw (error : JsError)
  deriving DecidableEq, Repr

/-- One run of the listener: its calls in order, how it settled, and the relay session the
callback set up, when the callback ran to its end. -/
structure Run where
  effects : List Effect
  outcome : Outcome
  session : Option Relay.Session
  deriving DecidableEq, Repr

def Run.after (effect : Effect) (run : Run) : Run :=
  { run with effects := effect :: run.effects }

def statusLine (statusCode : Nat) (statusText : String) : String :=
  "HTTP/1.1 " ++ toString statusCode ++ " " ++ statusText ++ "\r\nConnection: close\r\n\r\n"

/-- `rejectUpgrade(socket, statusCode, statusText)`: write the status line, then destroy. -/
def rejectUpgrade (statusCode : Nat) (statusText : String) : List Effect :=
  [.write (statusLine statusCode statusText), .destroy]

def rejected (statusCode : Nat) (statusText : String) : Run :=
  ⟨rejectUpgrade statusCode statusText, .returned, none⟩

def truthy (value : Option String) : Option String :=
  value.filter fun text => text != ""

def ttydUrl (vpnIp : String) (ttydPort : Nat) : String :=
  "ws://" ++ vpnIp ++ ":" ++ toString ttydPort

structure Response where
  statusCode : Nat
  contentType : String
  body : String
  deriving DecidableEq, Repr

/-- The request handler of `createServer`: `request.url` exactly `/health` gets the liveness
body, every other target 404 Not Found. -/
def handleRequest (url : Option String) : Response :=
  if url = some "/health" then
    ⟨200, "application/json", "\x7b\"status\":\"ok\",\"service\":\"terminal-proxy\"\x7d"⟩
  else ⟨404, "text/plain", "Not Found"⟩

theorem handleRequest_statusCode (url : Option String) :
    (handleRequest url).statusCode = 200 ↔ url = some "/health" := by
  unfold handleRequest
  split <;> simp_all

def connect (deps : ServerDeps) (runtime : Runtime) : String → Except JsError Unit :=
  deps.connectToDevice.getD runtime.newWebSocket

/-- Upgrade + proxy: `wss.handleUpgrade`, whose callback dials `ttydUrl` and, when that
returns, registers the relay's handlers on a new session. -/
def proxy (deps : ServerDeps) (runtime : Runtime) (accepted : Bool) (vpnIp : String) : Run :=
  Run.after .handleUpgrade <|
    if accepted then
      Run.after (.connect (ttydUrl vpnIp deps.ttydPort)) <|
        match connect deps runtime (ttydUrl vpnIp deps.ttydPort) with
        | .ok () => ⟨[], .returned, some Relay.Session.initial⟩
        | .error error => ⟨[], .threw error, none⟩
    else ⟨[], .returned, none⟩

/-- Device IP lookup; a throwing `resolveIp` rejects the listener's promise. -/
def lookupDevice (deps : ServerDeps) (runtime : Runtime) (accepted : Bool) (deviceId : String) :
    Run :=
  Run.after (.resolveIp deviceId) <|
    match deps.resolveIp deviceId with
    | .error error => ⟨[], .threw error, none⟩
    | .ok vpnIp =>
      match truthy vpnIp with
      | none => rejected 404 "Device Not Found"
      | some vpnIp => proxy deps runtime accepted vpnIp

/-- JWT validation: a missing token and a failed `verifyToken` both answer 401. -/
def validateToken (deps : ServerDeps) (runtime : Runtime) (accepted : Bool)
    (token : Option String) (deviceId : String) : Run :=
  match truthy token with
  | none => rejected 401 "Unauthorized"
  | some token =>
    Run.after (.verifyToken token) <|
      match deps.verifyToken token with
      | .error _ => rejected 401 "Unauthorized"
      | .ok () => lookupDevice deps runtime accepted deviceId

/-- The `'upgrade'` listener. `new URL` runs outside any `try`. -/
def upgradeListener (deps : ServerDeps) (runtime : Runtime) (request : Request) : Run :=
  match runtime.parseUrl (request.url.getD "/") with
  | .error error => ⟨[], .threw error, none⟩
  | .ok parsed =>
    match truthy (parseDeviceId parsed.pathname) with
    | none => rejected 404 "Not Found"
    | some deviceId =>
      validateToken deps runtime request.handshakeAccepted (parsed.get "token") deviceId

theorem parseDeviceId_ne_empty {pathname deviceId : String}
    (found : parseDeviceId pathname = some deviceId) : deviceId ≠ "" :=
  ((parseDeviceId_eq_some_iff pathname deviceId).mp found).1

@[simp] theorem truthy_parseDeviceId (pathname : String) :
    truthy (parseDeviceId pathname) = parseDeviceId pathname := by
  cases found : parseDeviceId pathname with
  | none => rfl
  | some deviceId => simp [truthy, Option.filter, parseDeviceId_ne_empty found]

@[simp] theorem truthy_none : truthy none = none := rfl

theorem truthy_eq_some {value : Option String} {text : String} :
    truthy value = some text ↔ value = some text ∧ text ≠ "" := by
  cases value <;> simp [truthy, Option.filter]
  exact ⟨fun ⟨kept, same⟩ => ⟨same, same ▸ kept⟩, fun ⟨same, kept⟩ => ⟨same ▸ kept, same⟩⟩

/-- How a run of the listener ends, and what each ending requires of the request and the calls. -/
inductive Exit (deps : ServerDeps) (runtime : Runtime) (request : Request) : Run → Prop where
  | urlThrew {error : JsError} (parse : runtime.parseUrl (request.url.getD "/") = .error error) :
      Exit deps runtime request ⟨[], .threw error, none⟩
  | unrouted {parsed : ParsedUrl} (parse : runtime.parseUrl (request.url.getD "/") = .ok parsed)
      (unrouted : parseDeviceId parsed.pathname = none) :
      Exit deps runtime request (rejected 404 "Not Found")
  | noToken {parsed : ParsedUrl} {deviceId : String}
      (parse : runtime.parseUrl (request.url.getD "/") = .ok parsed)
      (routed : parseDeviceId parsed.pathname = some deviceId)
      (missing : truthy (parsed.get "token") = none) :
      Exit deps runtime request (rejected 401 "Unauthorized")
  | unverified {parsed : ParsedUrl} {deviceId token : String} {error : JsError}
      (parse : runtime.parseUrl (request.url.getD "/") = .ok parsed)
      (routed : parseDeviceId parsed.pathname = some deviceId)
      (present : truthy (parsed.get "token") = some token)
      (failed : deps.verifyToken token = .error error) :
      Exit deps runtime request (.after (.verifyToken token) (rejected 401 "Unauthorized"))
  | resolveThrew {parsed : ParsedUrl} {deviceId token : String} {error : JsError}
      (parse : runtime.parseUrl (request.url.getD "/") = .ok parsed)
      (routed : parseDeviceId parsed.pathname = some deviceId)
      (present : truthy (parsed.get "token") = some token)
      (verified : deps.verifyToken token = .ok ())
      (threw : deps.resolveIp deviceId = .error error) :
      Exit deps runtime request ⟨[.verifyToken token, .resolveIp deviceId], .threw error, none⟩
  | unresolved {parsed : ParsedUrl} {deviceId token : String} {vpnIp : Option String}
      (parse : runtime.parseUrl (request.url.getD "/") = .ok parsed)
      (routed : parseDeviceId parsed.pathname = some deviceId)
      (present : truthy (parsed.get "token") = some token)
      (verified : deps.verifyToken token = .ok ())
      (resolved : deps.resolveIp deviceId = .ok vpnIp) (unknown : truthy vpnIp = none) :
      Exit deps runtime request
        ⟨.verifyToken token :: .resolveIp deviceId :: rejectUpgrade 404 "Device Not Found",
          .returned, none⟩
  | refused {parsed : ParsedUrl} {deviceId token address : String} {vpnIp : Option String}
      (parse : runtime.parseUrl (request.url.getD "/") = .ok parsed)
      (routed : parseDeviceId parsed.pathname = some deviceId)
      (present : truthy (parsed.get "token") = some token)
      (verified : deps.verifyToken token = .ok ())
      (resolved : deps.resolveIp deviceId = .ok vpnIp) (known : truthy vpnIp = some address)
      (refused : request.handshakeAccepted = false) :
      Exit deps runtime request
        ⟨[.verifyToken token, .resolveIp deviceId, .handleUpgrade], .returned, none⟩
  | dialled {parsed : ParsedUrl} {deviceId token address : String} {vpnIp : Option String}
      (parse : runtime.parseUrl (request.url.getD "/") = .ok parsed)
      (routed : parseDeviceId parsed.pathname = some deviceId)
      (present : truthy (parsed.get "token") = some token)
      (verified : deps.verifyToken token = .ok ())
      (resolved : deps.resolveIp deviceId = .ok vpnIp) (known : truthy vpnIp = some address)
      (accepted : request.handshakeAccepted = true) :
      Exit deps runtime request
        ⟨[.verifyToken token, .resolveIp deviceId, .handleUpgrade,
            .connect (ttydUrl address deps.ttydPort)],
          match connect deps runtime (ttydUrl address deps.ttydPort) with
          | .ok () => .returned
          | .error error => .threw error,
          match connect deps runtime (ttydUrl address deps.ttydPort) with
          | .ok () => some Relay.Session.initial
          | .error _ => none⟩

theorem upgradeListener_exit (deps : ServerDeps) (runtime : Runtime) (request : Request) :
    Exit deps runtime request (upgradeListener deps runtime request) := by
  unfold upgradeListener
  split
  · exact .urlThrew ‹_›
  · rename_i parsed parse
    rw [truthy_parseDeviceId]
    split
    · exact .unrouted parse ‹_›
    · rename_i deviceId routed
      unfold validateToken
      split
      · exact .noToken parse routed ‹_›
      · rename_i token present
        split
        · exact .unverified parse routed present ‹_›
        · rename_i verified
          unfold lookupDevice
          split
          · exact .resolveThrew parse routed present verified ‹_›
          · rename_i vpnIp resolved
            split
            · exact .unresolved parse routed present verified resolved ‹_›
            · rename_i address known
              unfold proxy
              cases accepted : request.handshakeAccepted
              · exact .refused parse routed present verified resolved known accepted
              · have dial : Exit deps runtime request _ :=
                  .dialled parse routed present verified resolved known accepted
                split at dial <;> simpa [Run.after] using dial

/-- The rejection owed by the first check a parsed request fails; `none` when all pass or
`resolveIp` throws. -/
def firstFailure (deps : ServerDeps) (parsed : ParsedUrl) : Option (Nat × String) :=
  match parseDeviceId parsed.pathname with
  | none => some (404, "Not Found")
  | some deviceId =>
    match truthy (parsed.get "token") with
    | none => some (401, "Unauthorized")
    | some token =>
      match deps.verifyToken token with
      | .error _ => some (401, "Unauthorized")
      | .ok () =>
        match deps.resolveIp deviceId with
        | .ok vpnIp => if truthy vpnIp = none then some (404, "Device Not Found") else none
        | .error _ => none

def Effect.isCheck : Effect → Bool
  | .verifyToken _ | .resolveIp _ => true
  | _ => false

/-- Each check runs only after those before it passed, on what they read; the device is dialled at
most once; a rejection is the first failing check's, then the destroy. -/
theorem upgradeListener_checks_in_order (deps : ServerDeps) (runtime : Runtime)
    (request : Request) :
    let run := upgradeListener deps runtime request
    (∀ token, .verifyToken token ∈ run.effects →
      ∃ parsed deviceId, runtime.parseUrl (request.url.getD "/") = .ok parsed ∧
        parseDeviceId parsed.pathname = some deviceId ∧ parsed.get "token" = some token ∧
        token ≠ "") ∧
    (∀ deviceId, .resolveIp deviceId ∈ run.effects →
      ∃ parsed token, runtime.parseUrl (request.url.getD "/") = .ok parsed ∧
        parseDeviceId parsed.pathname = some deviceId ∧ parsed.get "token" = some token ∧
        deps.verifyToken token = .ok () ∧
        run.effects.take 2 = [.verifyToken token, .resolveIp deviceId]) ∧
    (∀ url, .connect url ∈ run.effects →
      ∃ token deviceId vpnIp, deps.resolveIp deviceId = .ok (some vpnIp) ∧ vpnIp ≠ "" ∧
        url = "ws://" ++ vpnIp ++ ":" ++ toString deps.ttydPort ∧
        run.effects = [.verifyToken token, .resolveIp deviceId, .handleUpgrade, .connect url]) ∧
    (∀ text, .write text ∈ run.effects →
      ∃ parsed statusCode statusText before,
        runtime.parseUrl (request.url.getD "/") = .ok parsed ∧
        firstFailure deps parsed = some (statusCode, statusText) ∧
        run.effects = before ++
          [.write ("HTTP/1.1 " ++ toString statusCode ++ " " ++ statusText ++
            "\r\nConnection: close\r\n\r\n"), .destroy] ∧
        ∀ effect ∈ before, effect.isCheck) := by
  intro run
  have exit : Exit deps runtime request run := upgradeListener_exit deps runtime request
  clear_value run
  cases exit with
  | urlThrew parse => simp
  | unrouted parse unrouted =>
    refine ⟨?_, ?_, ?_, fun _ _ => ⟨_, _, _, [], parse, by simp [firstFailure, unrouted], rfl,
      nofun⟩⟩ <;> simp [rejected, rejectUpgrade]
  | noToken parse routed missing =>
    refine ⟨?_, ?_, ?_, fun _ _ => ⟨_, _, _, [], parse, by simp [firstFailure, routed, missing],
      rfl, nofun⟩⟩ <;> simp [rejected, rejectUpgrade]
  | unverified parse routed present failed =>
    obtain ⟨given, nonempty⟩ := truthy_eq_some.mp present
    refine ⟨?_, by simp [Run.after, rejected, rejectUpgrade], by simp [Run.after, rejected,
      rejectUpgrade], fun _ _ => ?_⟩
    · simp only [Run.after, rejected, rejectUpgrade, List.mem_cons, Effect.verifyToken.injEq]
      rintro _ (rfl | (_ | _) | _) <;> simp_all
    · exact ⟨_, _, _, [.verifyToken _], parse, by simp [firstFailure, routed, present, failed],
        rfl, by simp [Effect.isCheck]⟩
  | resolveThrew parse routed present verified threw =>
    obtain ⟨given, nonempty⟩ := truthy_eq_some.mp present
    refine ⟨?_, ?_, by simp, by simp⟩ <;> simp_all
  | unresolved parse routed present verified resolved unknown =>
    obtain ⟨given, nonempty⟩ := truthy_eq_some.mp present
    refine ⟨?_, ?_, by simp [rejectUpgrade], fun _ _ => ?_⟩
    · simp only [rejectUpgrade, List.mem_cons, Effect.verifyToken.injEq]
      rintro _ (rfl | _ | _ | _) <;> simp_all
    · simp only [rejectUpgrade, List.mem_cons, Effect.resolveIp.injEq]
      rintro _ (_ | rfl | _ | _) <;> simp_all
    · exact ⟨_, _, _, [.verifyToken _, .resolveIp _], parse,
        by simp [firstFailure, routed, present, verified, resolved, unknown], rfl,
        by simp [Effect.isCheck]⟩
  | refused parse routed present verified resolved known refused =>
    obtain ⟨given, nonempty⟩ := truthy_eq_some.mp present
    refine ⟨?_, ?_, by simp, by simp⟩ <;> simp_all
  | dialled parse routed present verified resolved known accepted =>
    obtain ⟨given, nonempty⟩ := truthy_eq_some.mp present
    obtain ⟨rfl, address⟩ := truthy_eq_some.mp known
    refine ⟨by simp_all, by simp_all, fun url member => ?_, by simp⟩
    obtain rfl : url = ttydUrl _ deps.ttydPort := by simpa using member
    exact ⟨_, _, _, resolved, address, rfl, rfl⟩

/-- `new URL` runs outside any `try`: when it throws, the listener's promise rejects with that
error before `rejectUpgrade` or `wss.handleUpgrade` has run. -/
theorem upgradeListener_throws_on_unparsable_url (deps : ServerDeps) (runtime : Runtime)
    (request : Request) {error : JsError}
    (parse : runtime.parseUrl (request.url.getD "/") = .error error) :
    upgradeListener deps runtime request = ⟨[], .threw error, none⟩ := by
  simp [upgradeListener, parse]

theorem upgradeListener_throws_on_double_slash :
    let runtime : Runtime :=
      ⟨fun raw => if raw = "//" then .error ⟨"Invalid URL"⟩ else .ok ⟨raw, []⟩, fun _ => .ok ()⟩
    runtime.parseUrl ((some "//").getD "/") = .error ⟨"Invalid URL"⟩ ∧
      upgradeListener ⟨fun _ => .ok (), fun _ => .ok (some "10.13.13.2"), 7681, none⟩ runtime
        ⟨some "//", true⟩ = ⟨[], .threw ⟨"Invalid URL"⟩, none⟩ :=
  ⟨rfl, upgradeListener_throws_on_unparsable_url _ _ _ rfl⟩

/-- `parseDeviceId` accepts exactly `/terminal/<deviceId>` up to runs of slashes and a tail after a
slash; every other pathname is answered 404 Not Found. -/
theorem parseDeviceId_routes_exactly (pathname : String) :
    (∀ deviceId, parseDeviceId pathname = some deviceId ↔
      deviceId ≠ "" ∧ '/' ∉ deviceId.toList ∧
      ∃ lead gap rest : List Char, Slashes lead ∧ gap ≠ [] ∧ Slashes gap ∧
        (rest = [] ∨ rest.head? = some '/') ∧
        pathname.toList = lead ++ "terminal".toList ++ gap ++ deviceId.toList ++ rest) ∧
    (parseDeviceId pathname = none →
      ∀ deps runtime request searchParams,
        runtime.parseUrl (request.url.getD "/") = .ok ⟨pathname, searchParams⟩ →
        upgradeListener deps runtime request = rejected 404 "Not Found") := by
  refine ⟨parseDeviceId_eq_some_iff pathname, fun unrouted deps runtime request _ parse => ?_⟩
  simp [upgradeListener, parse, unrouted, truthy_none]

/-- Extra segments, an empty segment and a trailing slash are all routed: to `/terminal/a/b`
without a token every listener answers 401, not 404. -/
theorem parseDeviceId_accepts_other_shapes :
    (parseDeviceId "/terminal/a/b" = some "a" ∧ parseDeviceId "/terminal//a" = some "a" ∧
      parseDeviceId "/terminal/a/" = some "a") ∧
    ∀ deps : ServerDeps,
      upgradeListener deps ⟨fun raw => .ok ⟨raw, []⟩, fun _ => .ok ()⟩
          ⟨some "/terminal/a/b", true⟩ =
        ⟨[.write "HTTP/1.1 401 Unauthorized\r\nConnection: close\r\n\r\n", .destroy], .returned,
          none⟩ :=
  ⟨by decide, fun _ => rfl⟩

end TerminalProxy.Server
