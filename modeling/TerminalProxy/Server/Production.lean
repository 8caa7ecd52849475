import TerminalProxy.IpResolver
import TerminalProxy.Js.Convert
import TerminalProxy.Server.Upgrade

/-! The listener `index.ts` starts. Its route and token checks are those of
`upgradeListener`; its device lookup runs `!vpnIp` and the template literal of `ttydUrl` on
whatever the file resolver returns, so a value that is not a string is dialled as the text it
converts to. On a peers file in the documented format the production listener is the typed
one; on any file it rejects only where `new URL`, the template literal or `new WebSocket`
throws. -/

namespace TerminalProxy.Server

open Js

/-- The upgrade listener with its device lookup given: `new URL`, the route check, the token
check and `verifyToken`, then `lookup handshakeAccepted deviceId`. -/
def listenerWith (verifyToken : String → Except JsError Unit) (lookup : Bool → String → Run)
    (runtime : Runtime) (request : Request) : Run :=
  match runtime.parseUrl (request.url.getD "/") with
  | .error error => ⟨[], .threw error, none⟩
  | .ok parsed =>
    match truthy (parseDeviceId parsed.pathname) with
    | none => rejected 404 "Not Found"
    | some deviceId =>
      match truthy (parsed.get "token") with
      | none => rejected 401 "Unauthorized"
      | some token =>
        Run.after (.verifyToken token) <|
          match verifyToken token with
          | .error _ => rejected 401 "Unauthorized"
          | .ok () => lookup request.handshakeAccepted deviceId

theorem upgradeListener_eq_listenerWith (deps : ServerDeps) (runtime : Runtime)
    (request : Request) :
    upgradeListener deps runtime request =
      listenerWith deps.verifyToken (lookupDevice deps runtime) runtime request := rfl

theorem listenerWith_congr {verifyToken : String → Except JsError Unit}
    {lookup lookup' : Bool → String → Run} {runtime : Runtime} {request : Request}
    (agree : ∀ parsed deviceId, runtime.parseUrl (request.url.getD "/") = .ok parsed →
      parseDeviceId parsed.pathname = some deviceId →
      lookup request.handshakeAccepted deviceId = lookup' request.handshakeAccepted deviceId) :
    listenerWith verifyToken lookup runtime request =
      listenerWith verifyToken lookup' runtime request := by
  unfold listenerWith
  split
  · rfl
  · rename_i parsed parse
    rw [truthy_parseDeviceId]
    split
    · rfl
    · rename_i deviceId routed
      simp only [agree parsed deviceId parse routed]

/-- The production dial: the template literal runs inside the `handleUpgrade` callback, where it can
throw, and `new WebSocket` reads the URL as a USVString. -/
def proxyValue (runtime : Runtime) (engine : Engine) (ttydPort : Nat) (accepted : Bool)
    (vpnIp : JsValue) : Run :=
  Run.after .handleUpgrade <|
    if accepted then
      match vpnIp.template engine with
      | .error error => ⟨[], .threw error, none⟩
      | .ok text =>
        Run.after (.connect (ttydUrl (usvString text) ttydPort)) <|
          match runtime.newWebSocket (ttydUrl (usvString text) ttydPort) with
          | .ok () => ⟨[], .returned, some Relay.Session.initial⟩
          | .error error => ⟨[], .threw error, none⟩
    else ⟨[], .returned, none⟩

/-- The device lookup on the value `resolveIp` returned: `!vpnIp` is `ToBoolean`. -/
def lookupDeviceValue (runtime : Runtime) (engine : Engine) (ttydPort : Nat)
    (resolveIp : String → JsValue) (accepted : Bool) (deviceId : String) : Run :=
  Run.after (.resolveIp deviceId) <|
    if (resolveIp deviceId).toBoolean engine then
      proxyValue runtime engine ttydPort accepted (resolveIp deviceId)
    else rejected 404 "Device Not Found"

/-- The listener `index.ts` starts: `resolveIp` is the file resolver, reading the peers file
as `readFileSync` gives it, and no `connectToDevice` is passed. -/
def productionListener (verifyToken : String → Except JsError Unit)
    (readFileSync : Except JsError String) (ttydPort : Nat) (engine : Engine) (runtime : Runtime)
    (request : Request) : Run :=
  listenerWith verifyToken
    (lookupDeviceValue runtime engine ttydPort
      fun deviceId => IpResolver.fileResolve readFileSync (jsString deviceId))
    runtime request

def listedAddress (members : List (JsString × Json)) (deviceId : String) : Option String :=
  match ownMember members (jsString deviceId) with
  | some (.string units) => some (usvString units)
  | _ => none

/-- The `ServerDeps` the types of `index.ts` describe: `resolveIp` returns a `string | null`. -/
def typedDeps (verifyToken : String → Except JsError Unit) (resolveIp : String → Option String)
    (ttydPort : Nat) : ServerDeps :=
  ⟨verifyToken, fun deviceId => .ok (resolveIp deviceId), ttydPort, none⟩

theorem proxyValue_string (runtime : Runtime) (engine : Engine) (ttydPort : Nat)
    (accepted : Bool) (verifyToken : String → Except JsError Unit)
    (resolveIp : String → Except JsError (Option String)) (units : JsString) :
    proxyValue runtime engine ttydPort accepted (.json (.string units)) =
      proxy ⟨verifyToken, resolveIp, ttydPort, none⟩ runtime accepted (usvString units) := rfl

theorem fileResolve_of_object {content : String} {members : List (JsString × Json)}
    (parsed : jsonParse content = .ok (.object members)) {key : JsString}
    (notBuiltin : key ∉ Realm.ecma2023.keys .object) :
    IpResolver.fileResolve (.ok content) key =
      ((ownMember members key).elim JsValue.undefined JsValue.json).orNull := by
  rw [IpResolver.fileResolve, IpResolver.resolve_eq]
  simp only [Except.bind, parsed, getProperty_object_of_not_inherited _ _ notBuiltin]

theorem lookupDeviceValue_of_documented {content : String} {members : List (JsString × Json)}
    (parsed : jsonParse content = .ok (.object members))
    (addresses : ∀ member ∈ members, ∃ address, member.2 = .string address)
    (verifyToken : String → Except JsError Unit) (runtime : Runtime) (engine : Engine)
    (ttydPort : Nat) (accepted : Bool) {deviceId : String}
    (notBuiltin : jsString deviceId ∉ Realm.ecma2023.keys .object) :
    lookupDeviceValue runtime engine ttydPort
        (fun deviceId => IpResolver.fileResolve (.ok content) (jsString deviceId)) accepted
        deviceId =
      lookupDevice (typedDeps verifyToken (listedAddress members) ttydPort) runtime accepted
        deviceId := by
  unfold lookupDeviceValue lookupDevice listedAddress
  simp only [fileResolve_of_object parsed notBuiltin, typedDeps]
  cases found : ownMember members (jsString deviceId) with
  | none => simp [JsValue.orNull, JsValue.toBoolean]
  | some member =>
    obtain ⟨units, same⟩ := addresses _ (ownMember_mem found)
    obtain rfl : member = .string units := same
    by_cases empty : units = []
    · subst empty
      simp [JsValue.orNull, JsValue.toBoolean, truthy, Option.filter, usvString_eq_empty]
    · have kept : truthy (some (usvString units)) = some (usvString units) :=
        truthy_eq_some.mpr ⟨rfl, fun blank => empty (usvString_eq_empty.mp blank)⟩
      have truthful : (JsValue.json (.string units)).toBoolean engine = true := by
        simpa [JsValue.toBoolean] using empty
      simp only [Option.elim_some, JsValue.orNull, truthful, kept, if_true]
      exact congrArg _ (proxyValue_string ..)

/-- On a peers file in the documented format, the production listener is the typed one, call for
call, for every device id `Object.prototype` lacks. -/
theorem productionListener_refines_typed {content : String} {members : List (JsString × Json)}
    (parsed : jsonParse content = .ok (.object members))
    (addresses : ∀ member ∈ members, ∃ address, member.2 = .string address)
    (verifyToken : String → Except JsError Unit) (ttydPort : Nat) (engine : Engine)
    (runtime : Runtime) (request : Request)
    (notBuiltin : ∀ parsedUrl deviceId, runtime.parseUrl (request.url.getD "/") = .ok parsedUrl →
      parseDeviceId parsedUrl.pathname = some deviceId →
      jsString deviceId ∉ Realm.ecma2023.keys .object) :
    productionListener verifyToken (.ok content) ttydPort engine runtime request =
      upgradeListener (typedDeps verifyToken (listedAddress members) ttydPort) runtime request := by
  rw [upgradeListener_eq_listenerWith]
  exact listenerWith_congr fun parsedUrl deviceId parse routed =>
    lookupDeviceValue_of_documented parsed addresses verifyToken runtime engine ttydPort _
      (notBuiltin parsedUrl deviceId parse routed)

theorem productionListener_refines_typed_listed_device :
    jsonParse "\x7b\"device-001\": \"10.13.13.2\"\x7d" =
        .ok (.object [(jsString "device-001", .string (jsString "10.13.13.2"))]) ∧
      (∀ member ∈ [(jsString "device-001", Json.string (jsString "10.13.13.2"))],
        ∃ address, member.2 = .string address) ∧
      (∀ (parsedUrl : ParsedUrl) (deviceId : String),
        (.ok ⟨"/terminal/device-001", [("token", "t")]⟩ : Except JsError ParsedUrl) =
          .ok parsedUrl →
        parseDeviceId parsedUrl.pathname = some deviceId →
        jsString deviceId ∉ Realm.ecma2023.keys .object) ∧
      productionListener (fun _ => .ok ()) (.ok "\x7b\"device-001\": \"10.13.13.2\"\x7d") 7681
          ⟨fun _ => jsString "0", fun _ key => key⟩
          ⟨fun _ => .ok ⟨"/terminal/device-001", [("token", "t")]⟩, fun _ => .ok ()⟩
          ⟨some "/terminal/device-001?token=t", true⟩ =
        upgradeListener (typedDeps (fun _ => .ok ())
            (listedAddress [(jsString "device-001", .string (jsString "10.13.13.2"))]) 7681)
          ⟨fun _ => .ok ⟨"/terminal/device-001", [("token", "t")]⟩, fun _ => .ok ()⟩
          ⟨some "/terminal/device-001?token=t", true⟩ := by
  have peers : jsonParse "\x7b\"device-001\": \"10.13.13.2\"\x7d" =
      .ok (.object [(jsString "device-001", .string (jsString "10.13.13.2"))]) := rfl
  have listed : ∀ member ∈ [(jsString "device-001", Json.string (jsString "10.13.13.2"))],
      ∃ address, member.2 = .string address := by simp
  have routes : ∀ (parsedUrl : ParsedUrl) (deviceId : String),
      (.ok ⟨"/terminal/device-001", [("token", "t")]⟩ : Except JsError ParsedUrl) =
        .ok parsedUrl →
      parseDeviceId parsedUrl.pathname = some deviceId →
      jsString deviceId ∉ Realm.ecma2023.keys .object := by
    rintro _ deviceId ⟨⟩ routed
    obtain rfl : "device-001" = deviceId := Option.some.inj (Eq.trans rfl routed)
    decide
  exact ⟨peers, listed, routes, productionListener_refines_typed peers listed _ _ _ _ _ routes⟩

theorem fileResolve_of_inherited {content : String} {members : List (JsString × Json)}
    (parsed : jsonParse content = .ok (.object members)) {key : JsString}
    (builtin : key ∈ Realm.ecma2023.keys .object) (unlisted : ownMember members key = none) :
    IpResolver.fileResolve (.ok content) key =
      if key = jsString "__proto__" then .prototype .object else .builtinFunction .object key := by
  have owner : [Prototype.object].find? (fun proto => key ∈ Realm.ecma2023.keys proto) =
      some .object := by simp [builtin]
  rw [IpResolver.fileResolve, IpResolver.resolve_eq]
  simp only [Except.bind, parsed, getProperty, unlisted, inherited, Prototype.chain, owner]
  by_cases proto : key = jsString "__proto__" <;> simp [proto, JsValue.orNull]

/-- A device id `Object.prototype` has and the file does not list passes the lookup: the listener
dials the inherited member's text, where the typed one answers 404. -/
theorem productionListener_dials_inherited_member {content : String}
    {members : List (JsString × Json)} (parsed : jsonParse content = .ok (.object members))
    (verifyToken : String → Except JsError Unit) (ttydPort : Nat) (engine : Engine)
    (runtime : Runtime) {request : Request} {parsedUrl : ParsedUrl} {deviceId token : String}
    (parse : runtime.parseUrl (request.url.getD "/") = .ok parsedUrl)
    (routed : parseDeviceId parsedUrl.pathname = some deviceId)
    (present : parsedUrl.get "token" = some token) (nonEmpty : token ≠ "")
    (verified : verifyToken token = .ok ()) (accepted : request.handshakeAccepted = true)
    (builtin : jsString deviceId ∈ Realm.ecma2023.keys .object)
    (unlisted : ownMember members (jsString deviceId) = none) :
    let text := if jsString deviceId = jsString "__proto__" then jsString "[object Object]"
      else engine.functionSource .object (jsString deviceId)
    let url := "ws://" ++ usvString text ++ ":" ++ toString ttydPort
    let listened := productionListener verifyToken (.ok content) ttydPort engine runtime request
    listened.effects = [.verifyToken token, .resolveIp deviceId, .handleUpgrade, .connect url] ∧
      (listened.session = some Relay.Session.initial ↔ runtime.newWebSocket url = .ok ()) ∧
      (upgradeListener (typedDeps verifyToken (listedAddress members) ttydPort) runtime
          request).effects =
        [.verifyToken token, .resolveIp deviceId,
          .write "HTTP/1.1 404 Device Not Found\r\nConnection: close\r\n\r\n", .destroy] := by
  intro text url listened
  have device : truthy (some deviceId) = some deviceId :=
    truthy_eq_some.mpr ⟨rfl, parseDeviceId_ne_empty routed⟩
  have token : truthy (some token) = some token := truthy_eq_some.mpr ⟨rfl, nonEmpty⟩
  have lookup : lookupDeviceValue runtime engine ttydPort
      (fun deviceId => IpResolver.fileResolve (.ok content) (jsString deviceId)) true deviceId =
      Run.after (.resolveIp deviceId) (Run.after .handleUpgrade (Run.after (.connect url)
        (match runtime.newWebSocket url with
          | .ok () => ⟨[], .returned, some Relay.Session.initial⟩
          | .error error => ⟨[], .threw error, none⟩))) := by
    simp only [lookupDeviceValue, fileResolve_of_inherited parsed builtin unlisted, url, text]
    split <;> rfl
  refine ⟨?_, ?_, ?_⟩
  all_goals simp only [listened, productionListener, listenerWith, upgradeListener, validateToken,
    parse, routed, device, present, token, verified, accepted, lookup]
  · cases runtime.newWebSocket url <;> rfl
  · cases runtime.newWebSocket url <;> simp [Run.after]
  · have status : rejectUpgrade 404 "Device Not Found" =
        [.write "HTTP/1.1 404 Device Not Found\r\nConnection: close\r\n\r\n", .destroy] := rfl
    simp [lookupDevice, typedDeps, listedAddress, unlisted, verified, Run.after, rejected, status]

theorem productionListener_dials_constructor :
    jsonParse "\x7b\x7d" = .ok (.object []) ∧
      parseDeviceId "/terminal/constructor" = some "constructor" ∧
      jsString "constructor" ∈ Realm.ecma2023.keys .object ∧
      ownMember [] (jsString "constructor") = none ∧
      let url := "ws://" ++ usvString (jsString "function Object() \x7b [native code] \x7d") ++ ":" ++
        toString 7681
      let runtime : Runtime := ⟨fun _ => .ok ⟨"/terminal/constructor", [("token", "t")]⟩,
        fun _ => .error ⟨"Invalid URL"⟩⟩
      let listened := productionListener (fun _ => .ok ()) (.ok "\x7b\x7d") 7681
        ⟨fun _ => jsString "0", fun _ _ => jsString "function Object() \x7b [native code] \x7d"⟩
        runtime ⟨some "/terminal/constructor?token=t", true⟩
      listened.effects =
          [.verifyToken "t", .resolveIp "constructor", .handleUpgrade, .connect url] ∧
        (listened.session = some Relay.Session.initial ↔ runtime.newWebSocket url = .ok ()) ∧
        (upgradeListener (typedDeps (fun _ => .ok ()) (listedAddress []) 7681) runtime
            ⟨some "/terminal/constructor?token=t", true⟩).effects =
          [.verifyToken "t", .resolveIp "constructor",
            .write "HTTP/1.1 404 Device Not Found\r\nConnection: close\r\n\r\n", .destroy] :=
  have empty : jsonParse "\x7b\x7d" = .ok (.object []) := rfl
  ⟨empty, rfl, by decide, rfl, productionListener_dials_inherited_member empty _ _ _ _ rfl rfl rfl
    (by decide) rfl rfl (by decide) rfl⟩

/-- How the production dial can reject: in the template literal, with `cannotConvert`, right
after `handleUpgrade`; or in `new WebSocket`, on the URL it was just given. -/
def DialThrew (runtime : Runtime) (error : JsError) (effects : List Effect) : Prop :=
  (error = cannotConvert ∧ ∃ before, effects = before ++ [.handleUpgrade]) ∨
    ∃ before url, effects = before ++ [.connect url] ∧ runtime.newWebSocket url = .error error

theorem DialThrew.after {runtime : Runtime} {error : JsError} {effects : List Effect}
    (effect : Effect) (threw : DialThrew runtime error effects) :
    DialThrew runtime error (effect :: effects) := by
  rcases threw with ⟨converting, before, rfl⟩ | ⟨before, url, rfl, dial⟩
  · exact .inl ⟨converting, effect :: before, rfl⟩
  · exact .inr ⟨effect :: before, url, rfl, dial⟩

theorem proxyValue_threw {runtime : Runtime} {engine : Engine} {ttydPort : Nat} {accepted : Bool}
    {vpnIp : JsValue} {error : JsError}
    (threw : (proxyValue runtime engine ttydPort accepted vpnIp).outcome = .threw error) :
    DialThrew runtime error (proxyValue runtime engine ttydPort accepted vpnIp).effects := by
  unfold proxyValue at threw ⊢
  cases accepted
  · cases threw
  cases template : vpnIp.template engine with
  | error inner =>
    simp only [template, if_true] at threw ⊢
    cases threw
    exact .inl ⟨JsValue.template_error template, [], rfl⟩
  | ok text =>
    simp only [template, if_true] at threw ⊢
    cases dial : runtime.newWebSocket (ttydUrl (usvString text) ttydPort) with
    | ok => simp only [dial] at threw; cases threw
    | error inner =>
      simp only [dial] at threw ⊢
      cases threw
      exact .inr ⟨[.handleUpgrade], _, rfl, dial⟩

theorem lookupDeviceValue_threw {runtime : Runtime} {engine : Engine} {ttydPort : Nat}
    {resolveIp : String → JsValue} {accepted : Bool} {deviceId : String} {error : JsError}
    (threw :
      (lookupDeviceValue runtime engine ttydPort resolveIp accepted deviceId).outcome =
        .threw error) :
    DialThrew runtime error
      (lookupDeviceValue runtime engine ttydPort resolveIp accepted deviceId).effects := by
  unfold lookupDeviceValue at threw ⊢
  by_cases truthful : (resolveIp deviceId).toBoolean engine
  · simp only [truthful, if_true] at threw ⊢
    exact (proxyValue_threw threw).after _
  · simp only [truthful] at threw
    cases threw

theorem listenerWith_threw {verifyToken : String → Except JsError Unit}
    {lookup : Bool → String → Run} {runtime : Runtime} {request : Request} {error : JsError}
    (threw : (listenerWith verifyToken lookup runtime request).outcome = .threw error) :
    (runtime.parseUrl (request.url.getD "/") = .error error ∧
        (listenerWith verifyToken lookup runtime request).effects = []) ∨
      ∃ deviceId token, (listenerWith verifyToken lookup runtime request).effects =
          .verifyToken token :: (lookup request.handshakeAccepted deviceId).effects ∧
        (lookup request.handshakeAccepted deviceId).outcome = .threw error := by
  unfold listenerWith at threw ⊢
  cases parse : runtime.parseUrl (request.url.getD "/") with
  | error inner =>
    simp only [parse] at threw
    cases threw
    exact .inl ⟨rfl, rfl⟩
  | ok parsed =>
    refine .inr ?_
    simp only [parse] at threw ⊢
    cases routed : truthy (parseDeviceId parsed.pathname) with
    | none => simp only [routed] at threw; cases threw
    | some deviceId =>
      cases present : truthy (parsed.get "token") with
      | none => simp only [routed, present] at threw; cases threw
      | some token =>
        cases verified : verifyToken token with
        | error => simp only [routed, present, verified] at threw; cases threw
        | ok =>
          simp only [routed, present, verified] at threw ⊢
          exact ⟨deviceId, token, rfl, threw⟩

/-- The production listener rejects only where `new URL` or the dial throws: a read or parse error
of the peers file never reaches it. -/
theorem productionListener_rejects_only (verifyToken : String → Except JsError Unit)
    (readFileSync : Except JsError String) (ttydPort : Nat) (engine : Engine) (runtime : Runtime)
    (request : Request) {error : JsError}
    (threw : (productionListener verifyToken readFileSync ttydPort engine runtime request).outcome =
      .threw error) :
    let run := productionListener verifyToken readFileSync ttydPort engine runtime request
    (runtime.parseUrl (request.url.getD "/") = .error error ∧ run.effects = []) ∨
      DialThrew runtime error run.effects := by
  rcases listenerWith_threw threw with parseThrew | ⟨deviceId, token, effects, lookupThrew⟩
  · exact .inl parseThrew
  · exact .inr (effects ▸ (lookupDeviceValue_threw lookupThrew).after _)

theorem productionListener_rejects_at_constructor :
    let runtime : Runtime := ⟨fun _ => .ok ⟨"/terminal/constructor", [("token", "t")]⟩,
      fun _ => .error ⟨"Invalid URL"⟩⟩
    let run := productionListener (fun _ => .ok ()) (.ok "\x7b\x7d") 7681
      ⟨fun _ => jsString "0", fun _ _ => jsString "function Object() \x7b [native code] \x7d"⟩
      runtime ⟨some "/terminal/constructor?token=t", true⟩
    run.outcome = .threw ⟨"Invalid URL"⟩ ∧
      ((runtime.parseUrl ((some "/terminal/constructor?token=t").getD "/") =
          .error ⟨"Invalid URL"⟩ ∧ run.effects = []) ∨
        DialThrew runtime ⟨"Invalid URL"⟩ run.effects) := by
  intro runtime run
  have threw : run.outcome = .threw ⟨"Invalid URL"⟩ := rfl
  exact ⟨threw, productionListener_rejects_only _ _ _ _ _ _ threw⟩

end TerminalProxy.Server
