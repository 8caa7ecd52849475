import TerminalProxy.Js.JsonParse

/-! `createFileIpResolver(peersDbPath).resolve`: each call reads the peers file again,
parses it, and returns `peers[deviceId] ?? null`, with every throw caught as null. The cast
`as Record<string, string>` checks nothing, so the lookup is JavaScript's own. -/

namespace TerminalProxy.IpResolver

open Js

/-- The body of the `try`: `readFileSync` is what reading the file gives now, `parse` is
`JSON.parse`. -/
def resolveTry (parse : String → Except JsError Json) (realm : Realm)
    (readFileSync : Except JsError String) (deviceId : JsString) : Except JsError JsValue :=
  match readFileSync with
  | .error error => .error error
  | .ok content =>
    match parse content with
    | .error error => .error error
    | .ok peers => (getProperty realm deviceId peers).map JsValue.orNull

/-- `resolve(deviceId)`: the `catch` answers null. -/
def resolve (parse : String → Except JsError Json) (realm : Realm)
    (readFileSync : Except JsError String) (deviceId : JsString) : JsValue :=
  match resolveTry parse realm readFileSync deviceId with
  | .ok value => value
  | .error _ => .json .null

theorem resolve_eq (parse : String → Except JsError Json) (realm : Realm)
    (readFileSync : Except JsError String) (deviceId : JsString) :
    resolve parse realm readFileSync deviceId =
      match readFileSync.bind parse with
      | .error _ => .json .null
      | .ok peers =>
        match getProperty realm deviceId peers with
        | .error _ => .json .null
        | .ok value => value.orNull := by
  unfold resolve resolveTry
  cases readFileSync with
  | error => rfl
  | ok content =>
    dsimp only [Except.bind]
    cases parse content with
    | error => rfl
    | ok peers =>
      dsimp only
      cases getProperty realm deviceId peers <;> rfl

/-- The string `peers[key]` reads without reaching a prototype: an object's own string
member, an array's string element, or one code unit of a string. -/
def ownString (peers : Json) (key : JsString) : Option JsString :=
  match peers with
  | .object members =>
    match ownMember members key with
    | some (.string value) => some value
    | _ => none
  | .array elements =>
    match (arrayIndex key).bind elements.get? with
    | some (.string value) => some value
    | _ => none
  | .string units => ((arrayIndex key).bind units.get?).map fun unit => [unit]
  | _ => none

@[simp] theorem orNull_eq_string {value : JsValue} {text : JsString} :
    value.orNull = .json (.string text) ↔ value = .json (.string text) := by
  unfold JsValue.orNull
  split <;> simp_all

theorem inherited_ne_string (realm : Realm) (chain : List Prototype) (key value : JsString) :
    inherited realm chain key ≠ .json (.string value) := by
  unfold inherited
  split
  · nofun
  · split <;> nofun

theorem getProperty_eq_string {realm : Realm} {key value : JsString} {peers : Json}
    (read : getProperty realm key peers = .ok (.json (.string value))) :
    ownString peers key = some value := by
  cases peers with
  | null => cases read
  | bool => exact absurd (Except.ok.inj read) (inherited_ne_string _ _ _ _)
  | number => exact absurd (Except.ok.inj read) (inherited_ne_string _ _ _ _)
  | string units =>
    simp only [getProperty] at read
    split at read
    · rename_i unit found
      simp only [Except.ok.injEq, JsValue.json.injEq, Json.string.injEq] at read
      simp only [ownString, found, read, Option.map_some']
    · split at read
      · cases read
      · exact absurd (Except.ok.inj read) (inherited_ne_string _ _ _ _)
  | array elements =>
    simp only [getProperty] at read
    split at read
    · rename_i element found
      simp only [Except.ok.injEq, JsValue.json.injEq] at read
      simp only [ownString, found, read]
    · split at read
      · cases read
      · exact absurd (Except.ok.inj read) (inherited_ne_string _ _ _ _)
  | object members =>
    simp only [getProperty] at read
    split at read
    · rename_i member found
      simp only [Except.ok.injEq, JsValue.json.injEq] at read
      simp only [ownString, found, read]
    · exact absurd (Except.ok.inj read) (inherited_ne_string _ _ _ _)

theorem getProperty_of_ownString {realm : Realm} {key value : JsString} {peers : Json}
    (own : ownString peers key = some value) :
    getProperty realm key peers = .ok (.json (.string value)) := by
  cases peers with
  | object members =>
    simp only [ownString] at own
    split at own
    · rename_i found; cases own; simp only [getProperty, found]
    · cases own
  | array elements =>
    simp only [ownString] at own
    split at own
    · rename_i found; cases own; simp only [getProperty, found]
    · cases own
  | string units =>
    simp only [ownString, Option.map_eq_some'] at own
    obtain ⟨unit, found, rfl⟩ := own
    simp only [getProperty, found]
  | _ => cases own

/-- `resolve` returns a string exactly when the file parses to a value holding it at the key itself:
an own member, but also an array element or a string's code unit. -/
theorem resolve_eq_string_iff (parse : String → Except JsError Json) (realm : Realm)
    (readFileSync : Except JsError String) (deviceId value : JsString) :
    resolve parse realm readFileSync deviceId = .json (.string value) ↔
      ∃ peers, readFileSync.bind parse = .ok peers ∧ ownString peers deviceId = some value := by
  rw [resolve_eq]
  constructor
  · intro found
    split at found
    · cases found
    · rename_i peers parsed
      refine ⟨peers, parsed, ?_⟩
      split at found
      · cases found
      · rename_i read
        exact getProperty_eq_string (read.trans (congrArg _ (orNull_eq_string.mp found)))
  · rintro ⟨peers, parsed, own⟩
    simp [parsed, getProperty_of_ownString own, JsValue.orNull]

/-- On a file parsing to an object and an id `Object.prototype` lacks, `resolve` returns the member
listed last under the id, or null. -/
theorem resolve_of_object (parse : String → Except JsError Json) (realm : Realm)
    (content : String) {members : List (JsString × Json)}
    (parsed : parse content = .ok (.object members)) (deviceId : JsString)
    (notBuiltin : deviceId ∉ realm.keys .object) :
    resolve parse realm (.ok content) deviceId =
      .json ((ownMember members deviceId).getD .null) := by
  rw [resolve_eq]
  simp only [Except.bind, parsed, getProperty]
  cases ownMember members deviceId with
  | some member => cases member <;> rfl
  | none => simp [inherited, Prototype.chain, notBuiltin, JsValue.orNull]

theorem resolve_of_object_listed_device :
    jsonParse "\x7b\"device-001\": \"10.13.13.2\"\x7d" =
        .ok (.object [(jsString "device-001", .string (jsString "10.13.13.2"))]) ∧
      jsString "device-001" ∉ Realm.ecma2023.keys .object ∧
      resolve jsonParse Realm.ecma2023 (.ok "\x7b\"device-001\": \"10.13.13.2\"\x7d")
          (jsString "device-001") =
        .json ((ownMember [(jsString "device-001", .string (jsString "10.13.13.2"))]
          (jsString "device-001")).getD .null) :=
  ⟨rfl, by decide, resolve_of_object jsonParse Realm.ecma2023
    "\x7b\"device-001\": \"10.13.13.2\"\x7d" rfl _ (by decide)⟩

/-- The resolver `index.ts` wires in: the runtime's `JSON.parse` and built-ins. -/
def fileResolve (readFileSync : Except JsError String) (deviceId : JsString) : JsValue :=
  resolve jsonParse Realm.ecma2023 readFileSync deviceId

/-- On the empty peers file the resolver returns the inherited `Object` function, not null. -/
theorem fileResolve_constructor_of_empty_peers :
    fileResolve (.ok "{}") (jsString "constructor") =
      .builtinFunction .object (jsString "constructor") := by
  rfl

end TerminalProxy.IpResolver
