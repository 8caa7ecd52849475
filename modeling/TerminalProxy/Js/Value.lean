import Mathlib.Data.List.Basic

/-! The JavaScript the modelled code relies on: thrown errors, strings as UTF-16 code
units, the values `JSON.parse` builds, and reading a property `value[key]` of such a
value, own properties first and then the prototype chain of the realm. -/

namespace TerminalProxy.Js

structure JsError where
  message : String
  deriving DecidableEq, Repr

/-- A JavaScript string: its UTF-16 code units. -/
abbrev JsString := List UInt16

def utf16 (c : Char) : List UInt16 :=
  if c.toNat < 0x10000 then [c.toNat.toUInt16]
  else [(0xD800 + (c.toNat - 0x10000) / 0x400).toUInt16,
    (0xDC00 + (c.toNat - 0x10000) % 0x400).toUInt16]

def jsString (text : String) : JsString := text.toList.flatMap utf16

/-- A value `JSON.parse` builds: a number keeps its literal (nothing here reads it), an object its
members in text order. -/
inductive Json where
  | null
  | bool (value : Bool)
  | number (literal : String)
  | string (value : JsString)
  | array (elements : List Json)
  | object (members : List (JsString × Json))
  deriving Repr

inductive Prototype where
  | object
  | array
  | string
  | number
  | boolean
  deriving DecidableEq, Repr

/-- A value `peers[deviceId]` can produce; `prototype` is what the `__proto__` accessor returns. -/
inductive JsValue where
  | undefined
  | json (value : Json)
  | length (count : Nat)
  | builtinFunction (owner : Prototype) (key : JsString)
  | prototype (which : Prototype)
  deriving Repr

structure Realm where
  keys : Prototype → List JsString

def Prototype.chain : Prototype → List Prototype
  | .object => [.object]
  | kind => [kind, .object]

/-- The built-in prototypes' string keys in Node 18's realm (ES2023 with Annex B); ES2024's
`String.prototype.isWellFormed` and `toWellFormed` are absent. -/
def Realm.ecma2023 : Realm where
  keys
    | .object => ["__defineGetter__", "__defineSetter__", "__lookupGetter__", "__lookupSetter__",
        "__proto__", "constructor", "hasOwnProperty", "isPrototypeOf", "propertyIsEnumerable",
        "toLocaleString", "toString", "valueOf"].map jsString
    | .array => ["length", "at", "concat", "constructor", "copyWithin", "entries", "every", "fill",
        "filter", "find", "findIndex", "findLast", "findLastIndex", "flat", "flatMap", "forEach",
        "includes", "indexOf", "join", "keys", "lastIndexOf", "map", "pop", "push", "reduce",
        "reduceRight", "reverse", "shift", "slice", "some", "sort", "splice", "toLocaleString",
        "toReversed", "toSorted", "toSpliced", "toString", "unshift", "values", "with"].map jsString
    | .string => ["length", "anchor", "at", "big", "blink", "bold", "charAt", "charCodeAt",
        "codePointAt", "concat", "constructor", "endsWith", "fixed", "fontcolor", "fontsize",
        "includes", "indexOf", "italics", "lastIndexOf", "link", "localeCompare", "match",
        "matchAll", "normalize", "padEnd", "padStart", "repeat", "replace", "replaceAll",
        "search", "slice", "small", "split", "startsWith", "strike", "sub", "substr", "substring",
        "sup", "toLocaleLowerCase", "toLocaleUpperCase", "toLowerCase", "toString", "toUpperCase",
        "trim", "trimEnd", "trimLeft", "trimRight", "trimStart", "valueOf"].map jsString
    | .number => ["constructor", "toExponential", "toFixed", "toLocaleString", "toPrecision",
        "toString", "valueOf"].map jsString
    | .boolean => ["constructor", "toString", "valueOf"].map jsString

/-- `key` read along a prototype chain: `__proto__` gives the receiver's prototype, any other key
found a built-in function. -/
def inherited (realm : Realm) (chain : List Prototype) (key : JsString) : JsValue :=
  match chain.find? (fun proto => key ∈ realm.keys proto) with
  | none => .undefined
  | some owner =>
    if key = jsString "__proto__" ∧ owner = .object then .prototype (chain.headD .object)
    else .builtinFunction owner key

def arrayIndex (key : JsString) : Option Nat :=
  if key ≠ [] ∧ key.all (fun unit => 0x30 ≤ unit ∧ unit ≤ 0x39) ∧ (key.head? ≠ some 0x30 ∨ key = [0x30])
  then some (key.foldl (fun value unit => 10 * value + (unit.toNat - 0x30)) 0)
  else none

/-- An own property of a parsed object: its last member with that key, as a later duplicate
overwrites. -/
def ownMember (members : List (JsString × Json)) (key : JsString) : Option Json :=
  (members.reverse.find? (fun member => member.1 = key)).map Prod.snd

/-- `value[key]`: own properties first, then the prototype chain; reading a property of
`null` throws a TypeError. -/
def getProperty (realm : Realm) (key : JsString) : Json → Except JsError JsValue
  | .null => .error ⟨"Cannot read properties of null"⟩
  | .object members =>
    match ownMember members key with
    | some value => .ok (.json value)
    | none => .ok (inherited realm Prototype.object.chain key)
  | .array elements =>
    match (arrayIndex key).bind elements.get? with
    | some element => .ok (.json element)
    | none =>
      if key = jsString "length" then .ok (.length elements.length)
      else .ok (inherited realm Prototype.array.chain key)
  | .string units =>
    match (arrayIndex key).bind units.get? with
    | some unit => .ok (.json (.string [unit]))
    | none =>
      if key = jsString "length" then .ok (.length units.length)
      else .ok (inherited realm Prototype.string.chain key)
  | .number _ => .ok (inherited realm Prototype.number.chain key)
  | .bool _ => .ok (inherited realm Prototype.boolean.chain key)

theorem ownMember_mem {members : List (JsString × Json)} {key : JsString} {value : Json}
    (found : ownMember members key = some value) : (key, value) ∈ members := by
  obtain ⟨member, search, rfl⟩ := Option.map_eq_some'.mp found
  have same : member.1 = key := by simpa using List.find?_some search
  exact same ▸ List.mem_reverse.mp (List.mem_of_find?_eq_some search)

theorem getProperty_object_of_not_inherited (realm : Realm) {key : JsString}
    (members : List (JsString × Json)) (notBuiltin : key ∉ realm.keys .object) :
    getProperty realm key (.object members) =
      .ok ((ownMember members key).elim .undefined .json) := by
  cases found : ownMember members key with
  | some value => simp [getProperty, found]
  | none => simp [getProperty, found, inherited, Prototype.chain, notBuiltin]

/-- `value ?? null`. -/
def JsValue.orNull : JsValue → JsValue
  | .undefined | .json .null => .json .null
  | value => value

end TerminalProxy.Js
