import TerminalProxy.Server.Production

/-! The peers file in the format `ipResolver.ts` documents, a JSON object from device ids to
addresses, written as `JSON.stringify(peers, null, 2)` lays it out. `JSON.parse` reads every
such file back to the object it was written from, so on it the listener `index.ts` starts is
the typed listener whose `resolveIp` returns the address listed last for the device. -/

namespace TerminalProxy.PeersFile

open Js Server

def hexDigit (d : Nat) : Char :=
  if d < 10 then Char.ofNat (0x30 + d) else Char.ofNat (0x57 + d)

/-- `QuoteJSONString` on one code point; a Lean character is never a lone surrogate, so that escape
does not arise. -/
def quoteChar (c : Char) : List Char :=
  if c = '"' then ['\\', '"']
  else if c = '\\' then ['\\', '\\']
  else if c = '\x08' then ['\\', 'b']
  else if c = '\x0C' then ['\\', 'f']
  else if c = '\n' then ['\\', 'n']
  else if c = '\r' then ['\\', 'r']
  else if c = '\t' then ['\\', 't']
  else if c.toNat < 0x20 then
    ['\\', 'u', '0', '0', hexDigit (c.toNat / 16), hexDigit (c.toNat % 16)]
  else [c]

/-- `QuoteJSONString(text)`. -/
def quote (text : String) : List Char :=
  '"' :: text.toList.flatMap quoteChar ++ ['"']

/-- One property as `SerializeJSONObject` writes it with a gap of two spaces. -/
def memberLine (entry : String × String) : List Char :=
  '\n' :: ' ' :: ' ' :: quote entry.1 ++ ':' :: ' ' :: quote entry.2

/-- `JSON.stringify(peers, null, 2)` for a peers object whose own properties, in order, are
`entries`. -/
def stringify : List (String × String) → String
  | [] => "\x7b\x7d"
  | entry :: entries =>
    ⟨'{' :: memberLine entry ++ entries.flatMap (',' :: memberLine ·) ++ ['\n', '}']⟩

def peersObject (entries : List (String × String)) : List (JsString × Json) :=
  entries.map fun entry => (jsString entry.1, .string (jsString entry.2))

/-! ### Reading a quoted string back -/

theorem hexValue_hexDigit : ∀ d, d < 16 → hexValue (hexDigit d) = some d := by
  decide

theorem parseStringBody_quoteChar (c : Char) (rest : List Char) (units : JsString) :
    parseStringBody (quoteChar c ++ rest) units = parseStringBody rest (units ++ utf16 c) := by
  unfold quoteChar
  by_cases quote : c = '"'
  · subst quote; rfl
  rw [if_neg quote]
  by_cases backslash : c = '\\'
  · subst backslash; rfl
  rw [if_neg backslash]
  by_cases backspace : c = '\x08'
  · subst backspace; rfl
  rw [if_neg backspace]
  by_cases formFeed : c = '\x0C'
  · subst formFeed; rfl
  rw [if_neg formFeed]
  by_cases lineFeed : c = '\n'
  · subst lineFeed; rfl
  rw [if_neg lineFeed]
  by_cases carriage : c = '\r'
  · subst carriage; rfl
  rw [if_neg carriage]
  by_cases tab : c = '\t'
  · subst tab; rfl
  rw [if_neg tab]
  by_cases control : c.toNat < 0x20
  · have zero : hexValue '0' = some 0 := rfl
    have value : ((0 * 16 + 0) * 16 + c.toNat / 16) * 16 + c.toNat % 16 = c.toNat := by omega
    simp only [if_pos control, List.cons_append, List.nil_append, parseStringBody, zero,
      hexValue_hexDigit _ (Nat.div_lt_of_lt_mul (by omega : c.toNat < 16 * 16)),
      hexValue_hexDigit _ (Nat.mod_lt _ (by omega : 16 > 0)), value, List.append_eq, utf16,
      if_pos (by omega : c.toNat < 0x10000)]
  · simp [parseStringBody, quote, backslash, control]

theorem parseStringBody_quote (text : String) (rest : List Char) (units : JsString) :
    parseStringBody (text.toList.flatMap quoteChar ++ '"' :: rest) units =
      .ok (units ++ jsString text, rest) := by
  rw [jsString]
  induction text.toList generalizing units with
  | nil => simp [parseStringBody]
  | cons c chars ih =>
    rw [List.flatMap_cons, List.append_assoc, parseStringBody_quoteChar, ih, List.flatMap_cons,
      List.append_assoc]

/-! ### Reading the object back -/

theorem parseValue_quote (text : String) (rest : List Char) {fuel : Nat} (enough : 1 ≤ fuel) :
    parseValue fuel (' ' :: '"' :: (text.toList.flatMap quoteChar ++ '"' :: rest)) =
      .ok (.string (jsString text), rest) := by
  obtain ⟨fuel, rfl⟩ := Nat.exists_eq_add_of_le' enough
  change Except.map _ (parseStringBody (text.toList.flatMap quoteChar ++ '"' :: rest) []) = _
  rw [parseStringBody_quote]
  rfl

theorem parseMembers_memberLine (entry : String × String) (after : List Char)
    (members : List (JsString × Json)) {fuel : Nat} (enough : 1 ≤ fuel) :
    parseMembers (fuel + 1) (memberLine entry ++ after) members =
      let members := members ++ [(jsString entry.1, .string (jsString entry.2))]
      match skipWhitespace after with
      | ',' :: rest => parseMembers fuel rest members
      | '}' :: rest => .ok (.object members, rest)
      | _ => syntaxError := by
  simp only [memberLine, quote, List.cons_append, List.append_assoc, List.singleton_append]
  rw [parseMembers.eq_2]
  simp only [show ∀ rest, skipWhitespace ('\n' :: ' ' :: ' ' :: '"' :: rest) = '"' :: rest
    from fun _ => rfl, parseStringBody_quote, List.nil_append]
  simp only [show ∀ rest, skipWhitespace (':' :: rest) = ':' :: rest from fun _ => rfl]
  rewrite [parseValue_quote _ _ enough]
  rfl

theorem parseMembers_memberLines (entry : String × String) (entries : List (String × String))
    (members : List (JsString × Json)) (tail : List Char) {fuel : Nat}
    (enough : entries.length + 2 ≤ fuel) :
    parseMembers fuel
        (memberLine entry ++ (entries.flatMap (',' :: memberLine ·) ++ '\n' :: '}' :: tail))
        members =
      .ok (.object (members ++ peersObject (entry :: entries)), tail) := by
  induction entries generalizing entry members fuel with
  | nil =>
    simp only [List.length_nil] at enough
    obtain ⟨fuel, rfl⟩ := Nat.exists_eq_add_of_le' (by omega : 1 ≤ fuel)
    rewrite [parseMembers_memberLine _ _ _ (by omega)]
    rfl
  | cons next entries ih =>
    simp only [List.length_cons] at enough
    obtain ⟨fuel, rfl⟩ := Nat.exists_eq_add_of_le' (by omega : 1 ≤ fuel)
    rw [List.flatMap_cons, List.append_assoc, List.cons_append,
      parseMembers_memberLine _ _ _ (by omega)]
    change parseMembers fuel (memberLine next ++ _) (members ++ [_]) = _
    rw [ih next _ (by omega)]
    simp [peersObject]

theorem parseValue_object (entry : String × String) (entries : List (String × String))
    (tail : List Char) {fuel : Nat} (enough : entries.length + 3 ≤ fuel) :
    parseValue fuel
        ('{' :: (memberLine entry ++
          (entries.flatMap (',' :: memberLine ·) ++ '\n' :: '}' :: tail))) =
      .ok (.object (peersObject (entry :: entries)), tail) := by
  obtain ⟨fuel, rfl⟩ := Nat.exists_eq_add_of_le' (by omega : 1 ≤ fuel)
  change parseMembers fuel
    (memberLine entry ++ (entries.flatMap (',' :: memberLine ·) ++ '\n' :: '}' :: tail)) [] = _
  rw [parseMembers_memberLines _ _ _ _ (by omega), List.nil_append]

theorem length_le_memberLines (entries : List (String × String)) :
    entries.length ≤ (entries.flatMap (',' :: memberLine ·)).length := by
  induction entries with
  | nil => rfl
  | cons entry entries ih =>
    simp only [List.flatMap_cons, List.length_append, List.length_cons]
    omega

/-- `JSON.parse` reads a file `JSON.stringify(peers, null, 2)` wrote back to its object: every key
and value, in order, duplicates kept. -/
theorem jsonParse_stringify (entries : List (String × String)) :
    jsonParse (stringify entries) = .ok (.object (peersObject entries)) := by
  match entries with
  | [] => rfl
  | entry :: entries =>
    have short := length_le_memberLines entries
    unfold jsonParse stringify
    simp only [String.toList, List.cons_append, List.append_assoc]
    rw [parseValue_object _ _ _
      (by simp only [String.length, List.length_cons, List.length_append]; omega)]
    rfl

/-! ### The resolver and the listener on a written file -/

theorem ownMember_peersObject (entries : List (String × String)) (deviceId : String) :
    ownMember (peersObject entries) (jsString deviceId) =
      (entries.reverse.lookup deviceId).map fun address => .string (jsString address) := by
  unfold ownMember peersObject
  rw [← List.map_reverse]
  induction entries.reverse with
  | nil => rfl
  | cons entry rest ih =>
    obtain ⟨key, address⟩ := entry
    by_cases same : deviceId = key
    · subst same
      simp
    · have differ : jsString key ≠ jsString deviceId := fun equal =>
        same (jsString_injective equal).symm
      have unequal : (deviceId == key) = false := beq_eq_false_iff_ne.mpr same
      simpa [List.lookup_cons, unequal, differ] using ih

theorem listedAddress_peersObject (entries : List (String × String)) (deviceId : String) :
    listedAddress (peersObject entries) deviceId = entries.reverse.lookup deviceId := by
  unfold listedAddress
  rw [ownMember_peersObject]
  cases entries.reverse.lookup deviceId <;> simp [usvString_jsString]

/-- On a written file, whatever its keys and addresses hold, the resolver returns the address listed
last for an id `Object.prototype` lacks, or null. -/
theorem fileResolve_stringify (entries : List (String × String)) {deviceId : String}
    (notBuiltin : jsString deviceId ∉ Realm.ecma2023.keys .object) :
    IpResolver.fileResolve (.ok (stringify entries)) (jsString deviceId) =
      match entries.reverse.lookup deviceId with
      | some address => .json (.string (jsString address))
      | none => .json .null := by
  rw [fileResolve_of_object (jsonParse_stringify entries) notBuiltin, ownMember_peersObject]
  cases entries.reverse.lookup deviceId <;> rfl

theorem fileResolve_stringify_escaped :
    jsString "dev\"1" ∉ Realm.ecma2023.keys .object ∧
      IpResolver.fileResolve
          (.ok (stringify [("dev\"1", "10.0.0.1\\\n"), ("dev-2", "10.0.0.2")]))
          (jsString "dev\"1") =
        match [("dev\"1", "10.0.0.1\\\n"), ("dev-2", "10.0.0.2")].reverse.lookup "dev\"1" with
        | some address => .json (.string (jsString address))
        | none => .json .null :=
  ⟨by decide, fileResolve_stringify _ (by decide)⟩

/-- On a written peers file the production listener is the typed one resolving to the address listed
last, for every device id `Object.prototype` lacks. -/
theorem productionListener_on_written_peers (entries : List (String × String))
    (verifyToken : String → Except JsError Unit) (ttydPort : Nat) (engine : Engine)
    (runtime : Runtime) (request : Request)
    (notBuiltin : ∀ parsedUrl deviceId, runtime.parseUrl (request.url.getD "/") = .ok parsedUrl →
      parseDeviceId parsedUrl.pathname = some deviceId →
      jsString deviceId ∉ Realm.ecma2023.keys .object) :
    productionListener verifyToken (.ok (stringify entries)) ttydPort engine runtime request =
      upgradeListener (typedDeps verifyToken (entries.reverse.lookup ·) ttydPort) runtime
        request := by
  have addresses : ∀ member ∈ peersObject entries, ∃ address, member.2 = .string address := by
    intro _ member
    obtain ⟨entry, -, rfl⟩ := List.mem_map.mp member
    exact ⟨_, rfl⟩
  rw [upgradeListener_eq_listenerWith, ← funext (listedAddress_peersObject entries)]
  exact listenerWith_congr fun parsedUrl deviceId parse routed =>
    lookupDeviceValue_of_documented (jsonParse_stringify entries) addresses verifyToken runtime
      engine ttydPort _ (notBuiltin parsedUrl deviceId parse routed)

theorem productionListener_on_written_peers_listed_twice :
    (∀ (parsedUrl : ParsedUrl) (deviceId : String),
        (.ok ⟨"/terminal/device-001", [("token", "t")]⟩ : Except JsError ParsedUrl) =
          .ok parsedUrl →
        parseDeviceId parsedUrl.pathname = some deviceId →
        jsString deviceId ∉ Realm.ecma2023.keys .object) ∧
      productionListener (fun _ => .ok ())
          (.ok (stringify [("device-001", "10.13.13.2"), ("device-001", "10.13.13.9")])) 7681
          ⟨fun _ => jsString "0", fun _ key => key⟩
          ⟨fun _ => .ok ⟨"/terminal/device-001", [("token", "t")]⟩, fun _ => .ok ()⟩
          ⟨some "/terminal/device-001?token=t", true⟩ =
        upgradeListener (typedDeps (fun _ => .ok ())
            ([("device-001", "10.13.13.2"), ("device-001", "10.13.13.9")].reverse.lookup ·) 7681)
          ⟨fun _ => .ok ⟨"/terminal/device-001", [("token", "t")]⟩, fun _ => .ok ()⟩
          ⟨some "/terminal/device-001?token=t", true⟩ := by
  have routes : ∀ (parsedUrl : ParsedUrl) (deviceId : String),
      (.ok ⟨"/terminal/device-001", [("token", "t")]⟩ : Except JsError ParsedUrl) =
        .ok parsedUrl →
      parseDeviceId parsedUrl.pathname = some deviceId →
      jsString deviceId ∉ Realm.ecma2023.keys .object := by
    rintro _ deviceId ⟨⟩ routed
    obtain rfl : "device-001" = deviceId := Option.some.inj (Eq.trans rfl routed)
    decide
  exact ⟨routes, productionListener_on_written_peers _ _ _ _ _ _ routes⟩

end TerminalProxy.PeersFile
