import TerminalProxy.Js.Value

/-! `JSON.parse` on the text `readFileSync(path, "utf-8")` returns: the JSON grammar, with
string contents turned into UTF-16 code units. Nesting is bounded by a fuel argument;
`jsonParse` gives two units per character of the text, one for a value and one for the
array or object loop around it, and no parse needs more (`jsonParse_eq_of_enough_fuel`). -/

namespace TerminalProxy.Js

def isJsonWhitespace (c : Char) : Bool :=
  c = ' ' || c = '\t' || c = '\n' || c = '\r'

def skipWhitespace (input : List Char) : List Char :=
  input.dropWhile isJsonWhitespace

def hexValue (c : Char) : Option Nat :=
  if '0' ≤ c ∧ c ≤ '9' then some (c.toNat - '0'.toNat)
  else if 'a' ≤ c ∧ c ≤ 'f' then some (c.toNat - 'a'.toNat + 10)
  else if 'A' ≤ c ∧ c ≤ 'F' then some (c.toNat - 'A'.toNat + 10)
  else none

def escapeUnit : Char → Option UInt16
  | '"' => some 0x22
  | '\\' => some 0x5C
  | '/' => some 0x2F
  | 'b' => some 0x08
  | 'f' => some 0x0C
  | 'n' => some 0x0A
  | 'r' => some 0x0D
  | 't' => some 0x09
  | _ => none

def syntaxError : Except JsError α := .error ⟨"SyntaxError"⟩

/-- The rest of a string after its opening quote: the code units read so far are `units`. -/
def parseStringBody : List Char → JsString → Except JsError (JsString × List Char)
  | [], _ => syntaxError
  | '"' :: rest, units => .ok (units, rest)
  | '\\' :: 'u' :: a :: b :: c :: d :: rest, units =>
    match hexValue a, hexValue b, hexValue c, hexValue d with
    | some a, some b, some c, some d =>
      parseStringBody rest (units ++ [(((a * 16 + b) * 16 + c) * 16 + d).toUInt16])
    | _, _, _, _ => syntaxError
  | '\\' :: c :: rest, units =>
    match escapeUnit c with
    | some unit => parseStringBody rest (units ++ [unit])
    | none => syntaxError
  | c :: rest, units =>
    if c.toNat < 0x20 ∨ c = '\\' then syntaxError else parseStringBody rest (units ++ utf16 c)

def digits (input : List Char) : List Char × List Char :=
  (input.takeWhile Char.isDigit, input.dropWhile Char.isDigit)

/-- `0 | [1-9][0-9]*`, the integer part of a number. -/
def numberWhole : List Char → Option (List Char × List Char)
  | '0' :: rest => some (['0'], rest)
  | c :: rest => if c.isDigit then some (c :: (digits rest).1, (digits rest).2) else none
  | [] => none

/-- `(. [0-9]+)?`, the fraction of a number. -/
def numberFraction : List Char → Option (List Char × List Char)
  | '.' :: rest =>
    match digits rest with
    | ([], _) => none
    | (fraction, after) => some ('.' :: fraction, after)
  | rest => some ([], rest)

def exponentDigits (marker : List Char) (input : List Char) : Option (List Char × List Char) :=
  match digits input with
  | ([], _) => none
  | (exponent, after) => some (marker ++ exponent, after)

/-- `([eE] [+-]? [0-9]+)?`, the exponent of a number. -/
def numberExponent : List Char → Option (List Char × List Char)
  | e :: rest =>
    if e = 'e' ∨ e = 'E' then
      match rest with
      | '+' :: after => exponentDigits [e, '+'] after
      | '-' :: after => exponentDigits [e, '-'] after
      | after => exponentDigits [e] after
    else some ([], e :: rest)
  | [] => some ([], [])

/-- A number, `-? whole fraction? exponent?`, kept as its literal. -/
def parseNumber (input : List Char) : Except JsError (Json × List Char) :=
  let (sign, afterSign) := match input with
    | '-' :: rest => (['-'], rest)
    | rest => ([], rest)
  match numberWhole afterSign with
  | none => syntaxError
  | some (whole, afterWhole) =>
    match numberFraction afterWhole with
    | none => syntaxError
    | some (fraction, afterFraction) =>
      match numberExponent afterFraction with
      | none => syntaxError
      | some (exponent, rest) => .ok (.number ⟨sign ++ whole ++ fraction ++ exponent⟩, rest)

def parseName (tail : List Char) (value : Json) (input : List Char) :
    Except JsError (Json × List Char) :=
  if tail.isPrefixOf input then .ok (value, input.drop tail.length) else syntaxError

mutual

/-- A value, after optional whitespace. -/
def parseValue : Nat → List Char → Except JsError (Json × List Char)
  | 0, _ => syntaxError
  | fuel + 1, input =>
    match skipWhitespace input with
    | 'n' :: rest => parseName ['u', 'l', 'l'] .null rest
    | 't' :: rest => parseName ['r', 'u', 'e'] (.bool true) rest
    | 'f' :: rest => parseName ['a', 'l', 's', 'e'] (.bool false) rest
    | '"' :: rest => (parseStringBody rest []).map fun (units, rest) => (.string units, rest)
    | '[' :: rest =>
      match skipWhitespace rest with
      | ']' :: rest => .ok (.array [], rest)
      | _ => parseElements fuel rest []
    | '{' :: rest =>
      match skipWhitespace rest with
      | '}' :: rest => .ok (.object [], rest)
      | _ => parseMembers fuel rest []
    | chars => parseNumber chars

/-- The elements of an array after its `[`; `elements` holds those read so far. -/
def parseElements : Nat → List Char → List Json → Except JsError (Json × List Char)
  | 0, _, _ => syntaxError
  | fuel + 1, input, elements =>
    match parseValue fuel input with
    | .error error => .error error
    | .ok (value, rest) =>
      match skipWhitespace rest with
      | ',' :: rest => parseElements fuel rest (elements ++ [value])
      | ']' :: rest => .ok (.array (elements ++ [value]), rest)
      | _ => syntaxError

/-- The members of an object after its `{`; `members` holds those read so far. -/
def parseMembers : Nat → List Char → List (JsString × Json) → Except JsError (Json × List Char)
  | 0, _, _ => syntaxError
  | fuel + 1, input, members =>
    match skipWhitespace input with
    | '"' :: rest =>
      match parseStringBody rest [] with
      | .error error => .error error
      | .ok (key, rest) =>
        match skipWhitespace rest with
        | ':' :: rest =>
          match parseValue fuel rest with
          | .error error => .error error
          | .ok (value, rest) =>
            match skipWhitespace rest with
            | ',' :: rest => parseMembers fuel rest (members ++ [(key, value)])
            | '}' :: rest => .ok (.object (members ++ [(key, value)]), rest)
            | _ => syntaxError
        | _ => syntaxError
    | _ => syntaxError

end

/-- `JSON.parse(text)`: one value, with nothing but whitespace after it. -/
def jsonParse (text : String) : Except JsError Json :=
  match parseValue (2 * text.length + 2) text.toList with
  | .error error => .error error
  | .ok (value, rest) => if skipWhitespace rest = [] then .ok value else syntaxError

/-! ### Fuel

Every call reads at least one character before it recurses, so fuel past twice the length of
the input never changes a result: `jsonParse` never stops a parse for want of fuel. -/

theorem length_skipWhitespace_le (input : List Char) :
    (skipWhitespace input).length ≤ input.length :=
  (List.dropWhile_sublist _).length_le

theorem parseStringBody_consumes {input : List Char} {units read : JsString}
    {rest : List Char} (parsed : parseStringBody input units = .ok (read, rest)) :
    rest.length < input.length := by
  induction input, units using parseStringBody.induct with
  | case1 => cases parsed
  | case2 rest => cases parsed; simp
  | case3 a b c d rest units a' b' c' d' hd hc hb ha ih =>
    simp only [parseStringBody, ha, hb, hc, hd] at parsed
    have := ih parsed; simp; omega
  | case4 a b c d rest units bad =>
    simp only [parseStringBody] at parsed
    cases parsed
  | case5 c rest units _ unit escaped ih =>
    simp only [parseStringBody, escaped] at parsed
    have := ih parsed; simp; omega
  | case6 c rest units _ unknown => simp [parseStringBody, unknown, syntaxError] at parsed
  | case7 c rest units _ _ _ control => simp [parseStringBody, control, syntaxError] at parsed
  | case8 c rest units _ _ _ plain ih =>
    simp only [parseStringBody, plain, if_false] at parsed
    have := ih parsed; simp; omega

theorem length_digits_snd_le (input : List Char) : (digits input).2.length ≤ input.length :=
  (List.dropWhile_sublist _).length_le

theorem numberWhole_consumes {input whole rest : List Char}
    (read : numberWhole input = some (whole, rest)) : rest.length < input.length := by
  unfold numberWhole at read
  split at read
  · cases read; simp
  · rename_i after _
    split at read
    · obtain ⟨-, rfl⟩ := Prod.mk.inj (Option.some.inj read)
      have := length_digits_snd_le after
      simp; omega
    · cases read
  · cases read

theorem numberFraction_consumes {input fraction rest : List Char}
    (read : numberFraction input = some (fraction, rest)) : rest.length ≤ input.length := by
  unfold numberFraction at read
  split at read
  · rename_i after
    split at read
    · cases read
    · obtain ⟨-, rfl⟩ := Prod.mk.inj (Option.some.inj read)
      have := length_digits_snd_le after
      rw [‹digits after = _›] at this
      simp at this ⊢; omega
  · cases read; rfl

theorem exponentDigits_consumes {marker input exponent rest : List Char}
    (read : exponentDigits marker input = some (exponent, rest)) : rest.length ≤ input.length := by
  unfold exponentDigits at read
  split at read
  · cases read
  · cases read
    have := length_digits_snd_le input
    simp_all

theorem numberExponent_consumes {input exponent rest : List Char}
    (read : numberExponent input = some (exponent, rest)) : rest.length ≤ input.length := by
  unfold numberExponent at read
  split at read
  · split at read
    · split at read <;>
      · have := exponentDigits_consumes read
        simp; omega
    · cases read; rfl
  · cases read; rfl


theorem parseName_consumes {tail input rest : List Char} {value name : Json}
    (parsed : parseName tail name input = .ok (value, rest)) : rest.length ≤ input.length := by
  unfold parseName at parsed
  split at parsed
  · cases parsed; simp
  · cases parsed

theorem parseNumber_consumes {input : List Char} {number : Json} {rest : List Char}
    (parsed : parseNumber input = .ok (number, rest)) : rest.length < input.length := by
  unfold parseNumber at parsed
  split at parsed
  rename_i sign afterSign signed
  have unsigned : afterSign.length ≤ input.length := by
    split at signed <;> (cases signed; simp)
  split at parsed
  · cases parsed
  rename_i whole afterWhole wholeRead
  split at parsed
  · cases parsed
  rename_i fraction afterFraction fractionRead
  split at parsed
  · cases parsed
  rename_i exponent after exponentRead
  cases parsed
  have := numberWhole_consumes wholeRead
  have := numberFraction_consumes fractionRead
  have := numberExponent_consumes exponentRead
  omega

def Consumes (parse : List Char → Except JsError (Json × List Char)) : Prop :=
  ∀ input value rest, parse input = .ok (value, rest) → rest.length < input.length

/-- Past twice the input's length plus `slack`, one more unit of fuel changes no result. -/
def FuelStable (parse : Nat → List Char → Except JsError (Json × List Char))
    (slack fuel : Nat) : Prop :=
  ∀ input, 2 * input.length + slack ≤ fuel → parse (fuel + 1) input = parse fuel input

section Consumption

variable {fuel : Nat}

theorem parseValue_consumes (elements : ∀ acc, Consumes (parseElements fuel · acc))
    (members : ∀ acc, Consumes (parseMembers fuel · acc)) : Consumes (parseValue (fuel + 1)) := by
  intro input _ _ parsed
  rw [parseValue.eq_2] at parsed
  have skipped := length_skipWhitespace_le input
  generalize skipWhitespace input = chars at parsed skipped
  revert parsed
  split
  case h_4 after =>
    rcases string : parseStringBody after [] with _ | ⟨units, rest⟩
    · intro parsed; cases parsed
    · rintro ⟨⟩
      have := parseStringBody_consumes string
      simp only [List.length_cons] at skipped; omega
  case h_5 after =>
    have inner := length_skipWhitespace_le after
    generalize skipWhitespace after = chars at inner ⊢
    split
    · rintro ⟨⟩; simp only [List.length_cons] at skipped inner; omega
    · intro parsed
      have := elements [] _ _ _ parsed; simp only [List.length_cons] at skipped; omega
  case h_6 after =>
    have inner := length_skipWhitespace_le after
    generalize skipWhitespace after = chars at inner ⊢
    split
    · rintro ⟨⟩; simp only [List.length_cons] at skipped inner; omega
    · intro parsed
      have := members [] _ _ _ parsed; simp only [List.length_cons] at skipped; omega
  case h_7 => intro parsed; have := parseNumber_consumes parsed; omega
  all_goals
    intro parsed
    have := parseName_consumes parsed
    simp only [List.length_cons] at skipped; omega

theorem parseElements_consumes (value : Consumes (parseValue fuel))
    (elements : ∀ acc, Consumes (parseElements fuel · acc)) (acc : List Json) :
    Consumes (parseElements (fuel + 1) · acc) := by
  rintro input _ _ (parsed : parseElements (fuel + 1) input acc = _)
  rw [parseElements.eq_2] at parsed
  rcases read : parseValue fuel input with _ | ⟨element, rest⟩
  · rw [read] at parsed; cases parsed
  have short := value _ _ _ read
  have skipped := length_skipWhitespace_le rest
  rw [read] at parsed
  dsimp only at parsed
  generalize skipWhitespace rest = after at parsed skipped
  split at parsed
  · have := elements _ _ _ _ parsed; simp only [List.length_cons] at skipped; omega
  · cases parsed; simp only [List.length_cons] at skipped; omega
  · cases parsed

theorem parseMembers_consumes (value : Consumes (parseValue fuel))
    (members : ∀ acc, Consumes (parseMembers fuel · acc)) (acc : List (JsString × Json)) :
    Consumes (parseMembers (fuel + 1) · acc) := by
  rintro input _ _ (parsed : parseMembers (fuel + 1) input acc = _)
  rw [parseMembers.eq_2] at parsed
  have skipped := length_skipWhitespace_le input
  generalize skipWhitespace input = chars at parsed skipped
  split at parsed
  · rename_i afterQuote
    rcases key : parseStringBody afterQuote [] with _ | ⟨units, afterKey⟩
    · rw [key] at parsed; cases parsed
    have keyShort := parseStringBody_consumes key
    have colon := length_skipWhitespace_le afterKey
    rw [key] at parsed
    dsimp only at parsed
    generalize skipWhitespace afterKey = chars at parsed colon
    split at parsed
    · rename_i afterColon
      rcases read : parseValue fuel afterColon with _ | ⟨member, rest⟩
      · rw [read] at parsed; cases parsed
      have short := value _ _ _ read
      have comma := length_skipWhitespace_le rest
      rw [read] at parsed
      dsimp only at parsed
      generalize skipWhitespace rest = after at parsed comma
      simp only [List.length_cons] at skipped colon
      split at parsed
      · have := members _ _ _ _ parsed; simp only [List.length_cons] at comma; omega
      · cases parsed; simp only [List.length_cons] at comma; omega
      · cases parsed
    · cases parsed
  · cases parsed

end Consumption

theorem parse_consumes (fuel : Nat) :
    Consumes (parseValue fuel) ∧ (∀ acc, Consumes (parseElements fuel · acc)) ∧
      ∀ acc, Consumes (parseMembers fuel · acc) := by
  induction fuel with
  | zero =>
    exact ⟨fun _ _ _ parsed => (by cases parsed), fun _ _ _ _ parsed => (by cases parsed),
      fun _ _ _ _ parsed => (by cases parsed)⟩
  | succ fuel ih =>
    obtain ⟨value, elements, members⟩ := ih
    exact ⟨parseValue_consumes elements members, parseElements_consumes value elements,
      parseMembers_consumes value members⟩

section Stability

variable {fuel : Nat}

theorem parseValue_fuelStable (elements : ∀ acc, FuelStable (parseElements · · acc) 3 fuel)
    (members : ∀ acc, FuelStable (parseMembers · · acc) 3 fuel) :
    FuelStable parseValue 2 (fuel + 1) := by
  intro input enough
  rw [parseValue.eq_2, parseValue.eq_2]
  have skipped := length_skipWhitespace_le input
  generalize skipWhitespace input = chars at skipped ⊢
  split
  case h_5 after =>
    have inner := length_skipWhitespace_le after
    generalize skipWhitespace after = chars at inner ⊢
    split
    · rfl
    · exact elements [] after (by simp only [List.length_cons] at skipped; omega)
  case h_6 after =>
    have inner := length_skipWhitespace_le after
    generalize skipWhitespace after = chars at inner ⊢
    split
    · rfl
    · exact members [] after (by simp only [List.length_cons] at skipped; omega)
  all_goals rfl

theorem parseElements_fuelStable (value : FuelStable parseValue 2 fuel)
    (elements : ∀ acc, FuelStable (parseElements · · acc) 3 fuel) (acc : List Json) :
    FuelStable (parseElements · · acc) 3 (fuel + 1) := by
  intro input enough
  show parseElements (fuel + 1 + 1) input acc = parseElements (fuel + 1) input acc
  rw [parseElements.eq_2, parseElements.eq_2, value input (by omega)]
  rcases read : parseValue fuel input with _ | ⟨element, rest⟩
  · rfl
  have short := (parse_consumes fuel).1 _ _ _ read
  have skipped := length_skipWhitespace_le rest
  dsimp only
  generalize skipWhitespace rest = after at skipped ⊢
  split
  · exact elements _ _ (by simp only [List.length_cons] at skipped; omega)
  all_goals rfl

theorem parseMembers_fuelStable (value : FuelStable parseValue 2 fuel)
    (members : ∀ acc, FuelStable (parseMembers · · acc) 3 fuel) (acc : List (JsString × Json)) :
    FuelStable (parseMembers · · acc) 3 (fuel + 1) := by
  intro input enough
  show parseMembers (fuel + 1 + 1) input acc = parseMembers (fuel + 1) input acc
  rw [parseMembers.eq_2, parseMembers.eq_2]
  have skipped := length_skipWhitespace_le input
  generalize skipWhitespace input = chars at skipped ⊢
  split
  · rename_i afterQuote
    rcases key : parseStringBody afterQuote [] with _ | ⟨units, afterKey⟩
    · rfl
    have keyShort := parseStringBody_consumes key
    have colon := length_skipWhitespace_le afterKey
    dsimp only
    generalize skipWhitespace afterKey = chars at colon ⊢
    split
    · rename_i afterColon
      simp only [List.length_cons] at skipped colon
      rw [value afterColon (by omega)]
      rcases read : parseValue fuel afterColon with _ | ⟨member, rest⟩
      · rfl
      have short := (parse_consumes fuel).1 _ _ _ read
      have comma := length_skipWhitespace_le rest
      dsimp only
      generalize skipWhitespace rest = after at comma ⊢
      split
      · exact members _ _ (by simp only [List.length_cons] at comma; omega)
      all_goals rfl
    · rfl
  · rfl

end Stability

theorem parse_fuel_succ (fuel : Nat) :
    FuelStable parseValue 2 fuel ∧ (∀ acc, FuelStable (parseElements · · acc) 3 fuel) ∧
      ∀ acc, FuelStable (parseMembers · · acc) 3 fuel := by
  induction fuel with
  | zero => exact ⟨fun _ _ => by omega, fun _ _ _ => by omega, fun _ _ _ => by omega⟩
  | succ fuel ih =>
    obtain ⟨value, elements, members⟩ := ih
    exact ⟨parseValue_fuelStable elements members, parseElements_fuelStable value elements,
      parseMembers_fuelStable value members⟩

theorem parseValue_of_enough_fuel {input : List Char} {fuel : Nat}
    (enough : 2 * input.length + 2 ≤ fuel) :
    parseValue fuel input = parseValue (2 * input.length + 2) input := by
  obtain ⟨extra, rfl⟩ := Nat.exists_eq_add_of_le enough
  induction extra with
  | zero => rfl
  | succ extra ih => rw [← Nat.add_assoc, (parse_fuel_succ _).1 input (by omega), ih (by omega)]

/-- `jsonParse` is the parse with all the fuel it can use: any larger fuel answers the same. -/
theorem jsonParse_eq_of_enough_fuel (text : String) {fuel : Nat}
    (enough : 2 * text.length + 2 ≤ fuel) :
    jsonParse text =
      match parseValue fuel text.toList with
      | .error error => .error error
      | .ok (value, rest) => if skipWhitespace rest = [] then .ok value else syntaxError := by
  rw [parseValue_of_enough_fuel (show 2 * text.toList.length + 2 ≤ fuel from enough)]
  rfl

end TerminalProxy.Js
