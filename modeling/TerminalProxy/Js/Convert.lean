import TerminalProxy.Js.Value

/-! What `!value` and a template literal `${value}` make of the values the resolver returns:
`ToBoolean`, and `ToString(ToPrimitive(value, string))`; and the text the URL parser reads
from a JavaScript string, its code points with every lone surrogate replaced by U+FFFD, which
gives back every string encoded as UTF-16. What needs a number's double value or an engine's
source text is given by an `Engine`. -/

namespace TerminalProxy.Js

/-- What the model takes from the engine: `String(Number(literal))` of a JSON number, and a built-in
function's source text. -/
structure Engine where
  numberString : String → JsString
  functionSource : Prototype → JsString → JsString

/-- `ToBoolean(value)`: a parsed number, never NaN, is falsy when it is ±0, the only numbers whose
string is `"0"`. -/
def JsValue.toBoolean (engine : Engine) : JsValue → Bool
  | .undefined => false
  | .json .null => false
  | .json (.bool value) => value
  | .json (.number literal) => engine.numberString literal != jsString "0"
  | .json (.string units) => !units.isEmpty
  | .json (.array _) | .json (.object _) => true
  | .length count => count != 0
  | .builtinFunction _ _ | .prototype _ => true

def cannotConvert : JsError := ⟨"Cannot convert object to primitive value"⟩

mutual

/-- `${value}` of a parsed value; an object with an own `toString` member (never callable)
throws. -/
def jsonTemplate (engine : Engine) : Json → Except JsError JsString
  | .null => .ok (jsString "null")
  | .bool value => .ok (jsString (toString value))
  | .number literal => .ok (engine.numberString literal)
  | .string units => .ok units
  | .array elements => (elementStrings engine elements).map fun parts => [0x2C].intercalate parts
  | .object members =>
    match ownMember members (jsString "toString") with
    | some _ => .error cannotConvert
    | none => .ok (jsString "[object Object]")

def elementStrings (engine : Engine) : List Json → Except JsError (List JsString)
  | [] => .ok []
  | .null :: rest => (elementStrings engine rest).map ([] :: ·)
  | element :: rest =>
    match jsonTemplate engine element with
    | .error error => .error error
    | .ok part => (elementStrings engine rest).map (part :: ·)

end

/-- `${value}` of what the resolver returns; a prototype converts by its own `toString`. -/
def JsValue.template (engine : Engine) : JsValue → Except JsError JsString
  | .undefined => .ok (jsString "undefined")
  | .json value => jsonTemplate engine value
  | .length count => .ok (jsString (toString count))
  | .builtinFunction owner key => .ok (engine.functionSource owner key)
  | .prototype .object => .ok (jsString "[object Object]")
  | .prototype .array | .prototype .string => .ok []
  | .prototype .number => .ok (jsString "0")
  | .prototype .boolean => .ok (jsString "false")

theorem map_eq_error {α β ε : Type} {f : α → β} {x : Except ε α} {error : ε}
    (mapped : x.map f = .error error) : x = .error error := by
  cases x with
  | error inner => cases mapped; rfl
  | ok value => cases mapped

mutual

theorem jsonTemplate_error {engine : Engine} {error : JsError} :
    ∀ {value : Json}, jsonTemplate engine value = .error error → error = cannotConvert
  | .null, threw | .bool _, threw | .number _, threw | .string _, threw => by cases threw
  | .array _, threw => elementStrings_error (map_eq_error threw)
  | .object members, threw => by
    rw [jsonTemplate] at threw
    split at threw
    · cases threw; rfl
    · cases threw

theorem elementStrings_error {engine : Engine} {error : JsError} :
    ∀ {elements : List Json}, elementStrings engine elements = .error error →
      error = cannotConvert
  | [], threw => by cases threw
  | element :: rest, threw => by
    by_cases null : element = .null
    · subst null
      exact elementStrings_error (map_eq_error threw)
    · rw [elementStrings.eq_3 _ _ _ null] at threw
      cases converted : jsonTemplate engine element with
      | error inner => rw [converted] at threw; cases threw; exact jsonTemplate_error converted
      | ok part => rw [converted] at threw; exact elementStrings_error (map_eq_error threw)

end

theorem JsValue.template_error {engine : Engine} {error : JsError} {value : JsValue}
    (threw : value.template engine = .error error) : error = cannotConvert := by
  cases value with
  | json value => exact jsonTemplate_error threw
  | prototype which => cases which <;> cases threw
  | _ => cases threw


def unitChar (unit : UInt16) : Char :=
  if 0xD800 ≤ unit.toNat ∧ unit.toNat ≤ 0xDFFF then Char.ofNat 0xFFFD else Char.ofNat unit.toNat

/-- The code points of a JavaScript string as the URL parser reads them: a high surrogate
followed by a low one is one code point, every other surrogate is U+FFFD. -/
def usvChars : JsString → List Char
  | [] => []
  | [unit] => [unitChar unit]
  | high :: low :: rest =>
    if 0xD800 ≤ high.toNat ∧ high.toNat ≤ 0xDBFF ∧ 0xDC00 ≤ low.toNat ∧ low.toNat ≤ 0xDFFF then
      Char.ofNat (0x10000 + (high.toNat - 0xD800) * 0x400 + (low.toNat - 0xDC00)) ::
        usvChars rest
    else unitChar high :: usvChars (low :: rest)

def usvString (units : JsString) : String := ⟨usvChars units⟩

theorem usvChars_eq_nil {units : JsString} : usvChars units = [] ↔ units = [] := by
  match units with
  | [] => simp [usvChars]
  | [_] => simp [usvChars]
  | _ :: _ :: _ => simp only [usvChars]; split <;> simp

theorem usvString_eq_empty {units : JsString} : usvString units = "" ↔ units = [] := by
  rw [← usvChars_eq_nil, usvString, ← String.ext_iff]

theorem toNat_scalar (c : Char) : c.toNat < 0xD800 ∨ 0xDFFF < c.toNat ∧ c.toNat < 0x110000 :=
  c.valid

theorem usvChars_utf16_append (c : Char) (rest : JsString) :
    usvChars (utf16 c ++ rest) = c :: usvChars rest := by
  have scalar := toNat_scalar c
  unfold utf16
  split
  case isTrue basic =>
    have unit : c.toNat.toUInt16.toNat = c.toNat := UInt16.toNat_ofNat_of_lt basic
    have plain : unitChar c.toNat.toUInt16 = c := by
      rw [unitChar, unit, if_neg (by omega), Char.ofNat_toNat]
    match rest with
    | [] => simp only [List.singleton_append, usvChars, plain]
    | low :: rest =>
      simp only [List.singleton_append, usvChars, unit, plain]
      rw [if_neg (by omega)]
  case isFalse astral =>
    have high : (0xD800 + (c.toNat - 0x10000) / 0x400).toUInt16.toNat =
        0xD800 + (c.toNat - 0x10000) / 0x400 := UInt16.toNat_ofNat_of_lt (by show _ < 65536; omega)
    have low : (0xDC00 + (c.toNat - 0x10000) % 0x400).toUInt16.toNat =
        0xDC00 + (c.toNat - 0x10000) % 0x400 := UInt16.toNat_ofNat_of_lt (by show _ < 65536; omega)
    have point : 0x10000 + (0xD800 + (c.toNat - 0x10000) / 0x400 - 0xD800) * 0x400 +
        (0xDC00 + (c.toNat - 0x10000) % 0x400 - 0xDC00) = c.toNat := by omega
    simp only [List.cons_append, List.singleton_append, List.append_eq, List.nil_append, usvChars,
      high, low, point, Char.ofNat_toNat]
    rw [if_pos (by omega)]

/-- A Lean string holds no lone surrogate, so its UTF-16 form read back as a USVString is itself. -/
theorem usvString_jsString (text : String) : usvString (jsString text) = text := by
  have chars : ∀ chars : List Char, usvChars (chars.flatMap utf16) = chars := by
    intro chars
    induction chars with
    | nil => rfl
    | cons c chars ih => rw [List.flatMap_cons, usvChars_utf16_append, ih]
  rw [usvString, jsString, chars]
  rfl

theorem jsString_injective : Function.Injective jsString := fun a b same => by
  rw [← usvString_jsString a, same, usvString_jsString]

end TerminalProxy.Js
