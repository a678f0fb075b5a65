import Mathlib.Data.List.Sort
import Era.Core.Enums
import Era.Core.Platform

/-!
# Canonical JSON and action fingerprints

`canonical_json` is `json.dumps` with sorted keys, compact separators and ASCII
output.  The fingerprint that binds a confirmation hashes the canonical JSON of
the action type, the parameters and the risk level.  Escaped strings are
self-delimiting, so equal canonical forms have equal action types and equal
canonical parameters.
-/

namespace Era.Security

open Era.Core

/-! ## Escaping -/

/-- One lower-case hexadecimal digit. -/
def hexDigit (digit : Nat) : Char := Nat.digitChar (digit % 16)

/-- `"\\u{0:04x}".format(unit)` for a sixteen-bit code unit. -/
def unicodeEscape (unit : Nat) : List Char :=
  ['\\', 'u', hexDigit (unit / 4096), hexDigit (unit / 256), hexDigit (unit / 16),
    hexDigit unit]

/-- The `replace` callback of `py_encode_basestring_ascii`: short escapes, plain
printable ASCII, and `\\uXXXX` for everything else, astral characters as a
surrogate pair. -/
def escapeChar (char : Char) : List Char :=
  if char = '\\' then ['\\', '\\']
  else if char = '"' then ['\\', '"']
  else if char = '\n' then ['\\', 'n']
  else if char = '\r' then ['\\', 'r']
  else if char = '\t' then ['\\', 't']
  else if char = '\x0c' then ['\\', 'f']
  else if char = '\x08' then ['\\', 'b']
  else if 0x20 ≤ char.toNat ∧ char.toNat ≤ 0x7e then [char]
  else if char.toNat < 0x10000 then unicodeEscape char.toNat
  else
    unicodeEscape (0xd800 + (char.toNat - 0x10000) / 0x400 % 0x400) ++
      unicodeEscape (0xdc00 + (char.toNat - 0x10000) % 0x400)

/-- A JSON string literal. -/
def encodeString (text : String) : List Char :=
  '"' :: (text.toList.flatMap escapeChar ++ ['"'])

/-! ## Rendering -/

/-- Elements separated by commas. -/
def commaSeparated : List (List Char) → List Char
  | [] => []
  | [item] => item
  | item :: rest => item ++ ',' :: commaSeparated rest

/-- Dictionary entries in the order `sort_keys=True` gives them. -/
def sortedByKey (entries : List (String × List Char)) : List (String × List Char) :=
  entries.insertionSort fun left right => left.1 ≤ right.1

/-- A JSON object from its rendered fields. -/
def renderObject (entries : List (String × List Char)) : List Char :=
  '{' :: (commaSeparated ((sortedByKey entries).map fun entry =>
    encodeString entry.1 ++ ':' :: entry.2) ++ ['}'])

/-- How `json.dumps` writes a float. -/
def renderFloat (platform : Platform) : PyFloat → List Char
  | .nan => "NaN".toList
  | .posInf => "Infinity".toList
  | .negInf => "-Infinity".toList
  | number => (platform.floatRepr number).toList

/-- `canonical_json`, as the characters of its result. -/
def canonicalJson (platform : Platform) : Value → List Char
  | .none => "null".toList
  | .bool true => "true".toList
  | .bool false => "false".toList
  | .int number => (toString number).toList
  | .float number => renderFloat platform number
  | .str text => encodeString text
  | .list items => '[' :: (commaSeparated (renderItems items) ++ [']'])
  | .dict fields => renderObject (renderFields fields)
where
  renderItems : List Value → List (List Char)
    | [] => []
    | item :: rest => canonicalJson platform item :: renderItems rest
  renderFields : Params → List (String × List Char)
    | [] => []
    | (key, item) :: rest => (key, canonicalJson platform item) :: renderFields rest

/-- The document that `action_fingerprint` hashes. -/
def fingerprintDocument (actionType : String) (params : Params) (riskLevel : RiskLevel) :
    Value :=
  .dict [("action_type", .str actionType), ("params", .dict params),
    ("risk_level", .str riskLevel.value)]

/-- Canonical hash binding an action to its type, params and risk tier. -/
def actionFingerprint (platform : Platform) (actionType : String) (params : Params)
    (riskLevel : RiskLevel) : String :=
  platform.sha256Hex
    (String.ofList (canonicalJson platform (fingerprintDocument actionType params riskLevel)))

/-! ## Escaped strings are self-delimiting -/

/-- Value of a lower-case hexadecimal digit. -/
def hexValue (digit : Char) : Nat :=
  ((List.range 16).find? fun value => Nat.digitChar value = digit).getD 0

/-- Value of four hexadecimal digits. -/
def unitValue (first second third fourth : Char) : Nat :=
  4096 * hexValue first + 256 * hexValue second + 16 * hexValue third + hexValue fourth

/-- Read one escaped character back. -/
def unescapeChar : List Char → Option (Char × List Char)
  | '\\' :: 'u' :: first :: second :: third :: fourth :: rest =>
      let unit := unitValue first second third fourth
      if 0xd800 ≤ unit ∧ unit < 0xdc00 then
        match rest with
        | '\\' :: 'u' :: first :: second :: third :: fourth :: rest =>
            let low := unitValue first second third fourth
            some (Char.ofNat (0x10000 + (unit - 0xd800) * 0x400 + (low - 0xdc00)), rest)
        | _ => none
      else some (Char.ofNat unit, rest)
  | '\\' :: 'n' :: rest => some ('\n', rest)
  | '\\' :: 'r' :: rest => some ('\r', rest)
  | '\\' :: 't' :: rest => some ('\t', rest)
  | '\\' :: 'f' :: rest => some ('\x0c', rest)
  | '\\' :: 'b' :: rest => some ('\x08', rest)
  | '\\' :: char :: rest => some (char, rest)
  | char :: rest => some (char, rest)
  | [] => none

theorem hexValue_hexDigit (digit : Nat) : hexValue (hexDigit digit) = digit % 16 := by
  have inverse : ∀ value < 16, hexValue (Nat.digitChar value) = value := by decide
  exact inverse _ (Nat.mod_lt _ (by decide))

theorem unitValue_unicodeEscape {unit : Nat} (bound : unit < 0x10000) :
    unitValue (hexDigit (unit / 4096)) (hexDigit (unit / 256)) (hexDigit (unit / 16))
      (hexDigit unit) = unit := by
  simp only [unitValue, hexValue_hexDigit]
  omega

/-- No escaped character starts with a quotation mark. -/
theorem escapeChar_ne_quote (char : Char) (left right : List Char) :
    escapeChar char ++ left ≠ '"' :: right := by
  unfold escapeChar
  repeat' split
  all_goals simp_all [unicodeEscape]

theorem unescapeChar_plain {char : Char} (plain : char ≠ '\\') (rest : List Char) :
    unescapeChar (char :: rest) = some (char, rest) := by
  unfold unescapeChar
  split <;> simp_all

theorem unescapeChar_unit {unit : Nat} (bound : unit < 0x10000)
    (notHigh : ¬(0xd800 ≤ unit ∧ unit < 0xdc00)) (rest : List Char) :
    unescapeChar (unicodeEscape unit ++ rest) = some (Char.ofNat unit, rest) := by
  simp only [unicodeEscape, List.cons_append, List.nil_append, unescapeChar,
    unitValue_unicodeEscape bound]
  rw [if_neg notHigh]

theorem unescapeChar_pair {high low : Nat} (highBound : high < 0x400)
    (lowBound : low < 0x400) (rest : List Char) :
    unescapeChar (unicodeEscape (0xd800 + high) ++ unicodeEscape (0xdc00 + low) ++ rest) =
      some (Char.ofNat (0x10000 + high * 0x400 + low), rest) := by
  have highUnit := unitValue_unicodeEscape (show 0xd800 + high < 0x10000 by omega)
  have lowUnit := unitValue_unicodeEscape (show 0xdc00 + low < 0x10000 by omega)
  simp only [unicodeEscape, List.cons_append, List.nil_append, unescapeChar, highUnit, lowUnit]
  rw [if_pos (by omega), Nat.add_sub_cancel_left, Nat.add_sub_cancel_left]

/-- `Char` has no surrogates, so a code unit below `0x10000` is read back as the
character it came from and a surrogate always opens a pair. -/
theorem unescapeChar_escapeChar (char : Char) (rest : List Char) :
    unescapeChar (escapeChar char ++ rest) = some (char, rest) := by
  have valid : char.toNat < 0xd800 ∨ 0xdfff < char.toNat ∧ char.toNat < 0x110000 :=
    char.valid
  unfold escapeChar
  split_ifs with backslash
  all_goals try (subst_vars; rfl)
  next => exact unescapeChar_plain backslash rest
  next bmp =>
    rw [unescapeChar_unit bmp (by omega), Char.ofNat_toNat]
  next astral =>
    rw [unescapeChar_pair (by omega) (by omega)]
    have recombined : 0x10000 + (char.toNat - 0x10000) / 0x400 % 0x400 * 0x400 +
        (char.toNat - 0x10000) % 0x400 = char.toNat := by omega
    rw [recombined, Char.ofNat_toNat]

theorem escapeChar_append_inj {left right : Char} {leftRest rightRest : List Char}
    (equal : escapeChar left ++ leftRest = escapeChar right ++ rightRest) :
    left = right ∧ leftRest = rightRest := by
  have read := unescapeChar_escapeChar left leftRest
  rw [equal, unescapeChar_escapeChar] at read
  simpa [eq_comm] using read

/-- By induction on both texts: the closing quotation mark of one literal cannot
be inside the other. -/
theorem escapedText_append_inj {left right : List Char} {leftRest rightRest : List Char}
    (equal : left.flatMap escapeChar ++ '"' :: leftRest =
      right.flatMap escapeChar ++ '"' :: rightRest) :
    left = right ∧ leftRest = rightRest := by
  induction left generalizing right with
  | nil =>
      cases right with
      | nil => simpa using equal
      | cons char right =>
          rw [List.flatMap_cons, List.append_assoc] at equal
          exact absurd equal.symm (escapeChar_ne_quote char _ _)
  | cons char left ih =>
      cases right with
      | nil =>
          rw [List.flatMap_cons, List.append_assoc] at equal
          exact absurd equal (escapeChar_ne_quote char _ _)
      | cons other right =>
          rw [List.flatMap_cons, List.flatMap_cons, List.append_assoc, List.append_assoc]
            at equal
          obtain ⟨rfl, tails⟩ := escapeChar_append_inj equal
          obtain ⟨rfl, rests⟩ := ih tails
          exact ⟨rfl, rests⟩

theorem encodeString_append_inj {left right : String} {leftRest rightRest : List Char}
    (equal : encodeString left ++ leftRest = encodeString right ++ rightRest) :
    left = right ∧ leftRest = rightRest := by
  simp only [encodeString, List.cons_append, List.append_assoc, List.cons.injEq,
    List.nil_append, true_and] at equal
  obtain ⟨texts, rests⟩ := escapedText_append_inj equal
  exact ⟨String.toList_inj.mp texts, rests⟩

/-! ## The fingerprint binds type and parameters -/

theorem canonicalJson_fingerprintDocument (platform : Platform) (actionType : String)
    (params : Params) (riskLevel : RiskLevel) :
    canonicalJson platform (fingerprintDocument actionType params riskLevel) =
      "\x7b\"action_type\":".toList ++ (encodeString actionType ++
        (",\"params\":".toList ++ (canonicalJson platform (.dict params) ++
          (",\"risk_level\":".toList ++ (encodeString riskLevel.value ++ ['}']))))) := by
  have actionTypeKey : encodeString "action_type" = "\"action_type\"".toList := by decide
  have paramsKey : encodeString "params" = "\"params\"".toList := by decide
  have riskLevelKey : encodeString "risk_level" = "\"risk_level\"".toList := by decide
  have sorted : ∀ first second third : List Char,
      sortedByKey [("action_type", first), ("params", second), ("risk_level", third)] =
        [("action_type", first), ("params", second), ("risk_level", third)] := by
    intro first second third
    have beforeParams : "action_type" ≤ "params" := by decide
    have beforeRiskLevel : "params" ≤ "risk_level" := by decide
    simp [sortedByKey, List.insertionSort, beforeParams, beforeRiskLevel]
  simp [fingerprintDocument, canonicalJson, canonicalJson.renderFields, renderObject, sorted,
    commaSeparated, actionTypeKey, paramsKey, riskLevelKey]

/-- Without collisions, one fingerprint under one risk level stands for one
action type and one canonical form of the parameters. -/
theorem actionFingerprint_inj {platform : Platform} (collisionFree : platform.CollisionFree)
    {leftType rightType : String} {leftParams rightParams : Params} {riskLevel : RiskLevel}
    (equal : actionFingerprint platform leftType leftParams riskLevel =
      actionFingerprint platform rightType rightParams riskLevel) :
    leftType = rightType ∧
      canonicalJson platform (.dict leftParams) = canonicalJson platform (.dict rightParams) := by
  have documents := String.ofList_injective (collisionFree equal)
  rw [canonicalJson_fingerprintDocument, canonicalJson_fingerprintDocument,
    List.append_cancel_left_eq] at documents
  obtain ⟨types, rests⟩ := encodeString_append_inj documents
  exact ⟨types, List.append_cancel_right (List.append_cancel_left rests)⟩

end Era.Security
