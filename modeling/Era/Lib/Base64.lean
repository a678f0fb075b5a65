import Mathlib.Data.List.Basic

/-!
# Base64 with the URL-safe alphabet

Three bytes make four digits of six bits; what is missing from the last group is
padded.  A text may be passed around without its padding, since the length of the
text tells how much of it has been dropped.
-/

namespace Era.Lib.Base64

def alphabet : List Char :=
  "ABCDEFGHIJKLMNOPQRSTUVWXYZabcdefghijklmnopqrstuvwxyz0123456789-_".toList

/-- The digit of a six-bit number. -/
def digit (value : Nat) : Char := alphabet.getD value '='

/-- The six-bit number of a digit; the standard alphabet is read as well. -/
def digitValue? (char : Char) : Option Nat :=
  if char = '+' then some 62
  else if char = '/' then some 63
  else alphabet.idxOf? char

/-- The digits of a list of bytes, without padding. -/
def digits : List UInt8 → List Char
  | [] => []
  | [a] => [digit (a.toNat / 4), digit (a.toNat % 4 * 16)]
  | [a, b] =>
      [digit (a.toNat / 4), digit (a.toNat % 4 * 16 + b.toNat / 16), digit (b.toNat % 16 * 4)]
  | a :: b :: c :: rest =>
      digit (a.toNat / 4) :: digit (a.toNat % 4 * 16 + b.toNat / 16) ::
        digit (b.toNat % 16 * 4 + c.toNat / 64) :: digit (c.toNat % 64) :: digits rest

/-- The padding that completes the last group of four. -/
def padding (length : Nat) : List Char := List.replicate ((4 - length % 4) % 4) '='

/-- `base64.urlsafe_b64encode`. -/
def encode (bytes : List UInt8) : List Char :=
  digits bytes ++ padding (digits bytes).length

/-- The bytes of one group of four digits, of which the last two may be padding. -/
def decodeGroup (w x y z : Char) : Option (List UInt8) := do
  let w ← digitValue? w
  let x ← digitValue? x
  let first := UInt8.ofNat (w * 4 + x / 16)
  if y = '=' ∧ z = '=' then return [first]
  let y ← digitValue? y
  let second := UInt8.ofNat (x % 16 * 16 + y / 4)
  if z = '=' then return [first, second]
  let z ← digitValue? z
  return [first, second, UInt8.ofNat (y % 4 * 64 + z)]

/-- `base64.b64decode` with `validate`: groups of four digits, of which only the last
one may be padded. -/
def decode : List Char → Option (List UInt8)
  | [] => some []
  | w :: x :: y :: z :: rest => do
      let group ← decodeGroup w x y z
      if z = '=' ∧ rest ≠ [] then none
      let bytes ← decode rest
      return group ++ bytes
  | _ => none

/-- Drop the padding. -/
def strip (text : List Char) : List Char := (text.reverse.dropWhile (· == '=')).reverse

/-! ## Round trip -/

theorem digitValue?_digit {value : Nat} (bound : value < 64) :
    digitValue? (digit value) = some value := by
  have all : ∀ value < 64, digitValue? (digit value) = some value := by decide +kernel
  exact all value bound

theorem digit_ne_padding {value : Nat} (bound : value < 64) : digit value ≠ '=' := by
  have all : ∀ value < 64, digit value ≠ '=' := by decide +kernel
  exact all value bound

theorem digits_ne_padding (bytes : List UInt8) : ∀ char ∈ digits bytes, char ≠ '=' := by
  induction bytes using digits.induct with
  | case1 => simp [digits]
  | case2 a =>
      have := a.toNat_lt
      simp only [digits, List.mem_cons, List.not_mem_nil, or_false]
      rintro char (rfl | rfl) <;> exact digit_ne_padding (by omega)
  | case3 a b =>
      have := a.toNat_lt
      have := b.toNat_lt
      simp only [digits, List.mem_cons, List.not_mem_nil, or_false]
      rintro char (rfl | rfl | rfl) <;> exact digit_ne_padding (by omega)
  | case4 a b c rest ih =>
      have := a.toNat_lt
      have := b.toNat_lt
      have := c.toNat_lt
      simp only [digits, List.mem_cons]
      rintro char (rfl | rfl | rfl | rfl | later)
      · exact digit_ne_padding (by omega)
      · exact digit_ne_padding (by omega)
      · exact digit_ne_padding (by omega)
      · exact digit_ne_padding (by omega)
      · exact ih char later

theorem strip_encode (bytes : List UInt8) : strip (encode bytes) = digits bytes := by
  have padded : ∀ length, ∀ char ∈ (padding length).reverse, (char == '=') = true := by
    intro length char member
    simp only [padding, List.reverse_replicate, List.mem_replicate] at member
    simp [member.2]
  have stops : (digits bytes).reverse.dropWhile (· == '=') = (digits bytes).reverse := by
    cases ends : (digits bytes).reverse with
    | nil => rfl
    | cons char rest =>
        have visible := digits_ne_padding bytes char
          (List.mem_reverse.mp (by rw [ends]; exact List.mem_cons_self))
        simp [visible]
  rw [strip, encode, List.reverse_append, List.dropWhile_append_of_pos (padded _), stops,
    List.reverse_reverse]

theorem ofNat_eq {byte : UInt8} {value : Nat} (equal : value = byte.toNat) :
    UInt8.ofNat value = byte := by
  rw [equal, UInt8.ofNat_toNat]

/-- By induction on the groups of three. -/
theorem decode_encode (bytes : List UInt8) : decode (encode bytes) = some bytes := by
  induction bytes using digits.induct with
  | case1 => rfl
  | case2 a =>
      have := a.toNat_lt
      have first := digitValue?_digit (show a.toNat / 4 < 64 by omega)
      have second := digitValue?_digit (show a.toNat % 4 * 16 < 64 by omega)
      have byte := ofNat_eq
        (show a.toNat / 4 * 4 + a.toNat % 4 * 16 / 16 = a.toNat by omega)
      have group : decodeGroup (digit (a.toNat / 4)) (digit (a.toNat % 4 * 16)) '=' '=' =
          some [a] := by
        simp only [decodeGroup, first, second, Option.bind_eq_bind, Option.bind_some, byte]
        rfl
      change decode [_, _, '=', '='] = _
      simp [decode, group]
  | case3 a b =>
      have := a.toNat_lt
      have := b.toNat_lt
      have notPadding := digit_ne_padding (show b.toNat % 16 * 4 < 64 by omega)
      have first := digitValue?_digit (show a.toNat / 4 < 64 by omega)
      have second := digitValue?_digit
        (show a.toNat % 4 * 16 + b.toNat / 16 < 64 by omega)
      have third := digitValue?_digit (show b.toNat % 16 * 4 < 64 by omega)
      have firstByte := ofNat_eq
        (show a.toNat / 4 * 4 + (a.toNat % 4 * 16 + b.toNat / 16) / 16 = a.toNat by omega)
      have secondByte := ofNat_eq (show
        (a.toNat % 4 * 16 + b.toNat / 16) % 16 * 16 + b.toNat % 16 * 4 / 4 = b.toNat by omega)
      have group : decodeGroup (digit (a.toNat / 4)) (digit (a.toNat % 4 * 16 + b.toNat / 16))
          (digit (b.toNat % 16 * 4)) '=' = some [a, b] := by
        simp only [decodeGroup, first, second, third, Option.bind_eq_bind, Option.bind_some,
          firstByte, secondByte, notPadding, false_and, if_false]
        rfl
      change decode [_, _, _, '='] = _
      simp [decode, group]
  | case4 a b c rest ih =>
      have := a.toNat_lt
      have := b.toNat_lt
      have := c.toNat_lt
      have thirdNotPadding :=
        digit_ne_padding (show b.toNat % 16 * 4 + c.toNat / 64 < 64 by omega)
      have notPadding := digit_ne_padding (show c.toNat % 64 < 64 by omega)
      have first := digitValue?_digit (show a.toNat / 4 < 64 by omega)
      have second := digitValue?_digit
        (show a.toNat % 4 * 16 + b.toNat / 16 < 64 by omega)
      have third := digitValue?_digit
        (show b.toNat % 16 * 4 + c.toNat / 64 < 64 by omega)
      have fourth := digitValue?_digit (show c.toNat % 64 < 64 by omega)
      have firstByte := ofNat_eq
        (show a.toNat / 4 * 4 + (a.toNat % 4 * 16 + b.toNat / 16) / 16 = a.toNat by omega)
      have secondByte := ofNat_eq (show
        (a.toNat % 4 * 16 + b.toNat / 16) % 16 * 16 + (b.toNat % 16 * 4 + c.toNat / 64) / 4 =
          b.toNat by omega)
      have thirdByte := ofNat_eq (show
        (b.toNat % 16 * 4 + c.toNat / 64) % 4 * 64 + c.toNat % 64 = c.toNat by omega)
      have group : decodeGroup (digit (a.toNat / 4)) (digit (a.toNat % 4 * 16 + b.toNat / 16))
          (digit (b.toNat % 16 * 4 + c.toNat / 64)) (digit (c.toNat % 64)) =
            some [a, b, c] := by
        simp only [decodeGroup, first, second, third, fourth, Option.bind_eq_bind,
          Option.bind_some, firstByte, secondByte, thirdByte, thirdNotPadding, notPadding,
          false_and, if_false]
        rfl
      have samePadding : padding (digits (a :: b :: c :: rest)).length =
          padding (digits rest).length := by
        simp only [digits, padding, List.length_cons]
        congr 2
        omega
      rw [encode] at ih ⊢
      rw [samePadding]
      simp [digits, decode, group, notPadding, ih]

/-- Dropping the padding and putting it back changes nothing. -/
theorem decode_strip_encode (bytes : List UInt8) :
    decode (strip (encode bytes) ++ padding (strip (encode bytes)).length) = some bytes := by
  rw [strip_encode]
  exact decode_encode bytes

theorem strip_encode_ne_nil {bytes : List UInt8} (nonempty : bytes ≠ []) :
    strip (encode bytes) ≠ [] := by
  rw [strip_encode]
  unfold digits
  split
  · exact absurd rfl nonempty
  all_goals exact List.cons_ne_nil _ _

end Era.Lib.Base64
