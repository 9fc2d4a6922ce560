/-
Bytes as base64 text.

Reading is lenient: characters outside the alphabet are skipped, and what
follows complete padding is ignored. It still needs whole groups of four,
with the padding that the last group lacks.
-/

namespace PaneWatch.Text.Base64

/-- The sixty-four digits. -/
def alphabet : List Char :=
  "ABCDEFGHIJKLMNOPQRSTUVWXYZabcdefghijklmnopqrstuvwxyz0123456789+/".toList

/-- The digit of a value. -/
def digit (n : Nat) : Char := alphabet.getD n 'A'

/-- The value of a digit. -/
def value? (c : Char) : Option Nat := alphabet.idxOf? c

/-- What of a group has been read: nothing, or one to three digits. -/
inductive Group where
  | none
  | one (a : Nat)
  | two (a b : Nat)
  | three (a b c : Nat)

/-- The bytes that the digits of a group without its last byte spell. -/
def Group.bytes : Group → List UInt8
  | .none | .one _ => []
  | .two a b => [UInt8.ofNat (a * 4 + b / 16)]
  | .three a b c => [UInt8.ofNat (a * 4 + b / 16), UInt8.ofNat (b * 16 + c / 4)]

/-- The bytes of a whole group. -/
def groupBytes (a b c d : Nat) : List UInt8 :=
  Group.bytes (.three a b c) ++ [UInt8.ofNat (c * 64 + d)]

/-- Reads digits into a group; `pads` counts the padding since its last digit. -/
def decodeFrom (group : Group) (pads : Nat) : List Char → Option (List UInt8)
  | [] => match group with
    | .none => some []
    | _ => none
  | c :: rest =>
    if c == '=' then
      match group with
      | .two a b =>
        if pads = 0 then decodeFrom group 1 rest else some (Group.bytes (.two a b))
      | .three a b c => some (Group.bytes (.three a b c))
      | _ => decodeFrom group pads rest
    else
      match value? c with
      | none => decodeFrom group pads rest
      | some d =>
        match group with
        | .none => decodeFrom (.one d) 0 rest
        | .one a => decodeFrom (.two a d) 0 rest
        | .two a b => decodeFrom (.three a b d) 0 rest
        | .three a b c => (decodeFrom .none 0 rest).map (groupBytes a b c d ++ ·)

/-- The bytes that a text spells. -/
def decode? (cs : List Char) : Option (List UInt8) := decodeFrom .none 0 cs

/-- The text of some bytes. -/
def encode : List UInt8 → List Char
  | [] => []
  | [a] => [digit (a.toNat / 4), digit (a.toNat % 4 * 16), '=', '=']
  | [a, b] =>
    [digit (a.toNat / 4), digit (a.toNat % 4 * 16 + b.toNat / 16),
     digit (b.toNat % 16 * 4), '=']
  | a :: b :: c :: rest =>
    [digit (a.toNat / 4), digit (a.toNat % 4 * 16 + b.toNat / 16),
     digit (b.toNat % 16 * 4 + c.toNat / 64), digit (c.toNat % 64)] ++ encode rest

end PaneWatch.Text.Base64
