/-!
Bytes written in base sixty-four: four digits stand for three bytes. A reader that is not
strict passes over every character that is no digit; only an equals sign where bytes can
end, after two or three digits of a group of four, ends the text once the group is full.
-/

namespace DroneTactics.Text.Base64

def digit? (c : Char) : Option Nat :=
  if 'A' ≤ c && c ≤ 'Z' then some (c.toNat - 'A'.toNat)
  else if 'a' ≤ c && c ≤ 'z' then some (c.toNat - 'a'.toNat + 26)
  else if c.isDigit then some (c.toNat - '0'.toNat + 52)
  else if c = '+' then some 62
  else if c = '/' then some 63
  else none

/-- The bytes of a group: one less than it has digits. -/
def groupBytes : List Nat → List UInt8
  | [a, b] => [.ofNat (4 * a + b / 16)]
  | [a, b, c] => [.ofNat (4 * a + b / 16), .ofNat (16 * (b % 16) + c / 4)]
  | [a, b, c, d] =>
    [.ofNat (4 * a + b / 16), .ofNat (16 * (b % 16) + c / 4), .ofNat (64 * (c % 4) + d)]
  | _ => []

/-- The bytes of a text after the digits of a group that is not full and the equals signs
right after them. -/
def decodeFrom? (group : List Nat) (signs : Nat) : List Char → Option (List UInt8)
  | [] => if group.isEmpty then some [] else none
  | '=' :: cs =>
    if group.length < 2 then decodeFrom? group signs cs
    else if 4 ≤ group.length + signs + 1 then some (groupBytes group)
    else decodeFrom? group (signs + 1) cs
  | c :: cs =>
    match digit? c with
    | none => decodeFrom? group signs cs
    | some d =>
      if group.length = 3 then (decodeFrom? [] 0 cs).map (groupBytes (group ++ [d]) ++ ·)
      else decodeFrom? (group ++ [d]) 0 cs

/-- The bytes that a text spells. A group that is never filled spells none. -/
def decode? (cs : List Char) : Option (List UInt8) := decodeFrom? [] 0 cs

end DroneTactics.Text.Base64
