import DroneTactics.Text.Digits
import DroneTactics.Text.Printable
import DroneTactics.Text.Surrogate

/-!
Texts and bytes in quotes, as they stand inside a listed value: single quotes unless there
is a single quote inside and no double one. What is hidden is written by number, and of
bytes all but the visible characters of ASCII.
-/

namespace DroneTactics.Text

def escaped (quote : Char) (code : Nat) : List Char :=
  if code = quote.toNat || code = '\\'.toNat then '\\' :: spelled code
  else if code = '\n'.toNat then ['\\', 'n']
  else if code = '\r'.toNat then ['\\', 'r']
  else if code = '\t'.toNat then ['\\', 't']
  else if isPrintable code then spelled code
  else if code < 0x100 then '\\' :: 'x' :: hex 2 code
  else if code < 0x10000 then '\\' :: 'u' :: hex 4 code
  else '\\' :: 'U' :: hex 8 code

def quoteFor (cs : List Char) : Char :=
  if cs.contains '\'' && !cs.contains '"' then '"' else '\''

def quoted (s : String) : String :=
  let quote := quoteFor s.toList
  String.ofList (quote :: (codePoints s).flatMap (escaped quote) ++ [quote])

def escapedByte (quote : Char) (b : UInt8) : List Char :=
  let c := Char.ofNat b.toNat
  if c = quote || c = '\\' then ['\\', c]
  else if c = '\n' then ['\\', 'n']
  else if c = '\r' then ['\\', 'r']
  else if c = '\t' then ['\\', 't']
  else if 32 ≤ b.toNat && b.toNat < 127 then [c]
  else '\\' :: 'x' :: hex 2 b.toNat

def quotedBytes (bs : List UInt8) : String :=
  let quote := quoteFor (bs.map fun b => Char.ofNat b.toNat)
  String.ofList ('b' :: quote :: bs.flatMap (escapedByte quote) ++ [quote])

/-- The text that bytes encode, if they encode any. -/
def decoded? (bs : List UInt8) : Option String :=
  (String.fromUTF8? ⟨bs.toArray⟩).map fun s => String.ofList (spelling s.toList)

end DroneTactics.Text
