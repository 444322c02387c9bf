import DroneTactics.Document.Value

/-!
The JSON text of a value, on one line and in ASCII alone. A fraction keeps its
fractional part or exponent, so it reads back as a fraction; a key that is not a
text is written as the text of the atom.
-/

namespace DroneTactics.Json

open Text (hex)

def unitEscape (n : Nat) : List Char := '\\' :: 'u' :: hex 4 n

/-- A character or half in a string, by its number. -/
def stringChar (code : Nat) : List Char :=
  let c := Char.ofNat code
  if c = '"' || c = '\\' then ['\\', c]
  else if c = '\n' then ['\\', 'n']
  else if c = '\r' then ['\\', 'r']
  else if c = '\t' then ['\\', 't']
  else if 32 ≤ code && code < 127 then [c]
  else if code < 0x10000 then unitEscape code
  else
    let offset := code - 0x10000
    unitEscape (0xd800 + offset / 0x400) ++ unitEscape (0xdc00 + offset % 0x400)

def stringText (s : String) : String :=
  String.ofList ('"' :: (Text.codePoints s).flatMap stringChar ++ ['"'])

/-- A fraction; the sizes beyond every rational have names. -/
def floatText : Binary64 → String
  | .infinite negative => if negative then "-Infinity" else "Infinity"
  | .nan => "NaN"
  | x => x.text

def atomText : Atom → String
  | .null => "null"
  | .bool b => if b then "true" else "false"
  | .int n => toString n
  | .float x => floatText x
  | .str s => stringText s
  | .bytes bs => stringText (Text.quotedBytes bs)
  | .moment m => stringText m.text

def keyText : Atom → String
  | .str s => stringText s
  | .bytes bs => stringText (Text.quotedBytes bs)
  | .moment m => stringText m.text
  | a => stringText (atomText a)

mutual

def write : Value → String
  | .atom a => atomText a
  | .list xs => "[" ++ ",".intercalate (writeItems xs) ++ "]"
  | .map es => "\x7b" ++ ",".intercalate (writeEntries es) ++ "\x7d"
  | .worded _ _ content => write content

def writeItems : List Value → List String
  | [] => []
  | x :: xs => write x :: writeItems xs

def writeEntries : List (Atom × Value) → List String
  | [] => []
  | (k, v) :: es => (keyText k ++ ":" ++ write v) :: writeEntries es

end

end DroneTactics.Json
