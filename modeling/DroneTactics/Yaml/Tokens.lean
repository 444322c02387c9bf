import DroneTactics.Yaml.Scalar
import DroneTactics.Yaml.Token

/-!
The tokens of a YAML text. In block context indentation opens and closes collections;
in flow context brackets do. A colon makes a key of what stands before it on its line,
so the key's token is put in at the place where it began. At most one place in each
flow level can still become a key, and it stops being one at the end of its line.
-/

namespace DroneTactics.Yaml

/-! ### Names, tags and directives -/

def anchorName (c : Cursor) : Option (String × Cursor) :=
  let (name, c) := c.next.span isNameChar
  let ended := endsWord c.peek ||
    c.peek.any fun ch => [':', '?', ',', ']', '\x7d', '%', '@', Char.ofNat 0x60].contains ch
  if name.isEmpty || !ended then none else some (String.ofList name, c)

def isTagChar (c : Char) : Bool :=
  c.isAlphanum || "-;/?:@&=+$,_.!~*'()[]".toList.contains c

def tagBytes (c : Cursor) : Option (List UInt8 × Cursor) :=
  c.loop (fun c (bytes : List UInt8) =>
    if c.peek = some '%' then
      let digits := c.next.rest.take 2
      if digits.length = 2 then
        (Text.inBase? 16 digits).map fun n => .again (c.skip 3) (n.toUInt8 :: bytes)
      else none
    else some (.done (bytes.reverse, c))) []

/-- The text of a tag or of what a handle stands for; it must not be empty. -/
def tagText (c : Cursor) : Option (String × Cursor) := do
  let (text, c) ← c.loop (fun c (text : List Char) =>
    if c.peek = some '%' then
      (tagBytes c).bind fun (bytes, c) =>
        (String.fromUTF8? ⟨bytes.toArray⟩).map fun s => .again c (text ++ s.toList)
    else
      let (run, c') := c.span isTagChar
      if run.isEmpty then some (.done (text, c)) else some (.again c' (text ++ run))) []
  if text.isEmpty then none else some (String.ofList text, c)

/-- A handle: one exclamation mark, or a name between two. -/
def tagHandle (c : Cursor) : Option (String × Cursor) :=
  if c.peek ≠ some '!' then none
  else if c.peekAt 1 = some ' ' then some ("!", c.next)
  else
    let (name, c) := c.next.span isNameChar
    if c.peek = some '!' then some (String.ofList ('!' :: name ++ ['!']), c.next) else none

def writtenTag (c : Cursor) : Option (WrittenTag × Cursor) := do
  let (tag, c) ←
    if c.peekAt 1 = some '<' then do
      let (text, c) ← tagText (c.skip 2)
      if c.peek = some '>' then some (WrittenTag.mk none text, c.next) else none
    else if endsWord (c.peekAt 1) then some (WrittenTag.mk none "!", c.next)
    else
      let word := c.next.rest.takeWhile fun ch => !endsField (some ch)
      if word.contains '!' then do
        let (handle, c) ← tagHandle c
        let (text, c) ← tagText c
        some (WrittenTag.mk (some handle) text, c)
      else do
        let (text, c) ← tagText c.next
        some (WrittenTag.mk (some "!") text, c)
  if endsField c.peek then some (tag, c) else none

def versionNumber (c : Cursor) : Option (Nat × Cursor) :=
  let (ds, c) := c.span Char.isDigit
  if ds.isEmpty then none else some (Text.decimal ds, c)

def directiveBody (name : String) (c : Cursor) : Option (Token × Cursor) :=
  let blankless (c : Cursor) : Cursor := c.skipWhile (· = ' ')
  match name with
  | "YAML" => do
    let (major, c) ← versionNumber (blankless c)
    if c.peek ≠ some '.' then none
    else
      let (_, c) ← versionNumber c.next
      if endsField c.peek then some (.version major, c) else none
  | "TAG" => do
    let (handle, c) ← tagHandle (blankless c)
    if c.peek ≠ some ' ' then none
    else
      let (text, c) ← tagText (blankless c)
      if endsField c.peek then some (.tagHandle handle text, c) else none
  | _ => some (.otherDirective, c.skipWhile fun ch => !isBreak ch)

def directive (c : Cursor) : Option (Token × Cursor) := do
  let (name, c) := c.next.span isNameChar
  if name.isEmpty || !endsField c.peek then none
  else
    let (token, c) ← directiveBody (String.ofList name) c
    some (token, ← restOfLine c)

/-! ### The state of reading -/

/-- A place that becomes a key if a colon follows on its line. -/
structure PossibleKey where
  /-- How many tokens come before it. -/
  tokensBefore : Nat
  /-- The line is a key or nothing that can stand there. -/
  required : Bool
  start : Cursor

structure Lexer where
  cursor : Cursor
  /-- The tokens read, the last one first. -/
  tokens : List Token := []
  /-- How many tokens have been read. -/
  count : Nat := 0
  /-- The column of the innermost block collection, and those around it. -/
  indent : Int := -1
  outer : List Int := []
  /-- A key may begin here. -/
  keyAllowed : Bool := true
  /-- The possible key of the flow level, and those of the levels around it. -/
  key : Option PossibleKey := none
  outerKeys : List (Option PossibleKey) := []

namespace Lexer

def inFlow (l : Lexer) : Bool := !l.outerKeys.isEmpty

def emit (l : Lexer) (token : Token) (after : Cursor) : Lexer :=
  { l with tokens := token :: l.tokens, count := l.count + 1, cursor := after }

def column (l : Lexer) : Int := l.cursor.column

/-- Blanks, comments and line ends are passed over. A line end in block context lets
a key begin. -/
def passBlanks (l : Lexer) : Option Lexer :=
  l.cursor.loop (fun c (allowed : Bool) =>
    let c := c.skipWhile (· = ' ')
    let c := if c.peek = some '#' then c.skipWhile fun ch => !isBreak ch else c
    match c.lineBreak? with
    | some (_, c') => some (.again c' (allowed || !l.inFlow))
    | none => some (.done { l with cursor := c, keyAllowed := allowed })) l.keyAllowed

/-- A place stops being a possible key after its line and after a thousand characters. -/
def PossibleKey.stale (k : PossibleKey) (c : Cursor) : Bool :=
  k.start.line ≠ c.line || k.start.remaining - c.remaining > 1024

/-- A possible key that is not to be one; a required one must not be lost. -/
def dropKey (k : Option PossibleKey) : Option (Option PossibleKey) :=
  match k with
  | some k => if k.required then none else some none
  | none => some none

def forgetKey (l : Lexer) : Option Lexer :=
  (dropKey l.key).map fun key => { l with key }

def forgetStale (l : Lexer) : Option Lexer := do
  let renew (k : Option PossibleKey) : Option (Option PossibleKey) :=
    if k.any (PossibleKey.stale · l.cursor) then dropKey k else some k
  let key ← renew l.key
  let outerKeys ← l.outerKeys.mapM renew
  some { l with key, outerKeys }

def noteKey (l : Lexer) : Option Lexer :=
  if l.keyAllowed then
    (forgetKey l).map fun l =>
      { l with key := some {
          tokensBefore := l.count
          required := !l.inFlow && l.indent = l.column
          start := l.cursor } }
  else some l

/-- How many block collections are indented more than a column, the column of the
innermost one that is not, and those around it. -/
def deeperBlocks (column : Int) : List Int → Int → Nat × Int × List Int
  | [], indent => (0, indent, [])
  | next :: outer, indent =>
    if column < indent then
      let (n, indent, outer) := deeperBlocks column outer next
      (n + 1, indent, outer)
    else (0, indent, next :: outer)

/-- The text goes back to a column, which closes the blocks that are indented more. Flow
collections do not care. -/
def unwind (l : Lexer) (column : Int) : Lexer :=
  if l.inFlow then l
  else
    let (n, indent, outer) := deeperBlocks column l.outer l.indent
    { l with
      indent
      outer
      tokens := List.replicate n .blockEnd ++ l.tokens
      count := l.count + n }

def deeper (l : Lexer) (column : Int) : Bool := l.indent < column

def nest (l : Lexer) (column : Int) : Lexer :=
  { l with indent := column, outer := l.indent :: l.outer }

def insertAt (l : Lexer) (n : Nat) (more : List Token) : Lexer :=
  let later := l.count - n
  { l with
    tokens := l.tokens.take later ++ more.reverse ++ l.tokens.drop later
    count := l.count + more.length }

/-! ### Tokens -/

def readDirective (l : Lexer) : Option Lexer := do
  let l ← (l.unwind (-1)).forgetKey
  let (token, after) ← directive l.cursor
  some { l.emit token after with keyAllowed := false }

def readDocumentMark (l : Lexer) (token : Token) : Option Lexer := do
  let l ← (l.unwind (-1)).forgetKey
  some { l.emit token (l.cursor.skip 3) with keyAllowed := false }

def openFlow (l : Lexer) (token : Token) : Option Lexer := do
  let l ← l.noteKey
  some { l.emit token l.cursor.next with
    keyAllowed := true
    key := none
    outerKeys := l.key :: l.outerKeys }

def closeFlow (l : Lexer) (token : Token) : Option Lexer := do
  let l ← l.forgetKey
  match l.outerKeys with
  | [] => none
  | key :: outerKeys =>
    some { l.emit token l.cursor.next with keyAllowed := false, key, outerKeys }

def readFlowEntry (l : Lexer) : Option Lexer := do
  let l ← l.forgetKey
  some { l.emit .flowEntry l.cursor.next with keyAllowed := true }

/-- A block collection opens here, if this is deeper than the one around it. Outside
flow collections a key must be allowed here. -/
def openBlock (l : Lexer) (token : Token) : Option Lexer :=
  if l.inFlow then some l
  else if !l.keyAllowed then none
  else if l.deeper l.column then some ((l.nest l.column).emit token l.cursor)
  else some l

def readBlockEntry (l : Lexer) : Option Lexer := do
  let l ← (← l.openBlock .blockSequenceStart).forgetKey
  some { l.emit .blockEntry l.cursor.next with keyAllowed := true }

def readKey (l : Lexer) : Option Lexer := do
  let l ← (← l.openBlock .blockMappingStart).forgetKey
  some { l.emit .key l.cursor.next with keyAllowed := !l.inFlow }

/-- The colon before a value. It makes a key of a possible one. -/
def readValue (l : Lexer) : Option Lexer :=
  match l.key with
  | some k =>
    let column : Int := k.start.column
    let l :=
      if !l.inFlow && l.deeper column then
        (l.nest column).insertAt k.tokensBefore [.blockMappingStart, .key]
      else l.insertAt k.tokensBefore [.key]
    some { l.emit .value l.cursor.next with key := none, keyAllowed := false }
  | none => do
    let l ← l.openBlock .blockMappingStart
    some { l.emit .value l.cursor.next with keyAllowed := !l.inFlow }

def readAnchor (l : Lexer) (token : String → Token) : Option Lexer := do
  let l ← l.noteKey
  let (name, after) ← anchorName l.cursor
  some { l.emit (token name) after with keyAllowed := false }

def readTag (l : Lexer) : Option Lexer := do
  let l ← l.noteKey
  let (tag, after) ← writtenTag l.cursor
  some { l.emit (.tag tag) after with keyAllowed := false }

def readBlockScalar (l : Lexer) (folded : Bool) : Option Lexer := do
  let l ← l.forgetKey
  let scanned ← blockScalar folded l.indent l.cursor
  some { l.emit (.scalar (String.ofList scanned.text) false) scanned.after with
    keyAllowed := true }

def readQuoted (l : Lexer) (double : Bool) : Option Lexer := do
  let l ← l.noteKey
  let scanned ← quotedScalar double l.cursor
  some { l.emit (.scalar (String.ofList scanned.text) false) scanned.after with
    keyAllowed := false }

/-- A plain scalar. A key may follow it only on a later line. -/
def readPlain (l : Lexer) : Option Lexer := do
  let l ← l.noteKey
  let scanned ← plainScalar l.inFlow (l.indent + 1) l.cursor
  some { l.emit (.scalar (String.ofList scanned.text) true) scanned.after with
    keyAllowed := scanned.broken }

def startsPlain (l : Lexer) (ch : Char) : Bool :=
  let marks := "-?:,[]#&*!|>'\"%@".toList ++ ['\x7b', '\x7d', Char.ofNat 0x60]
  (!endsWord (some ch) && !marks.contains ch) ||
    (!endsWord (l.cursor.peekAt 1) && (ch = '-' || (!l.inFlow && (ch = '?' || ch = ':'))))

def readToken (l : Lexer) (ch : Char) : Option Lexer :=
  let c := l.cursor
  let spaced := endsWord (c.peekAt 1)
  if ch = '%' && c.column = 0 then l.readDirective
  else if ch = '-' && c.column = 0 && c.atDocumentMark then l.readDocumentMark .documentStart
  else if ch = '.' && c.column = 0 && c.atDocumentMark then l.readDocumentMark .documentEnd
  else if ch = '[' then l.openFlow .flowSequenceStart
  else if ch = '\x7b' then l.openFlow .flowMappingStart
  else if ch = ']' then l.closeFlow .flowSequenceEnd
  else if ch = '\x7d' then l.closeFlow .flowMappingEnd
  else if ch = ',' then l.readFlowEntry
  else if ch = '-' && spaced then l.readBlockEntry
  else if ch = '?' && (l.inFlow || spaced) then l.readKey
  else if ch = ':' && (l.inFlow || spaced) then l.readValue
  else if ch = '*' then l.readAnchor .alias
  else if ch = '&' then l.readAnchor .anchor
  else if ch = '!' then l.readTag
  else if ch = '|' && !l.inFlow then l.readBlockScalar false
  else if ch = '>' && !l.inFlow then l.readBlockScalar true
  else if ch = '\'' then l.readQuoted false
  else if ch = '"' then l.readQuoted true
  else if l.startsPlain ch then l.readPlain
  else none

def finish (l : Lexer) : Option (List Token) :=
  (l.unwind (-1)).forgetKey.map fun l => l.tokens.reverse

def run (l : Lexer) : Option (List Token) :=
  l.cursor.loop (fun c (l : Lexer) => do
    let l ← ({ l with cursor := c } : Lexer).passBlanks
    let l ← l.forgetStale
    let l := l.unwind l.column
    match l.cursor.peek with
    | none => return .done (← l.finish)
    | some ch =>
      let l ← l.readToken ch
      return .again l.cursor l) l

end Lexer

/-- The tokens of a text. A byte order mark at its beginning is passed over. -/
def tokens? (text : List Char) : Option (List Token) :=
  let c := Cursor.start text
  let c := if c.peek = some '\ufeff' then c.next else c
  ({ cursor := c } : Lexer).run

end DroneTactics.Yaml
