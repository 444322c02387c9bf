import DroneTactics.Text.Digits
import DroneTactics.Text.Surrogate
import DroneTactics.Yaml.Cursor

/-!
The texts of YAML scalars: plain, in quotes, and as blocks of lines. Lines of a plain
or quoted scalar are folded: a single line end becomes a space, and of several the
first is dropped. Every reader returns the text and the place after it.
-/

namespace DroneTactics.Yaml

/-! ### Plain scalars -/

/-- How far a plain scalar goes without a blank. In a flow collection the marks of
that collection end it, too. -/
def plainRun (flow : Bool) : List Char → Nat
  | [] => 0
  | ch :: rest =>
    if endsWord (some ch) then 0
    else if ch = ':' && (endsWord rest.head? || (flow && rest.head?.any isFlowMark)) then 0
    else if flow && (ch = '?' || isFlowMark ch) then 0
    else plainRun flow rest + 1

/-- The line ends and indentation inside a plain scalar, from after its first line
end; none if a document ends there. -/
def plainBreaks (c : Cursor) : Option (Option (List Char) × Cursor) :=
  c.loop (fun c (breaks : List Char) =>
    if c.atDocumentMark && c.column = 0 then some (.done (none, c))
    else if c.peek = some ' ' then some (.again c.next breaks)
    else match c.lineBreak? with
      | some (ch, c') => some (.again c' (ch :: breaks))
      | none => some (.done (some breaks.reverse, c))) []

structure Gap where
  text : List Char
  after : Cursor
  /-- The gap goes over the end of a line. -/
  broken : Bool

def fold (first : Char) (breaks : List Char) : List Char :=
  if first ≠ '\n' then first :: breaks
  else if breaks.isEmpty then [' '] else breaks

/-- The gap at a place in a plain scalar; it has no text where the scalar ends. -/
def plainGap (c : Cursor) : Option Gap :=
  let (spaces, c) := c.span (· = ' ')
  match c.lineBreak? with
  | none => some ⟨spaces, c, false⟩
  | some (first, c) =>
    (plainBreaks c).map fun (breaks, c) =>
      ⟨match breaks with | some bs => fold first bs | none => [], c, true⟩

structure Scanned where
  /-- The characters that spell it. -/
  text : List Char
  after : Cursor
  /-- The scalar ends at the end of a line, so that a new key may follow. -/
  broken : Bool := false

/-- A plain scalar whose lines are indented by at least `indent`. -/
def plainScalar (flow : Bool) (indent : Int) (c : Cursor) : Option Scanned :=
  c.loop (fun c (text, gap, broken) =>
    let n := plainRun flow c.rest
    if n = 0 || c.peek = some '#' then some (.done ⟨Text.spelling text, c, broken⟩)
    else
      let text := text ++ gap ++ c.rest.take n
      (plainGap (c.skip n)).map fun g =>
        if g.text.isEmpty || g.after.peek = some '#' || (!flow && g.after.column < indent) then
          .done ⟨Text.spelling text, g.after, g.broken⟩
        else .again g.after (text, g.text, g.broken))
    (([] : List Char), ([] : List Char), false)

/-! ### Quoted scalars -/

def escape? : Char → Option Char
  | '0' => some '\x00'
  | 'a' => some '\x07'
  | 'b' => some '\x08'
  | 't' => some '\t'
  | '\t' => some '\t'
  | 'n' => some '\n'
  | 'v' => some '\x0b'
  | 'f' => some '\x0c'
  | 'r' => some '\r'
  | 'e' => some '\x1b'
  | ' ' => some ' '
  | '"' => some '"'
  | '\\' => some '\\'
  | '/' => some '/'
  | 'N' => some '\x85'
  | '_' => some '\xa0'
  | 'L' => some '\u2028'
  | 'P' => some '\u2029'
  | _ => none

def escapeWidth? : Char → Option Nat
  | 'x' => some 2
  | 'u' => some 4
  | 'U' => some 8
  | _ => none

def quotedBreaks (c : Cursor) : Option (List Char × Cursor) :=
  c.loop (fun c (breaks : List Char) =>
    if c.atDocumentMark && c.column = 0 then none
    else
      let c := c.skipWhile isBlank
      match c.lineBreak? with
      | some (ch, c') => some (.again c' (ch :: breaks))
      | none => some (.done (breaks.reverse, c))) []

/-- The spelling of what an escape stands for, from the character after the backslash. -/
def quotedEscape (c : Cursor) : Option (List Char × Cursor) := do
  let ch ← c.peek
  match escape? ch, escapeWidth? ch with
  | some plain, _ => some ([plain], c.next)
  | none, some width =>
    let digits := c.next.rest.take width
    if digits.length = width then
      (Text.inBase? 16 digits).bind fun code =>
        if code ≤ 0x10ffff then some (Text.spelled code, c.next.skip width) else none
    else none
  | none, none =>
    let (_, c) ← c.lineBreak?
    quotedBreaks c

def isQuotedPlain (ch : Char) : Bool :=
  !(ch = '\'' || ch = '"' || ch = '\\' || isBlank ch || isBreak ch)

/-- The spelling of what is inside quotes up to a blank or the closing quote. -/
def quotedRun (double : Bool) (c : Cursor) : Option (List Char × Cursor) :=
  c.loop (fun c (text : List Char) =>
    let (run, c) := c.span isQuotedPlain
    let text := text ++ Text.spelling run
    match c.peek with
    | some '\'' =>
      if double then some (.again c.next (text ++ ['\'']))
      else if c.peekAt 1 = some '\'' then some (.again (c.skip 2) (text ++ ['\'']))
      else some (.done (text, c))
    | some '"' => if double then some (.done (text, c)) else some (.again c.next (text ++ ['"']))
    | some '\\' =>
      if double then (quotedEscape c.next).map fun (more, c) => .again c (text ++ more)
      else some (.again c.next (text ++ ['\\']))
    | _ => some (.done (text, c))) []

/-- Blanks and line ends inside quotes, folded. The text must not end there. -/
def quotedGap (c : Cursor) : Option (List Char × Cursor) :=
  let (blanks, c) := c.span isBlank
  match c.peek, c.lineBreak? with
  | none, _ => none
  | some _, some (first, c) => (quotedBreaks c).map fun (breaks, c) => (fold first breaks, c)
  | some _, none => some (blanks, c)

def quotedScalar (double : Bool) (c : Cursor) : Option Scanned := do
  let quote := if double then '"' else '\''
  let (text, c) ← quotedRun double c.next
  c.loop (fun c (text : List Char) =>
    if c.peek = some quote then some (.done ⟨text, c.next, false⟩)
    else (quotedGap c).bind fun (gap, c) =>
      (quotedRun double c).map fun (run, c) => .again c (text ++ gap ++ run)) text

/-! ### Block scalars -/

inductive Chomping where
  | clip
  | strip
  | keep
  deriving DecidableEq

def Chomping.ofSign? : Option Char → Option Chomping
  | some '+' => some .keep
  | some '-' => some .strip
  | _ => none

def blockIncrement? (ch : Option Char) : Option Nat :=
  ch.bind fun d => if d.isDigit then some (d.toNat - '0'.toNat) else none

/-- The signs after the mark of a block scalar, in either order. -/
def blockHeader (c : Cursor) : Option (Chomping × Option Nat × Cursor) :=
  let (chomping, c) := match Chomping.ofSign? c.peek with
    | some ch => (some ch, c.next)
    | none => (none, c)
  let (increment, c) := match blockIncrement? c.peek with
    | some n => (some n, c.next)
    | none => (none, c)
  let (chomping, c) := match chomping, increment, Chomping.ofSign? c.peek with
    | none, some _, some ch => (some ch, c.next)
    | _, _, _ => (chomping, c)
  if increment = some 0 || !endsField c.peek then none
  else some (chomping.getD .clip, increment, c)

def restOfLine (c : Cursor) : Option Cursor :=
  let c := c.skipWhile (· = ' ')
  let c := if c.peek = some '#' then c.skipWhile fun ch => !isBreak ch else c
  match c.peek, c.lineBreak? with
  | none, _ => some c
  | some _, some (_, c) => some c
  | some _, none => none

/-- Empty lines before the first line of a block scalar, and the widest indentation
seen there. -/
def blockIndentation (c : Cursor) : Option (List Char × Nat × Cursor) :=
  c.loop (fun c (breaks, widest) =>
    if c.peek = some ' ' then some (.again c.next (breaks, max widest c.next.column))
    else match c.lineBreak? with
      | some (ch, c') => some (.again c' (ch :: breaks, widest))
      | none => some (.done (breaks.reverse, widest, c))) (([] : List Char), 0)

/-- Empty lines, with at most `indent` columns of each taken for indentation. -/
def blockBreaks (indent : Nat) (c : Cursor) : Option (List Char × Cursor) :=
  c.loop (fun c (breaks : List Char) =>
    if c.column < indent && c.peek = some ' ' then some (.again c.next breaks)
    else match c.lineBreak? with
      | some (ch, c') => some (.again c' (ch :: breaks))
      | none => some (.done (breaks.reverse, c))) []

/-- A block scalar as it grows: the text so far, the last line end, and the empty
lines after it. -/
structure BlockText where
  text : List Char
  lastBreak : List Char
  breaks : List Char

def startsFlush (c : Cursor) : Bool := !c.peek.any isBlank

/-- The line ends before the next line. In a folded scalar a single one between two
flush lines is a space. -/
def blockJoin (folded : Bool) (flush : Bool) (b : BlockText) (c : Cursor) : List Char :=
  if folded && b.lastBreak = ['\n'] && flush && startsFlush c then
    if b.breaks.isEmpty then [' '] else []
  else b.lastBreak

def blockLines (folded : Bool) (indent : Nat) (c : Cursor) (breaks : List Char) :
    Option (BlockText × Cursor) :=
  c.loop (fun c (b : BlockText) =>
    if c.column ≠ indent || c.peek.isNone then some (.done (b, c))
    else
      let flush := startsFlush c
      let (line, c) := c.span fun ch => !isBreak ch
      let text := b.text ++ b.breaks ++ line
      let (lastBreak, c) := match c.lineBreak? with
        | some (ch, c) => ([ch], c)
        | none => ([], c)
      (blockBreaks indent c).map fun (breaks, c) =>
        let b : BlockText := { text, lastBreak, breaks }
        if c.column = indent && c.peek.isSome then
          .again c { b with text := text ++ blockJoin folded flush b c }
        else .done (b, c))
    { text := [], lastBreak := [], breaks }

/-- A block scalar inside a collection indented by `indent`, from its mark. -/
def blockScalar (folded : Bool) (indent : Int) (c : Cursor) : Option Scanned := do
  let (chomping, increment, c) ← blockHeader c.next
  let c ← restOfLine c
  let least := (max 1 (indent + 1)).toNat
  let (breaks, indent, c) ← match increment with
    | none => (blockIndentation c).map fun (breaks, widest, c) => (breaks, max least widest, c)
    | some n => (blockBreaks (least + n - 1) c).map fun (breaks, c) => (breaks, least + n - 1, c)
  let (b, c) ← blockLines folded indent c breaks
  let ending := match chomping with
    | .strip => []
    | .clip => b.lastBreak
    | .keep => b.lastBreak ++ b.breaks
  some ⟨Text.spelling (b.text ++ ending), c, false⟩

end DroneTactics.Yaml
