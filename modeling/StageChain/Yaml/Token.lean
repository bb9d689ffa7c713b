import StageChain.Text.Hex
import StageChain.Yaml.Cursor

/-!
# Tokens of a YAML text

A text is cut into tokens. Indentation opens and closes blocks. A scalar or a bracket may turn out
to be the key of a mapping once the colon after it is met, so the place of such a *candidate* is
remembered: at most one for each bracket that is open, on one line and within 1024 characters. A
candidate at the indentation of its block must turn out to be a key.

Scalars in plain style and between single or double quotes are read; anchors, aliases, tags, block
scalars and directives are not, and a text that holds one is refused.

* `tokens?_empty`: an empty text has no token but its end.
-/

namespace StageChain.Yaml

/-- A token. The end of the text is the end of the list of tokens. -/
inductive Token where
  | documentStart
  | documentEnd
  | blockList
  | blockMap
  | blockEnd
  | listOpen
  | listClose
  | mapOpen
  | mapClose
  | comma
  | entry
  | key
  | value
  | scalar (plain : Bool) (text : List Char)
  deriving DecidableEq, Inhabited

/-- What may turn out to be a key: how many tokens precede it, whether it must be a key, and where
it starts. -/
structure Candidate where
  place : Nat
  required : Bool
  index : Nat
  line : Nat
  column : Nat

/-- A scan under way. Tokens and open blocks are kept last first; there is a slot for a candidate
for every open bracket, the innermost first, and one outside all brackets. -/
structure Scan where
  position : Cursor
  tokens : List Token
  indent : Int
  outer : List Int
  slot : Option Candidate
  outerSlots : List (Option Candidate)
  keyAllowed : Bool

namespace Scan

/-- The start of a scan. -/
def start (cs : List Char) : Scan := ⟨.start cs, [], -1, [], none, [], true⟩

/-- Whether a bracket is open. -/
def inFlow (s : Scan) : Bool := !s.outerSlots.isEmpty

/-- Adds a token at the end. -/
def push (s : Scan) (t : Token) : Scan := { s with tokens := t :: s.tokens }

/-- Adds a token before those from a place on. -/
def insertAt (s : Scan) (place : Nat) (t : Token) : Scan :=
  let later := s.tokens.length - place
  { s with tokens := s.tokens.take later ++ t :: s.tokens.drop later }

/-- Moves on by some characters. -/
def move (s : Scan) (n : Nat) : Scan := { s with position := s.position.skip n }

/-- Gives up a candidate; one that must be a key cannot be given up. -/
def dropCandidate? (s : Scan) : Option Scan :=
  match s.slot with
  | some c => if c.required then none else some { s with slot := none }
  | none => some s

/-- Remembers that what starts here may be a key, where keys are allowed. -/
def markCandidate? (s : Scan) : Option Scan :=
  if s.keyAllowed then do
    let required := !s.inFlow && s.indent = s.position.column
    let s ← s.dropCandidate?
    let p := s.position
    return { s with slot := some ⟨s.tokens.length, required, p.index, p.line, p.column⟩ }
  else some s

/-- Whether a candidate is too far behind to be a key still. -/
def isStale (p : Cursor) (c : Candidate) : Bool := c.line ≠ p.line || 1024 < p.index - c.index

/-- A slot without its candidate if that is too far behind. -/
def refresh? (p : Cursor) : Option Candidate → Option (Option Candidate)
  | none => some none
  | some c => if isStale p c then (if c.required then none else some none) else some (some c)

/-- Gives up every candidate that is too far behind. -/
def dropStale? (s : Scan) : Option Scan := do
  let slot ← refresh? s.position s.slot
  let outerSlots ← s.outerSlots.mapM (refresh? s.position)
  return { s with slot := slot, outerSlots := outerSlots }

/-- The tokens and the open blocks after closing those indented further than a column. -/
def closeBlocks (column : Int) :
    List Int → Int → List Token → List Token × Int × List Int
  | [], indent, tokens => (tokens, indent, [])
  | o :: os, indent, tokens =>
    if column < indent then closeBlocks column os o (.blockEnd :: tokens)
    else (tokens, indent, o :: os)

/-- Closes the blocks indented further than a column; inside brackets indentation is free. -/
def unwind (s : Scan) (column : Int) : Scan :=
  if s.inFlow then s
  else
    let (tokens, indent, outer) := closeBlocks column s.outer s.indent s.tokens
    { s with tokens := tokens, indent := indent, outer := outer }

/-- Opens a block at a column that is indented further than the block around it: the scan with the
block open, and whether there is a new one. -/
def openBlock (s : Scan) (column : Int) : Scan × Bool :=
  if s.indent < column then ({ s with indent := column, outer := s.indent :: s.outer }, true)
  else (s, false)

/-- Passes over blanks, comments and ends of lines up to the next token. -/
def toNextToken : (fuel : Nat) → Scan → Scan
  | 0, s => s
  | fuel + 1, s =>
    let p := s.position.skipWhile (· = ' ')
    let p := if p.peek 0 = some '#' then p.skipWhile (!isBreak ·) else p
    match p.takeBreak? with
    | some (_, p) =>
      toNextToken fuel { s with position := p, keyAllowed := s.keyAllowed || !s.inFlow }
    | none => { s with position := p }

end Scan

/-! ### Plain scalars -/

/-- Whether a plain scalar can start with this character, followed by that one. -/
def startsPlain (inFlow : Bool) (c : Char) (next : Option Char) : Bool :=
  (!isGap (some c) && !"-?:,[]\x7b\x7d#&*!|>\x27\x22%@\x60".toList.contains c)
    || (!isGap next && (c = '-' || (!inFlow && (c = '?' || c = ':'))))

/-- The characters of a plain scalar up to a blank, a colon that ends it, or a bracket. -/
def plainRun (inFlow : Bool) : List Char → List Char
  | [] => []
  | c :: cs =>
    let colonEnds := c = ':' && (isGap cs.head?
      || (inFlow && (cs.head?.any fun n => ",[]\x7b\x7d".toList.contains n)))
    if isGap (some c) || colonEnds || (inFlow && ",?[]\x7b\x7d".toList.contains c) then []
    else c :: plainRun inFlow cs

/-- The line ends from here on, with the spaces between them passed over; `none` where a document
ends among them. -/
def plainBreaks? : (fuel : Nat) → Cursor → Option (List Char × Cursor)
  | 0, p => some ([], p)
  | fuel + 1, p =>
    let p := p.skipWhile (· = ' ')
    match p.takeBreak? with
    | some (b, p) =>
      if p.isSeparator then none
      else (plainBreaks? fuel p).map fun (bs, p) => (b :: bs, p)
    | none => some ([], p)

/-- What a line end within a scalar and the empty lines after it read as: a single line feed reads
as a space. -/
def foldBreaks (first : Char) (more : List Char) : List Char :=
  if first ≠ '\n' then first :: more else if more.isEmpty then [' '] else more

/-- The blanks after a word of a plain scalar: what they read as, the place after them, and whether
a line ended. No text means that the scalar ends here. -/
def plainGap (p : Cursor) : List Char × Cursor × Bool :=
  let spaces := p.rest.takeWhile (· = ' ')
  let p := p.skipWhile (· = ' ')
  match p.takeBreak? with
  | some (b, q) =>
    -- a document that starts or ends here ends the scalar
    if q.isSeparator then ([], q, true)
    else match plainBreaks? q.rest.length q with
      | some (bs, r) => (foldBreaks b bs, r, true)
      | none => ([], q.skipWhile fun c => c = ' ' || isBreak c, true)
  | none => (spaces, p, false)

/-- A plain scalar from here on: its text, the place after it, and whether a key is allowed there.
-/
def plainScalar (inFlow : Bool) (indent : Int) :
    (fuel : Nat) → (keyAllowed : Bool) → Cursor → List Char × Cursor × Bool
  | 0, allowed, p => ([], p, allowed)
  | fuel + 1, allowed, p =>
    if p.peek 0 = some '#' then ([], p, allowed)
    else
      let word := plainRun inFlow p.rest
      if word.isEmpty then ([], p, allowed)
      else
        let (gap, q, ended) := plainGap (p.skip word.length)
        -- the gap belongs to the scalar only if another word of it follows
        if gap.isEmpty || q.peek 0 = some '#' || (!inFlow && (q.column : Int) < indent) then
          (word, q, ended)
        else
          let (more, r, allowed) := plainScalar inFlow indent fuel ended q
          if more.isEmpty then (word, r, allowed) else (word ++ gap ++ more, r, allowed)

/-! ### Quoted scalars -/

/-- The character that an escape of one letter stands for. -/
def letterEscape? (c : Char) : Option Char :=
  [('0', '\x00'), ('a', '\x07'), ('b', '\x08'), ('t', '\t'), ('\t', '\t'), ('n', '\n'),
    ('v', '\x0b'), ('f', '\x0c'), ('r', '\r'), ('e', '\x1b'), (' ', ' '), ('\x22', '\x22'),
    ('\\', '\\'), ('/', '/'), ('N', '\u0085'), ('_', '\u00a0'), ('L', '\u2028'),
    ('P', '\u2029')].lookup c

/-- How many digits follow an escape by number. -/
def escapeWidth? (c : Char) : Option Nat := [('x', 2), ('u', 4), ('U', 8)].lookup c

/-- The line ends from here on, with the blanks between them passed over; `none` where a document
ends among them. -/
def quotedBreaks? : (fuel : Nat) → Cursor → Option (List Char × Cursor)
  | 0, p => some ([], p)
  | fuel + 1, p =>
    if p.isSeparator then none
    else
      let p := p.skipWhile fun c => c = ' ' || c = '\t'
      match p.takeBreak? with
      | some (b, p) => (quotedBreaks? fuel p).map fun (bs, p) => (b :: bs, p)
      | none => some ([], p)

/-- The escape after a backslash: the text it stands for and the place after it. -/
def quotedEscape? (p : Cursor) : Option (List Char × Cursor) := do
  let c ← p.peek 0
  match letterEscape? c with
  | some x => return ([x], p.advance)
  | none => match escapeWidth? c with
    | some width =>
      let digits := (p.rest.drop 1).take width
      let n ← Text.readHex? digits
      if digits.length = width ∧ n < 0x110000 then
        let x := if 0xd800 ≤ n ∧ n < 0xe000 then '\ufffd' else Char.ofNat n
        return ([x], p.skip (width + 1))
      else none
    | none => match p.takeBreak? with
      | some (_, q) => quotedBreaks? q.rest.length q
      | none => none

/-- The rest of a quoted scalar: its text and the place after the closing quote. -/
def quotedScalar? (mark : Char) : (fuel : Nat) → Cursor → Option (List Char × Cursor)
  | 0, _ => none
  | fuel + 1, p => do
    let c ← p.peek 0
    if mark = '\x27' ∧ c = mark ∧ p.peek 1 = some mark then
      let (cs, q) ← quotedScalar? mark fuel (p.skip 2)
      return (c :: cs, q)
    else if c = mark then return ([], p.advance)
    else if mark = '\x22' ∧ c = '\\' then
      let (x, q) ← quotedEscape? p.advance
      let (cs, q) ← quotedScalar? mark fuel q
      return (x ++ cs, q)
    else if isGap (some c) then
      -- blanks are kept within a line and dropped where the line ends
      let spaces := p.rest.takeWhile fun c => c = ' ' || c = '\t'
      let q := p.skip spaces.length
      match q.takeBreak? with
      | some (b, q) =>
        let (bs, q) ← quotedBreaks? q.rest.length q
        let (cs, q) ← quotedScalar? mark fuel q
        return (foldBreaks b bs ++ cs, q)
      | none =>
        let (cs, q) ← quotedScalar? mark fuel q
        return (spaces ++ cs, q)
    else
      let (cs, q) ← quotedScalar? mark fuel p.advance
      return (c :: cs, q)

/-! ### Tokens -/

namespace Scan

/-- The start or the end of a document. -/
def separator? (s : Scan) (t : Token) : Option Scan := do
  let s ← (s.unwind (-1)).dropCandidate?
  return ({ s with keyAllowed := false }.push t).move 3

/-- An opening bracket. -/
def openBracket? (s : Scan) (t : Token) : Option Scan := do
  let s ← s.markCandidate?
  let s := { s with slot := none, outerSlots := s.slot :: s.outerSlots, keyAllowed := true }
  return (s.push t).move 1

/-- A closing bracket. -/
def closeBracket? (s : Scan) (t : Token) : Option Scan := do
  let s ← s.dropCandidate?
  match s.outerSlots with
  | [] => none
  | slot :: slots =>
    return ({ s with slot := slot, outerSlots := slots, keyAllowed := false }.push t).move 1

/-- A comma between members. -/
def comma? (s : Scan) : Option Scan := do
  let s ← s.dropCandidate?
  return ({ s with keyAllowed := true }.push .comma).move 1

/-- A block that must be open for a member at this place: it is opened if it is not. -/
def ensureBlock? (s : Scan) (t : Token) : Option Scan :=
  if s.inFlow then some s
  else if s.keyAllowed then
    let (s, isNew) := s.openBlock s.position.column
    some (if isNew then s.push t else s)
  else none

/-- A hyphen before a member of a list. -/
def item? (s : Scan) : Option Scan := do
  let s ← s.ensureBlock? .blockList
  let s ← { s with keyAllowed := true }.dropCandidate?
  return (s.push .entry).move 1

/-- A question mark before a key. -/
def key? (s : Scan) : Option Scan := do
  let s ← s.ensureBlock? .blockMap
  let s ← { s with keyAllowed := !s.inFlow }.dropCandidate?
  return (s.push .key).move 1

/-- A colon: the candidate turns out to be a key, or else the key is empty. -/
def value? (s : Scan) : Option Scan :=
  match s.slot with
  | some c =>
    -- the candidate is a key after all, and the mapping it is in may start with it
    let s := { s with slot := none }.insertAt c.place .key
    let s :=
      if s.inFlow then s
      else
        let (s, isNew) := s.openBlock c.column
        if isNew then s.insertAt c.place .blockMap else s
    some (({ s with keyAllowed := false }.push .value).move 1)
  | none => do
    let s ← s.ensureBlock? .blockMap
    let s ← { s with keyAllowed := !s.inFlow }.dropCandidate?
    return (s.push .value).move 1

/-- A scalar between quotes. -/
def quoted? (s : Scan) (mark : Char) : Option Scan := do
  let s ← s.markCandidate?
  let p := s.position.advance
  let (cs, p) ← quotedScalar? mark (p.rest.length + 1) p
  return { s with position := p, keyAllowed := false }.push (.scalar false cs)

/-- A scalar without quotes. -/
def plain? (s : Scan) : Option Scan := do
  let s ← s.markCandidate?
  let p := s.position
  let (cs, p, allowed) := plainScalar s.inFlow (s.indent + 1) p.rest.length false p
  return { s with position := p, keyAllowed := allowed }.push (.scalar true cs)

/-- The token that starts with this character. -/
def token? (s : Scan) (c : Char) : Option Scan :=
  let p := s.position
  let next := p.peek 1
  if p.column = 0 ∧ c = '%' then none
  else if p.column = 0 ∧ c = '-' ∧ p.isSeparator = true then s.separator? .documentStart
  else if p.column = 0 ∧ c = '.' ∧ p.isSeparator = true then s.separator? .documentEnd
  else if c = '[' then s.openBracket? .listOpen
  else if c = '\x7b' then s.openBracket? .mapOpen
  else if c = ']' then s.closeBracket? .listClose
  else if c = '\x7d' then s.closeBracket? .mapClose
  else if c = ',' then s.comma?
  else if c = '-' ∧ isGap next = true then s.item?
  else if c = '?' ∧ (s.inFlow || isGap next) = true then s.key?
  else if c = ':' ∧ (s.inFlow || isGap next) = true then s.value?
  else if c = '\x27' ∨ c = '\x22' then s.quoted? c
  else if startsPlain s.inFlow c next then s.plain?
  else none

/-- The scan up to the end of the text. -/
def run? : (fuel : Nat) → Scan → Option Scan
  | 0, _ => none
  | fuel + 1, s => do
    let s := s.toNextToken (s.position.rest.length + 1)
    let s ← s.dropStale?
    -- blocks are closed by the first token that is indented less
    let s := s.unwind s.position.column
    match s.position.peek 0 with
    | some c => run? fuel (← s.token? c)
    | none => (s.unwind (-1)).dropCandidate?

end Scan

/-- Whether the character may stand in a YAML text. -/
def isAllowed (c : Char) : Bool :=
  let n := c.toNat
  n = 9 || n = 10 || n = 13 || (0x20 ≤ n && n ≤ 0x7e) || n = 0x85 || (0xa0 ≤ n && n ≤ 0xfffd)
    || 0x10000 ≤ n

/-- The tokens of a text; `none` where it cannot be cut into tokens. -/
def tokens? (cs : List Char) : Option (List Token) :=
  if cs.all isAllowed then
    (Scan.run? (cs.length + 2) (.start cs)).map (·.tokens.reverse)
  else none

theorem tokens?_empty : tokens? [] = some [] := rfl

end StageChain.Yaml
