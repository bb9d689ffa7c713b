import StageChain.Text.Blank
import StageChain.Text.CodeRange
import StageChain.Text.WidthTable

/-!
# Columns of a console

How many columns a text takes on a console, and how a message is laid out on a console of a fixed
width: words stay whole where they fit on a line, a word longer than a line is cut where the line is
full, and a tab reaches to the next multiple of eight columns.

* `chop_flatten`: cutting a long word loses no character.
-/

namespace StageChain.Text

/-- The columns of one character; controls and combining marks take none. -/
def charColumns (c : Char) : Nat :=
  if c.toNat < 32 then 0
  else if c.toNat < 127 then 1
  else if c.toNat < 160 then 0
  else if inRanges combiningRanges c then 0
  else if inRanges wideRanges c then 2
  else 1

/-- The columns of a text. -/
def columns (cs : List Char) : Nat := cs.foldr (fun c n => charColumns c + n) 0

/-- The longest beginning that fits into the columns, and the rest. -/
def takeColumns : (room : Nat) → List Char → List Char × List Char
  | _, [] => ([], [])
  | room, c :: cs =>
    if charColumns c ≤ room then
      let (line, rest) := takeColumns (room - charColumns c) cs
      (c :: line, rest)
    else ([], c :: cs)

/-- A word cut into pieces of at most `width` columns; `used` columns of the piece under way are
taken. The last piece is the one after which nothing is cut. -/
def chop (width : Nat) : (used : Nat) → (piece : List Char) → List Char → List (List Char)
  | _, piece, [] => [piece.reverse]
  | used, piece, c :: cs =>
    if width < used + charColumns c then piece.reverse :: chop width (charColumns c) [c] cs
    else chop width (used + charColumns c) (c :: piece) cs

theorem chop_flatten (width used : Nat) (piece cs : List Char) :
    (chop width used piece cs).flatten = piece.reverse ++ cs := by
  induction cs generalizing used piece with
  | nil => simp [chop]
  | cons c cs ih =>
    unfold chop
    split <;> simp [ih]

/-- A word with the blanks around it, and what follows it. Text of blanks alone holds no word. -/
def splitWord? (cs : List Char) : Option (List Char × List Char) :=
  let lead := cs.takeWhile isBlank
  let body := (cs.dropWhile isBlank).takeWhile (!isBlank ·)
  let rest := (cs.dropWhile isBlank).dropWhile (!isBlank ·)
  if body.isEmpty then none
  else some (lead ++ body ++ rest.takeWhile isBlank, rest.dropWhile isBlank)

/-- The words of a text, each with the blanks around it; at most `fuel` of them. -/
def splitWords : (fuel : Nat) → List Char → List (List Char)
  | 0, _ => []
  | fuel + 1, cs => match splitWord? cs with
    | none => if cs.isEmpty then [] else [cs]
    | some (word, rest) => word :: splitWords fuel rest

/-- Lays words out on lines. `line` is the line under way, `used` its columns and `first` whether
nothing was placed yet. -/
def fillLines (width : Nat) :
    (line : List Char) → (used : Nat) → List (List Char) → List (List Char)
  | line, _, [] => [line]
  | line, used, word :: words =>
    let bare := columns (trimRight word)
    if bare ≤ width - used then fillLines width (line ++ word) (used + columns word) words
    else if width < bare then
      let pieces := chop width 0 [] word
      let last := pieces.getLastD []
      let before := pieces.dropLast
      (if line.isEmpty then before else line :: before)
        ++ fillLines width last (columns last) words
    else if used = 0 ∨ line.isEmpty then
      fillLines width (line ++ word) used words
    else line :: fillLines width word (columns word) words

/-- Tabs written out as spaces, up to the next multiple of eight columns. -/
def expandTabs : (column : Nat) → List Char → List Char
  | _, [] => []
  | column, c :: cs =>
    if c = '\t' then
      let n := 8 - column % 8
      List.replicate n ' ' ++ expandTabs (column + n) cs
    else c :: expandTabs (column + charColumns c) cs

/-- One line of a message on a console of the given width. -/
def wrapLine (width : Nat) (cs : List Char) : List (List Char) :=
  let cs := expandTabs 0 cs
  fillLines width [] 0 (splitWords cs.length cs)

/-- The lines of a text, the last one being what follows the last line feed. -/
def splitLines : List Char → List (List Char)
  | [] => [[]]
  | c :: cs =>
    if c = '\n' then [] :: splitLines cs
    else match splitLines cs with
      | [] => [[c]]
      | l :: ls => (c :: l) :: ls

/-- Bell, backspace, vertical tab, form feed and carriage return do not reach the console. -/
def isConsoleControl (c : Char) : Bool := [7, 8, 11, 12, 13].contains c.toNat

/-- A message laid out on a console, each line ended by a line feed. -/
def wrapped (width : Nat) (s : String) : String :=
  let lines := (splitLines (s.toList.filter (!isConsoleControl ·))).flatMap (wrapLine width)
  String.ofList (lines.flatMap fun l => trimRight l ++ ['\n'])

end StageChain.Text
