import StageChain.CommandLine.Console
import StageChain.Text.Width

/-!
# A console of two hundred columns

The console that the program comes with. Nothing is coloured: there is a banner, and there are lines
that start with a mark for success, failure or information.

* `prints_console`: every text is printed.
* `shown_of_no_backslash`: a text without backslashes is shown as it is.
-/

namespace StageChain.Terminal

open Text

/-- The columns of the console. -/
def width : Nat := 200

/-- Whether what follows an opening bracket makes it the start of a tag: a small letter or one of
the characters `#/@`, and a closing bracket before any further opening one. -/
def opensTag : List Char → Bool
  | [] => false
  | c :: cs =>
    (c.isLower || ['#', '/', '@'].contains c)
      && (cs.dropWhile fun c => c ≠ '[' && c ≠ ']').head? = some ']'

/-- A text as the console shows it. Tags have no effect and are shown as they are; a backslash
before a bracket that starts no tag is lost. -/
def shown : List Char → List Char
  | '\\' :: '[' :: cs => if opensTag cs then '\\' :: '[' :: shown cs else '[' :: shown cs
  | c :: cs => c :: shown cs
  | [] => []

/-- A message after a mark. -/
def message (mark : Char) (s : String) : String :=
  wrapped width (String.ofList (mark :: ' ' :: shown s.toList))

/-- A message of success. -/
def success (s : String) : String := message '✓' s

/-- A message of failure. -/
def failure (s : String) : String := message '✗' s

/-- A message of information. -/
def information (s : String) : String := message 'ℹ' s

/-- A text of at most so many columns: the longest beginning that fits, filled up with a space. -/
def cut (n : Nat) (cs : List Char) : List Char :=
  if columns cs ≤ n then cs
  else
    let kept := (takeColumns n cs).1
    kept ++ List.replicate (n - columns kept) ' '

/-- A title on one line, with an ellipsis if it is too long for a banner. -/
def bannerTitle (s : String) : List Char :=
  let cs := ((shown s.toList).filter (!isConsoleControl ·)).map fun c => if c = '\n' then ' ' else c
  let cs := expandTabs 0 cs
  if columns cs ≤ width - 4 then cs else cut (width - 5) cs ++ ['…']

/-- A title in the middle of a line. -/
def banner (s : String) : String :=
  let title := bannerTitle s
  let side := (width - columns title) / 2
  let left := List.replicate (side - 1) '─' ++ ' ' :: title ++ [' ']
  String.ofList (left ++ List.replicate (width - columns left) '─' ++ ['\n'])

/-- The console. A title is a text. -/
def console : Console where
  banner
    | .text s => .ok (banner s)
    | v => .error (.notTitle v)
  success s := .ok (success s)
  failure s := .ok (failure s)
  information s := .ok (information s)

/-- It prints every text. -/
theorem prints_console : console.Prints where
  banner_text s := ⟨_, rfl⟩
  banner_other v h := by
    cases v with
    | text s => exact absurd rfl (h s)
    | _ => rfl
  success s := ⟨_, rfl⟩
  failure s := ⟨_, rfl⟩
  information s := ⟨_, rfl⟩

theorem shown_of_no_backslash (cs : List Char) (h : '\\' ∉ cs) : shown cs = cs := by
  fun_induction shown cs with
  | case1 => simp at h
  | case2 => simp at h
  | case3 c cs _ ih => rw [ih (fun hc => h (List.mem_cons_of_mem _ hc))]
  | case4 => rfl

end StageChain.Terminal
