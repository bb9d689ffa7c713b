import StageChain.Value.Printed

/-!
# Faults

A fault is an error that the library meets but does not make: a storage, a substrate, a source of
names or a file system fails, or a value cannot be used as what it stands for. Every fault has a
kind, by which reports name it, and a message: an error of which the text cannot even be made is no
fault, and what happens then is not described here.

* `message_raised_nil`: a fault without arguments has no text.
* `Steps.bind_eq_ok`, `Steps.bind_eq_error`: how steps in a row end.
-/

namespace StageChain

/-- Why the file system refuses an operation. -/
inductive SystemError where
  | notFound
  | alreadyExists
  | notDirectory
  | isDirectory
  | invalidArgument
  | directoryNotEmpty
  | tooManyLinks
  deriving DecidableEq, Repr, Inhabited

namespace SystemError

/-- The number of the error. -/
def code : SystemError → Nat
  | notFound => 2
  | alreadyExists => 17
  | notDirectory => 20
  | isDirectory => 21
  | invalidArgument => 22
  | directoryNotEmpty => 39
  | tooManyLinks => 40

/-- The text of the error. -/
def text : SystemError → String
  | notFound => "No such file or directory"
  | alreadyExists => "File exists"
  | notDirectory => "Not a directory"
  | isDirectory => "Is a directory"
  | invalidArgument => "Invalid argument"
  | directoryNotEmpty => "Directory not empty"
  | tooManyLinks => "Too many levels of symbolic links"

end SystemError

/-- The kinds that a collaborator's fault may have. -/
inductive FaultKind where
  | runtime
  | system
  | value
  | key
  | type
  /-- A general error of a pipeline. -/
  | pipeline
  /-- An error in the planning of a pipeline. -/
  | planning
  deriving DecidableEq, Repr, Inhabited

/-- An error from outside. -/
inductive Fault where
  /-- A collaborator failed, with some arguments. -/
  | raised (kind : FaultKind) (args : List Value)
  /-- The file system refused an operation on a path. -/
  | refused (error : SystemError) (path : String)
  /-- A location was handed out twice. -/
  | duplicateLocation (location : String)
  /-- There is something below a location that should be deleted alone. -/
  | notEmpty (location : String)
  /-- A value of this kind cannot be looked up. -/
  | unhashable (kind : String)
  /-- A whole number is too large for a double. -/
  | tooLarge
  /-- A number in this base has no digit. -/
  | noDigits (base : Nat)
  /-- The path of a log file is this value and not a text. -/
  | notReplaceable (v : Value)
  /-- A title is this value and not a text. -/
  | notTitle (v : Value)
  /-- There is no log level of this name. -/
  | unknownLevel (name : String)
  /-- The bytes of a file are no text. -/
  | undecodable
  /-- A module is named relative to a package and there is none. -/
  | noPackage (name : String)
  /-- A pipeline should run and there is nothing to run it on. -/
  | noSubstrate
  deriving DecidableEq, Inhabited

/-- The name of a kind. -/
def FaultKind.name : FaultKind → String
  | .runtime => "RuntimeError"
  | .system => "OSError"
  | .value => "ValueError"
  | .key => "KeyError"
  | .type => "TypeError"
  | .pipeline => "GraphStageError"
  | .planning => "PlanningError"

namespace Fault

/-- The kind of a system fault with this number, where there is one of its own. -/
def systemKindName (code : Int) : String :=
  if code ∈ [1, 13] then "PermissionError"
  else if code = 2 then "FileNotFoundError"
  else if code = 3 then "ProcessLookupError"
  else if code = 4 then "InterruptedError"
  else if code = 10 then "ChildProcessError"
  else if code ∈ [11, 114, 115] then "BlockingIOError"
  else if code = 17 then "FileExistsError"
  else if code = 20 then "NotADirectoryError"
  else if code = 21 then "IsADirectoryError"
  else if code ∈ [32, 108] then "BrokenPipeError"
  else if code = 103 then "ConnectionAbortedError"
  else if code = 104 then "ConnectionResetError"
  else if code = 110 then "TimeoutError"
  else if code = 111 then "ConnectionRefusedError"
  else "OSError"

/-- The foreign kinds of which a part is replaced by its number. Of what equals a text parts are
replaced as of one. -/
def dateKinds : List String := ["date", "datetime", "time"]

/-- The kind of a fault. -/
def kindName : Fault → String
  | raised .system (.int code :: _ :: _) => systemKindName code
  | raised kind _ => kind.name
  | refused e _ => systemKindName e.code
  | duplicateLocation _ | noDigits _ | noSubstrate => "ValueError"
  | notEmpty _ => "OSError"
  | unhashable _ | notTitle _ | noPackage _ => "TypeError"
  | tooLarge => "OverflowError"
  | notReplaceable (.bytes _) => "TypeError"
  | notReplaceable (.other self _) =>
    if self.equals.isSome || self.kind ∈ dateKinds then "TypeError" else "AttributeError"
  | notReplaceable _ | unknownLevel _ => "AttributeError"
  | undecodable => "UnicodeDecodeError"

/-- Arguments as the text of a fault: none is an empty text, one stands by itself, and several stand
between parentheses. -/
def argumentsText : List Value → String
  | [] => ""
  | [v] => v.plain
  | vs => "(" ++ Value.quotedItems vs ++ ")"

/-- A system error by its number and text. -/
def systemText (code text : String) : String := "[Errno " ++ code ++ "] " ++ text

/-- The message of a fault that a collaborator raised. A key stands between quotes, and a system
fault has a number, a text and perhaps a file. -/
def raisedText : FaultKind → List Value → String
  | .key, [v] => v.quoted
  | .system, [code, text] => systemText code.plain text.plain
  | .system, [code, text, file] => systemText code.plain text.plain ++ ": " ++ file.quoted
  | _, args => argumentsText args

/-- The message of a fault. -/
def message : Fault → String
  | raised kind args => raisedText kind args
  | refused e path => systemText (toString e.code) e.text ++ ": " ++ Text.quoted path
  | duplicateLocation l => "Location factory returned a duplicate name: " ++ l
  | notEmpty l => "Location is not empty: " ++ l
  | unhashable kind => "unhashable type: " ++ Text.quoted kind
  | tooLarge => "int too large to convert to float"
  | noDigits base => "invalid literal for int() with base " ++ toString base ++ ": ''"
  | notReplaceable (.bytes _) => "a bytes-like object is required, not 'str'"
  | notReplaceable (.other self _) =>
    if self.equals.isSome then "expected str, bytes or os.PathLike object, not " ++ self.kind
    else if self.kind ∈ dateKinds then "'str' object cannot be interpreted as an integer"
    else Text.quoted self.kind ++ " object has no attribute 'replace'"
  | notReplaceable v => Text.quoted v.kindName ++ " object has no attribute 'replace'"
  | notTitle (.bytes _) => "cannot use a string pattern on a bytes-like object"
  | notTitle v => "expected string or bytes-like object, got " ++ Text.quoted v.kindName
  | unknownLevel name => "module 'logging' has no attribute " ++ Text.quoted name
  | undecodable => ""
  | noPackage name =>
    "the 'package' argument is required to perform a relative import for " ++ Text.quoted name
  | noSubstrate => "A substrate is required to run a pipeline"

/-- Whether the fault is one of the pipeline's own kinds, which pass through planning unchanged. -/
def isOwn : Fault → Bool
  | raised .pipeline _ | raised .planning _ => true
  | _ => false

/-- Whether the fault is one in planning. -/
def isPlanning : Fault → Bool
  | raised .planning _ => true
  | _ => false

/-- What a report says of a fault: its message, or its kind if it has none. -/
def summary (f : Fault) : String := if f.message = "" then f.kindName else f.message

theorem message_raised_nil (kind : FaultKind) : message (raised kind []) = "" := by
  cases kind <;> rfl

end Fault

namespace Steps

variable {ε α β : Type} {x : Except ε α} {f : α → Except ε β}

/-- Steps in a row succeed if each does. -/
theorem bind_eq_ok {b : β} : (x >>= f) = .ok b ↔ ∃ a, x = .ok a ∧ f a = .ok b := by
  cases x with
  | error e =>
    change (Except.error e : Except ε β) = _ ↔ _
    simp
  | ok a =>
    change f a = _ ↔ _
    simp

/-- Steps in a row fail with the first that does. -/
theorem bind_eq_error {e : ε} :
    (x >>= f) = .error e ↔ x = .error e ∨ ∃ a, x = .ok a ∧ f a = .error e := by
  cases x with
  | error e' =>
    change (Except.error e' : Except ε β) = _ ↔ _
    simp
  | ok a =>
    change f a = _ ↔ _
    simp

end Steps

end StageChain
