import StageChain.Fault

/-!
# The console

Banners and messages of the command line are laid out and coloured by a package of its own, so the
console is given from outside: of a title or a message it makes what is printed, or it fails.

* `Console.Prints`: **what may be relied on** of a console.
-/

namespace StageChain

/-- What the console makes of titles and messages. -/
structure Console where
  /-- A title between lines. -/
  banner : Value → Except Fault String
  success : String → Except Fault String
  failure : String → Except Fault String
  information : String → Except Fault String

/-- **What may be relied on**: every text is printed, and a title that is no text is an error. -/
structure Console.Prints (c : Console) : Prop where
  banner_text : ∀ s, ∃ out, c.banner (.text s) = .ok out
  banner_other : ∀ v, (∀ s, v ≠ .text s) → c.banner v = .error (.notTitle v)
  success : ∀ s, ∃ out, c.success s = .ok out
  failure : ∀ s, ∃ out, c.failure s = .ok out
  information : ∀ s, ∃ out, c.information s = .ok out

end StageChain
