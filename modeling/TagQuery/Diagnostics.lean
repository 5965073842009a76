import TagQuery.Text.Basic

/-!
# Warnings and diagnostics

A warning is printed once for each component and message, until the printed warnings are cleared.
Diagnostics belong to one run: they list what was wrong with which document, every time it
happened, whether or not a warning was printed.
-/

namespace TagQuery

/-- The warnings that have been printed. -/
structure Warnings where
  /-- What identifies each of them, the latest last. -/
  printed : List Text
deriving DecidableEq

namespace Warnings

/-- No warning has been printed. -/
def none : Warnings := ⟨[]⟩

instance : Inhabited Warnings := ⟨none⟩

/-- What identifies a warning. -/
def key (component message : Text) : Text := '[' :: (component ++ ']' :: ' ' :: message)

/-- Prints a warning unless it has been printed; whether it is printed now, and all warnings
printed so far. -/
def warnOnce (warnings : Warnings) (component message : Text) : Bool × Warnings :=
  if key component message ∈ warnings.printed then (false, warnings)
  else (true, ⟨warnings.printed ++ [key component message]⟩)

end Warnings

/-- What was wrong with a document. -/
structure Diagnostic where
  url : Text
  message : Text
deriving DecidableEq

/-- What was wrong during a run, in order. -/
structure Diagnostics where
  toList : List Diagnostic
deriving DecidableEq

namespace Diagnostics

/-- Nothing was wrong. -/
def empty : Diagnostics := ⟨[]⟩

instance : EmptyCollection Diagnostics := ⟨empty⟩

instance : Inhabited Diagnostics := ⟨empty⟩

/-- The number of entries. -/
def size (diagnostics : Diagnostics) : Nat := diagnostics.toList.length

/-- Whether nothing was wrong. -/
def isEmpty (diagnostics : Diagnostics) : Bool := diagnostics.toList.isEmpty

/-- The diagnostics with one more entry; nothing is printed. -/
def record (diagnostics : Diagnostics) (url message : Text) : Diagnostics :=
  ⟨diagnostics.toList ++ [⟨url, message⟩]⟩

/-- The diagnostics with one more entry, and the warnings after printing it. -/
def warn (diagnostics : Diagnostics) (warnings : Warnings) (component url message : Text) :
    Diagnostics × Warnings :=
  (diagnostics.record url message,
    (warnings.warnOnce component (url ++ ':' :: ' ' :: message)).2)

end Diagnostics

end TagQuery
