import KeyGadget.Text.Blank

/-!
# Failures

A failure is told with the reasons beneath it. At the end of the program the reasons stand in a list
of their own; in the shell they follow on one line.
-/
namespace KeyGadget.Cli

/-- What went wrong, and why, the nearest reason first. -/
structure Failure where
  message : String
  causes : List String
  deriving DecidableEq, Repr

namespace Failure

/-- What was being done when the failure came up. -/
def during (failure : Failure) (context : String) : Failure :=
  ⟨context, failure.message :: failure.causes⟩

def alignRight (width : Nat) (text : String) : String :=
  String.ofList (List.replicate (width - text.length) ' ') ++ text

/-- The lines of a text, with blanks in front of all but the first. -/
def hanging (indent : Nat) (text : String) : String :=
  let lines := (Text.pieces (· == '\n') text.toList).map String.ofList
  (String.ofList ('\n' :: List.replicate indent ' ')).intercalate lines

/-- The reasons, numbered from `number` on, each on a line of its own. -/
def numbered (number : Nat) : List String → String
  | [] => ""
  | cause :: rest =>
    "\n" ++ alignRight 5 (Nat.repr number) ++ ": " ++ hanging 7 cause ++ numbered (number + 1) rest

/-- The list of reasons. A single one has no number. -/
def causeList : List String → String
  | [] => ""
  | [cause] => "\n\nCaused by:\n    " ++ hanging 4 cause
  | causes => "\n\nCaused by:" ++ numbered 0 causes

def report (failure : Failure) : String :=
  "Error: " ++ failure.message ++ causeList failure.causes ++ "\n"

def remark (failure : Failure) : String :=
  "error: " ++ ": ".intercalate (failure.message :: failure.causes) ++ "\n"

end Failure
end KeyGadget.Cli
