import KeyGadget.Session.Host
import KeyGadget.Json

/-!
# The account of a run

A run of a script is accounted for line by line. Every line that is not a comment has an entry that
says what was done about it, in the order of the lines.
-/
namespace KeyGadget

inductive Status
  | typed (characters : Nat) (missed : List Char)
  | pressed (key : String) (modifiers : Modifiers)
  | combo (modifiers : Modifiers) (key : Option Key) (unknown : List String)
  | delayed (ms : Nat)
  | defaultDelay (ms : Nat)
  | unsupported (keyword : String)
  | skipped (reason : String)
  deriving DecidableEq, Repr

namespace Status

/-- Whether nothing could be done about the line. -/
def isSkipped : Status → Bool
  | .skipped _ => true
  | _ => false

def isClean : Status → Bool
  | .skipped _ => false
  | .typed _ missed => missed.isEmpty
  | .combo _ _ unknown => unknown.isEmpty
  | _ => true

/-- A member that is left out if the list is empty. -/
def unlessEmpty (name : String) (items : List Json) : List (String × Json) :=
  if items.isEmpty then [] else [(name, .list items)]

/-- The members of the JSON object of an entry that tell its status. -/
def members : Status → List (String × Json)
  | .typed characters missed =>
    [("status", .text "typed"), ("characters", .number characters)] ++
      unlessEmpty "skipped" (missed.map fun c => .text (String.singleton c))
  | .pressed key modifiers =>
    [("status", .text "pressed"), ("key", .text key), ("modifier", .number modifiers.bits.toNat)]
  | .combo modifiers key unknown =>
    [("status", .text "combo"), ("modifier", .number modifiers.bits.toNat),
      ("key", match key with
        | some key => .text key.label
        | none => .null)] ++
      unlessEmpty "unknown" (unknown.map .text)
  | .delayed ms => [("status", .text "delayed"), ("ms", .number ms)]
  | .defaultDelay ms => [("status", .text "default_delay"), ("ms", .number ms)]
  | .unsupported keyword => [("status", .text "unsupported"), ("keyword", .text keyword)]
  | .skipped reason => [("status", .text "skipped"), ("reason", .text reason)]

end Status

/-- What was done about the line with a number. -/
structure Entry where
  line : Nat
  source : String
  status : Status
  deriving DecidableEq, Repr

def Entry.toJson (entry : Entry) : Json :=
  .object ([("line", .number entry.line), ("source", .text entry.source)] ++ entry.status.members)

structure Account where
  entries : List Entry
  deriving DecidableEq, Repr

namespace Account

def skipped (account : Account) : Nat :=
  account.entries.countP (·.status.isSkipped)

def isClean (account : Account) : Bool :=
  account.entries.all (·.status.isClean)

def toJson (account : Account) : Json :=
  .object [("lines", .list (account.entries.map Entry.toJson))]

end Account
end KeyGadget
