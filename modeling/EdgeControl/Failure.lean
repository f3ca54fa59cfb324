/-!
Failures with the causes behind them, in the two forms in which a program tells them: one line for
other programs, and a paragraph for the operator.
-/
namespace EdgeControl

/-- What went wrong, and the causes behind it, the nearest first. -/
structure Failure where
  text : String
  causes : List String := []
  deriving DecidableEq, Inhabited, Repr

namespace Failure

def chain (f : Failure) : String := ": ".intercalate (f.text :: f.causes)

/-- The lines that list causes. Several causes are numbered from 0 on. -/
def causeLines : List String → List String
  | [cause] => [s!"    {cause}"]
  | causes => causes.mapIdx fun i cause => s!"    {i}: {cause}"

def report (f : Failure) : String :=
  let causes := if f.causes.isEmpty then [] else "" :: "Caused by:" :: causeLines f.causes
  String.join ((s!"Error: {f.text}" :: causes).map (· ++ "\n"))

end Failure

inductive Refusal where
  | notPermitted
  | noSuchFile
  | accessDenied
  | isDirectory
  | invalidArgument
  deriving DecidableEq, Repr

def Refusal.message : Refusal → String
  | notPermitted => "Operation not permitted (os error 1)"
  | noSuchFile => "No such file or directory (os error 2)"
  | accessDenied => "Permission denied (os error 13)"
  | isDirectory => "Is a directory (os error 21)"
  | invalidArgument => "Invalid argument (os error 22)"

end EdgeControl
