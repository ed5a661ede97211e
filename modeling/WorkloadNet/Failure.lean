import WorkloadNet.SystemError

/-!
# Failures

Everything that can go wrong is one of the kinds of `Failure`. Callers tell failures apart by kind
and never by text: `Failure.isAlreadyExists` and `Failure.isNotFound` look through the steps that a
failure was annotated with, so an annotated failure keeps its kind.

A cleanup that attempts every step collects what failed in a list; `Failure.ofList` says what such a
list amounts to.
-/

namespace WorkloadNet

/-- What an input or output operation reported. -/
inductive IoCause where
  /-- The operating system refused, with this number. -/
  | system (number : Int)
  /-- The operation failed on its own account. -/
  | other (message : String)
  deriving DecidableEq, Repr

/-- The wording of a cause. -/
def IoCause.text : IoCause → String
  | system number => systemErrorText number ++ " (os error " ++ toString number ++ ")"
  | other message => message

/-- Why an operation failed. -/
inductive Failure where
  /-- A setting is missing or invalid. -/
  | config (message : String)
  /-- An object of this kind and name is already present. -/
  | alreadyExists (kind name : String)
  /-- An object of this kind and name is missing. -/
  | notFound (kind name : String)
  /-- Another operation on the system failed. -/
  | kernel (operation message : String)
  /-- A failure, annotated with the step that met it. -/
  | context (step : String) (cause : Failure)
  /-- A failure whose cleanup failed too. -/
  | rollback (primary cleanup : Failure)
  /-- The routing table holds no default route. -/
  | noDefaultRoute
  /-- A watch ended. -/
  | watchTerminated (reason : String)
  /-- A name server did not answer a query. -/
  | nameServer (server message : String)
  /-- An operation on a file failed. -/
  | io (path : String) (cause : IoCause)
  /-- Several independent steps failed. -/
  | multiple (failures : List Failure)
  /-- A text is not of the expected form. -/
  | serialization
  deriving Repr, BEq

namespace Failure

mutual

/-- The wording of a failure. -/
def text : Failure → String
  | config message => "invalid configuration: " ++ message
  | alreadyExists kind name => kind ++ " " ++ name ++ " already exists"
  | notFound kind name => kind ++ " " ++ name ++ " not found"
  | kernel operation message => operation ++ " failed: " ++ message
  | context step cause => step ++ ": " ++ cause.text
  | rollback primary cleanup => primary.text ++ ", " ++ cleanup.text
  | noDefaultRoute => "network disconnected: no default route"
  | watchTerminated reason => "watch terminated: " ++ reason
  | nameServer server message => "upstream " ++ server ++ ": " ++ message
  | io path cause => "I/O error at " ++ path ++ ": " ++ cause.text
  | multiple failures => "; ".intercalate (texts failures)
  | serialization => "serialization error"

/-- The wordings of several failures. -/
def texts : List Failure → List String
  | [] => []
  | failure :: rest => failure.text :: texts rest

end

/-- Whether the failure, or the one it annotates, is an object already present. -/
def isAlreadyExists : Failure → Bool
  | alreadyExists .. => true
  | context _ cause => cause.isAlreadyExists
  | _ => false

/-- Whether the failure, or the one it annotates, is a missing object. -/
def isNotFound : Failure → Bool
  | notFound .. => true
  | context _ cause => cause.isNotFound
  | _ => false

/-- What the failures of independent steps amount to: nothing, the only one, or all of them. -/
def ofList : List Failure → Option Failure
  | [] => none
  | [failure] => some failure
  | failures => some (multiple failures)

/-- The wording of a list of failures. -/
def listText (failures : List Failure) : String := "; ".intercalate (texts failures)

end Failure

end WorkloadNet
