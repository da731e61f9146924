import AccessPolicy.Failure
import AccessPolicy.Template

/-!
The guards that are attached to a callable before anything checks them. Each slot takes one guard.
-/

namespace AccessPolicy

inductive Slot where
  | preAuthorize
  | preFilter
  | postAuthorize
  | postFilter
  deriving DecidableEq, Repr

def Slot.name : Slot → String
  | .preAuthorize => "pre_authorize"
  | .preFilter => "pre_filter"
  | .postAuthorize => "post_authorize"
  | .postFilter => "post_filter"

/-- The guards attached to a callable, and the argument that the filter before a call is for. -/
structure Slots where
  preAuthorize : Option GuardText := none
  preFilter : Option GuardText := none
  filterTarget : Option String := none
  postAuthorize : Option GuardText := none
  postFilter : Option GuardText := none

/-- A guard for a slot; the filter before a call comes with its target. -/
structure Application where
  slot : Slot
  text : Option GuardText
  target : Option String := none

namespace Slots

def get (s : Slots) : Slot → Option GuardText
  | .preAuthorize => s.preAuthorize
  | .preFilter => s.preFilter
  | .postAuthorize => s.postAuthorize
  | .postFilter => s.postFilter

def set (s : Slots) (slot : Slot) (text : Option GuardText) : Slots :=
  match slot with
  | .preAuthorize => { s with preAuthorize := text }
  | .preFilter => { s with preFilter := text }
  | .postAuthorize => { s with postAuthorize := text }
  | .postFilter => { s with postFilter := text }

/-- Attaches a guard to a slot that holds none. Only the filter before a call takes a target. -/
def attach (s : Slots) (function : String) (slot : Slot) (text : Option GuardText) (target : Option String) :
    Except Misconfiguration Slots :=
  if (s.get slot).isSome then .error (.slotTaken function ("security_" ++ slot.name))
  else
    let s := s.set slot text
    .ok (if slot == .preFilter then { s with filterTarget := target } else s)

/-- What an application comes to: why it failed, if it did, and the slots that it leaves. -/
def applied (function : String) (s : Slots) (a : Application) : Option Misconfiguration × Slots :=
  match s.attach function a.slot a.text a.target with
  | .ok t => (none, t)
  | .error p => (some p, s)

/-- What each of several applications comes to. One that fails does not keep the later ones from being made. -/
def applyAll (function : String) : Slots → List Application → List (Option Misconfiguration × Slots)
  | _, [] => []
  | s, a :: as => s.applied function a :: applyAll function (s.applied function a).2 as

def isSecured (s : Slots) : Bool :=
  s.preAuthorize.isSome || s.preFilter.isSome || s.postAuthorize.isSome || s.postFilter.isSome

end Slots

end AccessPolicy
