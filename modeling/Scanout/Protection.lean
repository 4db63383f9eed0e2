/-
Module: Scanout.Protection
Purpose: Content protection sessions of displays, and revocation lists.
Imports: Scanout.Display
Main exports: Status, ProtectionLevel, RevocationScope, ProtectionControl, ProtectionControl.enable,
  ProtectionControl.disable, ProtectionControl.revoke
-/
import Scanout.Display

namespace Scanout

/-- Outcome of a control call; zero is success. -/
structure Status where
  code : Int
deriving DecidableEq, Repr, Inhabited

namespace Status

/-- Success. -/
def ok : Status := ⟨0⟩

/-- The display does not exist. -/
def noSuchDisplay : Status := ⟨-19⟩

/-- An argument makes no sense. -/
def invalidArgument : Status := ⟨-22⟩

/-- Whether the call succeeded. -/
def isOk (status : Status) : Bool := status.code == 0

/-- The status as reports write it. -/
def text (status : Status) : String := s!"Status({status.code})"

end Status

/-- How strictly content is protected. -/
inductive ProtectionLevel where
  /-- Any protected link may carry it. -/
  | type0
  /-- Only the strictest links may carry it. -/
  | type1
deriving DecidableEq, Repr, Inhabited

/-- The displays that a revocation list is for. -/
inductive RevocationScope where
  | display (id : DisplayId)
  | all
deriving DecidableEq, Repr, Inhabited

def RevocationScope.text : RevocationScope → String
  | display id => s!"Display({id.text})"
  | all => "All"

/-- The displays that exist, their sessions, and the revocation lists received so far. -/
structure ProtectionControl where
  displays : List DisplayId
  sessions : List (DisplayId × ProtectionLevel) := []
  /-- Oldest first. -/
  revocations : List (RevocationScope × List UInt8) := []
deriving DecidableEq, Repr, Inhabited

namespace ProtectionControl

/-- No sessions and no lists yet. -/
def new (displays : List DisplayId) : ProtectionControl := { displays }

/-- The protection level of a display, if it has a session. -/
def session (control : ProtectionControl) (display : DisplayId) : Option ProtectionLevel :=
  control.sessions.lookup display

/-- The sessions of all displays but one. -/
def otherSessions (control : ProtectionControl) (display : DisplayId) :
    List (DisplayId × ProtectionLevel) :=
  control.sessions.filter fun (id, _) => id != display

/-- Begin a session, or change the level of the one that exists. -/
def enable (control : ProtectionControl) (display : DisplayId) (content : ProtectionLevel) :
    Status × ProtectionControl :=
  if control.displays.contains display then
    (.ok, { control with sessions := (display, content) :: control.otherSessions display })
  else (.noSuchDisplay, control)

def disable (control : ProtectionControl) (display : DisplayId) : Status × ProtectionControl :=
  if control.displays.contains display then
    (.ok, { control with sessions := control.otherSessions display })
  else (.noSuchDisplay, control)

def knows (control : ProtectionControl) : RevocationScope → Bool
  | .display id => control.displays.contains id
  | .all => true

/-- Receive a revocation list.  An empty list is an error whoever it is for. -/
def revoke (control : ProtectionControl) (target : RevocationScope) (list : List UInt8) :
    Status × ProtectionControl :=
  if list.isEmpty then (.invalidArgument, control)
  else if control.knows target then
    (.ok, { control with revocations := control.revocations ++ [(target, list)] })
  else (.noSuchDisplay, control)

end ProtectionControl

end Scanout
