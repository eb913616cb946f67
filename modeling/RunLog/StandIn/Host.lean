import RunLog.Text.Quoted
import RunLog.StandIn.DomainLabel
import RunLog.StandIn.Percent

/-!
# Hosts

A host is written as a name, and different ways of writing a name are brought to one: escapes of
characters that need none are undone, letters come in lower case, and labels beyond ASCII are
written in ASCII.  A host of numbers is an address in one of its older forms and is left alone.
Spaces and control characters may not stand in a host, not even as escapes.
-/

namespace RunLog

/-- Why a host is refused. -/
inductive HostFault
  /-- A character may not stand in a host. -/
  | forbidden (host : Text) (point : CodePoint)
  /-- A label cannot be registered. -/
  | unregistrable (label : Text)
  deriving DecidableEq, Repr

/-- The text of a fault. -/
def HostFault.message : HostFault → Text
  | forbidden host point =>
    "Host " ++ host.quoted ++ " contains invalid character " ++ Text.quoted [point]
  | unregistrable label => "Name '" ++ label ++ "' is not a valid IDNA label"

namespace Host

/-- Whether a text has the form of a name: no separators, and percent signs in escapes only. -/
def isName (host : Text) : Bool :=
  !host.any (·.isOneOf "[]:/?#") && Percent.wellFormed host

/-- Whether a text is a number, decimal or hexadecimal. -/
def isNumber (part : Text) : Bool :=
  match part with
  | zero :: mark :: first :: digits =>
    part.all CodePoint.isAsciiDigit
      || zero.is '0' && mark.isOneOf "xX" && (first :: digits).all fun point =>
        point.hexValue?.isSome
  | _ => !part.isEmpty && part.all CodePoint.isAsciiDigit

/-- Whether a host is an address in numbers: at most four of them. -/
def isNumeric (host : Text) : Bool :=
  let parts := Text.splitAll '.' host
  decide (parts.length ≤ 4) && parts.all isNumber

/-- Whether a byte may not stand in a host: spaces and control characters. -/
def isForbidden (byte : UInt8) : Bool :=
  byte ≤ 0x20 || byte == 0x7F

/-- A label as it is sent. -/
def label (written : Text) : Except HostFault Text :=
  match DomainLabel.toAscii? written with
  | some label => .ok label
  | none => .error (.unregistrable written)

/-- A host as it is sent. -/
def normalize (host : Text) : Except HostFault Text :=
  match (Percent.decodeBytes host).find? isForbidden with
  | some byte => .error (.forbidden host (CodePoint.ofNat byte.toNat))
  | none =>
    if isNumeric host then .ok host
    else
      ((Text.splitAll '.' (Percent.undoUnreserved host)).mapM label).map fun labels =>
        Percent.upperEscapes (Text.join "." labels)

end Host
end RunLog
