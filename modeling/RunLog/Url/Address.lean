import RunLog.Text.Basic

/-!
# Internet addresses

The text form of addresses inside the brackets of a URL: four decimal bytes, or eight groups of
hexadecimal digits of which one run may be left out as `::` and the last two may be written as four
decimal bytes.  A zone may follow the second kind after a percent sign.
-/

namespace RunLog
namespace Address

/-- Whether a text is a byte in decimal, without superfluous zeros. -/
def isDecimalByte (part : Text) : Bool :=
  !part.isEmpty && part.all CodePoint.isAsciiDigit && part.length ≤ 3
    && (part.length == 1 || !(part.head?.map (·.is '0')).getD false)
    && decide (part.foldl (fun number digit => number * 10 + (digit.val - 0x30)) 0 ≤ 255)

/-- Whether a text is four decimal bytes with points between them. -/
def isVersion4 (text : Text) : Bool :=
  let parts := Text.splitAll '.' text
  parts.length == 4 && parts.all isDecimalByte

/-- Whether a text is a group of hexadecimal digits. -/
def isGroup (part : Text) : Bool :=
  !part.isEmpty && decide (part.length ≤ 4) && part.all fun point => point.hexValue?.isSome

/-- The groups of an address, four decimal bytes at the end counted as two of them; none if the
bytes are malformed. -/
def groups? (text : Text) : Option (List Text) :=
  let parts := Text.splitAll ':' text
  let last := parts.getLastD []
  if parts.length < 3 then none
  else if last.any (·.is '.') then
    if isVersion4 last then some (parts.dropLast ++ [Text.ofString "0", Text.ofString "0"])
    else none
  else some parts

/-- The groups on one side of a gap; a gap at the end of an address has one empty group beside
it. -/
def besideGap (groups : List Text) : List Text :=
  if groups == [[]] then [] else groups

/-- Whether groups form an address: all eight, or fewer with one gap. -/
def areGroups : List Text → Bool
  | [] => false
  | first :: others =>
    match others.span fun group => !group.isEmpty with
    | (before, _ :: after) =>
      let head := besideGap (first :: before)
      let tail := besideGap after
      !after.isEmpty && head.all isGroup && tail.all isGroup
        && decide (head.length + tail.length < 8)
    | (_, []) => others.length == 7 && isGroup first && others.all isGroup

/-- Whether a text is eight groups, without a zone. -/
def isVersion6 (text : Text) : Bool :=
  match groups? text with
  | some groups => decide (groups.length ≤ 9) && areGroups groups
  | none => false

/-- Whether a text is eight groups, perhaps with a zone. -/
def isVersion6WithZone (text : Text) : Bool :=
  match Text.splitFirst? '%' text with
  | none => isVersion6 text
  | some (address, zone) => !zone.isEmpty && !zone.any (·.is '%') && isVersion6 address

end Address
end RunLog
