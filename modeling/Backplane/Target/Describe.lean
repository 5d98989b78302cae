import Backplane.Target.Arena
import Backplane.Text.Quoted

/-!
# Descriptions of targets

One line that shows a target with all its parts, for tools that look into an
arena. Only the size of memory is shown, not its bytes.
-/

namespace Backplane

/-- A record of this kind with its parts, each with its name. -/
def describeRecord (kind : String) (parts : List (String × String)) : String :=
  kind ++ " \x7b " ++ ", ".intercalate (parts.map fun part => part.1 ++ ": " ++ part.2) ++ " \x7d"

/-- The description of a target id. -/
def TargetId.describe (id : TargetId) : String := "TargetId(" ++ Numeral.decimal id.index ++ ")"

/-- The description of a part of a window. -/
def SubRegion.describe (s : SubRegion) : String :=
  describeRecord "SubRegion"
    [("offset", Numeral.decimal s.offset.toNat), ("size", Numeral.decimal s.size.toNat),
     ("label", Quoted.quote s.label), ("region", s.region.word), ("target", s.target.describe),
     ("target_offset", Numeral.decimal s.targetOffset.toNat)]

/-- The description of a window. -/
def Window.describe (w : Window) : String :=
  describeRecord "CompositeTarget"
    [("size", Numeral.decimal w.size.toNat),
     ("sub_regions", "[" ++ ", ".intercalate (w.subs.map SubRegion.describe) ++ "]")]

namespace Target

variable {σ : Type} [DeviceModel σ]

/-- The description of a target. -/
def describe : Target σ → String
  | ram memory => "Ram(" ++ Numeral.decimal memory.size ++ ")"
  | rom memory => "Rom(" ++ Numeral.decimal memory.size ++ ")"
  | window w => "Composite(" ++ w.describe ++ ")"
  | split read write =>
    "Split(" ++
      describeRecord "SplitTarget" [("read", read.describe), ("write", write.describe)] ++ ")"
  | device state =>
    "Device(" ++
      describeRecord "DeviceTarget"
        [("kind", Quoted.quote (DeviceModel.kind state)),
         ("size", Numeral.decimal (DeviceModel.size state).toNat),
         ("caps", "TargetCaps(" ++ (DeviceModel.caps state).shown ++ ")")] ++ ")"

end Target
end Backplane
