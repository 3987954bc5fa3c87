import PromptCad.Decimal.Numeral

/-! Settings of the program: how finely round solids are divided, how many primitives a model may hold and the name
that exported solids carry. -/

namespace PromptCad

/-- Into how many parts round solids are divided. -/
structure Resolution where
  /-- Segments around a cylinder. -/
  cylinder : Nat
  /-- Bands of a sphere from pole to pole. -/
  latitude : Nat
  /-- Segments around a sphere. -/
  longitude : Nat
deriving DecidableEq

inductive SegmentCount where
  | cylinder
  | latitude
  | longitude
deriving DecidableEq

inductive SettingsFault where
  | countRange (count : SegmentCount) (got : Nat)
  | countMultiple (count : SegmentCount) (got : Nat)
  | coarseExport
  | limitRange (got : Nat)
deriving DecidableEq

inductive Quality where
  | exported
  | preview
deriving DecidableEq

structure Settings where
  /-- The resolution of exported meshes. -/
  exported : Resolution
  /-- The resolution of quick previews. -/
  preview : Resolution
  primitiveLimit : Nat
  solidName : String
deriving DecidableEq

namespace SegmentCount

def name : SegmentCount → String
  | cylinder => "cylinder_segments"
  | latitude => "sphere_lat_segments"
  | longitude => "sphere_lon_segments"

/-- A round mesh reaches as far as the solid along each axis when its counts are multiples of these. -/
def multiple : SegmentCount → Nat
  | cylinder => 4
  | latitude => 2
  | longitude => 4

def greatest : Nat := 512

def check (count : SegmentCount) (got : Nat) : Except SettingsFault Unit :=
  if got = 0 ∨ greatest < got then .error (.countRange count got)
  else if got % count.multiple ≠ 0 then .error (.countMultiple count got)
  else .ok ()

end SegmentCount

namespace Resolution

def exported : Resolution := ⟨36, 16, 32⟩

def preview : Resolution := ⟨12, 8, 12⟩

def check (r : Resolution) : Except SettingsFault Unit := do
  SegmentCount.cylinder.check r.cylinder
  SegmentCount.latitude.check r.latitude
  SegmentCount.longitude.check r.longitude

end Resolution

namespace Settings

def standard : Settings := ⟨.exported, .preview, 256, "model"⟩

/-- Exported spheres have at least as many bands and segments as this. -/
def leastExported : Nat := 8

def greatestLimit : Nat := 1024

def resolution (s : Settings) : Quality → Resolution
  | .exported => s.exported
  | .preview => s.preview

def check (s : Settings) : Except SettingsFault Unit := do
  s.exported.check
  s.preview.check
  if s.exported.latitude < leastExported || s.exported.longitude < leastExported then throw .coarseExport
  if s.primitiveLimit = 0 || greatestLimit < s.primitiveLimit then throw (.limitRange s.primitiveLimit)

end Settings

def SettingsFault.message : SettingsFault → String
  | countRange count got =>
    count.name ++ " must be between 1 and " ++ Decimal.natText SegmentCount.greatest ++ ", got " ++
      Decimal.natText got
  | countMultiple count got =>
    count.name ++ " must be a multiple of " ++ Decimal.natText count.multiple ++ ", got " ++ Decimal.natText got
  | coarseExport =>
    "export sphere resolution must be at least " ++ Decimal.natText Settings.leastExported ++ " x " ++
      Decimal.natText Settings.leastExported
  | limitRange got =>
    "max_primitives must be between 1 and " ++ Decimal.natText Settings.greatestLimit ++ ", got " ++
      Decimal.natText got

end PromptCad
