import PromptCad.Model.Parts
import PromptCad.Ron.Reader
import PromptCad.Settings

/-! Settings as RON. Every setting may be left out; a resolution is given as a whole. -/

namespace PromptCad

open scoped Power

structure ResolutionParts where
  cylinder : Option Nat := none
  latitude : Option Nat := none
  longitude : Option Nat := none

structure SettingsParts where
  exported : Option Resolution := none
  preview : Option Resolution := none
  primitiveLimit : Option Nat := none
  solidName : Option String := none

def SettingsParts.settings (parts : SettingsParts) : Settings :=
  ⟨parts.exported.getD Settings.standard.exported, parts.preview.getD Settings.standard.preview,
    parts.primitiveLimit.getD Settings.standard.primitiveLimit, parts.solidName.getD Settings.standard.solidName⟩

def greatestCount : Nat := 2 ^ (32 : Nat) - 1

def greatestNumber : Nat := 2 ^ (64 : Nat) - 1

namespace Ron

def resolutionField (fuel : Nat) (scope : Scope) (key : String) (parts : ResolutionParts) : Reader ResolutionParts := do
  if key = SegmentCount.cylinder.name then
    return { parts with cylinder := ← Reader.once parts.cylinder (natural greatestCount) }
  else if key = SegmentCount.latitude.name then
    return { parts with latitude := ← Reader.once parts.latitude (natural greatestCount) }
  else if key = SegmentCount.longitude.name then
    return { parts with longitude := ← Reader.once parts.longitude (natural greatestCount) }
  else
    skip fuel (← enter scope)
    return parts

def resolution (fuel : Nat) (scope : Scope) : Reader Resolution := do
  let parts ← record fuel "TessellationConfig" (resolutionField fuel (← enter scope)) {}
  return ⟨← Reader.need parts.cylinder, ← Reader.need parts.latitude, ← Reader.need parts.longitude⟩

def settingsField (fuel : Nat) (scope : Scope) (key : String) (parts : SettingsParts) : Reader SettingsParts := do
  let inside ← enter scope
  if key = "export" then
    return { parts with exported := ← Reader.once parts.exported (resolution fuel inside) }
  else if key = "preview" then
    return { parts with preview := ← Reader.once parts.preview (resolution fuel inside) }
  else if key = "max_primitives" then
    return { parts with primitiveLimit := ← Reader.once parts.primitiveLimit (natural greatestNumber) }
  else if key = "solid_name" then
    return { parts with solidName := ← Reader.once parts.solidName text }
  else
    skip fuel inside
    return parts

def settings (fuel : Nat) (scope : Scope) : Reader Settings := do
  let parts ← record fuel "CadConfig" (settingsField fuel (← enter scope)) {}
  return parts.settings

end Ron

/-- The settings that a text holds, not yet checked. -/
def Settings.ofRonText (s : String) : Except ReadError Settings := Ron.readAll Ron.settings s.toList

end PromptCad
