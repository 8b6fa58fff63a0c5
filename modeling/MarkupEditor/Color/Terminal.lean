import MarkupEditor.Color.Hex

/-!
# Colors of a terminal

A terminal shows eight basic colors, or a cube of six times six times six; a
color is mapped to the nearest one it has.
-/

namespace MarkupEditor.Color

/-- The eight basic colors, by number. -/
def basic : List Color :=
  [⟨0, 0, 0⟩, ⟨205, 0, 0⟩, ⟨0, 205, 0⟩, ⟨205, 205, 0⟩,
   ⟨0, 0, 238⟩, ⟨205, 0, 205⟩, ⟨0, 205, 205⟩, ⟨229, 229, 229⟩]

/-- The number of the basic color nearest to a color. -/
def nearestBasic (color : Color) : Nat := nearestIn color basic

/-- The level, from 0 to 5, nearest to a component; no component lies half way
between two levels. -/
def cubeLevel (component : Fin 256) : Nat := (2 * component.val + 51) / 102

/-- The number of a color in the cube, which comes behind sixteen other colors. -/
def cubeIndex (color : Color) : Nat :=
  16 + 36 * cubeLevel color.red + 6 * cubeLevel color.green + cubeLevel color.blue

end MarkupEditor.Color
