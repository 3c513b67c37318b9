import MapStyle.Binary64
/-!
# Colours

A colour has four components, red, green, blue and opacity, each a fraction of one. It is made from
bytes, or from hue, saturation and lightness, and it is written as hexadecimal bytes.
-/

namespace MapStyle

/-- A colour with its components as fractions of one. -/
structure Color where
  red : Float
  green : Float
  blue : Float
  /-- The opacity. -/
  alpha : Float
  deriving Repr

namespace Color

def white : Color := ⟨1, 1, 1, 1⟩

/-- The fraction that an amount out of 255 stands for; amounts outside are moved to the bounds. -/
def channel (amount : Float) : Float := Binary64.clamp 0 255 amount / 255

/-- The colour with the given amounts of red, green, blue and opacity out of 255. -/
def ofBytes (red green blue alpha : Float) : Color :=
  ⟨channel red, channel green, channel blue, channel alpha⟩

/-- The component at a hue between the darkest and the brightest component. It rises over the first
sixth of the circle, stays up to the half, and falls up to two thirds. -/
def hueComponent (low high hue : Float) : Float :=
  let hue := Binary64.euclideanRemainder hue 1
  if hue * 6 < 1 then low + (high - low) * 6 * hue
  else if hue * 2 < 1 then high
  else if hue * 3 < 2 then low + (high - low) * (2.0 / 3.0 - hue) * 6
  else low

/-- The colour with the given hue, saturation and lightness. The hue is a fraction of the circle,
the other two are moved into the range from zero to one. -/
def ofHsl (hue saturation lightness alpha : Float) : Color :=
  let hue := Binary64.euclideanRemainder hue 1
  let saturation := Binary64.clamp 0 1 saturation
  let lightness := Binary64.clamp 0 1 lightness
  if saturation == 0 then ⟨lightness, lightness, lightness, alpha⟩
  else
    let high := if lightness ≤ 0.5 then lightness * (1 + saturation)
      else lightness + saturation - lightness * saturation
    let low := 2 * lightness - high
    ⟨hueComponent low high (hue + 1.0 / 3.0), hueComponent low high hue,
      hueComponent low high (hue - 1.0 / 3.0), alpha⟩

/-- The byte for a component: the 256 bytes share the range from zero to one evenly. -/
def byte (component : Float) : Nat := Binary64.toByte (Binary64.clamp 0 1 component * 256)

def hexByte (n : Nat) : List Char := [Nat.digitChar (n / 16), Nat.digitChar (n % 16)]

/-- The colour as hexadecimal bytes, with the opacity only where it is below one. -/
def toHex (c : Color) : String :=
  String.ofList ('#' :: hexByte (byte c.red) ++ hexByte (byte c.green) ++ hexByte (byte c.blue) ++
    if c.alpha < 1 then hexByte (byte c.alpha) else [])

end Color

end MapStyle
