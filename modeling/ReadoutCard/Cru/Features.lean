import ReadoutCard.Bits

/-! # What the firmware of a CRU provides

Standalone firmware marks the upper half of the features register with a tag; only then do its low
bits name what was left out. Any other firmware has everything.
-/

namespace ReadoutCard.Cru

/-- The features of a firmware. -/
structure Features where
  standalone : Bool
  dataSelection : Bool
  temperature : Bool
  serial : Bool
  firmwareInfo : Bool
  chipId : Bool
  deriving DecidableEq, Repr

namespace Features

/-- The upper half of the register of standalone firmware. -/
def standaloneTag : UInt32 := 0x5afe

/-- Reads the features register. -/
def ofWord (word : UInt32) : Features :=
  if Bits.field word 16 16 = standaloneTag then
    { standalone := true
      dataSelection := !Bits.bit word 0
      temperature := !Bits.bit word 1
      serial := !Bits.bit word 2
      firmwareInfo := !Bits.bit word 3
      chipId := !Bits.bit word 4 }
  else ⟨false, true, true, true, true, true⟩

end Features

end ReadoutCard.Cru
