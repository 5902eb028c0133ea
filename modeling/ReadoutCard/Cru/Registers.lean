import ReadoutCard.Register

/-! # The registers of a CRU, all in the board support BAR -/

namespace ReadoutCard.Cru

/-- The firmware's git hash. -/
def firmwareGitHash : Register := ⟨0x00000004⟩

/-- The firmware's build date, shown in hexadecimal. -/
def firmwareDate : Register := ⟨0x00000008⟩

/-- The firmware's build time, shown in hexadecimal. -/
def firmwareTime : Register := ⟨0x0000000c⟩

/-- What the firmware leaves out. -/
def firmwareFeatures : Register := ⟨0x0000041c⟩

/-- A command register: bit 0 resets the card, bit 1 the counter of the data generator. -/
def resetControl : Register := ⟨0x00000400⟩

/-- The control word of the data generator. -/
def dataGeneratorControl : Register := ⟨0x00000600⟩

/-- Writing 1 puts one error into the generated data. -/
def dataGeneratorInjectError : Register := ⟨0x00000604⟩

/-- One bit for each enabled link. -/
def linkEnable : Register := ⟨0x00000608⟩

/-- Where the data comes from: 0 the links, 1 the generator. -/
def dataSourceSelect : Register := ⟨0x00600000⟩

/-- The temperature sensor. -/
def temperatureSensor : Register := ⟨0x00010008⟩

/-- The upper half of the chip's identity. -/
def fpgaChipHigh : Register := ⟨0x00010014⟩

/-- The lower half of the chip's identity. -/
def fpgaChipLow : Register := ⟨0x00010018⟩

/-- The serial number; all bits set when none was programmed. -/
def serialNumber : Register := ⟨0x0002000c⟩

/-- The measured frequency of the CTP clock. -/
def ctpClock : Register := ⟨0x00240000⟩

/-- The measured frequency of the local clock. -/
def localClock : Register := ⟨0x00240004⟩

/-- The base of GBT wrapper 0. -/
def wrapper0 : Register := ⟨0x00400000⟩

/-- The base of GBT wrapper 1. -/
def wrapper1 : Register := ⟨0x00500000⟩

/-- The number of GBT wrappers. -/
def wrapperCount : Nat := 2

/-- Where the configuration word of a wrapper stands, from the wrapper's base. -/
def wrapperConfiguration : Nat := 0

/-- The number of packets dropped. -/
def droppedPackets : Register := ⟨0x0060001c⟩

end ReadoutCard.Cru
