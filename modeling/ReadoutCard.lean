import ReadoutCard.Main
import ReadoutCard.Pci.Rack
import ReadoutCard.Proofs.Sca.Sequence
import ReadoutCard.Proofs.Sca.History
import ReadoutCard.Proofs.FailStop
import ReadoutCard.Proofs.Window.Agreement
import ReadoutCard.Proofs.Inventory.Listing
import ReadoutCard.Proofs.Sysfs.Devices
import ReadoutCard.Proofs.Cru.Generator
import ReadoutCard.Proofs.Commits
import ReadoutCard.Proofs.Crorc.Record
import ReadoutCard.Proofs.Cru.Writes
import ReadoutCard.Proofs.Inventory.Hits
import ReadoutCard.Proofs.PciAddress
import ReadoutCard.Proofs.Sysfs.Addresses
import ReadoutCard.Proofs.LinkMask
import ReadoutCard.Proofs.Cru.Drive
import ReadoutCard.Proofs.CommandLine.Registers
import ReadoutCard.Proofs.CommandLine.Cards
import ReadoutCard.Proofs.Sca.Limits
import ReadoutCard.Proofs.Settings
import ReadoutCard.Proofs.Inventory.Serials
import ReadoutCard.Proofs.Sysfs.Differences
import ReadoutCard.Proofs.CommandLine.Writes
import ReadoutCard.Proofs.PciAddress.Ranges
import ReadoutCard.Proofs.PciAddress.Identifiers
import ReadoutCard.Proofs.LinkMask.Grammar
import ReadoutCard.Proofs.Sca.Responses
import ReadoutCard.Proofs.Inquiries
import ReadoutCard.Proofs.Crorc.Polling
import ReadoutCard.Proofs.Lockstep
import ReadoutCard.Proofs.Crorc.Lockstep
import ReadoutCard.Proofs.Inventory.Touched
import ReadoutCard.Proofs.CommandLine.Addressing
import ReadoutCard.Proofs.MappedCard
import ReadoutCard.Proofs.Text.Letters
import ReadoutCard.Proofs.Choice
import ReadoutCard.Proofs.CommandLine.Numbers
import ReadoutCard.Proofs.Bits.Fields
import ReadoutCard.Proofs.Sca.Refusals
import ReadoutCard.Proofs.Sca.CommandWords
