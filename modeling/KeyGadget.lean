import KeyGadget.Cli.Terminal
import KeyGadget.Main
import KeyGadget.Proofs.Adequacy
import KeyGadget.Proofs.Interruption
import KeyGadget.Proofs.Release
import KeyGadget.Proofs.Transcript
import KeyGadget.Proofs.Reading
import KeyGadget.Proofs.Audit
import KeyGadget.Proofs.Words
import KeyGadget.Proofs.OneLine
import KeyGadget.Proofs.FrontEnd
import KeyGadget.Proofs.Directory
import KeyGadget.Proofs.Shelf
import KeyGadget.Proofs.NewDirectory
import KeyGadget.Proofs.Room
import KeyGadget.Proofs.Refinement
import KeyGadget.Proofs.Lookup
import KeyGadget.Proofs.Listing
import KeyGadget.Proofs.Confinement
import KeyGadget.Proofs.Composition
import KeyGadget.Proofs.Prediction
import KeyGadget.Proofs.Input
import KeyGadget.Proofs.Untimed
import KeyGadget.Proofs.Desk
import KeyGadget.Proofs.ShellSession
import KeyGadget.Proofs.Comments
import KeyGadget.Proofs.DeviceFile
import KeyGadget.Proofs.Parts
import KeyGadget.Proofs.Grammar
import KeyGadget.Proofs.Chord
import KeyGadget.Proofs.Canonical
import KeyGadget.Proofs.Refusal
import KeyGadget.Proofs.Alone
import KeyGadget.Proofs.Typing
import KeyGadget.Proofs.PhysicalLines
import KeyGadget.Proofs.Cleanliness
import KeyGadget.Proofs.ShellLine
import KeyGadget.Proofs.SafeName
import KeyGadget.Proofs.JsonForms
import KeyGadget.Proofs.SortedListing
import KeyGadget.Proofs.Settings
import KeyGadget.Proofs.NameTables
