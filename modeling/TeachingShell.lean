import TeachingShell.Main
import TeachingShell.Tree.Survey
import TeachingShell.Wire.Form
import TeachingShell.Proofs.Mutators
import TeachingShell.Proofs.Confinement
import TeachingShell.Proofs.Relocation
import TeachingShell.Proofs.Registration
import TeachingShell.Proofs.Alterations
import TeachingShell.Proofs.Effects
import TeachingShell.Proofs.Atomicity
import TeachingShell.Proofs.Locality
import TeachingShell.Proofs.Census
import TeachingShell.Proofs.Conservation
import TeachingShell.Proofs.Location
import TeachingShell.Proofs.Remembering
import TeachingShell.Proofs.Lookups
import TeachingShell.Proofs.Agreement
import TeachingShell.Proofs.Commuting
import TeachingShell.Proofs.Throughout
import TeachingShell.Proofs.Naming
import TeachingShell.Proofs.ReadBack
import TeachingShell.Proofs.Alike
import TeachingShell.Proofs.Stamps
import TeachingShell.Proofs.Ordinary
import TeachingShell.Proofs.Cancelling
import TeachingShell.Proofs.Rebinding
import TeachingShell.Proofs.Transfer
import TeachingShell.Proofs.Undoing
import TeachingShell.Proofs.Answers
import TeachingShell.Proofs.Footprint
import TeachingShell.Proofs.Objections
import TeachingShell.Proofs.Replies
import TeachingShell.Proofs.Conversing
import TeachingShell.Proofs.Calls
import TeachingShell.Proofs.Resolving
import TeachingShell.Proofs.Whereabouts
import TeachingShell.Proofs.Verdicts
import TeachingShell.Proofs.Removals
import TeachingShell.Proofs.Quoting
import TeachingShell.Proofs.ByteOrder
import TeachingShell.Proofs.Listings
import TeachingShell.Proofs.ShortListings
import TeachingShell.Proofs.Inspecting
import TeachingShell.Proofs.Returning
import TeachingShell.Proofs.Flags
import TeachingShell.Proofs.Recalling
import TeachingShell.Proofs.Spacing
import TeachingShell.Proofs.Roster
import TeachingShell.Proofs.Interchange
