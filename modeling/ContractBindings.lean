import ContractBindings.Disk.Listing
import ContractBindings.Main
import ContractBindings.Proofs.Extraction.Compiled
import ContractBindings.Proofs.TypeScript.AbiText
import ContractBindings.Proofs.TypeScript.Fields
import ContractBindings.Proofs.TypeScript.Shape
import ContractBindings.Proofs.TypeScript.ReservedWords
import ContractBindings.Proofs.TypeScript.EventMap
import ContractBindings.Proofs.Naming.Positions
import ContractBindings.Proofs.Naming.Declarations
import ContractBindings.Proofs.Naming.Distinct
import ContractBindings.Proofs.Abi.Alike
import ContractBindings.Proofs.Abi.Sorting
import ContractBindings.Proofs.Abi.Forms
import ContractBindings.Proofs.Disk.Parent
import ContractBindings.Proofs.Disk.Commute
import ContractBindings.Proofs.Extraction.Independent
import ContractBindings.Proofs.Store.Least
import ContractBindings.Proofs.Store.Agreement
import ContractBindings.Proofs.CommandLine.Outcome
import ContractBindings.Proofs.CommandLine.Presentation
import ContractBindings.Proofs.CommandLine.CompileLine
import ContractBindings.Proofs.CommandLine.Verbosity
