import DtoGen.Generation.Trace
import DtoGen.Main
import DtoGen.Proofs.BarrelGroups
import DtoGen.Proofs.Destinations
import DtoGen.Proofs.ImportResolution
import DtoGen.Proofs.ModuleClosure
import DtoGen.Proofs.WriteOrder
import DtoGen.Proofs.SchemaDocuments
import DtoGen.Proofs.BarrelLinks
import DtoGen.Proofs.OutputDirectory
import DtoGen.Proofs.OptionBag
import DtoGen.Proofs.TomlTables
import DtoGen.Proofs.CheckAssures
import DtoGen.Proofs.PartialUpdate
import DtoGen.Proofs.StableClasses
import DtoGen.Proofs.TopLevelNames
import DtoGen.Proofs.DocumentationComments
import DtoGen.Proofs.WordBoundaries
import DtoGen.Proofs.CanonicalForms
import DtoGen.Proofs.Regeneration
import DtoGen.Proofs.ShortestWays
import DtoGen.Proofs.CompleteCreation
import DtoGen.Proofs.NormalizedOptions
import DtoGen.Proofs.OptionHistory
import DtoGen.Proofs.ImportStatements
import DtoGen.Proofs.ModuleNames
import DtoGen.Proofs.OutputTexts
import DtoGen.Proofs.BytePositions
import DtoGen.Proofs.MachineHost
import DtoGen.Proofs.ReportLookup
