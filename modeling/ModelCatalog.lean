import ModelCatalog.CommandLine
import ModelCatalog.Main
import ModelCatalog.Proofs.Agreement
import ModelCatalog.Proofs.Arrangement
import ModelCatalog.Proofs.BoardMapText
import ModelCatalog.Proofs.CollectedRegistry
import ModelCatalog.Proofs.ComparedFields
import ModelCatalog.Proofs.DescriptionOrder
import ModelCatalog.Proofs.Descriptions
import ModelCatalog.Proofs.Enumerators
import ModelCatalog.Proofs.GatheringRemarks
import ModelCatalog.Proofs.InfoTableText
import ModelCatalog.Proofs.MissingColumns
import ModelCatalog.Proofs.MissingFields
import ModelCatalog.Proofs.ModelFields
import ModelCatalog.Proofs.NamedModels
import ModelCatalog.Proofs.NarrowerFamilies
import ModelCatalog.Proofs.RaisedYear
import ModelCatalog.Proofs.RecoverableBoards
import ModelCatalog.Proofs.Regeneration
import ModelCatalog.Proofs.RegistryOrder
import ModelCatalog.Proofs.RegistryText
import ModelCatalog.Proofs.Repair
import ModelCatalog.Proofs.SettledNames
import ModelCatalog.Proofs.SingleWrite
import ModelCatalog.Proofs.StoredText
import ModelCatalog.Proofs.Suggestions
import ModelCatalog.Proofs.TableWidths
import ModelCatalog.Proofs.WrittenArguments
import ModelCatalog.Proofs.WrittenDefaults
import ModelCatalog.Proofs.WrittenFiles
