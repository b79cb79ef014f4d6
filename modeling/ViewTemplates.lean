import ViewTemplates.Proofs.HookTermination
import ViewTemplates.Proofs.LayoutRendering
import ViewTemplates.Registry.Settings
import ViewTemplates.Rendering.Renderer
import ViewTemplates.Proofs.Collections
import ViewTemplates.Proofs.SoftRendering
import ViewTemplates.Proofs.UndefinedTemplates
import ViewTemplates.Proofs.Recompilation
import ViewTemplates.Proofs.Placeholders
import ViewTemplates.Proofs.FinishedOutput
import ViewTemplates.Proofs.SettledRegistry
import ViewTemplates.Proofs.DataDocuments
import ViewTemplates.Proofs.MarkupEngines
import ViewTemplates.Proofs.UnresolvedText
import ViewTemplates.Proofs.XmlMembers
import ViewTemplates.Proofs.XmlDocuments
import ViewTemplates.Proofs.CsvLeaves
import ViewTemplates.Proofs.ScriptLiterals
import ViewTemplates.Proofs.TemplateNames
import ViewTemplates.Proofs.RegistryChanges
import ViewTemplates.Proofs.ExtensionSets
import ViewTemplates.Proofs.SnakeCase
import ViewTemplates.Proofs.DerivedDirectories
import ViewTemplates.Proofs.PathLookup
