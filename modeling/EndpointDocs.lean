import EndpointDocs.Main
import EndpointDocs.Proofs.SeedIndependence
import EndpointDocs.Proofs.CacheHistory
import EndpointDocs.Proofs.ExtractionEntries
import EndpointDocs.Proofs.EntityConvention
import EndpointDocs.Proofs.TagSequence
import EndpointDocs.Proofs.TagText
import EndpointDocs.Proofs.TypeSpelling
import EndpointDocs.Proofs.HandlerIdentity
import EndpointDocs.Proofs.NearestDouble
import EndpointDocs.Proofs.SampleShape
import EndpointDocs.Proofs.ValueFit
import EndpointDocs.Proofs.Respacing
import EndpointDocs.Proofs.ExampleRespacing
import EndpointDocs.Proofs.MarkerRemoval
import EndpointDocs.Proofs.AncestryWalk
import EndpointDocs.Proofs.TagGrammar
import EndpointDocs.Proofs.NameSpelling
import EndpointDocs.Proofs.TypeLoading
import EndpointDocs.Proofs.BlockWriting
import EndpointDocs.Proofs.TagInsertion
import EndpointDocs.Proofs.SuppressedTags
import EndpointDocs.Proofs.TypeRule
import EndpointDocs.Proofs.SampleSize
import EndpointDocs.Proofs.ModuleNamespace
import EndpointDocs.Proofs.TemplateFilling
import EndpointDocs.Proofs.NameParts
import EndpointDocs.Proofs.CanonicalNames
import EndpointDocs.Proofs.WordRuns
import EndpointDocs.Proofs.RecordRoundTrip
import EndpointDocs.Proofs.LiteralFront
import EndpointDocs.Proofs.SessionHistory
