import RouteDocs.Doc.Reading
import RouteDocs.Main
import RouteDocs.OpenApi.Reading
import RouteDocs.Schema.Guest
import RouteDocs.Schema.Reading
import RouteDocs.Proofs.DocumentProjection
import RouteDocs.Proofs.RouterConflicts
import RouteDocs.Proofs.DocRoundTrip
import RouteDocs.Proofs.TypesByName
import RouteDocs.Proofs.FrozenTables
import RouteDocs.Proofs.OperationIds
import RouteDocs.Proofs.DocumentText
import RouteDocs.Proofs.ObjectForms
import RouteDocs.Proofs.StatusGroups
import RouteDocs.Proofs.Parameters
import RouteDocs.Proofs.ResolverCalls
import RouteDocs.Proofs.TypeSpellings
import RouteDocs.Proofs.RenderedReferences
import RouteDocs.Proofs.SectionOrder
