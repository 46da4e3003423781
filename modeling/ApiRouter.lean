import ApiRouter.Api.Equal
import ApiRouter.Link.Record
import ApiRouter.Main
import ApiRouter.Proofs.InlinedSchema
import ApiRouter.Proofs.LinkFields
import ApiRouter.Proofs.Override
import ApiRouter.Proofs.ParameterGuard
import ApiRouter.Proofs.Routing
import ApiRouter.Workspace.Files
import ApiRouter.Proofs.Mount
import ApiRouter.Proofs.Capitals
import ApiRouter.Proofs.CommandRouting
import ApiRouter.Proofs.RouteTable
import ApiRouter.Proofs.Locality
import ApiRouter.Proofs.RequiredBody
import ApiRouter.Proofs.Precedence
import ApiRouter.Proofs.CompileFailures
import ApiRouter.Proofs.PathBuilding
import ApiRouter.Proofs.PatternSearch
import ApiRouter.Proofs.RequestShape
import ApiRouter.Proofs.Atomicity
import ApiRouter.Proofs.Dangling
import ApiRouter.Proofs.CoercedValues
import ApiRouter.Proofs.Conversion
import ApiRouter.Proofs.SuccessResponse
import ApiRouter.Proofs.MediaType
import ApiRouter.Proofs.Nameless
import ApiRouter.Proofs.RequiredNames
import ApiRouter.Proofs.SchemaReading
import ApiRouter.Proofs.Separation
import ApiRouter.Proofs.Pairs
import ApiRouter.Proofs.Sameness
import ApiRouter.Proofs.Headers
import ApiRouter.Proofs.Showing
import ApiRouter.Proofs.WrittenNumbers
import ApiRouter.Proofs.Layering
