import ApiRouter.Schema.Dialect
import ApiRouter.Schema.Metaschema.Draft2019
import ApiRouter.Schema.Metaschema.Draft2020
import ApiRouter.Schema.Metaschema.Draft3
import ApiRouter.Schema.Metaschema.Draft4
import ApiRouter.Schema.Metaschema.Draft6
import ApiRouter.Schema.Metaschema.Draft7

set_option autoImplicit false

/-! # The schemas of schemas

Every dialect comes with documents that say what its schemas look like. References may lead to
them. -/

namespace ApiRouter.Schema

/-- The documents that describe a dialect. -/
def Dialect.metaschemas : Dialect → List Value
  | .draft3 => [Metaschema.Draft3.whole]
  | .draft4 => [Metaschema.Draft4.whole]
  | .draft6 => [Metaschema.Draft6.whole]
  | .draft7 => [Metaschema.Draft7.whole]
  | .draft2019 => Metaschema.Draft2019.documents
  | .draft2020 => Metaschema.Draft2020.documents

end ApiRouter.Schema
