import ApiRouter.Field

set_option autoImplicit false

/-! # Settings

The options of compiling and of checking requests, with their defaults, and how they are read from
document values. Unknown fields are ignored. -/

namespace ApiRouter

/-- Which texts of a request are coerced unless an option says otherwise. -/
structure Defaults where
  coerceForm : Bool
  coercePath : Bool
  coerceQuery : Bool
  deriving DecidableEq, Repr

namespace Defaults

/-- Everything is coerced. -/
def standard : Defaults := ⟨true, true, true⟩

def ofEntries (m : Entries) : Checked Defaults :=
  Defaults.mk
    <$> Field.withDefault m "coerce_form_params" true Field.bool
    <*> Field.withDefault m "path_params" true Field.bool
    <*> Field.withDefault m "query_params" true Field.bool

def ofValue : Value → Checked Defaults := Field.model ofEntries

def toValue (d : Defaults) : Value :=
  .object [("coerce_form_params", .bool d.coerceForm), ("path_params", .bool d.coercePath),
    ("query_params", .bool d.coerceQuery)]

end Defaults

/-- A value or null. -/
def Value.ofOption {α : Type} (f : α → Value) : Option α → Value
  | some a => f a
  | none => .null

/-- How requests are checked. A coercion that is not set follows the defaults of the compiled
document. -/
structure CheckOptions where
  coerceForm : Option Bool
  coercePath : Option Bool
  coerceQuery : Option Bool
  checkContentType : Bool
  checkHeaders : Bool
  deriving DecidableEq, Repr

namespace CheckOptions

def standard : CheckOptions := ⟨none, none, none, true, true⟩

def ofEntries (m : Entries) : Checked CheckOptions :=
  CheckOptions.mk
    <$> Field.optional m "coerce_form_params" Field.bool
    <*> Field.optional m "coerce_path_params" Field.bool
    <*> Field.optional m "coerce_query_params" Field.bool
    <*> Field.withDefault m "check_content_type" true Field.bool
    <*> Field.withDefault m "check_header" true Field.bool

def ofValue : Value → Checked CheckOptions := Field.model ofEntries

def toValue (o : CheckOptions) : Value :=
  .object [("coerce_form_params", .ofOption .bool o.coerceForm),
    ("coerce_path_params", .ofOption .bool o.coercePath),
    ("coerce_query_params", .ofOption .bool o.coerceQuery),
    ("check_content_type", .bool o.checkContentType), ("check_header", .bool o.checkHeaders)]

end CheckOptions

/-- The effective configuration of a program run. -/
structure Settings where
  /-- The name of the document format. -/
  driver : String
  /-- The path under which the routes are mounted. -/
  mount : Option String
  defaults : Defaults
  options : CheckOptions
  deriving DecidableEq, Repr

namespace Settings

/-- The only document format. -/
def standardDriver : String := "open_api_2"

def standard : Settings := ⟨standardDriver, none, .standard, .standard⟩

def ofEntries (m : Entries) : Checked Settings :=
  Settings.mk
    <$> Field.withDefault m "driver" standardDriver Field.text
    <*> Field.optional m "prefix" Field.text
    <*> Field.withDefault m "driver_config" .standard Defaults.ofValue
    <*> Field.withDefault m "validator" .standard CheckOptions.ofValue

def ofValue : Value → Checked Settings := Field.model ofEntries

def toValue (s : Settings) : Value :=
  .object [("driver", .text s.driver), ("prefix", .ofOption .text s.mount),
    ("driver_config", s.defaults.toValue), ("validator", s.options.toValue)]

/-- Refuses any document format but the known one. -/
def requireDriver (name : String) : Except Failure Unit :=
  if name == standardDriver then .ok ()
  else fail .invalidUsage ("Unknown driver '" ++ name ++ "'. Known drivers: " ++ standardDriver)

end Settings

end ApiRouter
