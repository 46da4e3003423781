set_option autoImplicit false

/-! # Failures

Everything that can end an operation without a result. A *report* is a documented failure with a
message for people and an exit code for programs. *Issues* say which fields of a structured input
do not have the type that they need. A *defect* is what happens when a document holds a value of a
kind that a rule cannot use at all; it has a cause but no message. -/

namespace ApiRouter

/-! ## Reports -/

/-- The kinds of documented failures. -/
inductive ErrorKind where
  | general
  | invalidUsage
  | notFound
  | specParse
  | versionMismatch
  | missingDefinitions
  | missingParameterName
  | incompatibleLocations
  | validationFailed
  | invalidRequest
  | invalidResponse
  | notImplemented
  | config
  deriving DecidableEq, Repr, Inhabited

namespace ErrorKind

/-- The wider kind that a kind belongs to. -/
def parent? : ErrorKind → Option ErrorKind
  | .general => none
  | .versionMismatch | .missingDefinitions | .missingParameterName | .incompatibleLocations =>
    some .specParse
  | .invalidRequest | .invalidResponse => some .validationFailed
  | .invalidUsage | .notFound | .specParse | .validationFailed | .notImplemented | .config =>
    some .general

/-- The exit code of a program that ends with a failure of this kind. -/
def exitCode : ErrorKind → Int
  | .general | .notImplemented | .config => 1
  | .invalidUsage => 2
  | .notFound => 4
  | .specParse | .versionMismatch | .missingDefinitions | .missingParameterName
  | .incompatibleLocations => 7
  | .validationFailed | .invalidRequest | .invalidResponse => 8

/-- Whether the kind, or the wider kind that it belongs to, is a failed validation. -/
def isValidation (k : ErrorKind) : Bool :=
  k == .validationFailed || k.parent? == some .validationFailed

end ErrorKind

/-! ## Issues -/

/-- What is wrong with a field of a structured input. -/
inductive IssueKind where
  | missing
  | notText
  | undecodableText
  | notBool
  | unreadableBool
  | notInt
  | unreadableInt
  | oversizedInt
  | fractionalInt
  | notFinite
  | notFloat
  | unreadableFloat
  | notList
  | notMapping
  | notModel
  deriving DecidableEq, Repr

/-- One ill-typed field: the path to it and what is wrong there. -/
structure Issue where
  path : List String
  kind : IssueKind
  deriving DecidableEq, Repr

namespace Issue

/-- The issue seen from outside the field `name`. -/
def under (name : String) (i : Issue) : Issue :=
  { i with path := name :: i.path }

end Issue

/-- A documented failure. -/
structure Report where
  kind : ErrorKind
  message : String
  exitCode : Int
  /-- The messages of a failed validation, in the order found. -/
  errors : List String
  /-- The ill-typed fields behind a configuration failure. -/
  issues : Option (List Issue)
  deriving DecidableEq, Repr

namespace Report

/-- A failure of the given kind with its usual exit code. -/
def ofKind (kind : ErrorKind) (message : String) : Report :=
  ⟨kind, message, kind.exitCode, [], none⟩

end Report

/-! ## Defects -/

/-- Why a path in the file system cannot be taken. -/
inductive Obstacle where
  /-- Nothing is there. -/
  | missing
  /-- The path leads on through something that is no directory. -/
  | notDirectory
  /-- Something else stands where a directory is wanted. -/
  | occupied
  | nameTooLong
  deriving DecidableEq, Repr

/-- What is wrong with the name of a host. -/
inductive HostFault where
  /-- A part of it has no right form. -/
  | malformed
  /-- A character may not stand in it. -/
  | badCharacter
  /-- A character may not stand beside the others. -/
  | wrongContext
  /-- Characters that are written in different directions do not fit together. -/
  | mixedDirections
  deriving DecidableEq, Repr

/-- Why a value of a document cannot be used where it stands. -/
inductive Defect where
  /-- A value of this kind does not take part in the operation. -/
  | wrongType
  /-- A value of this kind has no such part. -/
  | noMember
  /-- A name is bound to nothing. -/
  | missingKey
  /-- The kind is right, the value is not. -/
  | badValue
  /-- A part is asked for where there are none. -/
  | outOfBounds
  /-- A number lies beyond the range of binary numbers. -/
  | overflow
  | divisionByZero
  /-- Bytes that are no text. -/
  | undecodable
  /-- Bytes that do not tell how they stand for text. -/
  | unmarked
  /-- Bytes that stand for other bytes where a text is wanted. -/
  | packed
  /-- Nesting or reference following without an end. -/
  | endless
  /-- A schema names a type that does not exist. -/
  | unknownType
  /-- A schema's reference leads nowhere. -/
  | danglingReference
  /-- A resource that one came through is not known. -/
  | unknownResource
  /-- A text that is no regular expression. -/
  | badPattern
  /-- A search that ends with a capture whose end is before its start. -/
  | crossedCapture
  /-- A message that closes a style which is not open. -/
  | badMarkup
  /-- A file or a directory cannot be reached. -/
  | obstructed (cause : Obstacle)
  /-- The user has no directory of their own. -/
  | homeless
  /-- A text that is no web address. -/
  | badAddress
  /-- A web address whose host cannot be read. -/
  | badHost (fault : HostFault)
  deriving DecidableEq, Repr

/-- Why an operation gave no result. -/
inductive Failure where
  | reported (report : Report)
  | illTyped (issues : List Issue)
  | defect (cause : Defect)
  deriving DecidableEq, Repr

namespace Failure

/-- A documented failure with its usual exit code. -/
def report (kind : ErrorKind) (message : String) : Failure :=
  .reported (.ofKind kind message)

end Failure

/-- Ends with a documented failure. -/
def fail {α : Type} (kind : ErrorKind) (message : String) : Except Failure α :=
  .error (.report kind message)

/-- Ends with a defect. -/
def defect {α : Type} (cause : Defect) : Except Failure α :=
  .error (.defect cause)

end ApiRouter
