import Dataflow.Definition.Payload
import Dataflow.Json.Shape

/-!
# Failures

Everything that can keep an edit, a store or a service from answering, each as its cause.  The
wording is in one place, `Failure.message`, and so is what callers tell failures apart by,
`Failure.kind`.
-/

set_option autoImplicit false

namespace Dataflow

/-- Why there is no answer. -/
inductive Failure where
  /-- A workspace or dataflow id that cannot be part of a path. -/
  | invalidIdentifier (id : Text)
  /-- No file holds the definition. -/
  | missingFile (path : Text)
  /-- No definition is kept for the dataflow. -/
  | missingDefinition (workspace dataflow : Text)
  /-- A path with a null character. -/
  | nullInPath
  /-- A stored file that is not UTF-8. -/
  | undecodableFile (fault : Utf8.DecodeFault)
  /-- A text that is not JSON. -/
  | unreadableJson (error : Json.ReadError)
  /-- A value that does not have the shape of a record. -/
  | misshapen (record : String) (problems : List Shape.Problem)
  /-- A query without a name. -/
  | blankName
  /-- A query without code. -/
  | blankCode
  /-- No connection was named. -/
  | noConnections
  /-- The mashup part holds something that is not text, and is not overwritten. -/
  | undecodableMashup (path : WideText)
  /-- A document or metadata that has no payload. -/
  | unencodable (fault : Payload.EncodeFault)
  /-- There is no metadata part that can be read. -/
  | noQueryMetadata
  /-- The metadata has no object for the queries. -/
  | noQueriesSection
  /-- The metadata has no entry for a query. -/
  | unknownQuery (name : WideText)
  /-- A request to change the metadata in a way there is not. -/
  | unsupportedChange

namespace Failure

/-- The wording of a failure. -/
def message : Failure → WideText
  | invalidIdentifier id => wide "Invalid identifier: " ++ Text.widen (Quoted.quote (Text.widen id))
  | missingFile path => wide "Dataflow definition not found: " ++ Text.widen path
  | missingDefinition workspace dataflow =>
    wide "Dataflow " ++ Text.widen dataflow ++ wide " not found in workspace "
      ++ Text.widen workspace
  | nullInPath => wide "embedded null byte"
  | undecodableFile fault => Text.widen fault.message
  | unreadableJson error => Text.widen error.message
  | misshapen record problems => Text.widen (Shape.report record problems)
  | blankName => wide "query_name is required"
  | blankCode => wide "code is required"
  | noConnections => wide "At least one connection ID is required"
  | undecodableMashup path =>
    wide "Part " ++ WideText.inQuotes path
      ++ wide " could not be decoded; refusing to overwrite it"
  | unencodable fault => Text.widen fault.message
  | noQueryMetadata =>
    wide "Dataflow definition does not contain a readable queryMetadata.json"
  | noQueriesSection => wide "queryMetadata.json does not contain a queriesMetadata section"
  | unknownQuery name =>
    wide "Query " ++ WideText.inQuotes name ++ wide " not found in queriesMetadata"
  | unsupportedChange => wide "Unsupported metadata operation: object"

/-- What callers tell failures apart by. -/
inductive Kind where
  /-- There is nothing where something was looked for. -/
  | notFound
  /-- Bytes that are not UTF-8. -/
  | undecodable
  /-- A text that is not JSON. -/
  | malformed
  /-- A text that has no UTF-8 form. -/
  | unencodable
  /-- A request that there is not. -/
  | unsupported
  /-- A value that does not have the shape of a record. -/
  | misshapen
  /-- A value that is refused for another reason. -/
  | refused
deriving DecidableEq

/-- The kind of a failure. -/
def kind : Failure → Kind
  | missingFile _ | missingDefinition _ _ => .notFound
  | undecodableFile _ => .undecodable
  | unreadableJson (.malformed _ _ _ _) => .malformed
  | unencodable (.utf8 _) => .unencodable
  | unsupportedChange => .unsupported
  | misshapen _ _ => .misshapen
  | unreadableJson (.tooManyDigits _) | unencodable .tooManyDigits | invalidIdentifier _
  | nullInPath | blankName | blankCode
  | noConnections | undecodableMashup _ | noQueryMetadata | noQueriesSection | unknownQuery _ =>
    .refused

end Failure
end Dataflow
