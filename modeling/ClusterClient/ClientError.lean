import ClusterClient.Http
import ClusterClient.Url.Basic

/-!
# Errors of the client

Each way in which the client refuses or fails is a cause. `ClientError.kind` sorts the causes and
`ClientError.message` puts them into words.
-/

namespace ClusterClient

/-- A part of a document's address that must not be empty. -/
inductive AddressPart where
  | index
  | docType
  | id
  deriving DecidableEq, Repr

/-- The name of a part of an address. -/
def AddressPart.name : AddressPart → String
  | .index => "index"
  | .docType => "doc_type"
  | .id => "id"

/-- Why the client refuses or fails. -/
inductive ClientError where
  /-- Every node has failed in the round of a request. -/
  | unavailable (method : Method) (path : String)
  /-- The list of nodes is empty. -/
  | noEndpoints
  /-- A document would take more than one line. -/
  | lineBreakIn (id : String)
  /-- A delete names no document. -/
  | deleteWithoutId
  /-- A part of an address is missing. -/
  | missingPart (part : AddressPart)
  /-- A batch has no index. -/
  | missingBulkIndex
  /-- A node is no URL. -/
  | invalidHost (host : String) (fault : Url.Fault)
  /-- Nothing can be resolved against the URL of a node. -/
  | hostNotBase (host : String)
  /-- A proxy is set for traffic that is not known. -/
  | unknownProxyTraffic (traffic : String)
  /-- Only one of a client's certificate and key is set. -/
  | unpairedIdentity
  /-- The key of the client would have to be decrypted. -/
  | encryptedKey
  /-- The files of certificate and key do not identify a client. -/
  | invalidIdentity (certificate key : String)
  /-- A file cannot be read. -/
  | unreadableFile (path : String)
  /-- A file or text is no configuration. -/
  | invalidToml
  /-- The transport cannot be built from a proxy or a certificate. -/
  | unusableTransport (setting : String)
  deriving DecidableEq, Repr

/-- The sorts of errors. -/
inductive ErrorKind where
  | connectionFailure
  | noEndpoints
  | invalidDocument
  | invalidArgument
  | config
  | io
  | toml
  | http
  deriving DecidableEq, Repr

/-- The label of a sort. -/
def ErrorKind.label : ErrorKind → String
  | .connectionFailure => "connection_failure"
  | .noEndpoints => "no_endpoints"
  | .invalidDocument => "invalid_document"
  | .invalidArgument => "invalid_argument"
  | .config => "config"
  | .io => "io"
  | .toml => "toml"
  | .http => "http"

namespace ClientError

/-- The sort of an error. -/
def kind : ClientError → ErrorKind
  | .unavailable .. => .connectionFailure
  | .noEndpoints => .noEndpoints
  | .lineBreakIn _ => .invalidDocument
  | .deleteWithoutId => .invalidDocument
  | .missingPart _ => .invalidArgument
  | .missingBulkIndex => .invalidArgument
  | .invalidHost .. => .config
  | .hostNotBase _ => .config
  | .unknownProxyTraffic _ => .config
  | .unpairedIdentity => .config
  | .encryptedKey => .config
  | .invalidIdentity .. => .config
  | .unreadableFile _ => .io
  | .invalidToml => .toml
  | .unusableTransport _ => .http

/-- What every message of a sort starts with. -/
def heading : ErrorKind → String
  | .connectionFailure => "Connection failure: "
  | .noEndpoints => "Endpoint list can not be empty"
  | .invalidDocument => "Invalid document: "
  | .invalidArgument => "Invalid argument: "
  | .config => "Configuration error: "
  | .io => "IO error: "
  | .toml => "TOML error: "
  | .http => "HTTP error: "

/-- What a message says behind its heading. -/
def detail : ClientError → String
  | .unavailable method path => "All hosts failed for " ++ method.name ++ " " ++ path
  | .noEndpoints => ""
  | .lineBreakIn id => "Document '" ++ id ++ "' contains a newline character"
  | .deleteWithoutId => "Delete operation requires a document id"
  | .missingPart part => "Argument " ++ part.name ++ " can not be empty"
  | .missingBulkIndex => "Bulk index name can not be empty"
  | .invalidHost host fault => "Invalid host URL '" ++ host ++ "': " ++ fault.message
  | .hostNotBase host => "Host URL '" ++ host ++ "' can not be a base"
  | .unknownProxyTraffic traffic =>
    "Unsupported proxy scheme '" ++ traffic ++ "' (expected http, https or all)"
  | .unpairedIdentity => "Client certificate and client key must be configured together"
  | .encryptedKey =>
    "Encrypted client keys are not supported, provide an unencrypted PEM key"
  | .invalidIdentity certificate key =>
    "Invalid client identity " ++ certificate ++ " / " ++ key
  | .unreadableFile path => path ++ " can not be read"
  | .invalidToml => "not a client configuration"
  | .unusableTransport setting => setting ++ " can not be used"

/-- An error in words. -/
def message (error : ClientError) : String := heading error.kind ++ error.detail

/-- Whether the cluster did not answer. -/
def isConnectionFailure (error : ClientError) : Bool := error.kind == .connectionFailure

end ClientError
end ClusterClient
