import PageSkins.Failure

/-!
# The names of failures

The names that failures are reported under, and the families of failures that names stand
for.
-/

namespace PageSkins

def Topic.name : Topic → String
  | .general => "BlogSkinError"
  | .config => "ConfigError"
  | .authentication => "AuthenticationError"
  | .tokenExpired => "TokenExpiredError"
  | .validation => "ValidationError"
  | .breakerOpen => "CircuitBreakerOpenError"

def Topic.all : List Topic := [.general, .config, .authentication, .tokenExpired, .validation, .breakerOpen]

def ApiKind.name : ApiKind → String
  | .general => "APIError"
  | .badRequest => "BadRequestError"
  | .unauthorized => "UnauthorizedError"
  | .forbidden => "ForbiddenError"
  | .notFound => "NotFoundError"
  | .server => "ServerError"
  | .rateLimit => "RateLimitError"

def ApiKind.all : List ApiKind :=
  [.general, .badRequest, .unauthorized, .forbidden, .notFound, .server, .rateLimit]

namespace NetworkKind

def name : NetworkKind → String
  | .general => "RequestException"
  | .http => "HTTPError"
  | .connection => "ConnectionError"
  | .proxy => "ProxyError"
  | .secure => "SSLError"
  | .timeout => "Timeout"
  | .connectTimeout => "ConnectTimeout"
  | .readTimeout => "ReadTimeout"
  | .addressMissing => "URLRequired"
  | .redirects => "TooManyRedirects"
  | .schemeMissing => "MissingSchema"
  | .schemeUnknown => "InvalidSchema"
  | .address => "InvalidURL"
  | .header => "InvalidHeader"
  | .proxyAddress => "InvalidProxyURL"
  | .chunked => "ChunkedEncodingError"
  | .encoding => "ContentDecodingError"
  | .stream => "StreamConsumedError"
  | .retries => "RetryError"
  | .rewind => "UnrewindableBodyError"
  | .json => "InvalidJSONError"

def all : List NetworkKind := [
  .general, .http, .connection, .proxy, .secure, .timeout, .connectTimeout, .readTimeout, .addressMissing, .redirects,
  .schemeMissing, .schemeUnknown, .address, .header, .proxyAddress, .chunked, .encoding, .stream, .retries, .rewind,
  .json]

end NetworkKind

def Disk.Refusal.name : Disk.Refusal → String
  | .missing => "FileNotFoundError"
  | .exists => "FileExistsError"
  | .notFolder => "NotADirectoryError"
  | .isFolder => "IsADirectoryError"
  | .nameTooLong => "OSError"
  | .badPath => "ValueError"

def Mishap.name : Mishap → String
  | .wrongKind => "TypeError"
  | .noSuchPart => "AttributeError"
  | .badValue => "ValueError"
  | .overflow => "OverflowError"
  | .zeroDivision => "ZeroDivisionError"
  | .notText => "UnicodeDecodeError"
  | .disk r => r.name
  | .named n _ => n

namespace Failure

def name : Failure → String
  | .refused topic .. => topic.name
  | .api a => a.kind.name
  | .network k _ => k.name
  | .exhausted .. => "MaxRetriesExceededError"
  | .file .. => "FileOperationError"
  | .invalid _ => "ValidationError"
  | .mishap m _ => m.name

def systemNames : List String := [
  "OSError", "FileNotFoundError", "FileExistsError", "NotADirectoryError", "IsADirectoryError", "PermissionError",
  "TimeoutError", "InterruptedError", "BlockingIOError", "ChildProcessError", "ProcessLookupError", "BrokenPipeError",
  "ConnectionAbortedError", "ConnectionRefusedError", "ConnectionResetError"]

/-- The names within a family. -/
def members : String → List String
  | "LookupError" => ["KeyError", "IndexError"]
  | "ArithmeticError" => ["ZeroDivisionError", "OverflowError", "FloatingPointError"]
  | "ValueError" => ["UnicodeError", "UnicodeDecodeError", "MissingSchema", "InvalidSchema", "InvalidURL",
    "InvalidHeader", "InvalidProxyURL"]
  | "RuntimeError" => ["RecursionError", "NotImplementedError"]
  | "ImportError" => ["ModuleNotFoundError"]
  | "InvalidURL" => ["InvalidProxyURL"]
  | "TypeError" => ["StreamConsumedError"]
  | "AuthenticationError" => ["TokenExpiredError"]
  | "NameError" => ["UnboundLocalError"]
  | "SyntaxError" => ["IndentationError", "TabError"]
  | "OSError" | "IOError" | "EnvironmentError" => systemNames
  | _ => []

/-- Whether a failure belongs to a family: its own name is one, and so are those that it lies within. -/
def belongsTo (f : Failure) (family : String) : Bool :=
  f.name = family || family = "Exception" || (members family).contains f.name ||
    (family = "BlogSkinError" && f.isOwn) ||
    match f with
    | .api _ => family = "APIError"
    | .network k _ => ["RequestException", "OSError", "IOError", "EnvironmentError"].contains family ||
      (family = "ConnectionError" && k.isConnection) || (family = "Timeout" && k.isTimeout)
    | _ => false

structure Terms where
  message : Value := .null
  details : Fields := []
  status : Option Int := none
  response : Fields := []
  endpoint : String := ""
  retryAfter : Option Int := none
  attempts : Value := .null
  path : String := ""
  operation : String := ""

def ofName (name : String) (t : Terms) : Failure :=
  let message := t.message.text?.getD ""
  match Topic.all.find? (·.name = name), ApiKind.all.find? (·.name = name), NetworkKind.all.find? (·.name = name) with
  | some topic, _, _ => .refused topic message t.details []
  | _, some k, _ => .api (.make k t.message t.status t.response t.endpoint t.retryAfter)
  | _, _, some k => .network k message
  | _, _, _ =>
    match name with
    | "MaxRetriesExceededError" => .exhausted message t.attempts none
    | "FileOperationError" => .file message t.path t.operation t.details
    | "KeyError" => .mishap (.named name false) (String.ofList (quotedText message.toList))
    | "IOError" | "EnvironmentError" => .mishap (.named "OSError" false) message
    | "ValueError" | "UnicodeError" => .mishap (.named name true) message
    | _ => .mishap (.named name false) message

/-- The names of the terms that failures with a name are made from. The message is one of all. -/
def termNames (name : String) : List String :=
  if Topic.all.any (·.name = name) then ["message", "details"]
  else if name = ApiKind.name .rateLimit then
    ["message", "status_code", "response_data", "endpoint", "retry_after"]
  else if ApiKind.all.any (·.name = name) then ["message", "status_code", "response_data", "endpoint"]
  else if NetworkKind.all.any (·.name = name) then ["message", "response", "request"]
  else match name with
    | "MaxRetriesExceededError" => ["message", "attempts", "last_exception"]
    | "FileOperationError" => ["message", "file_path", "operation", "details"]
    | _ => ["message"]

end Failure
end PageSkins
