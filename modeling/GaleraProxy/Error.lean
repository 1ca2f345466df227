import GaleraProxy.Text.Quoted

/-!
# Errors of the program

`ProxyError` lists everything that can stop a command or an operation, and `ProxyError.message` is
what the operator reads. A configuration that breaks rules carries the list of its violations.
-/

namespace GaleraProxy

/-- One broken rule: the section and field it is about, what is wrong and how to mend it. -/
structure ValidationError where
  sectionName : String
  field : String
  message : String
  suggestion : Option String
  deriving DecidableEq, Repr

/-- The line that reports a broken rule. -/
def ValidationError.text (e : ValidationError) : String :=
  "  " ++ e.sectionName ++ ": " ++ e.field ++ " (" ++ e.message ++ ")"
    ++ (match e.suggestion with
        | some hint => " hint: " ++ hint
        | none => "")

/-- What can stop a command or an operation. -/
inductive ProxyError where
  | noConfigSource (hint : String)
  | configFileNotFound (path : String)
  | configParse (path detail : String)
  | configValidation (errors : List ValidationError)
  | unsupportedFormat (format : String)
  | addressParse (detail : String)
  | uriParse (detail : String)
  | httpRequest (detail : String)
  | httpTimeout (url : String) (timeoutMs : Nat)
  | tls (detail : String)
  | backendDial (backend addr detail : String)
  | bridgeNotFound (id : String)
  | metrics (detail : String)
  | fileExists (path : String)
  | inputOutput (detail : String)
  | healthCheckFailed (status : String)
  deriving DecidableEq, Repr

/-- What the operator reads. -/
def ProxyError.message : ProxyError → String
  | .noConfigSource hint => "No config source found.\n\n  " ++ hint
  | .configFileNotFound path => "Config file not found: " ++ path
  | .configParse path detail => "Config parse error in " ++ path ++ ":\n  " ++ detail
  | .configValidation errors =>
      "Config validation failed:\n" ++ "\n".intercalate (errors.map ValidationError.text)
  | .unsupportedFormat format => "Unsupported config format: '" ++ format ++ "'"
  | .addressParse detail => "Invalid address: " ++ detail
  | .uriParse detail => "Invalid URI: " ++ detail
  | .httpRequest detail => "HTTP request failed: " ++ detail
  | .httpTimeout url timeoutMs =>
      "Request to " ++ url ++ " timed out after " ++ toString timeoutMs ++ "ms"
  | .tls detail => "TLS setup failed: " ++ detail
  | .backendDial backend addr detail =>
      "Error establishing connection to backend " ++ backend ++ " (" ++ addr ++ "): " ++ detail
  | .bridgeNotFound id => "Bridge not found: " ++ id
  | .metrics detail => "Failed to install metrics recorder: " ++ detail
  | .fileExists path => "File already exists: " ++ path
  | .inputOutput detail => detail
  | .healthCheckFailed status => "Health check failed with status " ++ status

end GaleraProxy
