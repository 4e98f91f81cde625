import SqlppBench.Error
import SqlppBench.Url.Basic

/-! # Service endpoints

The URL that statements are posted to. There is no way to an endpoint but through its checks, so
whatever is posted goes to a web server.
-/

namespace SqlppBench

/-- The URL of a query service. -/
structure Endpoint where
  url : Url
  isWeb : url.scheme = "http" ∨ url.scheme = "https"

namespace Endpoint

/-- What is wrong with the text of an endpoint. -/
inductive Fault where
  | url (fault : Url.Fault)
  | scheme
deriving DecidableEq, Repr

/-- What is said about the fault. -/
def Fault.message : Fault → String
  | .url fault => fault.message
  | .scheme => "scheme must be http or https"

/-- The endpoint with a URL. -/
def ofLocation : Url.Location → Except Fault Endpoint
  | .url u =>
    if h : u.scheme = "http" ∨ u.scheme = "https" then .ok ⟨u, h⟩ else .error .scheme
  | .other _ => .error .scheme

/-- Reads a URL, which may have blanks around it. -/
def check [Url.Idna] (s : String) : Except Fault Endpoint :=
  match Url.parse (Text.trim s) with
  | .ok location => ofLocation location
  | .error fault => .error (.url fault)

/-- Reads a URL, which may have blanks around it. The error quotes the text as it was given. -/
def parse [Url.Idna] (s : String) : Except Error Endpoint :=
  (check s).mapError fun fault => .invalidEndpoint ("'" ++ s ++ "': " ++ fault.message)

/-- The text of the endpoint of the service on a host. -/
def textOfHostPort (host : String) (port : Nat) : String :=
  "http://" ++ host ++ ":" ++ Text.decimal port ++ "/query/service"

/-- The endpoint of the service on a host. -/
def ofHostPort [Url.Idna] (host : String) (port : Nat) : Except Error Endpoint :=
  parse (textOfHostPort host port)

end Endpoint

end SqlppBench
