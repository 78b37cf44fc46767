import VariantSearch.CommandLine.Arguments
import VariantSearch.Json.Parser
import VariantSearch.Json.Printer
import VariantSearch.Router
import VariantSearch.Text.Quoted
import VariantSearch.Web.Status
import VariantSearch.Web.Url

namespace VariantSearch.CommandLine

structure Site where
  host : List Char
  portNumber : Nat
  router : Router

inductive ClientFault where
  | unusable (url : String) (fault : Web.Url.Fault)
  | refused (url target : String)
  /-- The body of the answer is no JSON; the flag says whether it is empty. -/
  | notJson (isEmpty : Bool)
  | status (url : String) (code : Nat) (message : Json)
deriving Inhabited

namespace ClientFault

def headline : ClientFault → String
  | unusable url _ | refused url _ => "request to " ++ url ++ " failed"
  | notJson _ => "response is not JSON"
  | status url code message =>
    url ++ " returned " ++ Web.Status.toText code ++ ": " ++ message.toText

def builderText (url : String) : Web.Url.Fault → String
  | .scheme => "builder error for url (" ++ String.ofList (Web.Url.clean url.toList) ++ ")"
  | _ => "builder error"

/-- The causes behind a failure, from the outermost to the innermost. Each names the ones behind
it. -/
def causes : ClientFault → List String
  | unusable url fault => [builderText url fault ++ ": " ++ fault.message, fault.message]
  | refused _ target =>
    let system := "Connection refused (os error 111)"
    let connect := "tcp connect error: " ++ system
    let trying := "error trying to connect: " ++ connect
    ["error sending request for url (" ++ target ++ "): " ++ trying, trying, connect, system]
  | notJson isEmpty =>
    let syntaxError :=
      if isEmpty then "EOF while parsing a value at line 1 column 0"
      else "expected value at line 1 column 1"
    ["error decoding response body: " ++ syntaxError, syntaxError]
  | status _ _ _ => []

def full (f : ClientFault) : String := ": ".intercalate (f.headline :: f.causes)

end ClientFault

structure Outcome where
  exitCode : Nat
  output : String
  error : String
deriving DecidableEq

def searchPairs (query : String) (facets sort : Option String) (page limit : Int) :
    List (String × String) :=
  [("q", query), ("page", toString page), ("limit", toString limit)] ++
    facets.toList.map (("facets", ·)) ++ sort.toList.map (("sort", ·))

def bodyText : Body → String
  | .json value => value.toText
  | .text content => content

def readAnswer (url : String) (a : Answer) : Except ClientFault Json :=
  let text := bodyText a.body
  -- The body is read before the status is looked at.
  match Json.ofString? text with
  | none => .error (.notJson text.isEmpty)
  | some value =>
    if Web.Status.isSuccess a.status then .ok value
    else .error (.status url a.status
      (((value.member? "error").bind (·.member? "message")).getD .null))

section Engine

variable {σ : Type} [SearchEngine σ]

def fetch (site : Site) (url : String) (pairs : List (String × String)) (s : Service σ) :
    Except ClientFault Json × Service σ :=
  match Web.Url.parse url with
  | .error fault => (.error (.unusable url fault), s)
  | .ok address =>
    let address := address.withPairs pairs
    -- Nothing but the site listens anywhere.
    if !address.secure ∧ address.host = site.host ∧ address.portNumber = site.portNumber then
      match site.router.handle "GET" ⟨address.path, address.query⟩ s with
      | (answer, s') => (readAnswer url answer, s')
    else (.error (.refused url address.toText), s)

def printed : Except ClientFault Json → Outcome
  | .ok value => ⟨0, value.toPrettyText ++ "\n", ""⟩
  | .error f => ⟨1, "", "Error: " ++ f.headline ++ "\n"⟩

def padded (name : String) : String :=
  name ++ String.ofList (List.replicate (8 - name.length) ' ')

def hitId (hit : Json) : String :=
  match (hit.member? "id").getD .null with
  | .text s => s
  | value => value.toText

def hitIds (answer : Json) : List String :=
  (((answer.member? "hits").bind Json.asList?).getD []).map hitId

def block (name : String) : Except ClientFault Json → String
  | .ok answer =>
    padded name ++ " total hits: " ++ ((answer.member? "estimatedTotalHits").getD .null).toText ++
      "\n" ++ padded "" ++ " top ids:    " ++ ", ".intercalate (hitIds answer) ++ "\n"
  | .error f => padded name ++ " error: " ++ f.full ++ "\n"

def searchUrl (endpoint name : String) : String := endpoint ++ "/search/" ++ name

def blocks (site : Site) (endpoint : String) (pairs : List (String × String)) :
    List String → Service σ → String × Service σ
  | [], s => ("", s)
  | name :: more, s =>
    match fetch site (searchUrl endpoint name) pairs s with
    | (result, s') =>
      -- A name that fails does not keep the others from being asked for.
      match blocks site endpoint pairs more s' with
      | (rest, s'') => (block name result ++ rest, s'')

def heading (query : String) : String := "Query: " ++ Text.Quoted.quote query ++ "\n\n"

def carryOut (site : Site) (endpoint : String) (command : Command) (s : Service σ) :
    Outcome × Service σ :=
  match command with
  | .search name query facets sort page limit =>
    match fetch site (searchUrl endpoint name) (searchPairs query facets sort page limit) s with
    | (result, s') => (printed result, s')
  | .compare query facets limit names =>
    match blocks site endpoint (searchPairs query facets none 1 limit) names s with
    | (text, s') => (⟨0, heading query ++ text, ""⟩, s')
  | .configurations =>
    match fetch site (endpoint ++ "/configurations") [] s with
    | (result, s') => (printed result, s')
  | .health =>
    match fetch site (endpoint ++ "/health") [] s with
    | (result, s') => (printed result, s')
  | .version => (⟨0, "search-ab-cli " ++ Router.version ++ "\n", ""⟩, s)

def run (site : Site) (standard : String) (arguments : List String) (s : Service σ) :
    Outcome × Service σ :=
  match parse? arguments with
  | none => (⟨2, "", "usage error\n"⟩, s)
  | some (endpoint, command) => carryOut site (endpoint.getD standard) command s

end Engine

end VariantSearch.CommandLine
