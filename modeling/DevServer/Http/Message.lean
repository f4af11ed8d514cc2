import DevServer.Json.Printer

/-!
# Requests and responses

A request is seen by its method and the path of its target, a response by its status, its headers
and its body.
-/

namespace DevServer.Http

inductive Method where
  | get
  | head
  | options
  | other (name : String)
  deriving DecidableEq, Repr

def Method.ofName : String → Method
  | "GET" => get
  | "HEAD" => head
  | "OPTIONS" => options
  | name => other name

/-- What is left of a text behind the first `://`. -/
def afterScheme : List Char → Option (List Char)
  | ':' :: '/' :: '/' :: cs => some cs
  | _ :: cs => afterScheme cs
  | [] => none

def endsAuthority (c : Char) : Bool := c == '/' || c == '?' || c == '#'

def endsPath (c : Char) : Bool := c == '?' || c == '#'

/--
The path that a target asks for, without query and fragment. A target with a scheme has its path
behind the authority, and the path is `/` if there is none.
-/
def targetPath (target : String) : String :=
  let cs := target.toList
  if cs.head? = some '/' || target = "*" then String.ofList (cs.takeWhile (!endsPath ·))
  else match afterScheme cs with
    | none => ""
    | some cs =>
      match (cs.dropWhile (!endsAuthority ·)).takeWhile (!endsPath ·) with
      | [] => "/"
      | path => String.ofList path

structure Request where
  method : Method
  path : String
  deriving DecidableEq, Repr

inductive Body where
  | empty
  | text (s : String)
  | document (doc : Json)
  /-- Chunks that follow one another as long as the connection is open. -/
  | stream
  deriving Repr

abbrev Headers := List (String × String)

structure Response where
  status : Nat
  headers : Headers
  body : Body
  deriving Repr

namespace Response

def ok (contentType : String) (body : Body) : Response := ⟨200, [("content-type", contentType)], body⟩

/-- The response without its body. -/
def bare (r : Response) : Response := { r with body := .empty }

def withHeaders (r : Response) (more : Headers) : Response := { r with headers := r.headers ++ more }

end Response

end DevServer.Http
