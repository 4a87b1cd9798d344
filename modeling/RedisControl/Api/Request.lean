import RedisControl.Error
import RedisControl.SubResource.Basic

/-!
# Requests to the API server

An object lives at a path that is made from its resource, its namespace and its name. It is read
there, or patched: the desired form is sent, and the server works out what to change. Names are put
into the path as they are, so a name can make a request impossible, or cut it short.

* `Target.ofText?` : the text of a target, checked and taken apart.
* `Resource.collection`, `Resource.place?` : from a namespace to a path, and back.
* `Request.read?`, `Request.patch?` : the two requests about an object, if they can be built.
-/

namespace RedisControl.Api

/-! ## Targets -/

/-- Where a request goes. -/
structure Target where
  path : String
  query : Option String
  deriving DecidableEq

namespace Target

/-- Whether a character may stand in a path. -/
def inPath (c : Char) : Bool := 0x20 < c.toNat && c != '<' && c != '>' && c.toNat != 0x60

/-- Whether a character may stand in a query. -/
def inQuery (c : Char) : Bool := 0x20 < c.toNat && c != '"' && c != '<' && c != '>'

/-- The target that a text writes: a path up to the first question mark, then a query. What comes
after a number sign is no part of it. -/
def ofText? (text : String) : Option Target :=
  let cs := text.toList.takeWhile (· != '#')
  let path := cs.takeWhile (· != '?')
  let query := cs.drop (path.length + 1)
  if path.all inPath && query.all inQuery then
    some ⟨String.ofList path, if '?' ∈ cs then some (String.ofList query) else none⟩
  else none

/-- A target as it stands in a request. -/
def text (t : Target) : String :=
  match t.query with
  | none => t.path
  | some q => t.path ++ "?" ++ q

end Target

/-! ## Resources -/

/-- A kind of objects as requests name it. -/
structure Resource where
  apiVersion : String
  /-- The plural name that stands in paths. -/
  plural : String
  deriving DecidableEq

namespace Resource

/-- The resource of the instances. -/
def redises : Resource := ⟨"cache.geeko.me/v1beta1", "redises"⟩

/-- The resource of the secrets. -/
def secrets : Resource := ⟨"v1", "secrets"⟩

/-- The resource of a kind of owned objects. -/
def ofKind (k : Kind) : Resource where
  apiVersion := k.apiVersion
  plural := match k with
    | .serviceAccount => "serviceaccounts"
    | .role => "roles"
    | .roleBinding => "rolebindings"
    | .configMap => "configmaps"
    | .service => "services"
    | .statefulSet => "statefulsets"

/-- Where the versions of a resource are found. The core version has a place of its own. -/
def root (r : Resource) : String :=
  if r.apiVersion = "v1" then "/api/v1" else "/apis/" ++ r.apiVersion

/-- The path of the objects of a namespace, with a slash at its end. -/
def collection (r : Resource) (ns : String) : String :=
  r.root ++ "/namespaces/" ++ ns ++ "/" ++ r.plural ++ "/"

/-- What follows a start in a list of path segments. -/
def after? : List String → List String → Option (List String)
  | [], segments => some segments
  | _ :: _, [] => none
  | s :: start, t :: segments => if s = t then after? start segments else none

/-- Namespace and name of the object at a path, if it is one of the resource. -/
def place? (r : Resource) (path : String) : Option (String × String) :=
  match after? ((r.root ++ "/namespaces").splitOn "/") (path.splitOn "/") with
  | some [ns, plural, name] => if plural = r.plural then some (ns, name) else none
  | _ => none

end Resource

/-! ## Requests -/

/-- A request, which either reads an object or patches it. -/
inductive Request where
  | read (target : Target)
  | patch (target : Target) (body : Json)
  deriving DecidableEq

/-- What the desired form of an object is sent as. -/
def patchType : String := "application/apply-patch+yaml"

/-- The query of a patch: the fields of the desired form are taken over from whoever set them. -/
def patchQuery : String := "?&force=true&fieldManager=redis-operator"

namespace Request

def target : Request → Target
  | .read t => t
  | .patch t _ => t

def method : Request → String
  | .read _ => "GET"
  | .patch _ _ => "PATCH"

/-- A request in one line: the method and the target. -/
def text (r : Request) : String := r.method ++ " " ++ r.target.text

/-- The checked target of an object's request. -/
def targetOf (name text : String) : Except RequestFault Target :=
  if name = "" then .error .emptyName
  else match Target.ofText? text with
    | none => .error .badCharacter
    | some t => .ok t

/-- The request for an object. -/
def read? (r : Resource) (ns name : String) : Except RequestFault Request :=
  (targetOf name (r.collection ns ++ name)).map .read

/-- The request that brings an object, or a part of it, into a desired form. -/
def patch? (r : Resource) (ns name : String) (part : String) (body : Json) :
    Except RequestFault Request :=
  (targetOf name (r.collection ns ++ name ++ part ++ patchQuery)).map fun t => .patch t body

end Request

end RedisControl.Api
