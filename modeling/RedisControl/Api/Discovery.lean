import RedisControl.Api.Client
import RedisControl.Api.Version

/-!
# Whether the server serves the resource

The server lists its groups, and for every version of a group the resources that it serves. A
probe asks for both and looks for the resource in the version that the server recommends. Anything
that goes wrong on the way makes the probe fail.

* `ResourceList.served?` : the kinds that a version serves.
* `Group.recommended?` : the version that counts.
* `probe` : one probe.
-/

namespace RedisControl.Api

/-- What comes of a probe. -/
inductive Finding where
  | served
  | notServed
  | failed
  deriving DecidableEq, Repr

/-! ## What the server tells -/

/-- A version of a group of resources. -/
structure GroupVersion where
  groupVersion : String
  version : String

/-- A group of resources with its versions. -/
structure Group where
  name : String
  preferred : Option GroupVersion
  versions : List GroupVersion

/-- A resource that a version of a group serves. -/
structure ListedResource where
  kind : String
  /-- The plural name; that of a part of a resource has a slash. -/
  name : String
  /-- The version, where it is not that of the list. -/
  version : Option String

/-- The resources of one version of a group. -/
structure ResourceList where
  groupVersion : String
  resources : List ListedResource

namespace GroupVersion

/-- Read a version, of which nothing has to be there. -/
def read? (j : Json) : Option GroupVersion := do
  let j ← j.asObject?
  let groupVersion ← j.lenient "groupVersion" Json.asString? ""
  let version ← j.lenient "version" Json.asString? ""
  some ⟨groupVersion, version⟩

end GroupVersion

namespace Group

/-- Check the address of a server. -/
def readAddress? (j : Json) : Option Unit := do
  let j ← j.asObject?
  discard (j.lenient "clientCIDR" Json.asString? "")
  discard (j.lenient "serverAddress" Json.asString? "")

/-- Read a group. Its addresses are only checked. -/
def read? (j : Json) : Option Group := do
  let j ← j.asObject?
  j.constant "apiVersion" "v1"
  j.constant "kind" "APIGroup"
  let name ← j.lenient "name" Json.asString? ""
  let preferred ← j.optional "preferredVersion" GroupVersion.read?
  discard (j.optional "serverAddressByClientCIDRs" (Json.asList? readAddress?))
  let versions ← j.lenient "versions" (Json.asList? GroupVersion.read?) []
  some ⟨name, preferred, versions⟩

/-- Read the groups of a server. -/
def readList? (j : Json) : Option (List Group) := do
  let j ← j.asObject?
  j.constant "apiVersion" "v1"
  j.constant "kind" "APIGroupList"
  j.lenient "groups" (Json.asList? read?) []

/-- The version that counts: the one that the group prefers, or else the best one. -/
def recommended? (g : Group) : Option String :=
  match g.preferred with
  | some p => some p.version
  | none => Version.best? (g.versions.map (·.version))

end Group

namespace ListedResource

/-- Read a resource. Fields that nothing depends on are only checked. -/
def read? (j : Json) : Option ListedResource := do
  let j ← j.asObject?
  discard (j.optional "categories" Json.asTexts?)
  discard (j.optional "group" Json.asString?)
  let kind ← j.lenient "kind" Json.asString? ""
  let name ← j.lenient "name" Json.asString? ""
  discard (j.lenient "namespaced" Json.asBool? false)
  discard (j.optional "shortNames" Json.asTexts?)
  discard (j.lenient "singularName" Json.asString? "")
  discard (j.optional "storageVersionHash" Json.asString?)
  discard (j.lenient "verbs" Json.asTexts? [])
  let version ← j.optional "version" Json.asString?
  some ⟨kind, name, version⟩

/-- Whether a resource is a part of another, such as its status. -/
def isPart (r : ListedResource) : Bool := '/' ∈ r.name.toList

end ListedResource

namespace ResourceList

/-- Read the resources of a version. -/
def read? (j : Json) : Option ResourceList := do
  let j ← j.asObject?
  j.constant "apiVersion" "v1"
  j.constant "kind" "APIResourceList"
  let groupVersion ← j.lenient "groupVersion" Json.asString? ""
  let resources ← j.lenient "resources" (Json.asList? ListedResource.read?) []
  some ⟨groupVersion, resources⟩

/-- The version in a text of the form version, or group and version with a slash between. -/
def version? (l : ResourceList) : Option String :=
  match l.groupVersion.splitOn "/" with
  | [version] => some version
  | [_, version] => some version
  | _ => none

/-- The kinds that the list serves, each with its version. Parts of resources do not count. -/
def served? (l : ResourceList) : Option (List (String × String)) :=
  (l.resources.filter (!·.isPart)).mapM fun r =>
    l.version?.map fun version => (r.kind, r.version.getD version)

end ResourceList

/-! ## Probing -/

/-- Ask for what is at a path. A path that is no target gives nothing, and nothing is sent. -/
def look {α : Type} (read : Json → Option α) (path : String) : Program Api (Option α) :=
  match Target.ofText? path with
  | none => .done none
  | some t => (fetch read (.ok (.read t))).bind fun answer => .done answer.toOption

/-- The kinds that each of some versions serves; none if anything goes wrong. -/
def lookThrough : List GroupVersion → Program Api (Option (List (String × List (String × String))))
  | [] => .done (some [])
  | v :: rest =>
    (look ResourceList.read? ("/apis/" ++ v.groupVersion)).bind fun list =>
      match list.bind ResourceList.served? with
      | none => .done none
      | some kinds => (lookThrough rest).bind fun found =>
        .done (found.map ((v.version, kinds) :: ·))

/-- Whether the recommended version of a group is among those found and serves the resource. -/
def Group.serves (g : Group) (found : List (String × List (String × String))) : Bool :=
  match g.recommended?.bind fun version => found.lookup version with
  | none => false
  | some kinds => (Redis.kind, Redis.version) ∈ kinds

/-- Probe one group. A group without versions makes the probe fail. -/
def probeGroup (g : Group) : Program Api Finding :=
  if g.versions.isEmpty then .done .failed
  else (lookThrough g.versions).bind fun found =>
    .done (match found with
      | none => .failed
      | some found => if g.serves found then .served else .notServed)

/-- Probe groups one after the other. The last one decides, unless one fails. -/
def probeGroups (last : Finding) : List Group → Program Api Finding
  | [] => .done last
  | g :: rest => (probeGroup g).bind fun
    | .failed => .done .failed
    | found => probeGroups found rest

/-- Find out whether the server serves the resource. -/
def probe : Program Api Finding :=
  (look Group.readList? "/apis").bind fun
    | none => .done .failed
    | some groups => probeGroups .notServed (groups.filter (·.name == Redis.group))

end RedisControl.Api
