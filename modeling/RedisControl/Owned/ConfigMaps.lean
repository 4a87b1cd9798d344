import RedisControl.InputHashes
import RedisControl.Owned.Labels
import RedisControl.SubResource.Basic
import RedisControl.Template

/-!
# Config maps of an instance

An instance has two config maps: one with the scripts that its pods run, one with the
configuration of the server. The files are templates that belong to this library; text of the
user is added after a file has been rendered, so that nothing in it is expanded.

* `Redis.configTemplates` : the two config maps to render.
* `Redis.configMap` : a config map and the hash of its data.
-/

namespace RedisControl

/-! ## Paths and keys -/

/-- The port that the server listens on, with transport security or without. -/
def redisPort : Int32 := 6379

namespace MountPath

/-- Where pods find the scripts. -/
def scripts : String := "/var/lib/operator-scripts"

/-- Where pods find the configuration of the server. -/
def config : String := "/var/lib/config-data/default"

/-- Where the certificate is mounted. -/
def certificate : String := "/var/lib/config-data/tls/certs"

/-- Where the bundle of authorities is mounted. -/
def caBundle : String := "/var/lib/config-data/tls/ca"

end MountPath

namespace TlsKey

/-- The key of the certificate. -/
def certificate : String := "tls.crt"

/-- The key of its private key. -/
def privateKey : String := "tls.key"

/-- The key of the certificate of its authority. -/
def issuer : String := "ca.crt"

/-- The key of the bundle of authorities. -/
def caBundle : String := "tls-ca-bundle.pem"

end TlsKey

/-! ## Files -/

/-- The script that starts the server. -/
def startScript : String :=
  "#!/bin/bash\nset -e\nexec redis-server \x7b\x7b config_dir \x7d\x7d/redis.conf\n"

/-- The script that asks the server whether it is ready. -/
def readinessScript : String :=
  "#!/bin/bash\nexec redis-cli \x7b\x7b cli_tls_args \x7d\x7d-p \x7b\x7b port \x7d\x7d ping | " ++
  "grep -q PONG\n"

/-- The configuration of the server, up to what the instance adds. -/
def serverConfig : String :=
  "bind 0.0.0.0\n\x7b\x7b listen \x7d\x7d\ndir /data\nappendonly no\nprotected-mode no\n"

/-- The part of the configuration that makes the server listen securely. -/
def secureListen : String :=
  "port 0\ntls-port \x7b\x7b port \x7d\x7d\n" ++
  "tls-cert-file \x7b\x7b cert_dir \x7d\x7d/tls.crt\n" ++
  "tls-key-file \x7b\x7b cert_dir \x7d\x7d/tls.key\n" ++
  "tls-ca-cert-file \x7b\x7b ca_file \x7d\x7d\ntls-auth-clients no"

/-- The part of the configuration that makes the server listen without transport security. -/
def plainListen : String := "port \x7b\x7b port \x7d\x7d"

/-! ## Templates -/

/-- What the files of a config map are for, which decides on its files. -/
inductive ConfigRole where
  | scripts
  | config
  deriving DecidableEq, Repr

/-- A config map that is to be rendered. -/
structure ConfigTemplate where
  name : String
  role : ConfigRole
  /-- Text that is added to the rendered file of the same name. -/
  customData : StringMap String

/-- The files that a config map holds in any case, with their templates. -/
def ConfigRole.sources : ConfigRole → List (String × String)
  | .scripts => [("start.sh", startScript), ("readiness.sh", readinessScript)]
  | .config => [("redis.conf", serverConfig)]

/-- Text added to a file: on a line of its own, unless the file is empty. -/
def appendText (file extra : String) : String :=
  if file = "" ∨ file.toList.getLast? = some '\n' then file ++ extra else file ++ "\n" ++ extra

/-- Files with custom text added; a file that was not there holds just the text. -/
def addCustomData (files custom : StringMap String) : StringMap String :=
  custom.entries.foldl
    (fun files e => files.insert e.1 (appendText ((files.get? e.1).getD "") e.2)) files

/-- How it is told that a template cannot be rendered. -/
def ControlError.ofRender (e : Template.RenderError) : ControlError := .configGeneration e.message

namespace Redis

/-- The text of the user for the configuration of the server. -/
def customFiles (r : Redis) : StringMap String :=
  match r.spec.customConfig with
  | none => .empty
  | some text => if text = "" then .empty else .ofList [("redis.conf", text)]

/-- The name of the config map with the scripts. -/
def scriptsName (r : Redis) : String := r.name ++ "-scripts"

/-- The name of the config map with the configuration. -/
def configDataName (r : Redis) : String := r.name ++ "-config-data"

/-- The config maps of an instance: scripts, then configuration. -/
def configTemplates (r : Redis) : List ConfigTemplate :=
  [⟨r.scriptsName, .scripts, .empty⟩, ⟨r.configDataName, .config, r.customFiles⟩]

/-- The file with the authorities to trust: the bundle if there is one, else the issuer of the
certificate. -/
def caFile (r : Redis) : String :=
  if r.spec.tls.caBundle?.isSome then MountPath.caBundle ++ "/" ++ TlsKey.caBundle
  else MountPath.certificate ++ "/" ++ TlsKey.issuer

/-- The values of the keys in the templates. -/
def parameters (r : Redis) : StringMap String :=
  .ofList [
    ("port", toString redisPort),
    ("config_dir", MountPath.config),
    ("cert_dir", MountPath.certificate),
    ("ca_file", r.caFile),
    ("listen", if r.spec.tls.enabled then secureListen else plainListen),
    ("cli_tls_args", if r.spec.tls.enabled then "--tls --cacert " ++ r.caFile ++ " " else "")]

/-- Render files one after the other and enter them in a map. -/
def renderFiles (values : StringMap String) :
    List (String × String) → StringMap String → Except Template.RenderError (StringMap String)
  | [], files => .ok files
  | (name, source) :: rest, files =>
    (Template.render source values).bind fun text =>
      renderFiles values rest (files.insert name text)

/-- The files of a config map, rendered, with the custom text added. -/
def configData (r : Redis) (t : ConfigTemplate) :
    Except Template.RenderError (StringMap String) :=
  (renderFiles r.parameters t.role.sources .empty).map fun files => addCustomData files t.customData

/-- A config map and the hash of its data. -/
def configMap (r : Redis) (t : ConfigTemplate) : Except ControlError (SubResource × String) := do
  let data ← (r.configData t).mapError .ofRender
  let metadata ← r.ownedMetadata t.name
  return (⟨metadata, .configMap (some data)⟩, contentHash (.ofStrings data))

end Redis

end RedisControl
