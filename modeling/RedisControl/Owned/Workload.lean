import RedisControl.Owned.Endpoints
import RedisControl.Settings

/-!
# The workload of an instance

The stateful set that runs the pods. The hash of the inputs is an annotation of the pod template,
so that a changed input rolls the pods.

* `Redis.mountedVolumes` : the volumes of the pods, each with the place where it is mounted.
* `Redis.statefulSet` : the workload.
-/

namespace RedisControl

/-- The annotation with the hash of the inputs. -/
def inputHashKey : String := "cache.geeko.me/input-hash"

/-- A volume with the files of a config map. -/
def Volume.ofConfigMap (name configMap : String) (mode : Int32) : Volume where
  configMap := some { defaultMode := some mode, name := configMap }
  name := name

/-- A volume from a secret, readable by owner and group. -/
def Volume.ofSecret (name secret : String) : Volume where
  name := name
  secret := some { defaultMode := some 0o440, secretName := some secret }

/-- A mount of a volume for reading. -/
def VolumeMount.readOnlyAt (path name : String) : VolumeMount where
  mountPath := path
  name := name
  readOnly := some true

namespace Redis

/-- The volumes of the pods, each with the place where it is mounted. -/
def mountedVolumes (r : Redis) : List (Volume × String) :=
  [(.ofConfigMap "scripts" r.scriptsName 0o755, MountPath.scripts),
   (.ofConfigMap "config-data" r.configDataName 0o644, MountPath.config)]
  ++ r.spec.tls.certificate?.toList.map (fun s => (.ofSecret "tls-certs" s, MountPath.certificate))
  ++ r.spec.tls.caBundle?.toList.map (fun s => (.ofSecret "ca-bundle" s, MountPath.caBundle))

/-- The volumes of the pods. -/
def volumes (r : Redis) : List Volume := r.mountedVolumes.map (·.1)

/-- The mounts of the container, one for each volume. -/
def volumeMounts (r : Redis) : List VolumeMount :=
  r.mountedVolumes.map fun v => .readOnlyAt v.2 v.1.name

/-- The image that the server runs: the one of the spec, or the configured default. -/
def image (r : Redis) (settings : Settings) : String :=
  if r.spec.containerImage = "" then settings.defaultImage else r.spec.containerImage

/-- The container of the server, which runs the scripts that are mounted into it. -/
def container (r : Redis) (settings : Settings) : Container where
  command := some [MountPath.scripts ++ "/start.sh"]
  image := some (r.image settings)
  name := "redis"
  ports := some [{ containerPort := redisPort, name := some "redis" }]
  readinessProbe := some {
    exec := some { command := some [MountPath.scripts ++ "/readiness.sh"] }
    initialDelaySeconds := some 5
    periodSeconds := some 5
    timeoutSeconds := some 5 }
  volumeMounts := some r.volumeMounts

/-- What the pods are made from. An annotation carries the hash of the inputs. -/
def podTemplate (r : Redis) (settings : Settings) (inputHash : String) : PodTemplate where
  metadata := some {
    annotations := some (.ofList [(inputHashKey, inputHash)])
    labels := some r.commonLabels }
  spec := some {
    containers := [r.container settings]
    serviceAccountName := some r.rbacResourceName
    volumes := some r.volumes }

/-- The workload, which knows its pods by their labels and makes them from the template. -/
def statefulSet (r : Redis) (settings : Settings) (inputHash : String) :
    Except ControlError SubResource :=
  (r.ownedMetadata r.name).map fun metadata =>
    ⟨metadata, .statefulSet (some {
      podManagementPolicy := some "Parallel"
      replicas := some r.spec.replicas
      selector := { matchLabels := some r.selectorLabels }
      serviceName := r.headlessServiceName
      template := r.podTemplate settings inputHash }) none⟩

end Redis

end RedisControl
