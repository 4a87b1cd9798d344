import RedisControl.Owned.ConfigMaps

/-!
# Network endpoints of an instance

An instance has a headless service, which gives every pod an address of its own, and a service
that clients connect to. Both select the pods by the selector labels of the instance.
-/

namespace RedisControl

/-- The port of both services. -/
def endpointPort : ServicePort where
  name := some "redis"
  port := redisPort
  protocol := some "TCP"
  targetPort := some (.number redisPort)

namespace Redis

/-- The name of the headless service, which also governs the workload. -/
def headlessServiceName (r : Redis) : String := r.name ++ "-headless"

/-- The service that gives each pod a name of its own, ready or not. -/
def headlessService (r : Redis) : Except ControlError SubResource :=
  (r.ownedMetadata r.headlessServiceName).map fun metadata =>
    ⟨metadata, .service (some {
      clusterIp := some "None"
      ports := some [endpointPort]
      publishNotReadyAddresses := some true
      selector := some r.selectorLabels })⟩

/-- The service that clients connect to. -/
def clientService (r : Redis) : Except ControlError SubResource :=
  (r.ownedMetadata r.name).map fun metadata =>
    ⟨metadata, .service (some {
      ports := some [endpointPort]
      selector := some r.selectorLabels
      type := some "ClusterIP" })⟩

end Redis

end RedisControl
