import RedisControl.Main
import RedisControl.Proofs.Attribution
import RedisControl.Proofs.CrossReferences
import RedisControl.Proofs.DerivedReady
import RedisControl.Proofs.Finalization
import RedisControl.Proofs.Fingerprint
import RedisControl.Proofs.InstanceRoundTrip
import RedisControl.Proofs.LedgerHistory
import RedisControl.Proofs.PassPlan
import RedisControl.Proofs.Postponement
import RedisControl.Proofs.Quiescence
import RedisControl.Proofs.ReadyUpdate
import RedisControl.Proofs.RecordedInputs
import RedisControl.Proofs.SecretDependence
import RedisControl.Proofs.Separation
import RedisControl.Proofs.TemplateExpansion
import RedisControl.Proofs.TemplateLookups
import RedisControl.Proofs.TlsFiles
import RedisControl.Proofs.TransitionTimes
import RedisControl.Simulation.MemoryCluster
import RedisControl.Simulation.Rehearsal
import RedisControl.Simulation.Rollout
import RedisControl.Proofs.ApplyAnswers
import RedisControl.Proofs.ConfigContents
import RedisControl.Proofs.SpecEdits
import RedisControl.Proofs.SecretDemands
import RedisControl.Proofs.InputMapping
import RedisControl.Proofs.LedgerOperations
import RedisControl.Proofs.Ownership
import RedisControl.Proofs.Scheduling
import RedisControl.Proofs.Waiting
import RedisControl.Proofs.AcceptedSettings
import RedisControl.Proofs.LeftmostPass
