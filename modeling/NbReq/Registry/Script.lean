import NbReq.Registry.Exec

/-!
# Scripts of the engine

The turns of which scripts are made, and a small engine to play them on.
-/

namespace NbReq

open TaskSystem

instance : DecidableRel engine.enabled := fun act sh => by
  show Decidable (act.enabled sh)
  unfold Act.enabled
  refine @instDecidableAnd _ _ _ ?_
  split <;> infer_instance

/-- The owner makes a call. -/
def calls {act : Act} (call : ∀ sh, act.ClientCall sh) : Turn engine :=
  .jump 1 List.isEmpty (fun _ => [act]) fun sh acts empty => by
    rw [List.isEmpty_iff.mp empty]
    exact .call le_rfl (call sh)

/-- The backend makes a call. -/
def backendCalls {act : Act} (call : act.BackendCall) : Turn engine :=
  .jump 0 (·.head?.any Act.runsBackend) (act :: ·) fun sh acts running => by
    cases acts with
    | nil => cases running
    | cons here rest => exact .backend running call

/-- The backend supports the resolver and standalone TCP. -/
def supports : Turn engine :=
  .drift (fun sh => { sh with nativeResolverSupported := true, standaloneTcpSupported := true })
    fun _ => .support true true

theorem reach_any (config : EngineConfig) (script : List (Turn engine)) (P : Config Shared Act → Prop)
    [DecidablePred P] (played : (play (fun _ _ => true) (start config) script).any (fun c => decide (P c)) = true) :
    ∃ c, Reachable config c ∧ P c :=
  reach (fun _ _ => true) (fun _ _ _ => trivial) script P played

def EngineConfig.small (runMode : RunMode) (commandQueueCapacity : Nat) : EngineConfig where
  width := .bits64
  id := 7
  runMode := runMode
  callbackWorkers := 0
  commandQueueCapacity := commandQueueCapacity
  callbackQueueCapacity := 8
  maxInflightRequests := 8
  maxInflightResolutions := 8
  maxRequestBodyBytes := 1024
  maxResponseBodyBytes := 1024
  maxBufferedBodyBytes := none
  maxStreamQueueBytesPerRequest := 64
  maxStreamQueuedBytes := 1024
  maxQueuedBytes := 1048576
  maxStandaloneTcpConnections := 4
  maxTcpQueueBytesPerConnection := 64
  maxResolveResults := 8
  maxHeaderBytes := 1024
  maxHeaderCount := 16
  streamingSupported := true

/-- A connect to an address, and a TLS handshake that has a second. -/
def TcpConnectRequest.small : TcpConnectRequest := ⟨.address [127, 0, 0, 1] 443, none, none⟩

def TlsOptions.small : TlsOptions := ⟨ascii "localhost", 1000000000⟩

def StreamRequest.small : StreamRequest :=
  ⟨{ method := .get, url := ascii "http://localhost/", headers := [], body := [], bodyCapacity := 0,
     options := default }, none⟩

def Oracle.calm : Oracle where
  order := id
  order_perm := fun _ => .refl _
  factory := none
  wakeFailure := none
  immediate := none
  poll := .ready []
  backendShutdownOk := true

end NbReq
