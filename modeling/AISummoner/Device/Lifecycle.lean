import AISummoner.Agent.Service

/-! # Unpairing a Device

`LockDevice` of `internal/devicegate` and `Unpair` of `internal/device`.  The
commit, the tombstones, the cancellation of Turns and the detachment of the tunnel
happen under the gate; the cleanups that wait happen after it.
-/

namespace AISummoner.Device

open Concurrency Agent AISummoner.Runtime App

def unlock (deviceID : String) : Code Unit :=
  (gate (.returnToken deviceID)).bind fun _ =>
  gate (.dropReference deviceID)

def lockDevice (ctx : Context) (deviceID : String) : Code (Except AgentError Unit) :=
  if deviceID = "" then .done (.error (.failed "device id is required"))
  else
    (checkContext ctx).chain fun _ =>
    (gate (.addReference deviceID)).bind fun _ =>
    (gate (.takeToken deviceID ctx)).bind fun
    | some cause =>
      (gate (.dropReference deviceID)).bind fun _ => .done (.error (contextError cause))
    | none =>
      (checkContext ctx).bind fun
      | .error error => (unlock deviceID).bind fun _ => .done (.error error)
      | .ok _ => .done (.ok ())

/-- The three cleanups run beside the caller, who waits for their reports at
    most until the cleanup context ends. -/
def runPostCommitCleanup (deviceID : String) (sessionIDs : List String)
    (detached : Option Nat) : Code Unit :=
  withTimeout.bind fun scope =>
  .fork (.joinTunnel detached) <|
  .fork (.cancelTerminals deviceID) <|
  .fork (.invalidateAgent [scope] deviceID sessionIDs) <|
  (external .cleanupReports).bind fun _ =>
  cancel scope

def unpair (ctx : Context) (ownerUserID deviceID : String) : Code (Except AgentError Unit) :=
  clock.bind fun now =>
  (lockDevice ctx deviceID).chain fun _ =>
  (statement ctx .single (.unpairDevice ownerUserID deviceID now)).bind fun
  | .error error => (unlock deviceID).bind fun _ => .done (.error (.store error))
  | .ok result =>
    (Service.markDeviceRevoked deviceID result.revokedAgentSessionIDs).bind fun _ =>
    (tunnel (.detachDevice deviceID)).bind fun detached =>
    (unlock deviceID).bind fun _ =>
    (runPostCommitCleanup deviceID result.revokedAgentSessionIDs detached).bind fun _ =>
    .done (.ok ())

/-- The join `DetachDevice` returns. -/
def joinTunnel : Option Nat → Code Unit
  | none => .done ()
  | some connection => tunnel (.awaitCleanup connection)

end AISummoner.Device
