import AISummoner.Device.Lifecycle

/-! # Device connections

`serveTransport` of the tunnel gateway, from the hello of a Device to the end of
its connection, and `Manager.OpenSSH`.  The cryptographic handshake is outside
the model: `authenticateDevice` says whether it succeeded.
-/

namespace AISummoner.Tunnel

open Concurrency Store Agent AISummoner.Runtime App

def openFailure : OpenError → AgentError
  | .context cause => contextError cause
  | .deviceOffline => .failed "device is offline"
  | .connectionReplaced => .failed "device connection was replaced"
  | .failed => .failed "stream setup failed"

/-- The connection whose stream and signer are returned together. -/
def openSSH (ctx : Context) (deviceID : String) : Code (Except AgentError Nat) :=
  (checkContext ctx).chain fun _ =>
  (tunnel (.selectLive deviceID)).bind fun
  | none => .done (.error (openFailure .deviceOffline))
  | some connection =>
    (tunnel (.acquireSetup connection ctx)).bind fun
    | .error error => .done (.error (openFailure error))
    | .ok _ =>
      (external (.openStream connection)).bind fun opened =>
      (tunnel (.releaseSetup connection)).bind fun _ =>
      match opened with
      | .error error => .done (.error error)
      | .ok _ =>
        (freshID "req").chain fun _ =>
        (external (.writeHeader connection)).chain fun _ =>
        (tunnel (.returnStream connection ctx)).bind fun
        | .error error => .done (.error (openFailure error))
        | .ok _ => .done (.ok connection)

def codeLifetime : Time := 600000000000

def offer (ctx : Context) (deviceID : String) (now : Time) : Code (Except AgentError Unit) :=
  (external .generateCode).chain fun digest =>
  (freshID "pair").chain fun pairingID =>
  storedRaw ctx (.createPairingCode
    { id := pairingID, deviceID, codeDigest := digest.toUTF8.data.toList
      expiresAt := now + codeLifetime, consumedAt := none, createdAt := now } now)

def claimPairing (ctx : Context) (userID : String) (digest : Bytes) :
    Code (Except AgentError Device) :=
  clock.bind fun now =>
  storedRaw ctx (.claimPairing userID digest now)

/-! ## The life of a connection -/

/-- `publishAuthenticated`: the response is written before the connection is published. -/
def publishAuthenticated (ctx : Context) (registered : Device) (connection : Nat) (now : Time) :
    Code (Except AgentError Unit) :=
  (checkContext ctx).chain fun _ =>
  (external (.writeAuthenticated connection)).chain fun _ =>
  (if registered.ownerUserID.isSome then .done (.ok ()) else
      (offer ctx registered.id now).chain fun _ => (freshID "req").chain fun _ =>
      (external (.writePairingOffer connection)).chain fun _ => .done (.ok ())).chain fun _ =>
  (external (.clearDeadlines connection)).chain fun _ =>
  (checkContext ctx).chain fun _ =>
  (checkContext ctx).chain fun _ =>
  (tunnel (.register connection)).bind fun accepted =>
  if accepted then .fork (.reapConnection connection) (.done (.ok ()))
  else .done (.error (.failed "tunnel manager is closed"))

/-- What `serveTransport` does under the gate: the connection it made, and whether
    it was published. -/
def registerConnection (ctx : Context) (hello : Hello) (connectionID : String) :
    Code (Except AgentError (Nat × Except AgentError Unit)) :=
  clock.bind fun now =>
  (registerDevice (statement ctx .single)
    { id := hello.deviceID, publicKey := hello.publicKey, ownerUserID := none
      name := hello.deviceName, platform := hello.platform, arch := hello.arch
      clientVersion := hello.clientVersion, createdAt := now, pairedAt := none
      lastSeenAt := some now }).bind fun
  | .error error => .done (.error (.store error))
  | .ok registered =>
    (tunnel (.newConnection connectionID registered.id)).bind fun connection =>
    (publishAuthenticated ctx registered connection now).bind fun published =>
    .done (.ok (connection, published))

/-- `serveTransport` up to the first heartbeat.  The loop is a goroutine of its
    own here, so that a program is a finite tree. -/
def serveTransport (ctx : Context) (hello : Hello) : Code (Except AgentError Unit) :=
  (external .authenticateDevice).chain fun _ =>
  (freshID "conn").chain fun connectionID =>
  withTimeout.bind fun scope =>
  deferring
    ((Device.lockDevice (scope :: ctx) hello.deviceID).chain fun _ =>
      deferring (registerConnection (scope :: ctx) hello connectionID)
        (Device.unlock hello.deviceID))
    (cancel scope) |>.chain fun
  | (connection, .error error) =>
    (tunnel (.close connection)).bind fun _ => .done (.error error)
  | (connection, .ok _) =>
    .fork (.heartbeatLoop ctx connection hello.deviceID) (.done (.ok ()))

/-- What `serveTransport` defers: the map entry goes first, then the connection. -/
def endConnection (connection : Nat) : Code Unit :=
  (tunnel (.remove connection)).bind fun _ =>
  tunnel (.close connection)

/-- One round of `heartbeatLoop`; the next round is a new goroutine. -/
def heartbeatLoop (ctx : Context) (connection : Nat) (deviceID : String) : Code Unit :=
  (external (.readHeartbeat connection)).bind fun
  | .error _ => endConnection connection
  | .ok _ =>
    clock.bind fun now =>
    (statement ctx .single (.updateDeviceLastSeen deviceID now)).bind fun
    | .error _ => endConnection connection
    | .ok _ =>
      (external (.acknowledge connection)).bind fun
      | .error _ => endConnection connection
      | .ok _ => .fork (.heartbeatLoop ctx connection deviceID) (.done ())

/-- The network cleanup of a closed connection, and the goroutine `ownLocked` starts to await it. -/
def reapConnection (connection : Nat) : Code Unit :=
  (tunnel (.finishCleanup connection)).bind fun _ =>
  tunnel (.reap connection)

def closeEach : List Nat → Code Unit
  | [] => .done ()
  | connection :: connections =>
    (tunnel (.close connection)).bind fun _ => closeEach connections

def awaitEach : List Nat → Code Unit
  | [] => .done ()
  | connection :: connections =>
    (tunnel (.awaitCleanup connection)).bind fun _ => awaitEach connections

def closeAll : Code Unit :=
  (tunnel .closeAll).bind fun owned =>
  (closeEach owned).bind fun _ => awaitEach owned

end AISummoner.Tunnel
