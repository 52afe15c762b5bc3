import AISummoner.SshClient.Dialer

/-! # Browser terminals

`serveHTTP` and `serveTerminal` of `internal/terminal`.  Path, origin and
header checks come before anything shared and are left to the request; the
browser and the remote shell are outside the model.
-/

namespace AISummoner.Terminal

open Concurrency Agent AISummoner.Runtime App

/-- The session's own end reads as a plain cancellation. -/
def serveTerminal (ctx : Context) (scope : Scope) (deviceID : String) : Code Unit :=
  (SshClient.openPTY ctx deviceID).bind fun
  | .error _ => cancel scope
  | .ok _ =>
    (external .terminalTraffic).bind fun _ =>
    cancel scope

def serveAdmitted (ctx : Context) (scope : Scope) (deviceID : String) : Code Unit :=
  (contextErr ctx).bind fun
  | some _ => .done ()
  | none =>
    (external .acceptWebSocket).bind fun
    | .error _ => .done ()
    | .ok _ => serveTerminal ctx scope deviceID

def serveHTTP (ctx : Context) (userID deviceID : String) : Code Unit :=
  (external .authenticateUser).bind fun
  | .error _ => .done ()
  | .ok _ =>
    (terminal (.deviceGeneration deviceID)).bind fun generation =>
    (statement ctx .single (.deviceByOwner userID deviceID)).bind fun
    | .error _ => .done ()
    | .ok _ =>
      (tunnel (.isOnline deviceID)).bind fun online =>
      skipIf (!online) <|
        (terminal (.admitSession ctx userID deviceID generation)).bind fun
        | .error _ => .done ()
        | .ok (session, scope) =>
          deferring (serveAdmitted (scope :: ctx) scope deviceID) (terminal (.release session))

def cancelSessions (cause : Cause) : List (Nat × Scope) → Code Unit
  | [] => .done ()
  | (_, scope) :: sessions =>
    (cancelCause scope cause).bind fun _ => cancelSessions cause sessions

def waitSessions : List (Nat × Scope) → Code Unit
  | [] => .done ()
  | (session, _) :: sessions =>
    (terminal (.awaitSession session)).bind fun _ => waitSessions sessions

def cancelDevice (deviceID : String) : Code Unit :=
  (terminal (.cancelDevice deviceID)).bind fun sessions =>
  (cancelSessions .deviceInvalidated sessions).bind fun _ =>
  waitSessions sessions

def closeAll : Code Unit :=
  (terminal .closeAll).bind fun sessions =>
  (cancelSessions .handlerClosed sessions).bind fun _ =>
  waitSessions sessions

end AISummoner.Terminal
