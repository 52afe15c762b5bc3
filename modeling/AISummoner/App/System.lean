import AISummoner.Agent.Invoke
import AISummoner.Terminal.Handler

/-! # The server as a system of goroutines

Which program each goroutine runs, which of them the outside can start and
when, and what a crash leaves.  `server` is the whole of it; `history` is the
same system with its past, over which the temporal properties are stated.
-/

namespace AISummoner.App

open Concurrency Store Agent AISummoner.Runtime

def ignore {α : Type} (code : Code α) : Code Unit := code.bind fun _ => .done ()

def body : Goroutine → Code Unit
  | .setAdapter provider adapter => ignore (Service.setAdapter provider adapter)
  | .createSession ctx owner deviceID mode => ignore (Service.createSession ctx owner deviceID mode)
  | .sessionModels ctx owner sessionID => ignore (Service.sessionModels ctx owner sessionID)
  | .selectSessionModel ctx owner sessionID selection =>
    ignore (Service.selectSessionModel ctx owner sessionID selection)
  | .updateSettings ctx owner mode => ignore (Service.updateSettings ctx owner mode)
  | .updateSessionApprovalMode ctx owner sessionID mode =>
    ignore (Service.updateSessionApprovalMode ctx owner sessionID mode)
  | .setSessionArchived ctx owner sessionID archived =>
    ignore (Service.setSessionArchived ctx owner sessionID archived)
  | .deleteSession ctx owner sessionID => ignore (Service.deleteSession ctx owner sessionID)
  | .startTurn ctx owner sessionID content =>
    (Service.startTurn ctx owner sessionID content).bind fun result =>
    observe (.startTurnReply result)
  | .decide ctx owner toolCallID decision => ignore (Service.decide ctx owner toolCallID decision)
  | .subscribe ctx owner sessionID => ignore (Service.subscribe ctx owner sessionID)
  | .unsubscribe sessionID subscriberID => agent (.unsubscribe sessionID subscriberID)
  | .cancelDevice deviceID => Service.cancelDevice deviceID
  | .closeAgent => Service.close
  | .runTurn turn scope session _ target => Service.runTurn turn scope session target
  | .invoke turn ctx request =>
    (Service.invoke turn ctx request).bind fun _ => agent (.endInvoke turn)
  | .sink turn ctx owner sessionID call =>
    (Service.sink turn ctx owner sessionID call).bind fun _ => agent (.endSink turn)
  | .serveTransport ctx hello => ignore (Tunnel.serveTransport ctx hello)
  | .heartbeatLoop ctx connection deviceID => Tunnel.heartbeatLoop ctx connection deviceID
  | .reapConnection connection => Tunnel.reapConnection connection
  | .closeTunnels => Tunnel.closeAll
  | .claimPairing ctx userID digest => ignore (Tunnel.claimPairing ctx userID digest)
  | .unpair ctx owner deviceID => ignore (Device.unpair ctx owner deviceID)
  | .joinTunnel detached => Device.joinTunnel detached
  | .cancelTerminals deviceID => Terminal.cancelDevice deviceID
  | .invalidateAgent ctx deviceID sessionIDs => Service.invalidateDevice ctx deviceID sessionIDs
  | .terminal ctx userID deviceID => Terminal.serveHTTP ctx userID deviceID
  | .closeTerminals => Terminal.closeAll
  | .expire scope cause => cancelCause scope cause

/-- What the outside can start.  An Adapter calls back only while its `Run`
    executes; a scope ends by itself only if it has a timer or is a caller's. -/
def admits (goroutine : Goroutine) (world : World) : Bool :=
  match goroutine with
  | .invoke turn _ _ => (world.agent.turns[turn]?).any Turn.active
  | .sink turn _ owner sessionID _ =>
    (world.agent.turns[turn]?).any fun value => value.active &&
      value.invoker.any fun (session, _) => session.userID = owner && session.id = sessionID
  | .expire scope _ => Contexts.expires scope
  | .runTurn .. | .heartbeatLoop .. | .reapConnection .. | .joinTunnel .. | .cancelTerminals ..
  | .invalidateAgent .. => false
  | _ => true

/-- The calls of an Adapter are counted with its Turn. -/
def enter (thread : Nat) (goroutine : Goroutine) (world : World) : World :=
  match goroutine with
  | .invoke turn _ _ =>
    { world with agent := world.agent.updateTurn turn (Turn.beginInvoke thread) }
  | .sink turn _ _ _ _ =>
    { world with agent := world.agent.updateTurn turn (Turn.beginSink thread) }
  | _ => world

def server : System Server Goroutine World Choice where
  execute := perform
  body := body
  enter _ thread goroutine world := some (enter thread goroutine world)
  admits := admits
  restart world := some world.reboot

abbrev History := System.Traced Server Goroutine World

abbrev HistoryEntry := System.Entry Server Goroutine World

def history : System Server Goroutine History Choice := server.traced

abbrev Step := System.Action Server Goroutine Choice

end AISummoner.App
