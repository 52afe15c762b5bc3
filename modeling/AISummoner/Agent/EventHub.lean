import AISummoner.Agent.Types

/-! # The event hub

`internal/agent/hub.go`.  Every method works under the hub's lock from its start
to its end; only the subscribers take events out of their channels at any time,
for `publish` also before their own turn comes.

A `*subscriber` is a position in `subscribers`; `listed` says that it is in
`bySession`.  `published`, `since` and `received` are there to state what
subscribers get.
-/

namespace AISummoner.Agent.EventHub

def defaultSubscriberBuffer : Nat := 32

structure Subscriber where
  sessionID : String
  id : String
  listed : Bool := true
  /-- What is in the channel `events`, and whether the channel is closed. -/
  buffer : List Event := []
  shut : Bool := false
  /-- The field `closed`. -/
  closed : Bool := false
  /-- A closed channel was sent to, or closed again. -/
  panicked : Bool := false
  /-- How many events had been published when it subscribed. -/
  since : Nat
  received : List Event := []
  deriving DecidableEq, Repr

namespace Subscriber

def closeChannel (subscriber : Subscriber) : Subscriber :=
  if subscriber.shut then { subscriber with panicked := true } else { subscriber with shut := true }

/-- `if !value.closed { close(value.events); value.closed = true }`. -/
def closeOnce (subscriber : Subscriber) : Subscriber :=
  if subscriber.closed then subscriber else { subscriber.closeChannel with closed := true }

def unlist (subscriber : Subscriber) : Subscriber := { subscriber with listed := false }

/-- A send waits while the channel is full. -/
def send (bufferSize : Nat) (event : Event) (subscriber : Subscriber) : Option Subscriber :=
  if subscriber.shut then some { subscriber with panicked := true }
  else if subscriber.buffer.length < bufferSize then
    some { subscriber with buffer := subscriber.buffer ++ [event] }
  else none

/-- The `select` of `publish`, whose default case is taken where the send would wait. -/
def offer (bufferSize : Nat) (event : Event) (subscriber : Subscriber) : Subscriber :=
  match subscriber.send bufferSize event with
  | some sent => sent
  | none => { subscriber.closeChannel with closed := true }.unlist

/-- Up to `count` receives of what is in the channel. -/
def take (count : Nat) (subscriber : Subscriber) : Subscriber :=
  { subscriber with
    buffer := subscriber.buffer.drop count
    received := subscriber.received ++ subscriber.buffer.take count }

def isEntry (sessionID subscriberID : String) (subscriber : Subscriber) : Bool :=
  subscriber.listed && decide (subscriber.sessionID = sessionID) &&
    decide (subscriber.id = subscriberID)

def inSession (sessionID : String) (subscriber : Subscriber) : Bool :=
  subscriber.listed && decide (subscriber.sessionID = sessionID)

end Subscriber

structure Hub where
  subscribers : List Subscriber := []
  bufferSize : Nat
  closed : Bool := false
  /-- The events in the order of the calls of `publish`. -/
  published : List Event := []
  deriving DecidableEq, Repr

def newEventHub (bufferSize : Int) : Hub where
  bufferSize := if bufferSize ≤ 0 then defaultSubscriberBuffer else bufferSize.toNat

namespace Hub

def update (hub : Hub) (picked : Subscriber → Bool) (change : Subscriber → Subscriber) : Hub :=
  { hub with
    subscribers := hub.subscribers.map fun subscriber =>
      if picked subscriber then change subscriber else subscriber }

/-- A new entry takes the place of one under the same names. -/
def subscribe (hub : Hub) (sessionID subscriberID : String) : Hub :=
  if hub.closed then hub
  else
    let others := (hub.update (·.isEntry sessionID subscriberID) .unlist).subscribers
    { hub with
      subscribers := others ++ [{ sessionID, id := subscriberID, since := hub.published.length }] }

/-- Each subscriber takes what `taken` says before its turn. -/
def takeEach (hub : Hub) (taken : List Nat) : Hub :=
  { hub with
    subscribers := hub.subscribers.mapIdx fun position subscriber =>
      subscriber.take (taken.getD position 0) }

def publish (hub : Hub) (event : Event) (taken : List Nat) : Hub :=
  let begun := { hub with published := hub.published ++ [event] }
  if hub.closed then begun
  else (begun.takeEach taken).update (·.inSession event.sessionID) (·.offer hub.bufferSize event)

def remove (hub : Hub) (sessionID subscriberID : String) : Hub :=
  hub.update (·.isEntry sessionID subscriberID) fun subscriber => subscriber.unlist.closeOnce

def closeSession (hub : Hub) (sessionID : String) : Hub :=
  hub.update (·.inSession sessionID) fun subscriber => subscriber.closeOnce.unlist

def close (hub : Hub) : Hub :=
  if hub.closed then hub
  else { hub.update (·.listed) fun subscriber => subscriber.closeOnce.unlist with closed := true }

def receive (hub : Hub) (position : Nat) : Option Hub :=
  match hub.subscribers[position]? with
  | none => none
  | some subscriber =>
    if subscriber.buffer = [] ∧ subscriber.shut = false then none
    else some { hub with subscribers := hub.subscribers.modify position (·.take 1) }

end Hub

inductive Step where
  | subscribe (sessionID subscriberID : String)
  | publish (event : Event) (taken : List Nat)
  | cancel (sessionID subscriberID : String)
  | closeSession (sessionID : String)
  | close
  | receive (position : Nat)
  deriving DecidableEq, Repr

def step (hub : Hub) : Step → Option Hub
  | .subscribe sessionID subscriberID => some (hub.subscribe sessionID subscriberID)
  | .publish event taken => some (hub.publish event taken)
  | .cancel sessionID subscriberID => some (hub.remove sessionID subscriberID)
  | .closeSession sessionID => some (hub.closeSession sessionID)
  | .close => some hub.close
  | .receive position => hub.receive position

def run (hub : Hub) : List Step → Option Hub
  | [] => some hub
  | first :: steps => (step hub first).bind fun changed => run changed steps

/-! ## What subscribers get -/

def publishedFor (published : List Event) (subscriber : Subscriber) : List Event :=
  (published.drop subscriber.since).filter fun event => event.sessionID = subscriber.sessionID

/-- What has gone through the channel or is still in it. -/
def Subscriber.passed (subscriber : Subscriber) : List Event :=
  subscriber.received ++ subscriber.buffer

/-- A subscriber has got the start of what was published for it; one that is in the map
    is open and has got everything. -/
structure Served (published : List Event) (subscriber : Subscriber) : Prop where
  since : subscriber.since ≤ published.length
  inOrder : subscriber.passed <+: publishedFor published subscriber
  flag : subscriber.closed = subscriber.shut
  calm : subscriber.panicked = false
  current : subscriber.listed = true →
    subscriber.shut = false ∧ subscriber.passed = publishedFor published subscriber

structure Sound (hub : Hub) : Prop where
  served : ∀ subscriber ∈ hub.subscribers, Served hub.published subscriber
  empty : hub.closed = true → ∀ subscriber ∈ hub.subscribers, subscriber.listed = false

variable {event : Event} {picked : Subscriber → Bool} {ch : Subscriber → Subscriber}
  {w : Hub}

section Served

variable {published : List Event} {sub : Subscriber}

theorem Served.unlist (hsd : Served published sub) : Served published sub.unlist :=
  ⟨hsd.since, hsd.inOrder, hsd.flag, hsd.calm, nofun⟩

theorem Served.closeOnce (hsd : Served published sub) :
    Served published { sub.closeOnce with listed := false } := by
  unfold Subscriber.closeOnce
  split
  · exact hsd.unlist
  rename_i unflagged
  have hop : sub.shut = false := hsd.flag.symm.trans (Bool.eq_false_iff.mpr unflagged)
  rw [Subscriber.closeChannel, if_neg (by rw [hop]; exact nofun)]
  exact ⟨hsd.since, hsd.inOrder, rfl, hsd.calm, nofun⟩

theorem Served.take (hsd : Served published sub) (cnt : Nat) : Served published (sub.take cnt) := by
  have h : (sub.take cnt).passed = sub.passed := by
    simp only [Subscriber.passed, Subscriber.take, List.append_assoc, List.take_append_drop]
  refine ⟨hsd.since, ?_, hsd.flag, hsd.calm, fun hli => ?_⟩
  · rw [h]
    exact hsd.inOrder
  · rw [h]
    exact hsd.current hli

theorem publishedFor_append (event : Event) (hsi : sub.since ≤ published.length) :
    publishedFor (published ++ [event]) sub = publishedFor published sub ++
      if event.sessionID = sub.sessionID then [event] else [] := by
  simp only [publishedFor, List.drop_append_of_le_length hsi, List.filter_append]
  by_cases h : event.sessionID = sub.sessionID <;> simp [h]

theorem Served.passOver (hsd : Served published sub)
    (hfo : sub.inSession event.sessionID = false) : Served (published ++ [event]) sub := by
  have more := publishedFor_append event hsd.since
  refine ⟨?_, ?_, hsd.flag, hsd.calm, fun hli => ?_⟩
  · rw [List.length_append]
    exact Nat.le_add_right_of_le hsd.since
  · rw [more]
    exact hsd.inOrder.trans (List.prefix_append _ _)
  · have ho : event.sessionID ≠ sub.sessionID := by
      intro h
      simp [Subscriber.inSession, hli, h] at hfo
    rw [more, if_neg ho, List.append_nil]
    exact hsd.current hli

theorem Served.offer (hsd : Served published sub)
    (hli : sub.inSession event.sessionID) (bufferSize : Nat) :
    Served (published ++ [event]) (sub.offer bufferSize event) := by
  obtain ⟨inMap, h⟩ := Bool.and_eq_true_iff.mp hli
  obtain ⟨hop, hpsd⟩ := hsd.current inMap
  have more := publishedFor_append event hsd.since
  rw [if_pos (of_decide_eq_true h).symm] at more
  have hsi : sub.since ≤ (published ++ [event]).length := by
    rw [List.length_append]
    exact Nat.le_add_right_of_le hsd.since
  unfold Subscriber.offer Subscriber.send
  rw [if_neg (by rw [hop]; exact nofun)]
  by_cases room : sub.buffer.length < bufferSize
  · rw [if_pos room]
    have hta : sub.received ++ (sub.buffer ++ [event]) =
        publishedFor (published ++ [event]) sub := by
      rw [more, ← hpsd, ← List.append_assoc]
      rfl
    exact ⟨hsi, hta ▸ List.prefix_rfl, hsd.flag, hsd.calm, fun _ => ⟨hop, hta⟩⟩
  · rw [if_neg room]
    dsimp only
    rw [Subscriber.closeChannel, if_neg (by rw [hop]; exact nofun)]
    refine ⟨hsi, ?_, rfl, hsd.calm, nofun⟩
    exact hsd.inOrder.trans (more ▸ List.prefix_append _ _)

end Served

/-! ## Runs -/

section Runs

variable {hub : Hub}

theorem mem_update {sub : Subscriber} (hm : sub ∈ (hub.update picked ch).subscribers) :
    ∃ s ∈ hub.subscribers, sub = if picked s then ch s else s := by
  obtain ⟨s, hli, rfl⟩ := List.mem_map.mp hm
  exact ⟨s, hli, rfl⟩

theorem Sound.update (hs : Sound hub)
    (serves : ∀ sub, Served hub.published sub → Served hub.published (ch sub))
    (leaves : ∀ sub, (ch sub).listed = false) : Sound (hub.update picked ch) where
  served sub member := by
    obtain ⟨s, hli, rfl⟩ := mem_update member
    split
    · exact serves s (hs.served s hli)
    · exact hs.served s hli
  empty closed sub member := by
    obtain ⟨s, hli, rfl⟩ := mem_update member
    split
    · exact leaves s
    · exact hs.empty closed s hli

theorem listed_closeOnce (sub : Subscriber) : sub.closeOnce.listed = sub.listed := by
  unfold Subscriber.closeOnce Subscriber.closeChannel
  split
  · rfl
  · split <;> rfl

theorem served_closed {published : List Event} (sub : Subscriber)
    (hsd : Served published sub) : Served published sub.closeOnce.unlist :=
  hsd.closeOnce

theorem served_removed {published : List Event} (sub : Subscriber)
    (hsd : Served published sub) : Served published sub.unlist.closeOnce := by
  have hcl := hsd.unlist.closeOnce
  rwa [show { sub.unlist.closeOnce with listed := false } = sub.unlist.closeOnce by
    rw [← show sub.unlist.closeOnce.listed = false from listed_closeOnce _]] at hcl

theorem Sound.subscribe (hs : Sound hub) (sessionID subscriberID : String) :
    Sound (hub.subscribe sessionID subscriberID) := by
  unfold Hub.subscribe
  by_cases hcl : hub.closed = true
  · rw [if_pos hcl]
    exact hs
  rw [if_neg hcl]
  refine ⟨fun sub hm => ?_, fun isClosed => absurd isClosed hcl⟩
  rcases List.mem_append.mp hm with old | new
  · exact (hs.update (fun _ hsd => hsd.unlist) fun _ => rfl).served sub old
  obtain rfl := List.mem_singleton.mp new
  have hnot : publishedFor hub.published
      { sessionID, id := subscriberID, since := hub.published.length } = [] := by
    simp [publishedFor]
  exact ⟨Nat.le_refl _, List.nil_prefix, rfl, rfl, fun _ => ⟨rfl, hnot.symm⟩⟩

theorem Sound.publish (hs : Sound hub) (event : Event) (ta : List Nat) :
    Sound (hub.publish event ta) := by
  unfold Hub.publish
  by_cases hcl : hub.closed = true
  · rw [if_pos hcl]
    refine ⟨fun sub hm => (hs.served sub hm).passOver ?_, hs.empty⟩
    rw [Subscriber.inSession, hs.empty hcl sub hm, Bool.false_and]
  rw [if_neg hcl]
  refine ⟨fun sub hm => ?_, fun isClosed => absurd isClosed hcl⟩
  obtain ⟨s, hli, rfl⟩ := mem_update hm
  obtain ⟨pos, hi, rfl⟩ := List.mem_mapIdx.mp hli
  have hsd := (hs.served _ (List.getElem_mem hi)).take (ta.getD pos 0)
  split
  · rename_i picked
    exact hsd.offer picked hub.bufferSize
  · rename_i hpsd
    exact hsd.passOver (Bool.eq_false_iff.mpr hpsd)

theorem Sound.receive (hs : Sound hub) {pos : Nat} (hrv : hub.receive pos = some w) : Sound w := by
  unfold Hub.receive at hrv
  split at hrv
  · cases hrv
  split at hrv
  · cases hrv
  cases hrv
  refine ⟨fun sub hm => ?_, fun hcl sub hm => ?_⟩
  all_goals
    obtain ⟨o, l⟩ := List.mem_iff_getElem?.mp hm
    rw [List.getElem?_modify, Option.map_eq_map, Option.map_eq_some_iff] at l
    obtain ⟨s, hf, rfl⟩ := l
    have hli := List.mem_of_getElem? hf
    split
  · exact (hs.served s hli).take 1
  · exact hs.served s hli
  · exact hs.empty hcl s hli
  · exact hs.empty hcl s hli

theorem Sound.step (hs : Sound hub) {act : Step} (hst : step hub act = some w) : Sound w := by
  cases act with
  | subscribe sid subscriberID =>
    cases hst
    exact hs.subscribe sid subscriberID
  | publish event hta =>
    cases hst
    exact hs.publish event hta
  | cancel sid subscriberID =>
    cases hst
    exact hs.update served_removed fun _ => listed_closeOnce _
  | closeSession sid =>
    cases hst
    exact hs.update served_closed fun _ => rfl
  | close =>
    cases hst
    unfold Hub.close
    split
    · exact hs
    refine ⟨(hs.update served_closed fun _ => rfl).served, fun _ _ hm => ?_⟩
    obtain ⟨s, _, rfl⟩ := mem_update hm
    split
    · rfl
    · rename_i unlisted
      exact Bool.eq_false_iff.mpr unlisted
  | receive _ => exact hs.receive hst

theorem Sound.run (hs : Sound hub) {sts : List Step} (ran : run hub sts = some w) : Sound w := by
  induction sts generalizing hub with
  | nil =>
    cases ran
    exact hs
  | cons _ sts ih =>
    obtain ⟨_, hst, rest⟩ := Option.bind_eq_some_iff.mp ran
    exact ih (hs.step hst) rest

end Runs

/-- Over every interleaving, for any buffer size: what a subscriber has received is the
    start of what was published for its session since it subscribed, without a gap or
    a repetition and with no event of another session; no channel is closed twice or
    sent to after it was closed; and `publish` can always take place. -/
theorem subscribers_get_publications_in_order (bufferSize : Int) (steps : List Step) (hub : Hub)
    (ran : run (newEventHub bufferSize) steps = some hub) :
    (∀ subscriber ∈ hub.subscribers,
      subscriber.received <+: publishedFor hub.published subscriber ∧
        (∀ event ∈ subscriber.received, event.sessionID = subscriber.sessionID) ∧
        (hub.published.Nodup → subscriber.received.Nodup) ∧ subscriber.panicked = false) ∧
      ∀ event taken, ∃ changed, step hub (.publish event taken) = some changed := by
  have begins : Sound (newEventHub bufferSize) := ⟨nofun, nofun⟩
  have sound := begins.run ran
  refine ⟨fun subscriber member => ?_, fun event taken => ⟨_, rfl⟩⟩
  have served := sound.served subscriber member
  have initial : subscriber.received <+: publishedFor hub.published subscriber :=
    (List.prefix_append _ _).trans served.inOrder
  refine ⟨initial, fun event received => ?_, fun distinct => ?_, served.calm⟩
  · exact of_decide_eq_true (List.mem_filter.mp (initial.subset received)).2
  · exact distinct.sublist
      (initial.sublist.trans (List.filter_sublist.trans (List.drop_sublist _ _)))

def notice (id : String) : Event := ⟨id, "s", 0, .turnCompleted⟩

def slowSubscriber : List Step :=
  [.subscribe "s" "slow", .subscribe "s" "quick", .publish (notice "1") [], .receive 0, .receive 1,
    .publish (notice "2") [], .publish (notice "3") [0, 1], .closeSession "s", .receive 1]

/-- A slow subscriber's channel is closed at the third event. -/
theorem slow_subscriber_dropped :
    (run (newEventHub 1) slowSubscriber).map (fun hub => hub.subscribers.map fun subscriber =>
        (subscriber.received, subscriber.shut)) =
        some [([notice "1"], true), ([notice "1", notice "2", notice "3"], true)] ∧
      ∃ hub, run (newEventHub 1) slowSubscriber = some hub ∧
        ∀ subscriber ∈ hub.subscribers,
          subscriber.received <+: publishedFor hub.published subscriber := by
  have runs : (run (newEventHub 1) slowSubscriber).isSome := by decide +kernel
  obtain ⟨hub, ran⟩ := Option.isSome_iff_exists.mp runs
  refine ⟨by decide +kernel, hub, ran, fun subscriber member => ?_⟩
  exact ((subscribers_get_publications_in_order 1 slowSubscriber hub ran).1 subscriber member).1

end AISummoner.Agent.EventHub
