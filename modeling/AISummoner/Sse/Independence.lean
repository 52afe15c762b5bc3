import AISummoner.Deepseek.Stream
import AISummoner.Opencode.Stream

/-! # Chunks do not matter

Both readers see a stream of short lines as its lines, so what they do with it is a
function of the stream.  Near the limit this fails: a line is compared with
`maximumSSELineBytes` together with its newline and what is buffered behind it.
-/

namespace AISummoner.Sse

open Encoding Streams
open Opencode (Surroundings consumeEvents eventReader newTracker finishEvents consumeLast
  openSetup undisturbed)
open Deepseek (consumeStream recordReader concludeStream finishStream)

variable {src o : Source UInt8}

structure SameStream (source other : Source UInt8) : Prop where
  bytes : other.unread = source.unread
  ending : other.ending = source.ending
  short : ShortLines source.unread

def FailsAlone (source : Source UInt8) : Prop :=
  source.joined = true → source.ending = .endOfFile

theorem SameStream.lines (h : SameStream src o) :
    (scanned o).1.map Prod.fst = (scanned src).1.map Prod.fst ∧
      (scanned o).2 = (scanned src).2 := by
  obtain ⟨hbs, hedg, short⟩ := h
  obtain ⟨hlns, last, -⟩ := scanned_lines short
  obtain ⟨otherLines, otherLast, -⟩ := scanned_lines (hbs ▸ short)
  exact ⟨by rw [otherLines, hlns, hbs], by rw [otherLast, last, hedg]⟩

theorem SameStream.errs (h : SameStream src o) (alone : FailsAlone src)
    (otherAlone : FailsAlone o) : (scanned o).1.map Prod.snd = (scanned src).1.map Prod.snd := by
  obtain ⟨hbs, hedg, short⟩ := h
  obtain ⟨-, -, errs⟩ := scanned_lines short
  obtain ⟨-, -, otherErrs⟩ := scanned_lines (hbs ▸ short)
  rw [otherErrs otherAlone, errs alone, hbs, hedg]

theorem consumeEvents_same (su : Opencode.Setup) (told : Surroundings)
    (cf : Opencode.Text) (h : SameStream src o) :
    consumeEvents su told cf o = consumeEvents su told cf src := by
  obtain ⟨hlns, last⟩ := h.lines
  rw [consumeEvents, consumeEvents, hlns, last]

theorem consumeStream_same (su : Deepseek.Setup) (h : SameStream src o)
    (alone : FailsAlone src) (otherAlone : FailsAlone o) :
    consumeStream su o = consumeStream su src := by
  obtain ⟨hlns, last⟩ := h.lines
  rw [consumeStream, consumeStream, hlns, last, h.errs alone otherAlone]

variable {rc : Nat × List UInt8}

theorem records_finishEvents (su : Opencode.Setup) (told : Surroundings)
    (read : Run Opencode.Tracker Opencode.Failure) (err : Option Stop)
    (hhd : rc ∈ read.records) : rc ∈ (finishEvents su told read err).records := by
  unfold finishEvents
  split
  · exact hhd
  · exact hhd
  · split
    · exact hhd
    · split
      · exact hhd
      · unfold consumeLast
        split
        · exact hhd
        · split <;> exact List.mem_append_left _ hhd

theorem records_concludeStream (su : Deepseek.Setup)
    (read : Run Deepseek.Progress Opencode.Failure) (errs : List (Option Stop))
    (last : Option Stop) (hhd : rc ∈ read.records) :
    rc ∈ (concludeStream su read errs last).records := by
  have finishes (lns : Nat) (left : List UInt8) :
      rc ∈ (finishStream su read lns left).records := by
    unfold finishStream
    split
    · exact hhd
    · split <;> exact List.mem_append_left _ hhd
  unfold concludeStream
  split
  · exact hhd
  · split
    · exact hhd
    · exact finishes _ _
  · split
    · exact hhd
    · exact finishes _ _

/-- A record of one line stands in a stream of short lines, where a line starts. -/
structure Stands (source : Source UInt8) (before payload : List UInt8) : Prop where
  within : ∃ after, source.unread = before ++ (recordBytes payload ++ after)
  short : ShortLines source.unread
  start : before = [] ∨ before.getLast? = some newline
  oneLine : OneLine payload
  fits : payload.length ≤ maximumSSERecordBytes

theorem Stands.handed {σ ε : Type} {s pl : List UInt8}
    (stands : Stands src s pl) (rd : Reader σ ε) {st : σ} {cnt : Nat}
    (hr : (readLines rd 0 st [] (linesOf s)).ended = .exhausted cnt [])
    (live : rd.context cnt = none ∧ rd.context (cnt + 1) = none) : (cnt + 1, pl) ∈
      (readLines rd 0 st [] ((scanned src).1.map Prod.fst)).records := by
  obtain ⟨_, hsm⟩ := stands.within
  rw [(scanned_lines stands.short).1, hsm]
  exact record_handed_over rd stands.start stands.oneLine stands.fits hr live

def recordSource (payload : List UInt8) : Source UInt8 where
  chunks := [recordBytes payload]
  ending := .endOfFile
  joined := false
  filled := by
    intro chunk member
    rw [List.mem_singleton.mp member, recordBytes]
    simp

theorem unread_recordSource (pl : List UInt8) :
    (recordSource pl).unread = dataLine pl ++ newline :: [newline] := by
  simp [recordSource, Source.unread, recordBytes]

def longestPayload : List UInt8 := List.replicate maximumSSERecordBytes 120

def quietSetup : Deepseek.Setup where
  decode := fun _ => some {}
  validJSON := fun _ => true
  sink := fun _ _ => none
  context := fun _ => none
  readError := .passed "unexpected EOF"

end AISummoner.Sse
