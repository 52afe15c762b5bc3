import AISummoner.Encoding.Utf8
import AISummoner.Streams.Exact

/-! # Control frames

`internal/protocol/control.go`: a frame is the JSON of one value behind its length in
four bytes.  The JSON of a single value is left to `encoding/json`, of which it is
assumed that it decodes what it encodes.
-/

namespace AISummoner.Protocol

open Encoding Streams

abbrev Bytes := List UInt8

def version : Int := 1
def maxControlFrameBytes : Nat := 64 * 1024
def maxRequestIDBytes : Nat := 128

/-- An error of `writeFull`. -/
inductive WriteError where
  | failed
  | shortWrite
  deriving DecidableEq, Repr

inductive ProtocolError where
  | frameTooLarge
  | malformedFrame
  | unsupported
  | invalidRequestID
  | encode (message : String)
  | decode (message : String)
  | read (message : String) (error : ReadError)
  | write (message : String) (error : WriteError)
  deriving DecidableEq, Repr

/-! ## Values -/

structure StreamHeader where
  version : Int
  kind : Bytes
  requestID : Bytes
  deriving DecidableEq, Repr

structure Message where
  version : Int
  type : Bytes
  requestID : Bytes
  payload : Bytes
  deriving DecidableEq, Repr

/-- `encoding/json` on one value; the decoder refuses unknown fields and trailing data. -/
structure Json where
  encodeHeader : StreamHeader → Option Bytes
  decodeHeader : Bytes → Option StreamHeader
  encodeMessage : Message → Option Bytes
  decodeMessage : Bytes → Option Message
  decodesHeader : ∀ {value encoded}, encodeHeader value = some encoded →
    decodeHeader encoded = some value
  decodesMessage : ∀ {value encoded}, encodeMessage value = some encoded →
    decodeMessage encoded = some value

def knownMessageType (messageType : Bytes) : Bool :=
  (["client.hello", "server.challenge", "device.proof", "server.authenticated", "pairing.offered",
    "device.heartbeat", "server.heartbeat_ack"].map utf8).contains messageType

def validateRequestID (requestID : Bytes) : Except ProtocolError Unit :=
  if requestID.length < 5 ∨ maxRequestIDBytes < requestID.length ∨ ¬ utf8 "req_" <+: requestID then
    .error .invalidRequestID
  else if (decodeRunes (requestID.drop 4)).all fun character =>
      ('a' ≤ character ∧ character ≤ 'z') ∨ ('0' ≤ character ∧ character ≤ '9') then
    .ok ()
  else .error .invalidRequestID

/-- The checks of `WriteHeader` and `ReadHeader`. -/
def checkHeader (header : StreamHeader) : Except ProtocolError Unit := do
  validateRequestID header.requestID
  if header.version ≠ version ∨ (header.kind ≠ utf8 "control" ∧ header.kind ≠ utf8 "ssh") then
    throw .unsupported

/-- The checks of `ReadMessage`. -/
def checkMessage (message : Message) : Except ProtocolError Unit := do
  if message.version ≠ version ∨ knownMessageType message.type = false then throw .unsupported
  validateRequestID message.requestID
  if message.payload = [] ∨ message.payload = utf8 "null" then throw .malformedFrame

/-! ## Lengths -/

/-- `binary.BigEndian.PutUint32`. -/
def putUint32 (number : Nat) : Bytes :=
  [UInt8.ofNat (number / 2 ^ 24), UInt8.ofNat (number / 2 ^ 16), UInt8.ofNat (number / 2 ^ 8),
    UInt8.ofNat number]

/-- `binary.BigEndian.Uint32`. -/
def uint32 : Bytes → Nat
  | [first, second, third, fourth] =>
    first.toNat * 2 ^ 24 + second.toNat * 2 ^ 16 + third.toNat * 2 ^ 8 + fourth.toNat
  | _ => 0

@[simp] theorem length_putUint32 (n : Nat) : (putUint32 n).length = 4 := rfl

theorem uint32_putUint32 {n : Nat} (small : n < 2 ^ 32) : uint32 (putUint32 n) = n := by
  simp only [putUint32, uint32, UInt8.toNat_ofNat']
  omega

def frameBytes (encoded : Bytes) : Bytes := putUint32 encoded.length ++ encoded

/-- The JSON is not empty and not too long for a frame. -/
def fitsFrame (encoded : Bytes) : Prop :=
  0 < encoded.length ∧ encoded.length ≤ maxControlFrameBytes

/-! ## Reading -/

section Read

variable {ρ : Type} (port : Port ρ UInt8)

/-- The length and the bytes of a frame; the two messages are those of the caller. -/
def readFrame (lengthMessage frameMessage : String) (state : ρ) :
    Except ProtocolError (Bytes × Bytes) × ρ :=
  match port.readFull state 4 with
  | (.error error, state) => (.error (.read lengthMessage error), state)
  | (.ok length, state) =>
    if uint32 length = 0 then (.error .malformedFrame, state)
    else if maxControlFrameBytes < uint32 length then (.error .frameTooLarge, state)
    else
      match port.readFull state (uint32 length) with
      | (.error error, state) => (.error (.read frameMessage error), state)
      | (.ok encoded, state) => (.ok (length, encoded), state)

def parseFrame (stream : Bytes) : Option Bytes :=
  if stream.length < 4 ∨ uint32 (stream.take 4) = 0 ∨
      maxControlFrameBytes < uint32 (stream.take 4) ∨
      stream.length < 4 + uint32 (stream.take 4) then none
  else some ((stream.drop 4).take (uint32 (stream.take 4)))

variable {port}

theorem readFrame_eq (lengthMessage frameMessage : String) (st : ρ) :
    (∃ en fin, parseFrame (port.left st) = some en ∧
      readFrame port lengthMessage frameMessage st = (.ok ((port.left st).take 4, en), fin) ∧
      port.left fin = (port.left st).drop (4 + en.length)) ∨
    parseFrame (port.left st) = none ∧ ∃ err fin,
      readFrame port lengthMessage frameMessage st = (.error err, fin) := by
  by_cases noLength : (port.left st).length < 4
  · obtain ⟨err, fin, short⟩ := Port.readFull_of_lt noLength
    exact .inr ⟨if_pos (.inl noLength), _, fin, by simp only [readFrame, short]; rfl⟩
  obtain ⟨mid', read, left⟩ := Port.readFull_of_le (Nat.le_of_not_lt noLength)
  simp only [readFrame, parseFrame, read]
  generalize (port.left st).take 4 = length
  generalize uint32 length = size
  by_cases zero : size = 0
  · exact .inr ⟨if_pos (.inr (.inl zero)), _, mid', if_pos zero⟩
  by_cases large : maxControlFrameBytes < size
  · exact .inr ⟨if_pos (.inr (.inr (.inl large))), _, mid', by rw [if_neg zero, if_pos large]⟩
  rw [if_neg zero, if_neg large]
  by_cases truncated : (port.left st).length < 4 + size
  · have short : (port.left mid').length < size := by
      rw [left, List.length_drop]
      omega
    obtain ⟨err, fin, hfa⟩ := Port.readFull_of_lt short
    rw [hfa]
    exact .inr ⟨if_pos (.inr (.inr (.inr truncated))), _, fin, rfl⟩
  · have available : size ≤ (port.left mid').length := by
      rw [left, List.length_drop]
      omega
    obtain ⟨fin, hwh, hs'⟩ := Port.readFull_of_le available
    rw [hwh]
    refine .inl ⟨_, fin, if_neg ?_, by rw [left], ?_⟩
    · rw [not_or, not_or, not_or]
      exact ⟨noLength, zero, large, truncated⟩
    · rw [hs', left, List.drop_drop, List.length_take, List.length_drop]
      congr 1
      omega

theorem parseFrame_frameBytes {en : Bytes} (fits : fitsFrame en) (rest : Bytes) :
    parseFrame (frameBytes en ++ rest) = some en := by
  have small : en.length < 2 ^ 32 := Nat.lt_of_le_of_lt fits.2 (by decide)
  have hlen : (frameBytes en ++ rest).take 4 = putUint32 en.length := by
    rw [frameBytes, List.append_assoc, List.take_left' (length_putUint32 _)]
  have body : (frameBytes en ++ rest).drop 4 = en ++ rest := by
    rw [frameBytes, List.append_assoc, List.drop_left' (length_putUint32 _)]
  have hct : (frameBytes en ++ rest).length = 4 + en.length + rest.length := by
    simp [frameBytes, Nat.add_assoc]
  rw [parseFrame, hlen, uint32_putUint32 small, body, List.take_left' rfl, if_neg]
  obtain ⟨_, _⟩ := fits
  omega

theorem fits_of_parseFrame {sm en : Bytes} (hpa : parseFrame sm = some en) :
    fitsFrame en ∧ 4 + en.length ≤ sm.length ∧ uint32 (sm.take 4) = en.length := by
  unfold parseFrame at hpa
  split at hpa
  · cases hpa
  rename_i hs
  simp only [not_or] at hs
  cases hpa
  have hlen : ((sm.drop 4).take (uint32 (sm.take 4))).length =
      uint32 (sm.take 4) := by
    rw [List.length_take, List.length_drop]
    omega
  exact ⟨⟨by omega, by omega⟩, by omega, hlen.symm⟩

theorem parseFrame_take {sm en : Bytes} (hpa : parseFrame sm = some en) :
    parseFrame (sm.take 4 ++ en) = some en ∧ sm = sm.take 4 ++ en ++ sm.drop (4 + en.length) := by
  obtain ⟨fits, _, hlen⟩ := fits_of_parseFrame hpa
  have four : (sm.take 4).length = 4 := by
    rw [List.length_take]
    omega
  have body : en = (sm.drop 4).take en.length := by
    unfold parseFrame at hpa
    split at hpa
    · cases hpa
    · exact (Option.some.inj hpa).symm.trans (by rw [hlen])
  constructor
  · have again : (sm.take 4 ++ en).take 4 = sm.take 4 := List.take_left' four
    rw [parseFrame, again, hlen, List.drop_left' four, List.take_length, if_neg]
    obtain ⟨_, _⟩ := fits
    rw [List.length_append, four]
    omega
  · have rest : sm.drop 4 = en ++ sm.drop (4 + en.length) := by
      calc sm.drop 4
          = (sm.drop 4).take en.length ++ (sm.drop 4).drop en.length :=
            (List.take_append_drop _ _).symm
        _ = en ++ sm.drop (4 + en.length) := by rw [← body, List.drop_drop]
    rw [List.append_assoc, ← rest, List.take_append_drop]

end Read

/-! ## The reading half of a codec -/

/-- The reader of `NewCodec`. -/
abbrev CodecReader := Buffered UInt8

def codecPort : Port CodecReader UInt8 := Buffered.port 4096 (by decide)

def newCodec (stream : Source UInt8) : CodecReader := .new stream

/-- `readJSON`, with the decoder of the value it is to fill. -/
def readJSON {α : Type} (decode : Bytes → Option α) (reader : CodecReader) :
    Except ProtocolError α × CodecReader :=
  match readFrame codecPort "read protocol frame length" "read protocol frame" reader with
  | (.error error, reader) => (.error error, reader)
  | (.ok (_, encoded), reader) =>
    match decode encoded with
    | none => (.error (.decode "decode protocol frame"), reader)
    | some value => (.ok value, reader)

def checked {α : Type} (check : α → Except ProtocolError Unit) :
    Except ProtocolError α × CodecReader → Except ProtocolError α × CodecReader
  | (.error error, reader) => (.error error, reader)
  | (.ok value, reader) =>
    match check value with
    | .error error => (.error error, reader)
    | .ok () => (.ok value, reader)

theorem read_eq {α : Type} (decode : Bytes → Option α) (check : α → Except ProtocolError Unit)
    (rd : CodecReader) : (∃ en v fin, parseFrame rd.left = some en ∧ decode en = some v ∧
      check v = .ok () ∧ checked check (readJSON decode rd) = (.ok v, fin) ∧
      fin.left = rd.left.drop (4 + en.length)) ∨
    ∃ err fin, checked check (readJSON decode rd) = (.error err, fin) ∧
      ∀ en v, parseFrame rd.left = some en → decode en = some v → check v ≠ .ok () := by
  have parses := @readFrame_eq _ codecPort "read protocol frame length" "read protocol frame" rd
  unfold readJSON
  obtain ⟨en, fin, hpa, read, left⟩ | ⟨none, err, fin, hfa⟩ := parses
  · rw [read]
    cases hdc : decode en with
    | none =>
      refine .inr ⟨_, fin, by simp only [hdc]; rfl, fun o v again => ?_⟩
      cases hpa.symm.trans again
      intro hf
      cases hdc.symm.trans hf
    | some v =>
      cases passes : check v with
      | ok =>
        exact .inl ⟨en, v, fin, hpa, hdc, passes, by simp only [hdc, checked, passes], left⟩
      | error err =>
        refine .inr ⟨err, fin, by simp only [hdc, checked, passes], fun o _ again => ?_⟩
        cases hpa.symm.trans again
        intro hf
        cases hdc.symm.trans hf
        rw [passes]
        nofun
  · rw [hfa]
    refine .inr ⟨err, fin, rfl, fun en v hf => ?_⟩
    cases none.symm.trans hf

def readHeader (json : Json) (reader : CodecReader) : Except ProtocolError StreamHeader × CodecReader :=
  checked checkHeader (readJSON json.decodeHeader reader)

def readMessage (json : Json) (reader : CodecReader) : Except ProtocolError Message × CodecReader :=
  checked checkMessage (readJSON json.decodeMessage reader)

def sampleHeader : StreamHeader := ⟨1, utf8 "ssh", utf8 "req_1"⟩

def sampleMessage : Message :=
  ⟨1, utf8 "device.heartbeat", utf8 "req_2", utf8 "\x7b\x7d"⟩

def sampleJson : Json where
  encodeHeader value := if value = sampleHeader then some [0] else none
  decodeHeader encoded := if encoded = [0] then some sampleHeader else none
  encodeMessage value := if value = sampleMessage then some [1] else none
  decodeMessage encoded := if encoded = [1] then some sampleMessage else none
  decodesHeader := by
    intro value encoded encodes
    split at encodes
    · cases encodes
      simp_all
    · cases encodes
  decodesMessage := by
    intro value encoded encodes
    split at encodes
    · cases encodes
      simp_all
    · cases encodes

end AISummoner.Protocol
