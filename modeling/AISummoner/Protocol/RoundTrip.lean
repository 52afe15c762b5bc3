import AISummoner.Protocol.Order

/-! # From writers to reader

The codec that reads the wire returns the values whose frames are on it, in the order
of the lock, and an error for whatever is not a frame.
-/

namespace AISummoner.Protocol

open Concurrency Encoding Streams

variable {json : Json}

/-! ## One value -/

inductive Kind where
  | header
  | message
  deriving DecidableEq, Repr

def Value.kind : Value → Kind
  | .header _ => .header
  | .message _ => .message

/-- `ReadHeader` or `ReadMessage`. -/
def readValue (json : Json) (kind : Kind) (reader : CodecReader) :
    Except ProtocolError Value × CodecReader :=
  match kind with
  | .header => ((readHeader json reader).1.map .header, (readHeader json reader).2)
  | .message => ((readMessage json reader).1.map .message, (readMessage json reader).2)

def Json.decode (json : Json) : Kind → Bytes → Option Value
  | .header, encoded => (json.decodeHeader encoded).map .header
  | .message, encoded => (json.decodeMessage encoded).map .message

def Value.check : Value → Except ProtocolError Unit
  | .header value => checkHeader value
  | .message value => checkMessage value

/-- What is left starts with a frame of this value. -/
structure Reads (json : Json) (kind : Kind) (stream encoded : Bytes) (value : Value) : Prop where
  parsed : parseFrame stream = some encoded
  decoded : json.decode kind encoded = some value
  passes : value.check = .ok ()

theorem readValue_eq (json : Json) (kind : Kind) (reader : CodecReader) :
    (∃ hen v fin, Reads json kind reader.left hen v ∧ readValue json kind reader = (.ok v, fin) ∧
      fin.left = reader.left.drop (4 + hen.length)) ∨
    ∃ err fin, readValue json kind reader = (.error err, fin) ∧
      ∀ hen v, ¬ Reads json kind reader.left hen v := by
  cases kind with
  | header =>
    obtain ⟨hen, v, fin, hpa, hdc, passes, read, left⟩ | ⟨err, fin, hfa, none⟩ :=
      read_eq json.decodeHeader checkHeader reader
    · refine .inl ⟨hen, .header v, fin, ⟨hpa, ?_, passes⟩, ?_, left⟩
      · rw [Json.decode, hdc]
        rfl
      · rw [readValue, readHeader, read]
        rfl
    · refine .inr ⟨err, fin, by rw [readValue, readHeader, hfa]; rfl, ?_⟩
      rintro hen v ⟨hpa, hdc, passes⟩
      obtain ⟨hd, hf, rfl⟩ := Option.map_eq_some_iff.mp hdc
      exact none hen hd hpa hf passes
  | message =>
    obtain ⟨hen, v, fin, hpa, hdc, passes, read, left⟩ | ⟨err, fin, hfa, none⟩ :=
      read_eq json.decodeMessage checkMessage reader
    · refine .inl ⟨hen, .message v, fin, ⟨hpa, ?_, passes⟩, ?_, left⟩
      · rw [Json.decode, hdc]
        rfl
      · rw [readValue, readMessage, read]
        rfl
    · refine .inr ⟨err, fin, by rw [readValue, readMessage, hfa]; rfl, ?_⟩
      rintro hen v ⟨hpa, hdc, passes⟩
      obtain ⟨msg, hf, rfl⟩ := Option.map_eq_some_iff.mp hdc
      exact none hen msg hpa hf passes

/-- A message has a payload that is not `null`, which the reader requires and the writer does
    not. -/
def Value.NonNull : Value → Prop
  | .header _ => True
  | .message value => value.payload ≠ [] ∧ value.payload ≠ utf8 "null"

variable {reader : CodecReader}

theorem check_of_writable {v : Value} (writable : v.Writable) (nonNull : v.NonNull) :
    v.check = .ok () := by
  cases v with
  | header _ => exact writable
  | message _ =>
    obtain ⟨cur, k, identified⟩ := writable
    obtain ⟨hfi, hpr⟩ := nonNull
    simp only [Value.check, checkMessage, cur, k, identified, hfi, hpr]
    rfl

theorem decode_of_encode {v : Value} {en : Bytes}
    (encodes : json.encode v = some en) : json.decode v.kind en = some v := by
  cases v with
  | header _ =>
    rw [Value.kind, Json.decode, json.decodesHeader encodes]
    rfl
  | message _ =>
    rw [Value.kind, Json.decode, json.decodesMessage encodes]
    rfl

theorem reads_frame (frm : Frame json) (nonNull : frm.value.NonNull) (rest : Bytes) :
    Reads json frm.value.kind (frm.bytes ++ rest) frm.encoded frm.value where
  parsed := parseFrame_frameBytes frm.fits rest
  decoded := decode_of_encode frm.encodes
  passes := check_of_writable frm.writable nonNull

theorem readValue_frame (frm : Frame json) (nonNull : frm.value.NonNull) {rest : Bytes} (left : reader.left = frm.bytes ++ rest) :
    ∃ fin, readValue json frm.value.kind reader = (.ok frm.value, fin) ∧ fin.left = rest := by
  have reads := reads_frame frm nonNull rest
  rw [← left] at reads
  obtain ⟨_, v, fin, hf, read, hs'⟩ | ⟨_, _, _, none⟩ :=
    readValue_eq json frm.value.kind reader
  · cases reads.parsed.symm.trans hf.parsed
    cases reads.decoded.symm.trans hf.decoded
    refine ⟨fin, read, ?_⟩
    have hlen : frm.bytes.length = 4 + frm.encoded.length := by
      simp [Frame.bytes, frameBytes]
    rw [hs', left, List.drop_left' hlen]
  · exact absurd reads (none _ _)

def readAll (json : Json) : List Kind → CodecReader → Except ProtocolError (List Value) × CodecReader
  | [], reader => (.ok [], reader)
  | kind :: kinds, reader =>
    match readValue json kind reader with
    | (.error error, reader) => (.error error, reader)
    | (.ok value, reader) =>
      ((readAll json kinds reader).1.map (value :: ·), (readAll json kinds reader).2)

theorem readAll_frames {es : List (Nat × Frame json)}
    (nonNull : ∀ e ∈ es, e.2.value.NonNull) {rest : Bytes}
    (left : reader.left = framesOf es ++ rest) :
    ∃ fin, readAll json (es.map fun e => e.2.value.kind) reader =
        (.ok (es.map fun e => e.2.value), fin) ∧ fin.left = rest := by
  induction es generalizing reader with
  | nil => exact ⟨reader, rfl, left⟩
  | cons e es ih =>
    obtain ⟨here, k'⟩ := List.forall_mem_cons.mp nonNull
    have hsp : reader.left = e.2.bytes ++ (framesOf es ++ rest) := by
      rw [left, ← List.append_assoc]
      rfl
    obtain ⟨_, read, remains⟩ := readValue_frame e.2 here hsp
    obtain ⟨fin, all, s'⟩ := ih k' remains
    refine ⟨fin, ?_, s'⟩
    simp only [List.map_cons, readAll, read, all]
    rfl

/-! ## What is not a frame -/

theorem parseFrame_nil : parseFrame [] = none := rfl

theorem parseFrame_truncated (frm : Frame json) {w left : Bytes}
    (hsp : frm.bytes = w ++ left) (open_ : left ≠ []) : parseFrame w = none := by
  cases hpa : parseFrame w with
  | none => rfl
  | some _ =>
    obtain ⟨-, _, len⟩ := fits_of_parseFrame hpa
    have small : frm.encoded.length < 2 ^ 32 := Nat.lt_of_le_of_lt frm.fits.2 (by decide)
    have four : 4 ≤ w.length := by omega
    have start : w.take 4 = putUint32 frm.encoded.length := by
      have hwh : frm.bytes.take 4 = putUint32 frm.encoded.length := by
        rw [Frame.bytes, frameBytes, List.take_left' (length_putUint32 _)]
      rwa [hsp, List.take_append_of_le_length four] at hwh
    rw [start, uint32_putUint32 small] at len
    have hct := congrArg List.length hsp
    have remains := List.length_pos_of_ne_nil open_
    rw [Frame.bytes, frameBytes, List.length_append, List.length_append, length_putUint32] at hct
    omega

theorem readValue_of_unparsed (unparsed : parseFrame reader.left = none)
    (kind : Kind) : ∃ err fin, readValue json kind reader = (.error err, fin) := by
  obtain ⟨_, v, fin, hf, -⟩ | ⟨err, fin, hfa, -⟩ := readValue_eq json kind reader
  · cases unparsed.symm.trans hf.parsed
  · exact ⟨err, fin, hfa⟩

theorem complete_of_ordered {st : Connection json} (hor : Ordered st) :
    ∃ cm rest, st.wire = framesOf cm ++ rest ∧ parseFrame rest = none ∧ (st.order = cm ∨
        st.holder ≠ none ∧ ∃ e, st.order = cm ++ [e]) := by
  cases hho : st.holder with
  | none =>
    exact ⟨st.order, [], by rw [List.append_nil, hor.free hho], parseFrame_nil, .inl rfl⟩
  | some t =>
    obtain ⟨frm, left, s, hw, last, hsp, wire⟩ := hor.held t hho
    by_cases done : left = []
    · refine ⟨st.order, [], ?_, parseFrame_nil, .inl rfl⟩
      rw [done, List.append_nil] at hsp
      rw [List.append_nil, wire, last, framesOf_append, framesOf_singleton, hsp]
    · exact ⟨s, hw, wire, parseFrame_truncated frm hsp done, .inr ⟨nofun, _, last⟩⟩

instance : DecidablePred Value.NonNull
  | .header _ => inferInstanceAs (Decidable True)
  | .message _ => inferInstanceAs (Decidable (_ ∧ _))

/-- Two writers, the second of which waits for the first; some writes are partial. -/
def sampleSchedule : List (Label (List Outgoing) Choice) :=
  [.start [.header sampleHeader],
    .start [.message (utf8 "device.heartbeat") (utf8 "req_2") (some (utf8 "\x7b\x7d"))],
    .run 0 (.accept 0), .run 0 (.accept 3), .run 0 (.accept 1), .run 0 (.accept 1),
    .run 0 (.accept 0), .run 1 (.accept 0), .run 0 (.accept 0), .run 1 (.accept 4),
    .run 1 (.accept 1), .run 1 (.accept 0), .run 1 (.accept 0)]

theorem sampleSchedule_runs :
    ((codecSystem sampleJson).ranBy progressing {} sampleSchedule).isSome := by
  decide +kernel

def samplePast : System.Traced (signature sampleJson) (List Outgoing) (Connection sampleJson) :=
  (((codecSystem sampleJson).ranBy progressing {} sampleSchedule).get sampleSchedule_runs).state

def sampleStream : Source UInt8 where
  chunks := [[0, 0, 0], [1, 0, 0, 0], [0, 1, 1]]
  ending := .endOfFile
  joined := false
  filled := by decide

end AISummoner.Protocol
