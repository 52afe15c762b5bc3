import AISummoner.Protocol.Control

/-! # The header of a stream

`readStreamHeader` of `internal/tunnel/client.go` reads the first frame of a stream
past any buffer, for what follows belongs to SSH.  It parses the frame with a codec of
its own, and so agrees with a codec on the stream.
-/

namespace AISummoner.Tunnel

open Protocol Streams

/-- `bytes.NewBuffer`. -/
def bufferSource (contents : Bytes) : Source UInt8 where
  chunks := if contents = [] then [] else [contents]
  ending := .endOfFile
  joined := false
  filled := by
    intro chunk member
    split at member
    · cases member
    · rename_i filled
      rwa [List.mem_singleton.mp member]

@[simp] theorem unread_bufferSource (cts : Bytes) : (bufferSource cts).unread = cts := by
  unfold Source.unread bufferSource
  by_cases hem : cts = [] <;> simp [hem]

def readStreamHeader (json : Json) (stream : Source UInt8) :
    Except ProtocolError StreamHeader × Source UInt8 :=
  match readFrame sourcePort "read stream header length" "read stream header" stream with
  | (.error error, stream) => (.error error, stream)
  | (.ok (length, frame), stream) =>
    ((readHeader json (newCodec (bufferSource (length ++ frame)))).1, stream)

/-- The header a stream starts with: a frame of it that passes the checks. -/
structure StartsWith (json : Json) (stream : Bytes) (encoded : Bytes) (header : StreamHeader) :
    Prop where
  parsed : parseFrame stream = some encoded
  decoded : json.decodeHeader encoded = some header
  passes : checkHeader header = .ok ()

theorem readHeader_eq (json : Json) (rd : CodecReader) :
    (∃ hen h fin, StartsWith json rd.left hen h ∧ readHeader json rd = (.ok h, fin)) ∨
    ∃ err fin, readHeader json rd = (.error err, fin) ∧
      ∀ hen h, ¬ StartsWith json rd.left hen h := by
  obtain ⟨hen, h, fin, hpa, hdc, passes, read, -⟩ | ⟨err, fin, hfa, none⟩ :=
    read_eq json.decodeHeader checkHeader rd
  · exact .inl ⟨hen, h, fin, ⟨hpa, hdc, passes⟩, read⟩
  · exact .inr ⟨err, fin, hfa, fun hen h hst => none hen h hst.parsed hst.decoded hst.passes⟩

theorem readStreamHeader_eq (json : Json) (sm : Source UInt8) :
    (∃ en hea fin, StartsWith json sm.unread en hea ∧ readStreamHeader json sm = (.ok hea, fin) ∧
      sm.unread = sm.unread.take 4 ++ en ++ fin.unread) ∨
    ∃ err fin, readStreamHeader json sm = (.error err, fin) ∧
      ∀ en hea, ¬ StartsWith json sm.unread en hea := by
  obtain ⟨en, fin, hpa, read, left⟩ | ⟨unparsed, err, fin, hfa⟩ :=
    @readFrame_eq _ sourcePort "read stream header length" "read stream header" sm
  · change parseFrame sm.unread = some en at hpa
    change readFrame sourcePort _ _ sm = (.ok (sm.unread.take 4, en), fin) at read
    obtain ⟨again, hsp⟩ := parseFrame_take hpa
    have h (o : Bytes) (hea : StreamHeader) :
        StartsWith json (sm.unread.take 4 ++ en) o hea ↔
          StartsWith json sm.unread o hea := by
      constructor
      · exact fun hst => ⟨by rw [hpa, ← again, hst.parsed], hst.decoded, hst.passes⟩
      · exact fun hst => ⟨by rw [again, ← hpa, hst.parsed], hst.decoded, hst.passes⟩
    have inn := readHeader_eq json (newCodec (bufferSource (sm.unread.take 4 ++ en)))
    simp only [newCodec, Buffered.left_new, unread_bufferSource, h] at inn
    unfold readStreamHeader
    rw [read]
    obtain ⟨o, hea, _, hst, returns⟩ | ⟨err, _, returns, none⟩ := inn
    · cases hpa.symm.trans hst.parsed
      refine .inl ⟨en, hea, fin, hst, ?_, ?_⟩
      · simp only [newCodec, returns]
      · rw [show fin.unread = _ from left]
        exact hsp
    · exact .inr ⟨err, fin, by simp only [newCodec, returns], none⟩
  · unfold readStreamHeader
    rw [hfa]
    refine .inr ⟨err, fin, rfl, fun en hea hst => ?_⟩
    cases (show parseFrame sm.unread = none from unparsed).symm.trans hst.parsed

/-- Past any buffer or through a codec, the same header is read, and the first way takes no byte
    more than its frame. -/
theorem readStreamHeader_agrees (json : Json) (stream other : Source UInt8)
    (same : other.unread = stream.unread) :
    (∀ header, (readStreamHeader json stream).1 = .ok header ↔
      (readHeader json (newCodec other)).1 = .ok header) ∧
    ((∃ error, (readStreamHeader json stream).1 = .error error) ↔
      ∃ error, (readHeader json (newCodec other)).1 = .error error) ∧
    ∀ header, (readStreamHeader json stream).1 = .ok header →
      ∃ length frame, length.length = 4 ∧ uint32 length = frame.length ∧
        json.decodeHeader frame = some header ∧
        stream.unread = length ++ frame ++ (readStreamHeader json stream).2.unread := by
  have buffered := readHeader_eq json (newCodec other)
  rw [newCodec, Buffered.left_new, same] at buffered
  obtain ⟨encoded, header, final, starts, direct, split⟩ | ⟨error, final, direct, none⟩ :=
    readStreamHeader_eq json stream
  · obtain ⟨again, found, _, alike, codec⟩ | ⟨_, _, _, none⟩ := buffered
    swap
    · exact absurd starts (none encoded header)
    cases starts.parsed.symm.trans alike.parsed
    cases starts.decoded.symm.trans alike.decoded
    obtain ⟨-, available, length⟩ := fits_of_parseFrame starts.parsed
    rw [newCodec, direct, codec]
    refine ⟨fun _ => Iff.rfl, ⟨nofun, nofun⟩, fun found same => ?_⟩
    cases same
    exact ⟨_, encoded, by rw [List.length_take]; omega, length, starts.decoded, split⟩
  · obtain ⟨encoded, header, _, starts, _⟩ | ⟨other, _, codec, _⟩ := buffered
    · exact absurd starts (none encoded header)
    rw [newCodec, direct, codec]
    exact ⟨fun _ => ⟨nofun, nofun⟩, ⟨fun _ => ⟨_, rfl⟩, fun _ => ⟨_, rfl⟩⟩, nofun⟩

/-- A header in one chunk with the bytes of SSH, and byte by byte. -/
theorem readStreamHeader_agrees_sample :
    (readStreamHeader sampleJson (bufferSource (frameBytes [0] ++ [83, 83, 72]))).1 =
      .ok sampleHeader := by
  refine ((readStreamHeader_agrees sampleJson (bufferSource (frameBytes [0] ++ [83, 83, 72]))
    { chunks := (frameBytes [0] ++ [83, 83, 72]).map ([·]), ending := .failure, joined := true
      filled := by decide +kernel } (by decide +kernel)).1 sampleHeader).mpr ?_
  decide +kernel

end AISummoner.Tunnel
