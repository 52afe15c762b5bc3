import AISummoner.Streams.Source

/-! # Reading exactly

Go's `io.ReadFull`, over any reader that delivers a stream in order, and two such
readers: the source itself, and `bufio.Reader` on top of it.  What `readFull`
returns is a function of what is left to read.
-/

namespace AISummoner.Streams

variable {α ρ : Type}

/-- One call of `Read`, seen from what is left to read before and after it. -/
structure Delivers (left : List α) (room : Nat) (data : List α) (ending : Option Ending)
    (rest : List α) : Prop where
  delivered : data ++ rest = left
  bounded : data.length ≤ room
  progress : ending = none → data ≠ []
  ended : ending ≠ none → rest = []

structure Port (ρ α : Type) where
  read : ρ → Nat → List α × Option Ending × ρ
  left : ρ → List α
  delivers : ∀ state room, 0 < room →
    Delivers (left state) room (read state room).1 (read state room).2.1
      (left (read state room).2.2)

/-- `io.EOF`, `io.ErrUnexpectedEOF`, or an error of the reader. -/
inductive ReadError where
  | endOfFile
  | unexpectedEndOfFile
  | failed
  deriving DecidableEq, Repr

def ReadError.ofEnding : Ending → Bool → ReadError
  | .endOfFile, true => .endOfFile
  | .endOfFile, false => .unexpectedEndOfFile
  | .failure, _ => .failed

/-- The end of the file after something was read. -/
def ReadError.later : ReadError → ReadError
  | .endOfFile => .unexpectedEndOfFile
  | error => error

namespace Port

variable (port : Port ρ α)

/-- The loop of `ReadFull`, for a number of rounds. -/
def readFullLoop : Nat → ρ → Nat → Except ReadError (List α) × ρ
  | 0, state, _ => (.ok [], state)
  | rounds + 1, state, count =>
    if count = 0 then (.ok [], state)
    else if count ≤ (port.read state count).1.length then
      (.ok (port.read state count).1, (port.read state count).2.2)
    else
      match (port.read state count).2.1 with
      | some ending =>
        (.error (.ofEnding ending ((port.read state count).1 = [])), (port.read state count).2.2)
      | none =>
        match readFullLoop rounds (port.read state count).2.2
            (count - (port.read state count).1.length) with
        | (.ok data, final) => (.ok ((port.read state count).1 ++ data), final)
        | (.error error, final) => (.error error.later, final)

/-- Every round delivers an element at least. -/
def readFull (state : ρ) (count : Nat) : Except ReadError (List α) × ρ :=
  port.readFullLoop count state count

variable {port}

variable {count : Nat} {state : ρ}

theorem readFullLoop_of_le {rds : Nat} (enough : count ≤ rds)
    (available : count ≤ (port.left state).length) :
    ∃ fin, port.readFullLoop rds state count = (.ok ((port.left state).take count), fin) ∧
      port.left fin = (port.left state).drop count := by
  induction rds generalizing state count with
  | zero =>
    obtain rfl := Nat.le_zero.mp enough
    exact ⟨state, rfl, rfl⟩
  | succ rds ih =>
    by_cases hnot : count = 0
    · subst hnot
      exact ⟨state, rfl, rfl⟩
    have delivers := port.delivers state count (Nat.pos_of_ne_zero hnot)
    match read : port.read state count with
    | (data, edg, next) =>
      rw [read] at delivers
      change Delivers _ _ data edg (port.left next) at delivers
      obtain ⟨hdl, hbd, progress, hed⟩ := delivers
      simp only [readFullLoop, read, if_neg hnot]
      rw [← hdl, List.length_append] at available
      rw [← hdl]
      split
      · rename_i hwh
        have exactly : data.length = count := Nat.le_antisymm hbd hwh
        exact ⟨next, by rw [List.take_left' exactly], by rw [List.drop_left' exactly]⟩
      rename_i part
      cases edg with
      | some edg =>
        -- with the ending everything has been delivered
        rw [hed nofun] at available
        exact absurd available part
      | none =>
        have hpos := List.length_pos_of_ne_nil (progress rfl)
        obtain ⟨fin, k', left⟩ :=
          ih (by omega : count - data.length ≤ rds)
            (by omega : count - data.length ≤ (port.left next).length)
        have all : data.take count = data := List.take_of_length_le (by omega)
        have gone : data.drop count = [] := List.drop_of_length_le (by omega)
        refine ⟨fin, ?_, ?_⟩
        · simp only [k']
          rw [List.take_append, all]
        · rw [left, List.drop_append, gone, List.nil_append]

theorem readFullLoop_of_lt {rds : Nat} (enough : count ≤ rds)
    (short : (port.left state).length < count) :
    ∃ err fin, port.readFullLoop rds state count = (.error err, fin) := by
  induction rds generalizing state count with
  | zero => omega
  | succ rds ih =>
    have delivers := port.delivers state count (by omega)
    match read : port.read state count with
    | (data, edg, next) =>
      rw [read] at delivers
      change Delivers _ _ data edg (port.left next) at delivers
      obtain ⟨hdl, _, progress, -⟩ := delivers
      rw [← hdl, List.length_append] at short
      simp only [readFullLoop, read, if_neg (show count ≠ 0 by omega),
        if_neg (show ¬ count ≤ data.length by omega)]
      cases edg with
      | some edg => exact ⟨_, _, rfl⟩
      | none =>
        have hpos := List.length_pos_of_ne_nil (progress rfl)
        obtain ⟨err, fin, k'⟩ :=
          ih (by omega : count - data.length ≤ rds)
            (by omega : (port.left next).length < count - data.length)
        simp only [k']
        exact ⟨_, _, rfl⟩

theorem readFull_of_le (available : count ≤ (port.left state).length) :
    ∃ fin, port.readFull state count = (.ok ((port.left state).take count), fin) ∧
      port.left fin = (port.left state).drop count :=
  readFullLoop_of_le (Nat.le_refl _) available

theorem readFull_of_lt (short : (port.left state).length < count) :
    ∃ err fin, port.readFull state count = (.error err, fin) :=
  readFullLoop_of_lt (Nat.le_refl _) short

end Port

def sourcePort : Port (Source α) α where
  read source room :=
    ((source.read room).data, (source.read room).ending, (source.read room).rest)
  left := Source.unread
  delivers source room positive :=
    { delivered := (source.reads room).delivered
      bounded := (source.reads room).bounded
      progress := fun reading => (source.reads room).progress reading positive
      ended := fun stopped => by
        obtain ⟨ending, reported⟩ := Option.ne_none_iff_exists'.mp stopped
        exact ((source.reads room).ended ending reported).2 }

/-! ## A buffer in front of it -/

/-- `bufio.Reader`: what it has read ahead, and the ending it has not yet reported. -/
structure Buffered (α : Type) where
  buffer : List α
  pending : Option Ending
  source : Source α
  drained : pending ≠ none → source.unread = []

namespace Buffered

def new (source : Source α) : Buffered α := ⟨[], none, source, nofun⟩

def left (buffered : Buffered α) : List α := buffered.buffer ++ buffered.source.unread

/-- `Read`: from the buffer, or by one read of the source, past the buffer if there is room for
    as much as it holds. -/
def read (size : Nat) (buffered : Buffered α) (room : Nat) :
    List α × Option Ending × Buffered α :=
  if buffered.buffer ≠ [] then
    (buffered.buffer.take room, none, { buffered with buffer := buffered.buffer.drop room })
  else
    match buffered.pending with
    | some ending => ([], some ending, ⟨[], none, buffered.source, nofun⟩)
    | none =>
      if size ≤ room then
        ((buffered.source.read room).data, (buffered.source.read room).ending,
          ⟨[], none, (buffered.source.read room).rest, nofun⟩)
      else if (buffered.source.read size).data = [] then
        ([], (buffered.source.read size).ending,
          ⟨[], none, (buffered.source.read size).rest, nofun⟩)
      else
        ((buffered.source.read size).data.take room, none,
          { buffer := (buffered.source.read size).data.drop room
            pending := (buffered.source.read size).ending
            source := (buffered.source.read size).rest
            drained := fun stopped => by
              obtain ⟨ending, reported⟩ := Option.ne_none_iff_exists'.mp stopped
              exact ((buffered.source.reads size).ended ending reported).2 })

theorem take_ne_nil {data : List α} (hfi : data ≠ []) {room : Nat} (hpos : 0 < room) :
    data.take room ≠ [] := by
  rw [Ne, List.take_eq_nil_iff, not_or]
  exact ⟨Nat.ne_of_gt hpos, hfi⟩

theorem delivers (size : Nat) (positiveSize : 0 < size) (bf : Buffered α) (room : Nat)
    (hpos : 0 < room) : Delivers bf.left room (bf.read size room).1 (bf.read size room).2.1
      (bf.read size room).2.2.left := by
  unfold read
  split
  · rename_i hfi
    exact
      { delivered := by simp [left, ← List.append_assoc]
        bounded := List.length_take_le _ _
        progress := fun _ => take_ne_nil hfi hpos
        ended := fun hsp => absurd rfl hsp }
  rename_i hem
  have hbuf : bf.buffer = [] := not_not.mp hem
  have hwh : bf.left = bf.source.unread := by rw [left, hbuf, List.nil_append]
  rw [hwh]
  split
  · rename_i edg hrd
    have drained := bf.drained (by rw [hrd]; nofun)
    exact
      { delivered := by simp [left]
        bounded := Nat.zero_le _
        progress := nofun
        ended := fun _ => by simp [left, drained] }
  split
  · exact sourcePort.delivers bf.source room hpos
  have reads := bf.source.reads size
  split
  · rename_i hnot
    have hed : (bf.source.read size).ending ≠ none :=
      fun reading => reads.progress reading positiveSize hnot
    obtain ⟨edg, hrd⟩ := Option.ne_none_iff_exists'.mp hed
    have hdl := reads.delivered
    rw [hnot, List.nil_append] at hdl
    exact
      { delivered := by simpa [left] using hdl
        bounded := Nat.zero_le _
        progress := fun reading => absurd reading hed
        ended := fun _ => by simpa [left] using (reads.ended edg hrd).2 }
  · rename_i hfi
    exact
      { delivered := by
          rw [← reads.delivered]
          simp [left, ← List.append_assoc]
        bounded := List.length_take_le _ _
        progress := fun _ => take_ne_nil hfi hpos
        ended := fun hsp => absurd rfl hsp }

/-- The port of a `bufio.Reader` of positive size. -/
def port (size : Nat) (positive : 0 < size) : Port (Buffered α) α where
  read := read size
  left := left
  delivers := delivers size positive

@[simp] theorem left_new (src : Source α) : (new src).left = src.unread := rfl

end Buffered

end AISummoner.Streams
