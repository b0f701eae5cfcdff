/-
  TgCli.Proto.FrameReader — LINES OUT OF READS

  `FrameReader::read_line_impl` (proto/frame_io.cpp).  What the descriptor gives
  is a list of reads, with the end of the stream after them.

  Main result: `readLines_framed` — the lines and how they end depend on the
  bytes of the stream, not on the reads they came in.
-/
import TgCli.Tdlib.Types

namespace TgCli.Proto

open Tdlib List

/-! ## §1. The reader. -/

/-- `kMaxLineBytes`. -/
def kMaximumSerializedFrameBytes : Nat := 16842751

/-- One `read_chunk` before the end of the stream. -/
inductive ReadChunk where
  | data (chunk : Bytes)
  | retry
  | failed (error : String)
deriving DecidableEq, Repr

/-- What a call returns: a line, or none with its error text. -/
inductive ReadResult where
  | line (bytes : Bytes)
  | none (error : String)
deriving DecidableEq, Repr

structure FrameReader where
  buffer : Bytes := []
  eof : Bool := false
  reads : List ReadChunk
deriving DecidableEq, Repr

def frameExceeds : ReadResult :=
  .none ("frame exceeds " ++ toString kMaximumSerializedFrameBytes ++ " bytes")

def closedMidFrame : ReadResult := .none "connection closed mid-frame"

/-- A turn of the loop, up to where it reads: the result and the buffer it leaves. -/
def scanBuffer (buffer : Bytes) (eof : Bool) : Option (ReadResult × Bytes) :=
  match buffer.idxOf? 10 with
  | some pos =>
    if kMaximumSerializedFrameBytes < pos then some (frameExceeds, [])
    else some (.line (buffer.take pos), buffer.drop (pos + 1))
  | none =>
    if eof then some (if buffer.isEmpty then .none "" else closedMidFrame, [])
    else if kMaximumSerializedFrameBytes < buffer.length then some (frameExceeds, [])
    else none

/-- `FrameReader::read_line_impl`. -/
def readLineLoop (eof : Bool) (buffer : Bytes) (reads : List ReadChunk) :
    ReadResult × FrameReader :=
  match scanBuffer buffer eof with
  | some (result, left) => (result, { buffer := left, eof, reads })
  | none =>
    match reads with
    | [] =>
      -- the turn after the end of the stream always returns
      match scanBuffer buffer true with
      | some (result, left) => (result, { buffer := left, eof := true, reads })
      | none => (.none "", { buffer, eof := true, reads })
    | .data chunk :: rest => readLineLoop eof (buffer ++ chunk) rest
    | .retry :: rest => readLineLoop eof buffer rest
    | .failed error :: rest => (.none error, { buffer := [], eof, reads := rest })

def FrameReader.readLine (reader : FrameReader) : ReadResult × FrameReader :=
  readLineLoop reader.eof reader.buffer reader.reads

/-- **Repeated calls**: the lines up to the first call that returns none. -/
inductive ReadLines : FrameReader → List Bytes → ReadResult → Prop
  | last {reader : FrameReader} {error : String} (h : reader.readLine.1 = .none error) :
      ReadLines reader [] (.none error)
  | line {reader : FrameReader} {bytes : Bytes} {lines : List Bytes} {last : ReadResult}
      (h : reader.readLine.1 = .line bytes) (hrest : ReadLines reader.readLine.2 lines last) :
      ReadLines reader (bytes :: lines) last

/-! ## §2. The stream. -/

/-- The bytes of the reads. -/
def received : List ReadChunk → Bytes
  | .data chunk :: rest => chunk ++ received rest
  | _ :: rest => received rest
  | [] => []

/-- **What a stream means**: its parts between LF bytes are lines, up to the first
that is too long; the part after the last LF is not one. -/
def framed (stream : Bytes) : List Bytes × ReadResult :=
  let whole := (stream.splitOn 10).dropLast
  let tail := (stream.splitOn 10).getLastD []
  let lines := whole.takeWhile (·.length ≤ kMaximumSerializedFrameBytes)
  (lines,
    if lines ≠ whole ∨ kMaximumSerializedFrameBytes < tail.length then frameExceeds
    else if tail.isEmpty then .none "" else closedMidFrame)

theorem framed_line {line rest : Bytes} (hline : 10 ∉ line) :
    framed (line ++ 10 :: rest) = if line.length ≤ kMaximumSerializedFrameBytes
      then (line :: (framed rest).1, (framed rest).2) else ([], frameExceeds) := by
  obtain ⟨first, parts, hparts⟩ := exists_cons_of_ne_nil (splitOn_ne_nil 10 rest)
  split <;> simp_all [framed, splitOn_append_cons_self_of_not_mem hline]

theorem framed_tail {tail : Bytes} (htail : 10 ∉ tail) :
    framed tail = ([], if kMaximumSerializedFrameBytes < tail.length then frameExceeds
      else if tail.isEmpty then .none "" else closedMidFrame) := by
  simp [framed, splitOn_eq_singleton htail]

/-- A line that is already too long stays so, wherever it ends. -/
theorem framed_exceeds {buffer : Bytes} (more : Bytes) (hbuffer : 10 ∉ buffer)
    (hlt : kMaximumSerializedFrameBytes < buffer.length) :
    framed (buffer ++ more) = ([], frameExceeds) := by
  by_cases hmore : 10 ∈ more
  · obtain ⟨before, rest, rfl, hbefore⟩ := eq_append_cons_of_mem hmore
    rw [← append_assoc]
    rw [framed_line (by simp [hbuffer, hbefore]), if_neg]
    simp only [length_append]
    omega
  · rw [framed_tail (by simp [hbuffer, hmore]), if_pos]
    simp only [length_append]
    omega

/-! ## §3. Calls follow the stream. -/

/-- A reader whose reads all succeed; at the end of the stream nothing is left to read. -/
def FrameReader.Sound (reader : FrameReader) : Prop :=
  (∀ error, .failed error ∉ reader.reads)
    ∧ (reader.eof → reader.reads = [] ∧ reader.buffer.length ≤ kMaximumSerializedFrameBytes)

/-- The bytes not yet returned. -/
def FrameReader.rest (reader : FrameReader) : Bytes := reader.buffer ++ received reader.reads

/-- **What a call does to the rest of the stream**: it takes a line off, or it
reports how the stream ends. -/
def Follows (stream : Bytes) (call : ReadResult × FrameReader) : Prop :=
  (∃ line rest, stream = line ++ 10 :: rest ∧ 10 ∉ line
      ∧ line.length ≤ kMaximumSerializedFrameBytes ∧ call.1 = .line line
      ∧ call.2.rest = rest ∧ call.2.Sound)
    ∨ ∃ error, call.1 = .none error ∧ framed stream = ([], .none error)

theorem idxOf?_line {line rest : Bytes} (hline : 10 ∉ line) :
    (line ++ 10 :: rest).idxOf? 10 = some line.length := by
  induction line with
  | nil => rfl
  | cons byte line ih =>
    rw [mem_cons, not_or] at hline
    rw [cons_append, idxOf?_cons, if_neg (by simpa using Ne.symm hline.1), ih hline.2]
    rfl

variable {eof : Bool}

/-- A turn that returns. -/
theorem scanBuffer_follows {buffer left : Bytes} {reads : List ReadChunk}
    {result : ReadResult} (hscan : scanBuffer buffer eof = some (result, left))
    (hsound : FrameReader.Sound { buffer, eof, reads }) :
    Follows (buffer ++ received reads) (result, { buffer := left, eof, reads }) := by
  unfold scanBuffer at hscan
  by_cases hmem : 10 ∈ buffer
  · obtain ⟨line, rest, rfl, hline⟩ := eq_append_cons_of_mem hmem
    simp only [idxOf?_line hline] at hscan
    split at hscan
    · rename_i hlong
      cases hscan
      refine .inr ⟨_, rfl, ?_⟩
      rw [append_assoc, cons_append]
      rw [framed_line hline, if_neg (not_le.mpr hlong)]
      rfl
    · rename_i hshort
      cases hscan
      refine .inl ⟨line, rest ++ received reads, by simp, hline, by omega, by simp, ?_,
        hsound.1, fun heof => ?_⟩
      · simp [FrameReader.rest]
      · obtain ⟨hreads, hle⟩ := hsound.2 heof
        exact ⟨hreads, le_trans (by rw [length_drop]; exact Nat.sub_le ..) hle⟩
  · simp only [idxOf?_eq_none_iff.mpr hmem] at hscan
    split at hscan
    · rename_i heof
      cases hscan
      obtain ⟨rfl, hle⟩ := hsound.2 heof
      have hend := framed_tail hmem
      rw [if_neg (Nat.not_lt.mpr hle)] at hend
      rw [received, append_nil]
      by_cases hempty : buffer.isEmpty
      · rw [if_pos hempty] at hend ⊢
        exact .inr ⟨_, rfl, hend⟩
      · rw [if_neg hempty] at hend ⊢
        exact .inr ⟨_, rfl, hend⟩
    · split at hscan
      · rename_i hlong
        cases hscan
        exact .inr ⟨_, rfl, framed_exceeds _ hmem hlong⟩
      · cases hscan

/-- A turn that reads on has a short buffer. -/
theorem length_of_scanBuffer {buffer : Bytes} (h : scanBuffer buffer eof = none) :
    eof = false ∧ buffer.length ≤ kMaximumSerializedFrameBytes := by
  unfold scanBuffer at h
  split at h
  · split at h <;> cases h
  · split at h
    · cases h
    · split at h
      · cases h
      · rename_i heof hle
        exact ⟨Bool.eq_false_of_not_eq_true heof, Nat.not_lt.mp hle⟩

/-- **One call**, whatever the reads are cut into. -/
theorem readLineLoop_follows {reads : List ReadChunk} : ∀ {buffer : Bytes},
    FrameReader.Sound { buffer, eof, reads } →
      Follows (buffer ++ received reads) (readLineLoop eof buffer reads) := by
  induction reads with
  | nil =>
    intro buffer hsound
    unfold readLineLoop
    cases hscan : scanBuffer buffer eof with
    | some call => exact scanBuffer_follows hscan hsound
    | none =>
      have hle := (length_of_scanBuffer hscan).2
      cases hend : scanBuffer buffer true with
      | some call => exact scanBuffer_follows hend ⟨hsound.1, fun _ => ⟨rfl, hle⟩⟩
      | none => cases (length_of_scanBuffer hend).1
  | cons read reads ih =>
    intro buffer hsound
    unfold readLineLoop
    cases hscan : scanBuffer buffer eof with
    | some call => exact scanBuffer_follows hscan hsound
    | none =>
      have heof := (length_of_scanBuffer hscan).1
      have hsound' : ∀ buffer, FrameReader.Sound { buffer, eof, reads } := fun _ =>
        ⟨fun error hmem => hsound.1 error (mem_cons_of_mem _ hmem), fun h => by simp [heof] at h⟩
      cases read with
      | data chunk =>
        show Follows (buffer ++ (chunk ++ received reads)) _
        rw [← append_assoc]
        exact ih (hsound' _)
      | retry => exact ih (hsound' _)
      | failed error => exact absurd mem_cons_self (hsound.1 error)

/-- **Repeated calls**, by induction on the length of what is left of the stream. -/
theorem readLines_rest {n : Nat} : ∀ reader : FrameReader, reader.Sound →
    reader.rest.length = n → ReadLines reader (framed reader.rest).1 (framed reader.rest).2 := by
  induction n using Nat.strong_induction_on with
  | _ n ih =>
    intro reader hsound hlen
    rcases readLineLoop_follows hsound with
      ⟨line, rest, hrest, hline, hle, hfirst, hleft, hsound'⟩ | ⟨error, herror, hend⟩
    · have hrest : reader.rest = line ++ 10 :: rest := hrest
      rw [hrest] at hlen ⊢
      rw [framed_line hline, if_pos hle, ← hleft]
      refine .line hfirst (ih _ ?_ _ hsound' rfl)
      rw [FrameReader.readLine, hleft, ← hlen, length_append, length_cons]
      omega
    · rw [show framed reader.rest = _ from hend]
      exact .last herror

/-- **The lines of a stream do not depend on its reads.** -/
theorem readLines_framed (reads : List ReadChunk) (hreads : ∀ error, .failed error ∉ reads) :
    ReadLines { reads } (framed (received reads)).1 (framed (received reads)).2 :=
  readLines_rest { reads } ⟨hreads, fun h => nomatch h⟩ rfl

theorem readLines_framed_split :
    framed (ascii "ab\nc") = ([ascii "ab"], closedMidFrame)
      ∧ ReadLines { reads := [.data (ascii "a"), .retry, .data (ascii "b\nc")] }
        (framed (ascii "ab\nc")).1 (framed (ascii "ab\nc")).2 :=
  ⟨by decide, readLines_framed _ (by simp)⟩

end TgCli.Proto
