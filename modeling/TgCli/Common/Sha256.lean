/-
  TgCli.Common.Sha256 — THE DIGEST OF A TEXT THAT COMES IN CHUNKS

  `common/sha256.cpp`: eight words, a block with the bytes that are not hashed
  yet, and a byte count.  The digest of FIPS 180-4 is stated apart, on the whole
  message and with the constants as roots of primes.

  Main results:
    * `compress_block` — the rounds of the code are the standard's;
    * `Reads.absorb` — the state depends on the text alone, not on its chunks;
    * `sha256_of_chunks` — so the digest is the standard's; and a text with a
      domain determines the domain and the payload.
-/
import Mathlib.Algebra.Order.Ring.Nat
import Mathlib.Data.Nat.NthRoot.Defs
import TgCli.Tdlib.Types

namespace TgCli.Common

open Tdlib List

structure Words where
  (a b c d e f g h : UInt32)
deriving DecidableEq, Repr

def Words.add (v w : Words) : Words :=
  ⟨v.a + w.a, v.b + w.b, v.c + w.c, v.d + w.d, v.e + w.e, v.f + w.f, v.g + w.g, v.h + w.h⟩

def Words.list (w : Words) : List UInt32 := [w.a, w.b, w.c, w.d, w.e, w.f, w.g, w.h]

/-- `std::rotr`, the standard's `ROTR`. -/
def rotr (x n : UInt32) : UInt32 := x >>> n ||| x <<< (32 - n)

/-! ## §1. The standard. -/

namespace Fips

/-- The first 64 primes. -/
def primes : List Nat :=
  (range 312).filter fun n => 2 ≤ n && (range n).all fun d => d < 2 || n % d != 0

/-- The first 32 bits of the fractional part of the `k`-th root of a prime. -/
def rootBits (k i : Nat) : UInt32 :=
  UInt32.ofNat (Nat.nthRoot k (primes.getD i 0 * 2 ^ (32 * k)))

/-- The big-endian bytes of a number. -/
def bytes (count n : Nat) : Bytes :=
  (range count).map fun i => UInt8.ofNat (n / 256 ^ (count - 1 - i))

/-- The message schedule of a block. -/
def schedule (block : Bytes) (t : Nat) : UInt32 :=
  if t < 16 then
    ((block.drop (4 * t)).take 4).foldl (fun word byte => word <<< 8 ||| byte.toUInt32) 0
  else
    let sigma0 (x : UInt32) := rotr x 7 ^^^ rotr x 18 ^^^ x >>> 3
    let sigma1 (x : UInt32) := rotr x 17 ^^^ rotr x 19 ^^^ x >>> 10
    sigma1 (schedule block (t - 2)) + schedule block (t - 7)
      + sigma0 (schedule block (t - 15)) + schedule block (t - 16)

def round (block : Bytes) (w : Words) (t : Nat) : Words :=
  let sum0 (x : UInt32) := rotr x 2 ^^^ rotr x 13 ^^^ rotr x 22
  let sum1 (x : UInt32) := rotr x 6 ^^^ rotr x 11 ^^^ rotr x 25
  let ch (x y z : UInt32) := (x &&& y) ^^^ (~~~x &&& z)
  let maj (x y z : UInt32) := (x &&& y) ^^^ (x &&& z) ^^^ (y &&& z)
  let t1 := w.h + sum1 w.e + ch w.e w.f w.g + rootBits 3 t + schedule block t
  let t2 := sum0 w.a + maj w.a w.b w.c
  ⟨t1 + t2, w.a, w.b, w.c, w.d + t1, w.e, w.f, w.g⟩

/-- The intermediate hash value after the blocks of a message. -/
def compress (w : Words) (message : Bytes) : Words :=
  if message.length < 64 then w
  else compress (w.add ((range 64).foldl (round (message.take 64)) w)) (message.drop 64)
termination_by message.length

def initial : Words :=
  let root := rootBits 2
  ⟨root 0, root 1, root 2, root 3, root 4, root 5, root 6, root 7⟩

/-- A one bit, the least number of zeros, and the length in bits. -/
def pad (length : Nat) : Bytes :=
  [0x80] ++ replicate ((119 - length % 64) % 64) 0 ++ bytes 8 (8 * length)

def sha256 (message : Bytes) : Bytes :=
  (compress initial (message ++ pad message.length)).list.flatMap fun word => bytes 4 word.toNat

end Fips

/-! ## §2. The code. -/

def kRoundConstants : List UInt32 := [
  0x428a2f98, 0x71374491, 0xb5c0fbcf, 0xe9b5dba5, 0x3956c25b, 0x59f111f1, 0x923f82a4, 0xab1c5ed5,
  0xd807aa98, 0x12835b01, 0x243185be, 0x550c7dc3, 0x72be5d74, 0x80deb1fe, 0x9bdc06a7, 0xc19bf174,
  0xe49b69c1, 0xefbe4786, 0x0fc19dc6, 0x240ca1cc, 0x2de92c6f, 0x4a7484aa, 0x5cb0a9dc, 0x76f988da,
  0x983e5152, 0xa831c66d, 0xb00327c8, 0xbf597fc7, 0xc6e00bf3, 0xd5a79147, 0x06ca6351, 0x14292967,
  0x27b70a85, 0x2e1b2138, 0x4d2c6dfc, 0x53380d13, 0x650a7354, 0x766a0abb, 0x81c2c92e, 0x92722c85,
  0xa2bfe8a1, 0xa81a664b, 0xc24b8b70, 0xc76c51a3, 0xd192e819, 0xd6990624, 0xf40e3585, 0x106aa070,
  0x19a4c116, 0x1e376c08, 0x2748774c, 0x34b0bcb5, 0x391c0cb3, 0x4ed8aa4a, 0x5b9cca4f, 0x682e6ff3,
  0x748f82ee, 0x78a5636f, 0x84c87814, 0x8cc70208, 0x90befffa, 0xa4506ceb, 0xbef9a3f7, 0xc67178f2]

/-- One of the first sixteen words. -/
def blockWord (block : Bytes) (index : Nat) : UInt32 :=
  let byte i := (block.getD (index * 4 + i) 0).toUInt32
  byte 0 <<< 24 ||| byte 1 <<< 16 ||| byte 2 <<< 8 ||| byte 3

/-- The word after these. -/
def nextWord (words : List UInt32) (index : Nat) : UInt32 :=
  let first := words.getD (index - 15) 0
  let second := words.getD (index - 2) 0
  let sigma0 := rotr first 7 ^^^ rotr first 18 ^^^ first >>> 3
  let sigma1 := rotr second 17 ^^^ rotr second 19 ^^^ second >>> 10
  words.getD (index - 16) 0 + sigma0 + words.getD (index - 7) 0 + sigma1

/-- The loop body of `transform`. -/
def transformRound (words : List UInt32) : Words → Nat → Words
  | ⟨a, b, c, d, e, f, g, h⟩, index =>
    let sum1 := rotr e 6 ^^^ rotr e 11 ^^^ rotr e 25
    let choose := (e &&& f) ^^^ (~~~e &&& g)
    let temporary1 := h + sum1 + choose + kRoundConstants.getD index 0 + words.getD index 0
    let sum0 := rotr a 2 ^^^ rotr a 13 ^^^ rotr a 22
    let majority := (a &&& b) ^^^ (a &&& c) ^^^ (b &&& c)
    ⟨temporary1 + (sum0 + majority), a, b, c, d + temporary1, e, f, g⟩

def transform (digest : Words) (block : Bytes) : Words :=
  let words := (range' 16 48).foldl (fun words index => words ++ [nextWord words index])
    ((range 16).map (blockWord block))
  digest.add ((range 64).foldl (transformRound words) digest)

/-- What `update` fills.  Of `block_` only the first `block_size_` bytes stand
here: those behind them are written before they are read. -/
structure Buffer where
  digest : Words := ⟨0x6a09e667, 0xbb67ae85, 0x3c6ef372, 0xa54ff53a,
    0x510e527f, 0x9b05688c, 0x1f83d9ab, 0x5be0cd19⟩
  block : Bytes := []
  room : block.length < 64 := by decide

/-- One turn of the loop of `update`. -/
def Buffer.push (s : Buffer) (part : Bytes) (h : s.block.length + part.length ≤ 64) : Buffer :=
  if hfull : s.block.length + part.length = 64 then
    ⟨transform s.digest (s.block ++ part), [], by decide⟩
  else ⟨s.digest, s.block ++ part, by grind⟩

def Buffer.absorb (s : Buffer) (input : Bytes) : Buffer :=
  if input = [] then s
  else
    let copied := min input.length (64 - s.block.length)
    (s.push (input.take copied) (by have := s.room; grind)).absorb (input.drop copied)
termination_by input.length
decreasing_by
  have := s.room
  have := length_pos_iff.mpr ‹input ≠ []›
  simp only [length_drop]
  omega

structure Sha256 extends Buffer where
  totalSize : Nat := 0

/-- `update`; `none` is the length error. -/
def Sha256.update (s : Sha256) (input : Bytes) : Option Sha256 :=
  if input.length > 2 ^ 64 - 1 - s.totalSize then none
  else some { s.absorb input with totalSize := s.totalSize + input.length }

/-- The words of `finish`. -/
def Sha256.final (s : Sha256) : Words :=
  let bitLength := s.totalSize * 8 % 2 ^ 64
  let last digest (block : Bytes) := transform digest (block ++ replicate (56 - block.length) 0
    ++ (range 8).map fun index => UInt8.ofNat (bitLength / 2 ^ ((7 - index) * 8)))
  let block := s.block ++ [0x80]
  if block.length > 56 then last (transform s.digest (block ++ replicate (64 - block.length) 0)) []
  else last s.digest block

def Sha256.finish (s : Sha256) : Bytes :=
  s.final.list.flatMap fun (word : UInt32) =>
    [(word >>> 24).toUInt8, (word >>> 16).toUInt8, (word >>> 8).toUInt8, word.toUInt8]

def hex (digest : Bytes) : String :=
  let digits := "0123456789abcdef".toList
  String.ofList (digest.flatMap fun (byte : UInt8) =>
    [digits.getD (byte >>> 4).toNat '0', digits.getD (byte &&& 0x0f).toNat '0'])

/-- What `domain_separated_sha256` hashes; a domain with its separator is refused. -/
def domainChunks (domain payload : Bytes) : Option (List Bytes) :=
  if 0 ∈ domain then none else some [domain, [0], payload]

def domainSeparatedSha256 (domain payload : Bytes) : Option String := do
  let digest ← (← domainChunks domain payload).foldlM Sha256.update {}
  return "sha256:" ++ hex digest.finish

/-! ## §3. The rounds. -/

theorem kRoundConstants_eq : ∀ index < 64, kRoundConstants.getD index 0 = Fips.rootBits 3 index := by
  decide +kernel

theorem blockWord_eq (hlen : block.length = 64) (ht : t < 16) :
    blockWord block t = Fips.schedule block t := by
  have hbytes : (block.drop (4 * t)).take 4 = (range 4).map fun i => block.getD (t * 4 + i) 0 :=
    ext_getElem (by grind) (by grind)
  rw [Fips.schedule, if_pos ht, hbytes]
  simp [blockWord, range_succ, UInt32.shiftLeft_or, ← UInt32.shiftLeft_add]

theorem nextWord_eq (ht : 16 ≤ t) :
    nextWord ((range t).map (Fips.schedule block)) t = Fips.schedule block t := by
  have hget : ∀ i, 0 < i → i ≤ 16 →
      ((range t).map (Fips.schedule block)).getD (t - i) 0 = Fips.schedule block (t - i) := by
    intro i hpos hle
    simp [getD, show t - i < t by omega]
  rw [Fips.schedule, if_neg (by omega), nextWord, hget 15, hget 2, hget 16, hget 7] <;> try decide
  dsimp only
  ac_rfl

theorem words_eq (hlen : block.length = 64) (n : Nat) :
    (range' 16 n).foldl (fun words index => words ++ [nextWord words index])
        ((range 16).map (blockWord block)) = (range (16 + n)).map (Fips.schedule block) := by
  induction n with
  | zero => exact map_congr_left fun t ht => blockWord_eq hlen (mem_range.mp ht)
  | succ n ih =>
    rw [range'_1_concat, foldl_append, ih, ← Nat.add_assoc, range_succ, map_append]
    exact congrArg (_ ++ [·]) (nextWord_eq (by omega))

/-- **The rounds of the code are the standard's.** -/
theorem compress_block (digest : Words) (hlen : block.length = 64) (rest : Bytes) :
    Fips.compress digest (block ++ rest) = Fips.compress (transform digest block) rest := by
  have hround : (range 64).foldl (transformRound ((range 64).map (Fips.schedule block))) digest
      = (range 64).foldl (Fips.round block) digest := by
    refine foldl_ext _ _ _ fun w t ht => ?_
    have ht := mem_range.mp ht
    rw [transformRound, kRoundConstants_eq t ht]
    simp [Fips.round, getD, ht]
  rw [Fips.compress, if_neg (by simp; omega), take_left' hlen, drop_left' hlen, transform,
    words_eq hlen, hround]

/-! ## §4. The chunks. -/

/-- The state after a text: what is not hashed is in the block. -/
def Reads (s : Buffer) (text : Bytes) : Prop :=
  (∀ rest, Fips.compress Fips.initial (text ++ rest) = Fips.compress s.digest (s.block ++ rest))
    ∧ text.length % 64 = s.block.length

theorem reads_nil : Reads {} [] := by
  have h : ({} : Buffer).digest = Fips.initial := by decide +kernel
  exact ⟨fun rest => h ▸ rfl, rfl⟩

variable {s : Buffer} {text : Bytes}

theorem Reads.push (hread : Reads s text) (h : s.block.length + part.length ≤ 64) :
    Reads (s.push part h) (text ++ part) := by
  obtain ⟨hcomp, hsize⟩ := hread
  unfold Buffer.push
  split
  · refine ⟨fun rest => ?_, by simp; omega⟩
    rw [append_assoc, hcomp, ← append_assoc, compress_block _ (by simpa)]
    rfl
  · refine ⟨fun rest => ?_, by simp; omega⟩
    rw [append_assoc, hcomp, append_assoc]

/-- **The state depends on the text alone.** -/
theorem Reads.absorb (hread : Reads s text) : Reads (s.absorb input) (text ++ input) := by
  fun_induction Buffer.absorb s input generalizing text
  · rwa [append_nil]
  · rename_i ih
    have hnext := ih (hread.push _)
    rwa [append_assoc, take_append_drop] at hnext

theorem Reads.final {s : Sha256} (hread : Reads s.toBuffer text)
    (htotal : s.totalSize = text.length) (hlen : text.length < 2 ^ 61) :
    s.final = Fips.compress Fips.initial (text ++ Fips.pad text.length) := by
  obtain ⟨hcomp, hsize⟩ := hread
  have hroom := s.room
  have hbits : s.totalSize * 8 % 2 ^ 64 = 8 * text.length := by omega
  -- The last block ends in the length; there is no rest behind it.
  have hlast : ∀ digest (block : Bytes), block.length ≤ 56 →
      transform digest (block ++ replicate (56 - block.length) 0
        ++ (range 8).map fun index => UInt8.ofNat (8 * text.length / 2 ^ ((7 - index) * 8)))
      = Fips.compress digest (block ++ (replicate (56 - block.length) 0
        ++ Fips.bytes 8 (8 * text.length))) := by
    intro digest block hblock
    rw [← append_assoc, ← append_nil (_ ++ Fips.bytes _ _),
      compress_block _ (by simp [Fips.bytes]; omega), Fips.compress, if_pos (by decide)]
    simp [Fips.bytes, range_succ]
  have hmark : (s.block ++ [0x80]).length = s.block.length + 1 := length_append
  rw [hcomp, Fips.pad, hsize, append_assoc, ← append_assoc s.block, Sha256.final, hbits]
  dsimp only
  generalize s.block ++ [0x80] = block at hmark ⊢
  split
  · rename_i hlong
    have hzeros : (119 - s.block.length) % 64 = 64 - block.length + 56 := by omega
    rw [hlast _ [] (by decide), hzeros, replicate_add, append_assoc, ← append_assoc block]
    exact (compress_block _ (by simp; omega) _).symm
  · rename_i hshort
    have hzeros : (119 - s.block.length) % 64 = 56 - block.length := by omega
    rw [hlast _ _ (not_lt.mp hshort), hzeros]

/-- Every chunk is read, as long as the whole text is short enough. -/
theorem Reads.chunks (chunks : List Bytes) {s : Sha256} (hread : Reads s.toBuffer text)
    (htotal : s.totalSize = text.length) (hlen : (text ++ chunks.flatten).length < 2 ^ 61) :
    ∃ s', chunks.foldlM Sha256.update s = some s'
      ∧ s'.finish = Fips.sha256 (text ++ chunks.flatten) := by
  have hword : ∀ word : UInt32, [(word >>> 24).toUInt8, (word >>> 16).toUInt8, (word >>> 8).toUInt8,
      word.toUInt8] = Fips.bytes 4 word.toNat := by
    intro word
    simp [Fips.bytes, range_succ, ← UInt8.toNat_inj, Nat.shiftRight_eq_div_pow]
  induction chunks generalizing s text with
  | nil =>
    rw [flatten_nil, append_nil] at hlen ⊢
    refine ⟨s, rfl, ?_⟩
    simp only [Sha256.finish, Fips.sha256, hread.final htotal hlen, hword]
  | cons chunk chunks ih =>
    rw [flatten_cons, ← append_assoc] at hlen ⊢
    have hfits : ¬ chunk.length > 2 ^ 64 - 1 - s.totalSize := by
      simp only [length_append] at hlen
      omega
    rw [foldlM_cons, Sha256.update, if_neg hfits]
    exact ih hread.absorb (by simp [htotal]) hlen

/-- **The digest of a text however it is split**; and the text of a domain and a
payload determines both. -/
theorem sha256_of_chunks :
    (∀ chunks : List Bytes, chunks.flatten.length < 2 ^ 61 →
      ∃ s, chunks.foldlM Sha256.update {} = some s ∧ s.finish = Fips.sha256 chunks.flatten)
    ∧ ∀ domain payload domain' payload' chunks chunks',
      domainChunks domain payload = some chunks → domainChunks domain' payload' = some chunks' →
      chunks.flatten = chunks'.flatten → domain = domain' ∧ payload = payload' := by
  refine ⟨fun chunks => @Reads.chunks [] chunks {} reads_nil rfl, ?_⟩
  intro domain payload domain' payload' chunks chunks' h h' heq
  obtain ⟨hdomain, ⟨⟩⟩ := Option.ite_none_left_eq_some.mp h
  obtain ⟨hdomain', ⟨⟩⟩ := Option.ite_none_left_eq_some.mp h'
  have htext : domain ++ 0 :: payload = domain' ++ 0 :: payload' := by simpa using heq
  rcases append_eq_append_iff.mp htext with ⟨_ | ⟨c, more⟩, hd, hp⟩ | ⟨_ | ⟨c, more⟩, hd, hp⟩ <;>
    grind

/-- A text in two chunks. -/
theorem sha256_of_chunks_abc : ∃ s, [[97], [98, 99]].foldlM Sha256.update {} = some s
    ∧ s.finish = Fips.sha256 [97, 98, 99] :=
  sha256_of_chunks.1 [[97], [98, 99]] (by decide)

end TgCli.Common
