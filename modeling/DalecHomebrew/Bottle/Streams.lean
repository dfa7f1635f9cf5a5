import DalecHomebrew.Catalog.Types
import Mathlib.Data.List.Rotate

/-!
# Byte streams of an archive

While an archive is read, `placeholderDetector` looks for relocation placeholders in the
bytes of one file and `countingTailReader` keeps the last bytes of the tar stream.  Both
see their input in pieces of any size, and neither answer depends on the pieces.
-/

namespace DalecHomebrew.Bottle

open Catalog (Bytes)

/-! ## Placeholders -/

def relocationPlaceholders : List Bytes :=
  ["@@HOMEBREW_PREFIX@@", "@@HOMEBREW_CELLAR@@", "@@HOMEBREW_REPOSITORY@@",
    "@@HOMEBREW_LIBRARY@@", "@@HOMEBREW_PERL@@", "@@HOMEBREW_JAVA@@"].map
      fun placeholder : String => placeholder.toList.map fun character => character.toNat.toUInt8

def maxRelocationPlaceholderBytes : Nat :=
  (relocationPlaceholders.map List.length).foldl max 0

def containsRelocationPlaceholder (value : Bytes) : Bool :=
  relocationPlaceholders.any fun placeholder => decide (placeholder <:+: value)

structure PlaceholderDetector where
  tail : Bytes := []
  found : Bool := false

def PlaceholderDetector.write (detector : PlaceholderDetector) (piece : Bytes) :
    PlaceholderDetector :=
  if detector.found then detector
  else
    let combined := detector.tail ++ piece
    let keep := min (maxRelocationPlaceholderBytes - 1) combined.length
    { tail := combined.drop (combined.length - keep)
      found := containsRelocationPlaceholder combined }

/-- The bytes that may begin a placeholder of which the rest has not been written. -/
def unfinished (seen : Bytes) : Bytes :=
  seen.drop (seen.length - (maxRelocationPlaceholderBytes - 1))

theorem unfinished_append (seen next : Bytes) :
    unfinished (unfinished seen ++ next) = unfinished (seen ++ next) := by
  simp only [unfinished, List.drop_append, List.drop_drop, List.length_append, List.length_drop]
  congr 2 <;> omega

/-- A placeholder is in the old bytes, or begins in the last of them. -/
theorem infix_append {placeholder seen next : Bytes}
    (short : placeholder.length ≤ maxRelocationPlaceholderBytes - 1 + 1)
    (occurs : placeholder <:+: seen ++ next) :
    placeholder <:+: seen ∨ placeholder <:+: unfinished seen ++ next := by
  obtain ⟨before, after, text⟩ := occurs
  rcases le_or_gt (before ++ placeholder).length seen.length with inside | across
  · have initial : before ++ placeholder <+: seen :=
      List.prefix_of_prefix_length_le ⟨after, text⟩ (List.prefix_append seen next) inside
    exact .inl ((List.suffix_append before placeholder).isInfix.trans initial.isInfix)
  · rw [List.length_append] at across
    have rest := congrArg (List.drop (seen.length - (maxRelocationPlaceholderBytes - 1))) text
    rw [List.append_assoc, List.drop_append_of_le_length (by omega),
      List.drop_append_of_le_length (by omega), ← List.append_assoc] at rest
    exact .inr ⟨_, after, rest⟩

theorem containsRelocationPlaceholder_append (seen next : Bytes) :
    containsRelocationPlaceholder (seen ++ next) =
      (containsRelocationPlaceholder seen ||
        containsRelocationPlaceholder (unfinished seen ++ next)) := by
  have short : ∀ placeholder ∈ relocationPlaceholders,
      placeholder.length ≤ maxRelocationPlaceholderBytes - 1 + 1 := by decide
  have later : unfinished seen ++ next <:+ seen ++ next :=
    ⟨seen.take _, by rw [← List.append_assoc, unfinished, List.take_append_drop]⟩
  rw [Bool.eq_iff_iff]
  simp only [containsRelocationPlaceholder, Bool.or_eq_true, List.any_eq_true, decide_eq_true_eq]
  constructor
  · rintro ⟨placeholder, member, occurs⟩
    exact (infix_append (short placeholder member) occurs).imp
      (⟨placeholder, member, ·⟩) (⟨placeholder, member, ·⟩)
  · rintro (⟨placeholder, member, occurs⟩ | ⟨placeholder, member, occurs⟩)
    · exact ⟨placeholder, member, occurs.trans (List.prefix_append seen next).isInfix⟩
    · exact ⟨placeholder, member, occurs.trans later.isInfix⟩

/-- What the detector remembers of the bytes written so far. -/
structure PlaceholderDetector.Saw (seen : Bytes) (detector : PlaceholderDetector) : Prop where
  found : detector.found = containsRelocationPlaceholder seen
  tail : detector.found = false → detector.tail = unfinished seen

theorem PlaceholderDetector.Saw.write {seen : Bytes} {detector : PlaceholderDetector}
    (saw : detector.Saw seen) (piece : Bytes) : (detector.write piece).Saw (seen ++ piece) := by
  have contains := containsRelocationPlaceholder_append seen piece
  rw [← saw.found] at contains
  unfold PlaceholderDetector.write
  cases found : detector.found with
  | true => exact ⟨by simp [contains, found], by simp [found]⟩
  | false =>
    simp only [saw.tail found, Bool.false_eq_true, if_false]
    refine ⟨by simp [contains, found], fun _ => ?_⟩
    rw [← unfinished_append, unfinished]
    exact congrArg (List.drop · _) (by omega)

/-- The detector finds a placeholder exactly when the bytes written so far contain one. -/
theorem placeholderDetector_found (pieces : List Bytes) :
    (pieces.foldl PlaceholderDetector.write {}).found = true ↔
      ∃ placeholder ∈ relocationPlaceholders, placeholder <:+: pieces.flatten := by
  suffices saw : (pieces.foldl PlaceholderDetector.write {}).Saw pieces.flatten by
    simp [saw.found, containsRelocationPlaceholder]
  induction pieces using List.reverseRecOn with
  | nil => exact ⟨by decide, fun _ => rfl⟩
  | append_singleton pieces piece ih =>
    simpa using ih.write piece

/-! ## The tail of the stream -/

/--
A position outside of the buffer is a panic of the source, so no reader has one.  The
source counts in an `int64`, which wraps only after 2 ^ 63 bytes.
-/
structure CountingTailReader where
  count : Nat := 0
  tail : Bytes
  pos : Nat := 0
  full : Bool := false
  inBounds : pos < tail.length

def newCountingTailReader (tailBytes : Nat) (positive : 0 < tailBytes) : CountingTailReader where
  tail := List.replicate tailBytes 0
  inBounds := by rwa [List.length_replicate]

namespace CountingTailReader

variable (reader : CountingTailReader)

/-- One iteration of the loop of `Read`. -/
def store (byte : UInt8) : CountingTailReader :=
  if wraps : reader.pos + 1 = reader.tail.length then
    { reader with
      tail := reader.tail.set reader.pos byte, pos := 0, full := true
      inBounds := by rw [List.length_set, ← wraps]; exact Nat.succ_pos _ }
  else
    { reader with
      tail := reader.tail.set reader.pos byte, pos := reader.pos + 1
      inBounds := by rw [List.length_set]; exact Nat.lt_of_le_of_ne reader.inBounds wraps }

/-- A call of `Read` for which the reader below delivers `bytes`. -/
def read (bytes : Bytes) : CountingTailReader :=
  let stored := bytes.foldl store reader
  { stored with count := stored.count + bytes.length }

def last (n : Int) : Bytes × Bool :=
  if n ≤ 0 ∨ reader.tail.length < n ∨ reader.count < n then ([], false)
  else
    let size := n.toNat
    let start :=
      if reader.pos < size then reader.pos + reader.tail.length - size else reader.pos - size
    ((List.range size).map fun i => reader.tail.getD ((start + i) % reader.tail.length) 0, true)

def tailAllZero : Bool := reader.full && reader.tail.all (· == 0)

/-- The last bytes of a stream, after as many zeros as are missing. -/
def lastBytes (capacity : Nat) (seen : Bytes) : Bytes :=
  (List.replicate capacity 0 ++ seen).drop seen.length

/-- The buffer, read from its oldest byte on, holds the last bytes of the stream. -/
structure Tail (capacity count : Nat) (seen : Bytes) (reader : CountingTailReader) : Prop where
  length : reader.tail.length = capacity
  count : reader.count = count
  content : reader.tail.rotate reader.pos = lastBytes capacity seen

variable {reader} {capacity count : Nat} {seen : Bytes}

theorem Tail.store (tail : Tail capacity count seen reader) (byte : UInt8) :
    Tail capacity count (seen ++ [byte]) (reader.store byte) := by
  have within := reader.inBounds
  obtain ⟨front, back, split, atFront, written⟩ := @List.exists_of_set _ _ byte _ within
  have oldest : (reader.tail.rotate reader.pos).tail = back ++ front := by
    generalize reader.tail[reader.pos] = old at split
    rw [split, ← atFront, List.rotate_append_length_eq]
    rfl
  have newest : (reader.tail.set reader.pos byte).rotate (reader.pos + 1) =
      back ++ front ++ [byte] := by
    have passed : reader.pos + 1 = (front ++ [byte]).length := by simp [atFront]
    rw [written, List.append_cons, passed, List.rotate_append_length_eq, List.append_assoc]
  have moved : (reader.store byte).tail.rotate (reader.store byte).pos =
      (reader.tail.set reader.pos byte).rotate (reader.pos + 1) := by
    unfold CountingTailReader.store
    split
    case isTrue wraps => rw [wraps, ← List.length_set, List.rotate_length, List.rotate_zero]
    case isFalse => rfl
  refine ⟨?_, ?_, ?_⟩
  · rw [← tail.length]
    unfold CountingTailReader.store
    split <;> exact List.length_set
  · rw [← tail.count]
    unfold CountingTailReader.store
    split <;> rfl
  · have room : seen.length + 1 ≤ (List.replicate capacity 0 ++ seen : Bytes).length := by
      rw [List.length_append, List.length_replicate, ← tail.length]
      omega
    rw [moved, newest, ← oldest, tail.content, lastBytes, lastBytes, List.tail_drop,
      ← List.append_assoc, List.length_append]
    exact (List.drop_append_of_le_length room).symm

theorem Tail.read (tail : Tail capacity seen.length seen reader) (bytes : Bytes) :
    Tail capacity (seen ++ bytes).length (seen ++ bytes) (reader.read bytes) := by
  have stored : Tail capacity seen.length (seen ++ bytes)
      (bytes.foldl CountingTailReader.store reader) := by
    induction bytes using List.reverseRecOn with
    | nil => rwa [List.append_nil]
    | append_singleton bytes byte ih =>
      rw [List.foldl_append, ← List.append_assoc]
      exact ih.store byte
  refine ⟨stored.length, ?_, stored.content⟩
  rw [List.length_append, ← stored.count]
  rfl

theorem start_mod {pos n size : Nat} (small : n ≤ size) (i : Nat) :
    ((if pos < n then pos + size - n else pos - n) + i) % size = (size - n + i + pos) % size := by
  split_ifs
  · congr 1
    omega
  · rw [← Nat.add_mod_right]
    congr 1
    omega

theorem Tail.last (tail : Tail capacity seen.length seen reader) {n : Nat}
    (small : n ≤ capacity) (delivered : n ≤ seen.length) :
    reader.last n = (seen.drop (seen.length - n), decide (0 < n)) := by
  have window : seen.drop (seen.length - n) =
      (reader.tail.rotate reader.pos).drop (capacity - n) := by
    have zeros : (List.replicate capacity (0 : UInt8)).drop (seen.length + (capacity - n)) = [] := by
      rw [List.drop_eq_nil_iff, List.length_replicate]
      omega
    rw [tail.content, lastBytes, List.drop_drop, List.drop_append, zeros, List.nil_append,
      List.length_replicate]
    congr 1
    omega
  obtain rfl := tail.length
  rcases n.eq_zero_or_pos with rfl | positive
  · simp [CountingTailReader.last]
  · have accepted : ¬ ((n : Int) ≤ 0 ∨ (reader.tail.length : Int) < n ∨ (reader.count : Int) < n) := by
      rw [tail.count]
      omega
    rw [CountingTailReader.last, if_neg accepted, decide_eq_true positive, window]
    refine Prod.ext (List.ext_getElem ?_ fun i _ _ => ?_) rfl
    · simp
      omega
    · have cell : (reader.tail.length - n + i + reader.pos) % reader.tail.length <
          reader.tail.length := Nat.mod_lt _ (Nat.zero_lt_of_lt reader.inBounds)
      simp only [List.getElem_map, List.getElem_range, List.getElem_drop, List.getElem_rotate,
        Int.toNat_natCast, start_mod small]
      rw [List.getD_eq_getElem?_getD, List.getElem?_eq_getElem cell, Option.getD_some]

end CountingTailReader

/-- `last` returns the last bytes delivered, and the counter is their number. -/
theorem countingTailReader_last (tailBytes : Nat) (positive : 0 < tailBytes) (pieces : List Bytes) :
    let reader := pieces.foldl CountingTailReader.read (newCountingTailReader tailBytes positive)
    reader.count = pieces.flatten.length ∧ ∀ n ≤ tailBytes, n ≤ pieces.flatten.length →
      reader.last n = (pieces.flatten.drop (pieces.flatten.length - n), decide (0 < n)) := by
  have tail : CountingTailReader.Tail tailBytes pieces.flatten.length pieces.flatten
      (pieces.foldl CountingTailReader.read (newCountingTailReader tailBytes positive)) := by
    induction pieces using List.reverseRecOn with
    | nil => exact ⟨List.length_replicate, rfl, by simp [newCountingTailReader, CountingTailReader.lastBytes]⟩
    | append_singleton pieces piece ih => simpa using ih.read piece
  exact ⟨tail.count, fun n => tail.last⟩

/-- A buffer of three bytes that is written over from its beginning. -/
theorem countingTailReader_last_block :
    (([[1, 2], [], [3, 4, 5]] : List Bytes).foldl CountingTailReader.read
      (newCountingTailReader 3 (by decide))).last 3 = ([3, 4, 5], true) :=
  (countingTailReader_last 3 (by decide) [[1, 2], [], [3, 4, 5]]).2 3 (by decide) (by decide)

end DalecHomebrew.Bottle
