import DesignHarness.Library.EventStore
import DesignHarness.Library.JsonScan

/-!
# The bytes of a journal

`storage/ndjson.py`: `append_record` adds a line to a file and `recover_records` reads the lines
back and cuts off a last line that it cannot verify.  An append that fails leaves a part of its
line, and the process goes on.  `Shaped` says what the file consists of then; it has the tails of
the journals of the store.
-/

namespace DesignHarness

open Library

/-- A dict that is written to a journal. -/
structure JournalRecord where
  members : List (String × Json)
  canonical : (Json.object members).Canonical

def checksumKey : String := "_record_checksum"

section

variable (sha256 : Bytes → String)

/-- `digest_json` (`atomic.py`), with `hashlib.sha256(..).hexdigest()`. -/
def digestJson (value : Json) : String := sha256 value.encode

/-- `clean` of `_record_with_checksum`: a checksum that the caller sends is dropped. -/
def JournalRecord.clean (record : JournalRecord) : List (String × Json) :=
  record.members.filter fun member => member.1 ≠ checksumKey

/-- `_record_with_checksum` (`ndjson.py:34-36`). -/
def recordWithChecksum (record : JournalRecord) : List (String × Json) :=
  insertMember checksumKey (.string (digestJson sha256 (.object record.clean))) record.clean

/-- The line of a record (`ndjson.py:42`). -/
def recordLine (record : JournalRecord) : Bytes :=
  (Json.object (recordWithChecksum sha256 record)).encode ++ [0x0A]

/-- `_decode_verified` (`ndjson.py:60-67`); `none` stands for its exceptions. -/
def decodeVerified (rawLine : Bytes) : Option (List (String × Json)) :=
  match Json.decode rawLine with
  | some (.object members) =>
      let parsed := members.filter fun member => member.1 ≠ checksumKey
      match members.lookup checksumKey with
      | some (.string expected) =>
          if expected = digestJson sha256 (.object parsed) then some parsed else none
      | _ => none
  | _ => none

/-- `raw.splitlines(keepends=True)`: a line ends with `\n`, `\r` or `\r\n`. -/
def splitLines : Bytes → List Bytes
  | [] => []
  | byte :: rest =>
      if byte = 0x0A ∨ (byte = 0x0D ∧ rest.head? ≠ some 0x0A) then
        [byte] :: splitLines rest
      else
        match splitLines rest with
        | [] => [[byte]]
        | line :: lines => (byte :: line) :: lines

/-- `NdjsonCorruptionError`, with the byte that its message names. -/
structure NdjsonCorruption where
  offset : Nat
  deriving DecidableEq, Repr

/-- The `NDJSON_TAIL_TRUNCATED` warning. -/
structure TailTruncated where
  truncatedFrom : Nat
  truncatedTo : Nat
  deriving DecidableEq, Repr

/-- One line of the loop: a line without its end is an incomplete tail. -/
def verifyLine (line : Bytes) : Option (List (String × Json)) :=
  if line.getLast? = some 0x0A then decodeVerified sha256 line.dropLast else none

/-- The loop of `_recover_records` (`ndjson.py:86-119`): the records so far, and the byte up to which
    the lines are verified.  It returns where the file is to be cut off. -/
def recoverLines (records : List (List (String × Json))) (verifiedEnd : Nat) :
    List Bytes → Except NdjsonCorruption (List (List (String × Json)) × Option Nat)
  | [] => .ok (records, none)
  | line :: lines =>
      match verifyLine sha256 line with
      | some record => recoverLines (records ++ [record]) (verifiedEnd + line.length) lines
      | none =>
          if lines = [] then .ok (records, some verifiedEnd) else .error ⟨verifiedEnd⟩

/-- What `recover_records` returns, and the file it leaves. -/
structure JournalRecovery where
  outcome : Except NdjsonCorruption (List (List (String × Json)))
  warning : Option TailTruncated
  file : Option Bytes

/-- `recover_records` (`ndjson.py:70-120`) of a file that may not exist. -/
def Ndjson.recoverRecords (file : Option Bytes) : JournalRecovery :=
  match file with
  | none => ⟨.ok [], none, none⟩
  | some raw =>
      match recoverLines sha256 [] 0 (splitLines raw) with
      | .error error => ⟨.error error, none, some raw⟩
      | .ok (records, none) => ⟨.ok records, none, some raw⟩
      | .ok (records, some verifiedEnd) =>
          ⟨.ok records, some ⟨raw.length, verifiedEnd⟩, some (raw.take verifiedEnd)⟩

/-- What happens to a journal. -/
inductive JournalStep where
  /-- `append_record` completes. -/
  | append (record : JournalRecord)
  /-- `append_record` fails after it has written so many bytes of its line, but not all. -/
  | cut (record : JournalRecord) (written : Nat)
  /-- `recover_records`. -/
  | recover

/-- The file after a step. -/
def JournalStep.run (file : Option Bytes) : JournalStep → Option Bytes
  | .append record => some (file.getD [] ++ recordLine sha256 record)
  | .cut record written => some (file.getD [] ++ (recordLine sha256 record).dropLast.take written)
  | .recover => (Ndjson.recoverRecords sha256 file).file

/-- The file after a run, from no file on. -/
def journalFile (steps : List JournalStep) : Option Bytes :=
  steps.foldl (JournalStep.run sha256) none

/-- The record that a step adds for good. -/
def JournalStep.appended : JournalStep → Option JournalRecord
  | .append record => some record
  | _ => none

/-- The records whose append completed. -/
def appendedRecords (steps : List JournalStep) : List JournalRecord :=
  steps.filterMap JournalStep.appended

/-- No append completes between one that left a part of its line and the next recovery; `torn` says
    that such a part stands at the end already. -/
def mendedFrom : Bool → List JournalStep → Bool
  | _, [] => true
  | torn, .append _ :: steps => !torn && mendedFrom false steps
  | torn, .cut _ written :: steps => mendedFrom (torn || decide (0 < written)) steps
  | _, .recover :: steps => mendedFrom false steps

def Mended (steps : List JournalStep) : Prop := mendedFrom false steps = true

end

/-! ## Lines -/

/-- The bytes do not end a line. -/
def Solid (bytes : Bytes) : Prop := ∀ byte ∈ bytes, byte ≠ 0x0A ∧ byte ≠ 0x0D

theorem Solid.encode (value : Json) : Solid value.encode := by
  intro byte member
  have printed := value.encode_printed byte member
  constructor
  · rintro rfl
    revert printed
    decide
  · rintro rfl
    revert printed
    decide

theorem Solid.append {bytes more : Bytes} (first : Solid bytes) (second : Solid more) :
    Solid (bytes ++ more) := by
  intro byte member
  rcases List.mem_append.mp member with before | after
  · exact first byte before
  · exact second byte after

theorem Solid.take {bytes : Bytes} (solid : Solid bytes) (n : Nat) : Solid (bytes.take n) :=
  fun byte member => solid byte (List.mem_of_mem_take member)

theorem splitLines_line {line rest : Bytes} (solid : Solid line) :
    splitLines (line ++ 0x0A :: rest) = (line ++ [0x0A]) :: splitLines rest := by
  induction line with
  | nil => simp [splitLines]
  | cons byte line ih =>
      obtain ⟨feed, carriage⟩ := solid byte (by simp)
      have tail := ih fun other later => solid other (by simp [later])
      rw [List.cons_append, splitLines, if_neg (by simp [feed, carriage]), tail]
      rfl

theorem splitLines_tail {line : Bytes} (solid : Solid line) (some_ : line ≠ []) :
    splitLines line = [line] := by
  induction line with
  | nil => exact absurd rfl some_
  | cons byte line ih =>
      obtain ⟨feed, carriage⟩ := solid byte (by simp)
      rw [splitLines, if_neg (by simp [feed, carriage])]
      cases line with
      | nil => rfl
      | cons other line =>
          rw [ih (fun later member => solid later (List.mem_cons_of_mem _ member)) (by simp)]

theorem splitLines_ne_nil {bytes : Bytes} (some_ : bytes ≠ []) : splitLines bytes ≠ [] := by
  cases bytes with
  | nil => exact absurd rfl some_
  | cons byte bytes =>
      rw [splitLines]
      split
      · simp
      · split <;> simp

section

variable {sha256 : Bytes → String}

theorem recordWithChecksum_canonical (record : JournalRecord) :
    (Json.object (recordWithChecksum sha256 record)).Canonical :=
  (record.canonical.filter _).insertMember trivial

theorem recordLine_eq (sha256 : Bytes → String) (record : JournalRecord) : ∃ rest, Solid (0x7B :: rest) ∧
    (Json.object (recordWithChecksum sha256 record)).encode = 0x7B :: rest ∧
    recordLine sha256 record = 0x7B :: rest ++ [0x0A] := by
  obtain ⟨rest, text⟩ := Json.encode_object (recordWithChecksum sha256 record)
  refine ⟨rest, ?_, text, ?_⟩
  · rw [← text]
    exact .encode _
  · unfold recordLine
    rw [text]

/-- The line of a record is verified, and the record is read without its checksum. -/
theorem decodeVerified_record (record : JournalRecord) :
    decodeVerified sha256 (Json.object (recordWithChecksum sha256 record)).encode =
      some record.clean := by
  have new : ∀ member ∈ record.clean, member.1 ≠ checksumKey := by
    intro member among
    simpa using (List.mem_filter.mp among).2
  have popped : (recordWithChecksum sha256 record).filter (fun member => member.1 ≠ checksumKey) =
      record.clean := filter_insertMember new
  have held : (recordWithChecksum sha256 record).lookup checksumKey =
      some (.string (digestJson sha256 (.object record.clean))) := lookup_insertMember
  unfold decodeVerified
  rw [decode_encode (recordWithChecksum_canonical record)]
  simp only [held, popped, if_true]

theorem verifyLine_record (record : JournalRecord) :
    verifyLine sha256 (recordLine sha256 record) = some record.clean := by
  unfold verifyLine recordLine
  rw [List.getLast?_concat, if_pos rfl, List.dropLast_concat]
  exact decodeVerified_record record

/-- A record after a part of a line is not verified. -/
theorem verifyLine_cut (sha256 : Bytes → String) (cut : Bytes) (record : JournalRecord) :
    verifyLine sha256 (0x7B :: cut ++ recordLine sha256 record) = none := by
  have ended : 0x7B :: cut ++ recordLine sha256 record =
      (0x7B :: (cut ++ (Json.object (recordWithChecksum sha256 record)).encode)) ++ [0x0A] := by
    simp [recordLine]
  unfold verifyLine
  rw [ended, List.getLast?_concat, if_pos rfl, List.dropLast_concat]
  unfold decodeVerified
  rw [decode_cut (recordWithChecksum_canonical record)]

theorem verifyLine_torn {line : Bytes} (solid : Solid line) : verifyLine sha256 line = none := by
  unfold verifyLine
  rw [if_neg]
  intro ended
  exact (solid _ (List.mem_of_getLast? ended)).1 rfl

/-- The lines of records. -/
def linesOf (sha256 : Bytes → String) (records : List JournalRecord) : Bytes :=
  records.flatMap (recordLine sha256)

/-- The verified lines of a journal, the state of the line after them, and the bytes of both. -/
inductive Shaped (sha256 : Bytes → String) : List JournalRecord → Tail → Bytes → Prop where
  | clean (records : List JournalRecord) : Shaped sha256 records .clean (linesOf sha256 records)
  | torn (records : List JournalRecord) (cut : Bytes) (solid : Solid (0x7B :: cut)) :
      Shaped sha256 records .torn (linesOf sha256 records ++ 0x7B :: cut)
  | garbled (records : List JournalRecord) (line : Bytes) (solid : Solid line)
      (unverified : verifyLine sha256 (line ++ [0x0A]) = none) :
      Shaped sha256 records .garbled (linesOf sha256 records ++ (line ++ [0x0A]))
  | corrupt (records : List JournalRecord) (line rest : Bytes) (solid : Solid line)
      (unverified : verifyLine sha256 (line ++ [0x0A]) = none) (followed : rest ≠ []) :
      Shaped sha256 records .corrupt (linesOf sha256 records ++ (line ++ [0x0A] ++ rest))

theorem splitLines_lines (records : List JournalRecord) (rest : Bytes) :
    splitLines (linesOf sha256 records ++ rest) =
      records.map (recordLine sha256) ++ splitLines rest := by
  induction records with
  | nil => rfl
  | cons record records ih =>
      obtain ⟨text, solid, -, line⟩ := recordLine_eq sha256 record
      unfold linesOf at ih ⊢
      rw [List.flatMap_cons, List.append_assoc, line, List.append_assoc, List.singleton_append,
        splitLines_line solid, ih, List.map_cons, line]
      rfl

theorem recoverLines_lines (records : List JournalRecord) (lines : List Bytes)
    (done : List (List (String × Json))) (verifiedEnd : Nat) :
    recoverLines sha256 done verifiedEnd (records.map (recordLine sha256) ++ lines) =
      recoverLines sha256 (done ++ records.map JournalRecord.clean)
        (verifiedEnd + (linesOf sha256 records).length) lines := by
  induction records generalizing done verifiedEnd with
  | nil => simp [linesOf]
  | cons record records ih =>
      rw [List.map_cons, List.cons_append, recoverLines, verifyLine_record]
      simp only
      rw [ih]
      simp [linesOf, Nat.add_assoc]

/-- The loop over the lines of a journal comes to the bytes after its verified lines. -/
theorem recoverLines_shaped (sha256 : Bytes → String) (records : List JournalRecord) (rest : Bytes) :
    recoverLines sha256 [] 0 (splitLines (linesOf sha256 records ++ rest)) =
      recoverLines sha256 (records.map JournalRecord.clean) (linesOf sha256 records).length
        (splitLines rest) := by
  rw [splitLines_lines, recoverLines_lines]
  simp

/-- A journal whose last line cannot be verified is cut off before it. -/
theorem recoverRecords_cutOff {records : List JournalRecord} {line : Bytes}
    (single : splitLines line = [line]) (unverified : verifyLine sha256 line = none) :
    (Ndjson.recoverRecords sha256 (some (linesOf sha256 records ++ line))).outcome =
        .ok (records.map JournalRecord.clean) ∧
      (Ndjson.recoverRecords sha256 (some (linesOf sha256 records ++ line))).file =
        some (linesOf sha256 records) := by
  have loop : recoverLines sha256 [] 0 (splitLines (linesOf sha256 records ++ line)) =
      .ok (records.map JournalRecord.clean, some (linesOf sha256 records).length) := by
    rw [recoverLines_shaped, single, recoverLines, unverified]
    rfl
  unfold Ndjson.recoverRecords
  simp only [loop]
  exact ⟨trivial, by rw [List.take_left]⟩

/-- What a recovery makes of a journal. -/
theorem Shaped.recovers {records : List JournalRecord} {tail : Tail} {raw : Bytes}
    (shaped : Shaped sha256 records tail raw) (readable : tail ≠ .corrupt) :
    (Ndjson.recoverRecords sha256 (some raw)).outcome = .ok (records.map JournalRecord.clean) ∧
      (Ndjson.recoverRecords sha256 (some raw)).file = some (linesOf sha256 records) := by
  cases shaped with
  | clean =>
      have loop := recoverLines_shaped sha256 records []
      rw [List.append_nil, splitLines, recoverLines] at loop
      unfold Ndjson.recoverRecords
      simp only [loop]
      exact ⟨trivial, trivial⟩
  | torn cut solid =>
      exact recoverRecords_cutOff (splitLines_tail solid (by simp)) (verifyLine_torn solid)
  | garbled line solid unverified =>
      refine recoverRecords_cutOff ?_ unverified
      exact splitLines_line solid
  | corrupt line rest solid unverified followed => exact absurd rfl readable

/-- An unverified line before the last one is an error, and the journal is left alone. -/
theorem Shaped.raises {records : List JournalRecord} {raw : Bytes}
    (shaped : Shaped sha256 records .corrupt raw) :
    (Ndjson.recoverRecords sha256 (some raw)).outcome = .error ⟨(linesOf sha256 records).length⟩ ∧
      (Ndjson.recoverRecords sha256 (some raw)).file = some raw := by
  cases shaped with
  | corrupt line rest solid unverified followed =>
      have split : splitLines (line ++ [0x0A] ++ rest) = (line ++ [0x0A]) :: splitLines rest := by
        rw [List.append_assoc, List.singleton_append]
        exact splitLines_line solid
      have loop : recoverLines sha256 [] 0
          (splitLines (linesOf sha256 records ++ (line ++ [0x0A] ++ rest))) =
            .error ⟨(linesOf sha256 records).length⟩ := by
        rw [recoverLines_shaped, split, recoverLines, unverified]
        simp only
        rw [if_neg (splitLines_ne_nil followed)]
      unfold Ndjson.recoverRecords
      simp only [loop]
      exact ⟨trivial, trivial⟩

end

/-! ## The journal as records and a tail -/

/-- The verified records of a journal and the state of the line after them. -/
structure JournalShape where
  records : List JournalRecord
  tail : Tail

namespace JournalShape

def append (record : JournalRecord) (shape : JournalShape) : JournalShape :=
  match shape.tail with
  | .clean => { shape with records := shape.records ++ [record] }
  | .torn => { shape with tail := .garbled }
  | .garbled | .corrupt => { shape with tail := .corrupt }

def cut (shape : JournalShape) : JournalShape :=
  match shape.tail with
  | .clean | .torn => { shape with tail := .torn }
  | .garbled | .corrupt => { shape with tail := .corrupt }

def recover (shape : JournalShape) : JournalShape :=
  match shape.tail with
  | .corrupt => shape
  | _ => { shape with tail := .clean }

def step (shape : JournalShape) : JournalStep → JournalShape
  | .append record => shape.append record
  | .cut _ written => if 0 < written then shape.cut else shape
  | .recover => shape.recover

/-- The shape after a run. -/
def run (shape : JournalShape) (steps : List JournalStep) : JournalShape :=
  steps.foldl JournalShape.step shape

end JournalShape

section

variable {sha256 : Bytes → String} {records : List JournalRecord} {tail : Tail} {raw : Bytes}

theorem linesOf_snoc (record : JournalRecord) :
    linesOf sha256 (records ++ [record]) = linesOf sha256 records ++ recordLine sha256 record := by
  simp [linesOf]

theorem Shaped.append (shaped : Shaped sha256 records tail raw) (record : JournalRecord) :
    Shaped sha256 (JournalShape.append record ⟨records, tail⟩).records
      (JournalShape.append record ⟨records, tail⟩).tail (raw ++ recordLine sha256 record) := by
  cases shaped with
  | clean =>
      rw [← linesOf_snoc]
      exact .clean (records ++ [record])
  | torn cut solid =>
      obtain ⟨text, textSolid, same, line⟩ := recordLine_eq sha256 record
      have unverified := verifyLine_cut sha256 cut record
      rw [line, ← List.append_assoc] at unverified
      rw [List.append_assoc, line, ← List.append_assoc (0x7B :: cut)]
      exact .garbled records _ (solid.append textSolid) unverified
  | garbled line solid unverified =>
      obtain ⟨text, -, -, ended⟩ := recordLine_eq sha256 record
      rw [List.append_assoc]
      exact .corrupt records line _ solid unverified (by simp [ended])
  | corrupt line rest solid unverified followed =>
      rw [List.append_assoc, List.append_assoc (line ++ [0x0A])]
      exact .corrupt records line _ solid unverified (by simp [followed])

/-- A part of a line, of at least one byte and without the last one. -/
theorem cut_eq (sha256 : Bytes → String) (record : JournalRecord) {written : Nat} (some_ : 0 < written) :
    ∃ rest, Solid (0x7B :: rest) ∧
      (recordLine sha256 record).dropLast.take written = 0x7B :: rest := by
  obtain ⟨text, solid, -, line⟩ := recordLine_eq sha256 record
  obtain ⟨n, rfl⟩ : ∃ n, written = n + 1 := ⟨written - 1, by omega⟩
  have part : (recordLine sha256 record).dropLast.take (n + 1) = 0x7B :: text.take n := by
    rw [line, List.dropLast_concat, List.take_succ_cons]
  exact ⟨text.take n, by simpa using solid.take (n + 1), part⟩

theorem Shaped.cut (shaped : Shaped sha256 records tail raw) (record : JournalRecord)
    {written : Nat} (some_ : 0 < written) :
    Shaped sha256 (JournalShape.cut ⟨records, tail⟩).records
      (JournalShape.cut ⟨records, tail⟩).tail
      (raw ++ (recordLine sha256 record).dropLast.take written) := by
  obtain ⟨text, textSolid, part⟩ := cut_eq sha256 record some_
  rw [part]
  cases shaped with
  | clean => exact .torn records text textSolid
  | torn cut solid =>
      rw [List.append_assoc, List.cons_append]
      exact .torn records _ (solid.append textSolid)
  | garbled line solid unverified =>
      rw [List.append_assoc]
      exact .corrupt records line _ solid unverified (by simp)
  | corrupt line rest solid unverified followed =>
      rw [List.append_assoc, List.append_assoc (line ++ [0x0A])]
      exact .corrupt records line _ solid unverified (by simp)

/-- A file that does not exist is read as an empty one. -/
theorem recoverRecords_getD (file : Option Bytes) :
    (Ndjson.recoverRecords sha256 file).outcome =
        (Ndjson.recoverRecords sha256 (some (file.getD []))).outcome ∧
      (Ndjson.recoverRecords sha256 file).file.getD [] =
        (Ndjson.recoverRecords sha256 (some (file.getD []))).file.getD [] := by
  cases file with
  | none => exact ⟨rfl, rfl⟩
  | some raw => exact ⟨rfl, rfl⟩

theorem Shaped.recover {file : Option Bytes} (shaped : Shaped sha256 records tail (file.getD [])) :
    Shaped sha256 (JournalShape.recover ⟨records, tail⟩).records
      (JournalShape.recover ⟨records, tail⟩).tail
        ((Ndjson.recoverRecords sha256 file).file.getD []) := by
  rw [(recoverRecords_getD file).2]
  by_cases readable : tail = .corrupt
  · subst readable
    rw [shaped.raises.2]
    exact shaped
  · rw [(shaped.recovers readable).2]
    have cleaned : JournalShape.recover ⟨records, tail⟩ = ⟨records, .clean⟩ := by
      cases tail with
      | corrupt => exact absurd rfl readable
      | clean => rfl
      | torn => rfl
      | garbled => rfl
    rw [cleaned]
    exact .clean records

/-- The bytes of a journal follow its shape. -/
theorem Shaped.step {file : Option Bytes} (shaped : Shaped sha256 records tail (file.getD []))
    (step : JournalStep) :
    Shaped sha256 (JournalShape.step ⟨records, tail⟩ step).records
      (JournalShape.step ⟨records, tail⟩ step).tail ((step.run sha256 file).getD []) := by
  cases step with
  | append record => exact shaped.append record
  | cut record written =>
      by_cases some_ : 0 < written
      · rw [JournalShape.step, if_pos some_]
        exact shaped.cut record some_
      · obtain rfl : written = 0 := by omega
        simpa [JournalStep.run, JournalShape.step] using shaped
  | recover => exact shaped.recover

theorem Shaped.run {file : Option Bytes} (shape : JournalShape)
    (shaped : Shaped sha256 shape.records shape.tail (file.getD [])) (steps : List JournalStep) :
    Shaped sha256 (shape.run steps).records (shape.run steps).tail
      ((steps.foldl (JournalStep.run sha256) file).getD []) := by
  induction steps generalizing file shape with
  | nil => exact shaped
  | cons step steps ih => exact ih (shape.step step) (shaped.step step)

theorem journalFile_shaped (sha256 : Bytes → String) (steps : List JournalStep) :
    Shaped sha256 (JournalShape.run ⟨[], .clean⟩ steps).records
      (JournalShape.run ⟨[], .clean⟩ steps).tail ((journalFile sha256 steps).getD []) :=
  Shaped.run ⟨[], .clean⟩ (.clean []) steps

end

/-! ## What is lost -/

section

variable {record : JournalRecord} {written : Nat} {steps : List JournalStep}

@[simp] theorem appendedRecords_append :
    appendedRecords (.append record :: steps) = record :: appendedRecords steps := rfl

@[simp] theorem appendedRecords_cut :
    appendedRecords (.cut record written :: steps) = appendedRecords steps := rfl

@[simp] theorem appendedRecords_recover :
    appendedRecords (.recover :: steps) = appendedRecords steps := rfl

end

namespace JournalShape

variable {shape : JournalShape}

/-- Nothing of the records has been lost so far. -/
def Whole (shape : JournalShape) (torn : Bool) : Prop :=
  shape.tail = if torn then .torn else .clean

/-- The journal cannot be read, or it holds fewer records than a number. -/
def Short (shape : JournalShape) (count : Nat) : Prop :=
  shape.tail = .corrupt ∨ shape.records.length < count

theorem Short.step {count : Nat} (short : shape.Short count) (step : JournalStep) :
    (shape.step step).Short (count + step.appended.toList.length) := by
  obtain ⟨records, tail⟩ := shape
  unfold Short at short ⊢
  cases step with
  | append record =>
      cases tail with
      | clean =>
          refine .inr ?_
          have fewer := short.resolve_left (by simp)
          simp only [JournalShape.step, JournalShape.append, JournalStep.appended,
            List.length_append, List.length_singleton, Option.toList_some]
          exact Nat.add_lt_add_right fewer 1
      | torn =>
          refine .inr ?_
          have fewer : records.length < count := short.resolve_left (by simp)
          simp only [JournalShape.step, JournalShape.append]
          omega
      | garbled => exact .inl rfl
      | corrupt => exact .inl rfl
  | cut record written =>
      simp only [JournalShape.step, JournalStep.appended, Option.toList_none, List.length_nil,
        Nat.add_zero]
      split
      · cases tail with
        | clean => exact .inr (short.resolve_left (by simp))
        | torn => exact .inr (short.resolve_left (by simp))
        | garbled => exact .inl rfl
        | corrupt => exact .inl rfl
      · exact short
  | recover =>
      simp only [JournalShape.step, JournalStep.appended, Option.toList_none, List.length_nil,
        Nat.add_zero]
      cases tail with
      | clean => exact .inr (short.resolve_left (by simp))
      | torn => exact .inr (short.resolve_left (by simp))
      | garbled => exact .inr (short.resolve_left (by simp))
      | corrupt => exact .inl rfl

theorem Short.run {count : Nat} (short : shape.Short count) (steps : List JournalStep) :
    (shape.run steps).Short (count + (appendedRecords steps).length) := by
  induction steps generalizing shape count with
  | nil => exact short
  | cons step steps ih =>
      have later := ih (short.step step)
      have counted : count + (appendedRecords (step :: steps)).length =
          count + step.appended.toList.length + (appendedRecords steps).length := by
        unfold appendedRecords
        cases found : step.appended with
        | none => simp [found]
        | some record =>
            simp [found]
            omega
      rw [counted]
      exact later

/-- A run that is mended keeps every record, any other one loses one for good. -/
theorem run_whole (torn : Bool) (whole : shape.Whole torn) (steps : List JournalStep) :
    if mendedFrom torn steps = true then
      (shape.run steps).records = shape.records ++ appendedRecords steps ∧
        (shape.run steps).tail ≠ .corrupt
    else (shape.run steps).Short (shape.records ++ appendedRecords steps).length := by
  obtain ⟨records, tail⟩ := shape
  unfold Whole at whole
  simp only at whole
  subst whole
  induction steps generalizing torn records with
  | nil =>
      rw [mendedFrom, if_pos rfl]
      refine ⟨by simp [run, appendedRecords], ?_⟩
      cases torn <;> simp [run]
  | cons step steps ih =>
      cases step with
      | append record =>
          cases torn with
          | false =>
              have later := ih false (records ++ [record])
              simpa [mendedFrom, run, JournalShape.step, JournalShape.append] using later
          | true =>
              -- The record goes to the line that was cut short.
              have lost : (JournalShape.append record ⟨records, .torn⟩).Short
                  (records.length + 1) := .inr (Nat.lt_succ_self _)
              have later := lost.run steps
              rw [mendedFrom, if_neg (by simp)]
              have counted : (records ++ appendedRecords (.append record :: steps)).length =
                  records.length + 1 + (appendedRecords steps).length := by
                simp only [appendedRecords_append, List.length_append, List.length_cons]
                omega
              rw [counted]
              exact later
      | cut record written =>
          by_cases some_ : 0 < written
          · have later := ih true records
            have cut : JournalShape.cut ⟨records, if torn = true then .torn else .clean⟩ =
                ⟨records, .torn⟩ := by cases torn <;> rfl
            simpa [mendedFrom, run, JournalShape.step, some_, cut] using later
          · have later := ih torn records
            simpa [mendedFrom, run, JournalShape.step, some_] using later
      | recover =>
          have later := ih false records
          have recovered : JournalShape.recover ⟨records, if torn = true then .torn else .clean⟩ =
              ⟨records, .clean⟩ := by cases torn <;> rfl
          simpa [mendedFrom, run, JournalShape.step, recovered] using later

end JournalShape

theorem mendedFrom_of_append {torn : Bool} {before after : List JournalStep}
    (mended : mendedFrom torn (before ++ after) = true) : mendedFrom torn before = true := by
  induction before generalizing torn with
  | nil => rfl
  | cons step before ih =>
      cases step with
      | append record =>
          rw [List.cons_append, mendedFrom, Bool.and_eq_true] at mended
          rw [mendedFrom, Bool.and_eq_true]
          exact ⟨mended.1, ih mended.2⟩
      | cut record written =>
          have later : mendedFrom (torn || decide (0 < written)) (before ++ after) = true := mended
          exact ih later
      | recover =>
          have later : mendedFrom false (before ++ after) = true := mended
          exact ih later

/-- The last recovery of a run returns the records whose append completed exactly if no append
    completed after a part of a line before the next recovery; and then every recovery of the run
    returned the records of its time. -/
theorem recover_returns_appended_iff (sha256 : Bytes → String) (steps : List JournalStep) :
    ((Ndjson.recoverRecords sha256 (journalFile sha256 steps)).outcome =
        .ok ((appendedRecords steps).map JournalRecord.clean) ↔ Mended steps) ∧
      (Mended steps → ∀ before after, steps = before ++ after →
        (Ndjson.recoverRecords sha256 (journalFile sha256 before)).outcome =
          .ok ((appendedRecords before).map JournalRecord.clean)) := by
  have whole : JournalShape.Whole ⟨[], .clean⟩ false := rfl
  have returns : ∀ run, Mended run → (Ndjson.recoverRecords sha256 (journalFile sha256 run)).outcome =
      .ok ((appendedRecords run).map JournalRecord.clean) := by
    intro run mended
    have all := JournalShape.run_whole false whole run
    unfold Mended at mended
    rw [if_pos mended] at all
    have shaped := journalFile_shaped sha256 run
    rw [(recoverRecords_getD _).1, (shaped.recovers all.2).1, all.1]
    rfl
  refine ⟨⟨fun returned => ?_, returns steps⟩, ?_⟩
  · by_contra torn
    have all := JournalShape.run_whole false whole steps
    unfold Mended at torn
    rw [if_neg torn] at all
    have shaped := journalFile_shaped sha256 steps
    rw [(recoverRecords_getD _).1] at returned
    rcases all with corrupt | fewer
    · rw [corrupt] at shaped
      rw [shaped.raises.1] at returned
      cases returned
    · by_cases readable : (JournalShape.run ⟨[], .clean⟩ steps).tail = .corrupt
      · rw [readable] at shaped
        rw [shaped.raises.1] at returned
        cases returned
      · rw [(shaped.recovers readable).1] at returned
        have same := congrArg List.length (Except.ok.inj returned)
        simp only [List.length_map, List.nil_append] at same fewer
        omega
  · rintro mended before after rfl
    exact returns before (mendedFrom_of_append mended)

/-- The record of an event id. -/
def sampleRecord (eventId : String) : JournalRecord where
  members := [("event_id", .string eventId)]
  canonical := ⟨by simp, trivial, trivial⟩

/-- A record that is appended after a part of a line is dropped with it, and the record after that
    one makes the journal unreadable. -/
theorem torn_line_takes_record :
    (¬ ∃ sha256, (Ndjson.recoverRecords sha256 (journalFile sha256
        [.append (sampleRecord "one"), .cut (sampleRecord "two") 5,
          .append (sampleRecord "three")])).outcome =
      .ok [(sampleRecord "one").clean, (sampleRecord "three").clean]) ∧
    ¬ ∃ sha256 records, (Ndjson.recoverRecords sha256 (journalFile sha256
        [.append (sampleRecord "one"), .cut (sampleRecord "two") 5,
          .append (sampleRecord "three"), .append (sampleRecord "four")])).outcome =
      .ok records := by
  constructor
  · rintro ⟨sha256, returned⟩
    have shaped := journalFile_shaped sha256
      [.append (sampleRecord "one"), .cut (sampleRecord "two") 5, .append (sampleRecord "three")]
    have readable : (JournalShape.run ⟨[], .clean⟩ [.append (sampleRecord "one"),
        .cut (sampleRecord "two") 5, .append (sampleRecord "three")]).tail ≠ .corrupt := by
      decide
    rw [(recoverRecords_getD _).1, (shaped.recovers readable).1] at returned
    have same := congrArg List.length (Except.ok.inj returned)
    simp [JournalShape.run, JournalShape.step, JournalShape.append, JournalShape.cut] at same
  · rintro ⟨sha256, records, returned⟩
    have shaped := journalFile_shaped sha256
      [.append (sampleRecord "one"), .cut (sampleRecord "two") 5, .append (sampleRecord "three"),
        .append (sampleRecord "four")]
    have corrupt : (JournalShape.run ⟨[], .clean⟩ [.append (sampleRecord "one"),
        .cut (sampleRecord "two") 5, .append (sampleRecord "three"),
        .append (sampleRecord "four")]).tail = .corrupt := by
      decide
    rw [corrupt] at shaped
    rw [(recoverRecords_getD _).1, shaped.raises.1] at returned
    cases returned

end DesignHarness
