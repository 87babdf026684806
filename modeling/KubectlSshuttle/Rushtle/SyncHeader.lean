import KubectlSshuttle.Rushtle.SsnetStream

/-!
# The synchronization header behind noise

Before the server starts, the remote shell may print banners and warnings.
`read_sync_header` skips them, and accepts exactly the streams that have the
header's literal behind their second zero byte.  It reads one byte at a time,
so the frames behind the header stay in the stream.
-/

namespace KubectlSshuttle.Rushtle.Ssnet

open KubectlSshuttle.Lib.RustText

/-- Noise and a zero byte, twice, then the literal, then the rest. -/
def Synchronizes (stream rest : Bytes) : Prop :=
  ∃ first second, stream =
      first ++ [0] ++ second ++ [0] ++ syncLiteral ++ rest ∧
    0 ∉ first ∧ 0 ∉ second

/-! ## Skipping -/

theorem skipToNul_eq_ok_iff {stream rest : Bytes} :
    skipToNul stream = .ok rest ↔
      ∃ noise, stream = noise ++ 0 :: rest ∧ 0 ∉ noise := by
  induction stream with
  | nil =>
      refine iff_of_false (fun skipped => by cases skipped) ?_
      rintro ⟨noise, shape, _⟩
      simp at shape
  | cons byte others induction =>
      rw [skipToNul]
      by_cases zero : byte = 0
      · subst zero
        rw [if_pos rfl, Except.ok.injEq]
        constructor
        · rintro rfl
          exact ⟨[], rfl, List.not_mem_nil⟩
        · rintro ⟨noise, shape, silent⟩
          cases noise with
          | nil => exact (List.cons.inj shape).2
          | cons first more =>
              rw [List.cons_append] at shape
              rcases List.cons.inj shape with ⟨rfl, _⟩
              exact (silent List.mem_cons_self).elim
      · rw [if_neg zero, induction]
        constructor
        · rintro ⟨noise, rfl, silent⟩
          exact ⟨byte :: noise, rfl, by simp [silent, Ne.symm zero]⟩
        · rintro ⟨noise, shape, silent⟩
          cases noise with
          | nil => exact (zero (List.cons.inj shape).1).elim
          | cons first more =>
              rw [List.cons_append] at shape
              rcases List.cons.inj shape with ⟨rfl, rfl⟩
              exact ⟨more, rfl, fun member =>
                silent (List.mem_cons_of_mem _ member)⟩

/-- The comparison behind the second zero byte. -/
def readLiteral {Reader : Type} [AsyncRead Reader] (reader : Reader) :
    Except Error Reader :=
  match AsyncRead.readExact syncLiteral.length reader with
  | .error error => .error (.io error)
  | .ok (found, left) =>
      if found = syncLiteral then .ok left else .error (.syncMismatch found)

theorem readLiteral_eq_ok_iff {stream rest : Bytes} :
    readLiteral stream = .ok rest ↔ stream = syncLiteral ++ rest := by
  rw [readLiteral]
  constructor
  · intro read
    split at read
    · cases read
    · next found left taken =>
        rcases readExact_ok taken with ⟨_, rfl⟩
        split at read
        · next same => rw [same, Except.ok.inj read]
        · cases read
  · rintro rfl
    rw [readExact_append rfl]
    exact if_pos rfl

theorem readSyncHeader_eq (stream : Bytes) :
    readSyncHeader stream =
      (skipToNul stream).bind fun rest =>
        (skipToNul rest).bind readLiteral := by
  simp only [readSyncHeader, Bind.bind, Except.bind]
  cases skipToNul stream with
  | error error => rfl
  | ok middle =>
      dsimp only
      cases skipToNul middle with
      | error error => rfl
      | ok last =>
          simp only [readLiteral]
          cases AsyncRead.readExact syncLiteral.length last <;> rfl

theorem readSyncHeader_eq_ok_iff {stream rest : Bytes} :
    readSyncHeader stream = .ok rest ↔ Synchronizes stream rest := by
  rw [readSyncHeader_eq]
  constructor
  · intro read
    cases first : skipToNul stream with
    | error error =>
        rw [first] at read
        cases read
    | ok middle =>
        rw [first] at read
        cases second : skipToNul middle with
        | error error =>
            rw [Except.bind, second] at read
            cases read
        | ok last =>
            rw [Except.bind, second] at read
            have literal : last = syncLiteral ++ rest :=
              readLiteral_eq_ok_iff.mp read
            rcases skipToNul_eq_ok_iff.mp first with ⟨noise, rfl, silent⟩
            rcases skipToNul_eq_ok_iff.mp second with ⟨more, rfl, still⟩
            exact ⟨noise, more, by simp [literal], silent, still⟩
  · rintro ⟨noise, more, rfl, silent, still⟩
    have first : skipToNul
        (noise ++ [0] ++ more ++ [0] ++ syncLiteral ++ rest) =
          .ok (more ++ 0 :: (syncLiteral ++ rest)) :=
      skipToNul_eq_ok_iff.mpr ⟨noise, by simp, silent⟩
    have second : skipToNul (more ++ 0 :: (syncLiteral ++ rest)) =
        .ok (syncLiteral ++ rest) :=
      skipToNul_eq_ok_iff.mpr ⟨more, rfl, still⟩
    rw [first, Except.bind, second]
    exact readLiteral_eq_ok_iff.mpr rfl

/-! ## Read by read -/

/--
`read_sync_header` on any reader, with `zeros` zero bytes still to come and at
most `reads` calls of `read_exact`; `none` where it would need more.
-/
def readSyncWithin {Reader : Type} [AsyncRead Reader] :
    (reads zeros : Nat) → Reader → Option (Except Error Reader)
  | 0, _, _ => none
  | _ + 1, 0, reader => some (readLiteral reader)
  | reads + 1, zeros + 1, reader =>
      match AsyncRead.readExact 1 reader with
      | .error error => some (.error (.io error))
      | .ok (found, left) =>
          if found = [0] then readSyncWithin reads zeros left
          else readSyncWithin reads (zeros + 1) left

/-- What is left behind the given number of zero bytes. -/
def skipZeros : Nat → Bytes → Except Error Bytes
  | 0, stream => .ok stream
  | zeros + 1, stream => (skipToNul stream).bind (skipZeros zeros)

/-- One read for each byte skipped and one for the literal are enough. -/
theorem readSyncWithin_eq {reads : Nat} (zeros : Nat) {stream : Bytes}
    (enough : stream.length < reads) :
    readSyncWithin reads zeros stream =
      some ((skipZeros zeros stream).bind readLiteral) := by
  induction stream generalizing reads zeros with
  | nil =>
      rcases Nat.exists_eq_add_one_of_ne_zero (Nat.ne_zero_of_lt enough) with
        ⟨left, rfl⟩
      cases zeros with
      | zero => rfl
      | succ zeros => rfl
  | cons byte rest induction =>
      rcases Nat.exists_eq_add_one_of_ne_zero (Nat.ne_zero_of_lt enough) with
        ⟨left, rfl⟩
      rw [List.length_cons] at enough
      cases zeros with
      | zero => rfl
      | succ zeros =>
          have one : AsyncRead.readExact 1 (byte :: rest) =
              .ok ([byte], rest) := by simp [AsyncRead.readExact]
          rw [readSyncWithin, one, skipZeros, skipToNul]
          by_cases zero : byte = 0
          · subst zero
            exact induction zeros (by omega)
          · have other : [byte] ≠ [0] := by simpa using zero
            dsimp only
            rw [if_neg other, if_neg zero, induction (zeros + 1) (by omega)]
            rfl

theorem readSyncHeader_within {reads : Nat} {stream : Bytes}
    (enough : stream.length < reads) :
    readSyncWithin reads 2 stream = some (readSyncHeader stream) := by
  rw [readSyncWithin_eq 2 enough, readSyncHeader_eq]
  cases first : skipToNul stream with
  | error error => simp [skipZeros, first, Except.bind]
  | ok middle =>
      cases second : skipToNul middle with
      | error error => simp [skipZeros, first, second, Except.bind]
      | ok last => simp [skipZeros, first, second, Except.bind]

/-- Skipping depends on the bytes only, not on the pieces. -/
theorem readSyncWithin_contents (reads zeros : Nat) (pieces : List Piece) :
    (readSyncWithin reads zeros pieces).map (Except.map contents) =
      readSyncWithin reads zeros (contents pieces) := by
  induction reads generalizing zeros pieces with
  | zero => rfl
  | succ reads induction =>
      cases zeros with
      | zero =>
          rw [readSyncWithin, readSyncWithin, readLiteral, readLiteral,
            ← readPieces_contents]
          have same : AsyncRead.readExact syncLiteral.length pieces =
              readPieces syncLiteral.length pieces := rfl
          rw [same]
          cases readPieces syncLiteral.length pieces with
          | error error => rfl
          | ok result =>
              by_cases literal : result.1 = syncLiteral <;>
                simp [Except.map, literal]
      | succ zeros =>
          rw [readSyncWithin, readSyncWithin, ← readPieces_contents]
          have same : AsyncRead.readExact 1 pieces = readPieces 1 pieces :=
            rfl
          rw [same]
          cases readPieces 1 pieces with
          | error error => rfl
          | ok result =>
              simp only [Except.map]
              split
              · exact induction zeros result.2
              · exact induction (zeros + 1) result.2

/-! ## The recognition -/

/-- How the header of a stream is recognized. -/
structure Recognized (stream : Bytes) : Prop where
  accepted : ∀ rest, readSyncHeader stream = .ok rest ↔
    Synchronizes stream rest
  rejected : (∀ rest, ¬ Synchronizes stream rest) →
    ∃ error, readSyncHeader stream = .error error
  /-- whatever the pieces, one read for each byte and one more decide -/
  bounded : ∀ pieces, contents pieces = stream →
    (readSyncWithin (stream.length + 1) 2 pieces).map (Except.map contents) =
      some (readSyncHeader stream)
  /-- behind noise, the frames are those that the server has written -/
  frames : ∀ noise frames, 0 ∉ noise →
    (∀ frame ∈ frames, frame.data.length ≤ maxPayload) →
      stream = noise ++ syncHeader ++ framesBytes frames →
        ∃ rest, readSyncHeader stream = .ok rest ∧
          readFrames (frames.length + 1) rest = (frames, .closed)

theorem syncHeader_recognized (stream : Bytes) : Recognized stream := by
  refine ⟨fun rest => readSyncHeader_eq_ok_iff, ?_, ?_, ?_⟩
  · intro none
    cases read : readSyncHeader stream with
    | error error => exact ⟨error, rfl⟩
    | ok rest => exact (none rest (readSyncHeader_eq_ok_iff.mp read)).elim
  · rintro pieces rfl
    rw [readSyncWithin_contents]
    exact readSyncHeader_within (Nat.lt_succ_self _)
  · intro noise frames silent fits whole
    refine ⟨framesBytes frames, ?_, ?_⟩
    · rw [readSyncHeader_eq_ok_iff]
      exact ⟨noise, [], by simp [whole, syncHeader], silent,
        List.not_mem_nil⟩
    · have read := readFrames_framesBytes_append fits 1 []
      rw [List.append_nil] at read
      rw [read, readFrames, readFrame_short (by decide)]
      simp

end KubectlSshuttle.Rushtle.Ssnet
