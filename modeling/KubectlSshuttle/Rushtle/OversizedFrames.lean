import KubectlSshuttle.Rushtle.ServerRuns

/-!
# Frames that cannot be sent

A payload above the limit of the length field makes `write_frame` fail before
it writes a byte, and the writer task leaves its loop on any failure.  So the
frames in front of the first such frame are all that a server ever writes.
-/

namespace KubectlSshuttle.Rushtle

open KubectlSshuttle.Lib.RustText
open KubectlSshuttle.Lib.Transition
open KubectlSshuttle.Rushtle.Ssnet
open KubectlSshuttle.Rushtle.OutQueue

/-! ## How far the writer is -/

/--
The progress of a writer on a stream that never fails: it is in its loop, or
met a frame that does not fit, or all senders are gone.
-/
inductive Progress (events : List OutEvent) (out : Outbound) : Prop where
  | running (accepted : List Frame) (inLoop : out.writer.inLoop = true)
      (fits : ∀ frame ∈ accepted, Fits frame)
      (handed : handedFrames events = accepted ++ out.queue)
      (bytes : framesBytes accepted = writtenBytes events ++ out.writer.rest)
  | broken (accepted : List Frame) (long : Frame) (after : List Frame)
      (stands : out.writer = .broken)
      (fits : ∀ frame ∈ accepted, Fits frame) (tooLong : ¬ Fits long)
      (handed : handedFrames events = accepted ++ long :: after)
      (bytes : framesBytes accepted = writtenBytes events)
  | finished (stands : out.writer = .finished)
      (fits : ∀ frame ∈ handedFrames events, Fits frame)
      (bytes : framesBytes (handedFrames events) = writtenBytes events)

theorem Progress.step {events : List OutEvent} {event : OutEvent}
    {out next : Outbound} (progress : Progress events out)
    (moved : OutMoves out event next) (noFailure : event ≠ .writeFailed) :
    Progress (events ++ [event]) next := by
  have handedSnoc := handedFrames_snoc events event
  have writtenSnoc := writtenBytes_snoc events event
  cases moved with
  | writeFailed busy => exact (noFailure rfl).elim
  | @refused frame stands =>
      rcases progress with ⟨_, inLoop, _, _, _⟩ |
        ⟨accepted, long, after, _, fits, tooLong, handed, bytes⟩ |
        ⟨other, _, _⟩
      · simp [stands, WriterTask.inLoop] at inLoop
      · refine .broken accepted long (after ++ [frame]) stands fits tooLong ?_ ?_
        · rw [handedSnoc, handed]
          simp [OutEvent.handed?]
        · simpa [writtenSnoc, OutEvent.written] using bytes
      · rw [stands] at other
        cases other
  | enqueued running room =>
      rcases progress with ⟨accepted, inLoop, fits, handed, bytes⟩ |
        ⟨_, _, _, stands, _, _, _, _⟩ | ⟨stands, _, _⟩
      · refine .running accepted inLoop fits ?_ ?_
        · simp [handedSnoc, handed, OutEvent.handed?]
        · simpa [writtenSnoc, OutEvent.written] using bytes
      · simp [stands, WriterTask.inLoop] at running
      · simp [stands, WriterTask.inLoop] at running
  | @take frame queue idle waiting fit =>
      rcases progress with ⟨accepted, inLoop, fits, handed, bytes⟩ |
        ⟨_, _, _, stands, _, _, _, _⟩ | ⟨stands, _, _⟩
      · refine .running (accepted ++ [frame]) rfl ?_ ?_ ?_
        · intro other member
          rcases List.mem_append.mp member with earlier | last
          · exact fits other earlier
          · rcases List.mem_singleton.mp last with rfl
            exact fit
        · simp [handedSnoc, handed, waiting, OutEvent.handed?]
        · simpa [writtenSnoc, OutEvent.written, idle, framesBytes,
            WriterTask.rest] using bytes
      · rw [stands] at idle
        cases idle
      · rw [stands] at idle
        cases idle
  | @takeLong frame queue idle waiting long =>
      rcases progress with ⟨accepted, inLoop, fits, handed, bytes⟩ |
        ⟨_, _, _, stands, _, _, _, _⟩ | ⟨stands, _, _⟩
      · refine .broken accepted frame queue rfl fits (Nat.not_le.mpr long)
          ?_ ?_
        · simp [handedSnoc, handed, waiting, OutEvent.handed?]
        · simpa [writtenSnoc, OutEvent.written, idle, WriterTask.rest]
            using bytes
      · rw [stands] at idle
        cases idle
      · rw [stands] at idle
        cases idle
  | @write bytes rest busy nonempty =>
      rcases progress with ⟨accepted, inLoop, fits, handed, whole⟩ |
        ⟨_, _, _, stands, _, _, _, _⟩ | ⟨stands, _, _⟩
      · refine .running accepted (by simp) fits ?_ ?_
        · simp [handedSnoc, handed, OutEvent.handed?]
        · rw [whole, writtenSnoc, busy, WriterTask.rest_after]
          simp [OutEvent.written, WriterTask.rest]
      · rw [stands] at busy
        cases busy
      · rw [stands] at busy
        cases busy
  | closed idle empty =>
      rcases progress with ⟨accepted, inLoop, fits, handed, bytes⟩ |
        ⟨_, _, _, stands, _, _, _, _⟩ | ⟨stands, _, _⟩
      · have all : handedFrames (events ++ [.closed]) = accepted := by
          simp [handedSnoc, handed, empty, OutEvent.handed?]
        refine .finished rfl (by rwa [all]) ?_
        rw [all, bytes, writtenSnoc]
        simp [OutEvent.written, idle, WriterTask.rest]
      · rw [stands] at idle
        cases idle
      · rw [stands] at idle
        cases idle

theorem Progress.of_run {events : List OutEvent} {out : Outbound}
    (run : Run Outbound.step .empty events out)
    (noFailure : .writeFailed ∉ events) : Progress events out := by
  induction run with
  | start => exact .running [] rfl (by simp) rfl rfl
  | @extend events middle finish event earlier taken induction =>
      rw [List.mem_append, not_or, List.mem_singleton] at noFailure
      exact (induction noFailure.1).step (OutMoves.of_step taken)
        (Ne.symm noFailure.2)

/-! ## What arrives -/

/-- Reading the bytes frame by frame yields these frames and then the end. -/
def DecodesTo (bytes : Bytes) (frames : List Frame) : Prop :=
  ∀ reads, frames.length < reads →
    readFrames reads bytes = (frames, .closed)

theorem decodesTo_framesBytes {frames : List Frame}
    (fits : ∀ frame ∈ frames, Fits frame) :
    DecodesTo (framesBytes frames) frames := by
  intro reads enough
  have noRest : ∀ frame ∈ ([] : List Frame),
      frame.data.length ≤ maxPayload := by
    simp
  have read := readFrames_cut fits noRest (Or.inl ⟨rfl, rfl⟩) enough
  simpa [hdrLen] using read

theorem DecodesTo.unique {bytes : Bytes} {left right : List Frame}
    (decodesLeft : DecodesTo bytes left)
    (decodesRight : DecodesTo bytes right) : left = right := by
  have first := decodesLeft (left.length + right.length + 1) (by omega)
  have second := decodesRight (left.length + right.length + 1) (by omega)
  rw [first] at second
  exact (Prod.mk.inj second).1

/-- The writer has nothing left that it could do. -/
def AtRest (out : Outbound) : Prop :=
  out.writer.inLoop = true → out.writer = .receiving ∧ out.queue = []

/-- No frame that fits comes behind one that does not. -/
def LongOnesLast (frames : List Frame) : Prop :=
  ∀ before long after, frames = before ++ long :: after → ¬ Fits long →
    ∀ frame ∈ after, ¬ Fits frame

theorem longOnesLast_of_fits {frames : List Frame}
    (fits : ∀ frame ∈ frames, Fits frame) : LongOnesLast frames := by
  rintro before long after rfl tooLong
  exact (tooLong (fits long (by simp))).elim

/-- A frame at the end has none behind it, long or not. -/
theorem longOnesLast_concat {frames : List Frame} {last : Frame}
    (fits : ∀ frame ∈ frames, Fits frame) :
    LongOnesLast (frames ++ [last]) := by
  rintro before long after shape tooLong frame member
  rcases List.eq_nil_or_concat after with rfl | ⟨init, final, rfl⟩
  · cases member
  · have front : before ++ long :: init ++ [final] = frames ++ [last] := by
      simp [shape]
    have same := (List.append_inj' front rfl).1
    exact (tooLong (fits long (by simp [← same]))).elim

/-- Whatever follows a frame that does not fit follows the first such one. -/
theorem mem_after_of_tooLong {accepted after before rest : List Frame}
    {long other frame : Frame} (fits : ∀ frame ∈ accepted, Fits frame)
    (shape : accepted ++ long :: after = before ++ other :: rest)
    (otherLong : ¬ Fits other) (member : frame ∈ rest) : frame ∈ after := by
  rcases List.append_eq_append_iff.mp shape with
    ⟨between, _, tail⟩ | ⟨between, front, tail⟩
  · cases between with
    | nil =>
        rcases List.cons.inj tail with ⟨_, rfl⟩
        exact member
    | cons first between =>
        rcases List.cons.inj tail with ⟨_, rfl⟩
        simp [member]
  · cases between with
    | nil =>
        rcases List.cons.inj tail with ⟨_, rfl⟩
        exact member
    | cons first between =>
        rcases List.cons.inj tail with ⟨rfl, _⟩
        exact (otherLong (fits other (by simp [front]))).elim

/-- The frames that fit are those in front of the first that does not. -/
theorem filter_eq_iff_longOnesLast {accepted after : List Frame}
    {long : Frame} (fits : ∀ frame ∈ accepted, Fits frame)
    (tooLong : ¬ Fits long) :
    (accepted ++ long :: after).filter (fun frame => Fits frame) =
        accepted ↔
      LongOnesLast (accepted ++ long :: after) := by
  have front : accepted.filter (fun frame => Fits frame) = accepted := by
    simpa [List.filter_eq_self] using fits
  rw [List.filter_append, front,
    List.filter_cons_of_neg (by simpa using tooLong)]
  constructor
  · intro same before other rest shape otherLong frame member
    have noneFit : after.filter (fun frame => Fits frame) = [] := by
      simpa using same
    rw [List.filter_eq_nil_iff] at noneFit
    simpa using
      noneFit frame (mem_after_of_tooLong fits shape otherLong member)
  · intro last
    have noneFit := last accepted long after rfl tooLong
    have empty : after.filter (fun frame => Fits frame) = [] := by
      simpa [List.filter_eq_nil_iff] using noneFit
    rw [empty, List.append_nil]

/-! ## Runs of the server -/

section Runs

variable {resolvers : List KubectlSshuttle.Lib.Address.SocketAddr}
  {trace : List ServerAction} {server : Server}

/--
On a standard output that never fails, a server whose writer is at rest has
written exactly the frames that fit if and only if no such frame was handed to
`out_tx` after one that does not fit.
-/
theorem server_writes_fitting_iff
    (run : Run Server.step (.start resolvers) trace server)
    (noFailure : .writer .writeFailed ∉ trace) (rest : AtRest server.out) :
    DecodesTo (writtenBytes (outEvents trace))
        ((handedFrames (outEvents trace)).filter fun frame => Fits frame) ↔
      LongOnesLast (handedFrames (outEvents trace)) := by
  have noFailure' : .writeFailed ∉ outEvents trace := by
    intro member
    rcases List.mem_filterMap.mp member with ⟨action, inTrace, concerned⟩
    cases action with
    | writer event =>
        rcases Option.some.inj concerned with rfl
        exact noFailure inTrace
    | _ => cases concerned
  rcases Progress.of_run (run_out run) noFailure' with
    ⟨accepted, inLoop, fits, handed, bytes⟩ |
    ⟨accepted, long, after, _, fits, tooLong, handed, bytes⟩ |
    ⟨_, fits, bytes⟩
  · rcases rest inLoop with ⟨idle, empty⟩
    rw [empty, List.append_nil] at handed
    simp only [idle, WriterTask.rest, List.append_nil] at bytes
    rw [handed, ← bytes]
    have all : accepted.filter (fun frame => Fits frame) = accepted := by
      simpa [List.filter_eq_self] using fits
    rw [all]
    exact ⟨fun _ => longOnesLast_of_fits fits,
      fun _ => decodesTo_framesBytes fits⟩
  · rw [← bytes, handed, ← filter_eq_iff_longOnesLast fits tooLong]
    constructor
    · intro decodes
      exact decodes.unique (decodesTo_framesBytes fits)
    · intro same
      rw [same]
      exact decodesTo_framesBytes fits
  · have all : (handedFrames (outEvents trace)).filter
        (fun frame => Fits frame) = handedFrames (outEvents trace) := by
      simpa [List.filter_eq_self] using fits
    rw [all, ← bytes]
    exact ⟨fun _ => longOnesLast_of_fits fits,
      fun _ => decodesTo_framesBytes fits⟩

end Runs

/-! ## The opening frames, and a long `HOST_LIST` behind them -/

/-- The writer passes the two opening frames to standard output. -/
def openingWritten : List ServerAction :=
  [.writer .take, .writer (.write (frameBytes MainReply.chicken.frame)),
    .writer .take, .writer (.write (frameBytes MainReply.routes.frame))]

/-- The `HOST_LIST` frame for the contents of the hosts file. -/
def hostListFrame (content : Text) : Frame :=
  (MainReply.hostList (encodeHostList (readEtcHosts content))).frame

/-- A `HOST_REQ` is served before the writer moves. -/
def hostsListed (content : Text) : List ServerAction :=
  greeting ++
    [.recv ⟨0, cmdHostReq, []⟩, .hosts (some content),
      .enqueued .main (hostListFrame content)]

/-- The server with the three frames behind `out_tx`, and others. -/
def Server.listed (content : Text) (others : List Frame) : Server :=
  { Server.greeted [] with
    out :=
      ⟨[MainReply.chicken.frame, MainReply.routes.frame,
        hostListFrame content] ++ others, .receiving⟩ }

theorem run_hostsListed (content : Text) :
    Run Server.step (.start []) (hostsListed content)
      (.listed content []) := by
  have asked : Run Server.step (.start [])
      (greeting ++ [.recv ⟨0, cmdHostReq, []⟩] ++ [.hosts (some content)])
      { Server.greeted [] with
        main := .sending
          (.hostList (encodeHostList (readEtcHosts content))) [] } :=
    ((run_greeting []).extend rfl).extend rfl
  have listed : Run Server.step (.start [])
      (greeting ++ [.recv ⟨0, cmdHostReq, []⟩] ++ [.hosts (some content)] ++
        [.enqueued .main (hostListFrame content)]) (.listed content []) :=
    asked.extend (step_replySent
      (.hostList (encodeHostList (readEtcHosts content))) [] rfl rfl)
  simpa only [hostsListed, List.append_assoc, List.cons_append,
    List.nil_append] using listed

/-- The writer passes two frames on and breaks at the third one. -/
theorem run_listed {content : Text} (tooLong : ¬ Fits (hostListFrame content))
    (others : List Frame) :
    Run Server.step (.listed content others) (openingWritten ++ [.writer .take])
      { Server.greeted [] with out := ⟨[], .broken⟩ } := by
  have twoWritten : Run Server.step (.listed content others) openingWritten
      { Server.greeted [] with
        out := ⟨hostListFrame content :: others, .receiving⟩ } :=
    run_of_execute (by rfl)
  have refusal : Outbound.begin (hostListFrame content) others =
      ⟨[], .broken⟩ := by
    simp [Outbound.begin, writeFrame_tooLong (Nat.not_le.mp tooLong)]
  exact twoWritten.extend
    (step_take MainTask.noConfusion (congrArg some refusal))

/-- A `HOST_REQ` and a `PING` are served before the writer moves. -/
def hostsThenPing (content : Text) : List ServerAction :=
  hostsListed content ++
    [.recv ⟨7, cmdPing, []⟩, .enqueued .main (MainReply.pong 7 []).frame] ++
    (openingWritten ++ [.writer .take])

theorem run_hostsThenPing {content : Text}
    (tooLong : ¬ Fits (hostListFrame content)) :
    Run Server.step (.start []) (hostsThenPing content)
      { Server.greeted [] with out := ⟨[], .broken⟩ } := by
  have pinged : Run Server.step (.listed content []) [.recv ⟨7, cmdPing, []⟩]
      { Server.listed content [] with main := .sending (.pong 7 []) [] } :=
    .single rfl
  have queued := pinged.extend (step_replySent (.pong 7 []) [] rfl rfl)
  exact ((run_hostsListed content).trans queued).trans
    (run_listed tooLong [(MainReply.pong 7 []).frame])

/-- The address that every one of the hosts has. -/
def hostAddress : Text :=
  ['1', '0', '.', '0', '.', '0', '.', '9']

/-- A hosts file with one long line. -/
def longHosts (count : Nat) : Text :=
  hostAddress ++ ' ' :: List.replicate (count + 1) 'a'

theorem trim_longHosts (count : Nat) :
    trim (longHosts count) = longHosts count := by
  have starts : longHosts count =
      '1' :: (hostAddress.tail ++ ' ' :: List.replicate (count + 1) 'a') :=
    rfl
  have ends : longHosts count =
      (hostAddress ++ ' ' :: List.replicate count 'a') ++ ['a'] := by
    rw [longHosts, List.replicate_succ']
    simp
  exact trim_eq_self starts ends (by decide) (by decide)

theorem splitWhitespace_longHosts (count : Nat) :
    splitWhitespace (longHosts count) =
      [hostAddress, List.replicate (count + 1) 'a'] := by
  have noSpace : ∀ char ∈ hostAddress, isWhitespace char = false := by
    have all : hostAddress.all (fun char => !isWhitespace char) = true := by
      decide
    simpa using all
  rw [longHosts, splitWhitespace_append (by decide) noSpace (by decide),
    splitWhitespace_word (by simp)]
  intro char member
  rw [List.eq_of_mem_replicate member]
  decide

theorem readEtcHosts_longHosts (count : Nat) :
    readEtcHosts (longHosts count) =
      [(List.replicate (count + 1) 'a', hostAddress)] := by
  have oneLine : '\n' ∉ longHosts count := by
    simp [longHosts, hostAddress, List.mem_replicate]
  have nonempty : longHosts count ≠ [] := by simp [longHosts]
  have noComment : (longHosts count).head? ≠ some '#' := by
    simp [longHosts, hostAddress]
  have name : (List.replicate (count + 1) 'a').head? ≠ some '#' := by
    simp [List.replicate_succ]
  rw [readEtcHosts, lines_of_notMem nonempty oneLine]
  simp [hostEntries, trim_longHosts, splitWhitespace_longHosts, nonempty,
    noComment, name]

theorem longHosts_tooLong {count : Nat} (many : maxPayload ≤ count) :
    ¬ Fits (hostListFrame (longHosts count)) := by
  have name := length_le_length_utf8 (List.replicate (count + 1) 'a')
  simp only [List.length_replicate] at name
  intro fits
  simp only [Fits, hostListFrame, MainReply.frame, readEtcHosts_longHosts,
    encodeHostList, appendHosts, if_true, List.nil_append,
    List.length_append] at fits
  omega

/-- Before the long `HOST_LIST`, the opening frames are written. -/
theorem server_writes_fitting_hosts :
    ∃ server, Run Server.step (.start [])
        (hostsListed (longHosts 65535) ++ (openingWritten ++ [.writer .take]))
        server ∧
      ¬ Fits (hostListFrame (longHosts 65535)) ∧
      DecodesTo (writtenBytes (outEvents (hostsListed (longHosts 65535) ++
          (openingWritten ++ [.writer .take]))))
        [MainReply.chicken.frame, MainReply.routes.frame] := by
  have many : maxPayload ≤ 65535 := by decide
  have tooLong := longHosts_tooLong many
  generalize longHosts 65535 = content at tooLong
  have run := (run_hostsListed content).trans (run_listed tooLong [])
  have opening : ∀ frame ∈ [MainReply.chicken.frame, MainReply.routes.frame],
      Fits frame := by decide
  have decodes := (server_writes_fitting_iff run
    (by simp [hostsListed, greeting, openingWritten])
    (fun inLoop => by cases inLoop)).mpr
      (@longOnesLast_concat _ (hostListFrame content) opening)
  have handed : handedFrames (outEvents (hostsListed content ++
      (openingWritten ++ [.writer .take]))) =
        [MainReply.chicken.frame, MainReply.routes.frame,
          hostListFrame content] := rfl
  have chosen : [MainReply.chicken.frame, MainReply.routes.frame,
      hostListFrame content].filter (fun frame => Fits frame) =
        [MainReply.chicken.frame, MainReply.routes.frame] := by
    simp [opening, tooLong]
  rw [handed, chosen] at decodes
  exact ⟨_, run, tooLong, decodes⟩

/--
A `HOST_LIST` that does not fit takes the `PONG` behind it along: the writer
is at rest and neither has been written.
-/
theorem long_hostList_silences_server :
    ∃ server,
      Run Server.step (.start []) (hostsThenPing (longHosts 65535)) server ∧
      .writer .writeFailed ∉ hostsThenPing (longHosts 65535) ∧
      AtRest server.out ∧
      ¬ DecodesTo
          (writtenBytes (outEvents (hostsThenPing (longHosts 65535))))
          ((handedFrames (outEvents (hostsThenPing (longHosts 65535)))).filter
            fun frame => Fits frame) := by
  have many : maxPayload ≤ 65535 := by decide
  have tooLong := longHosts_tooLong many
  generalize longHosts 65535 = content at tooLong
  refine ⟨_, run_hostsThenPing tooLong, ?_, ?_, ?_⟩
  · simp [hostsThenPing, hostsListed, greeting, openingWritten]
  · intro inLoop
    cases inLoop
  · intro decodes
    have written : writtenBytes (outEvents (hostsThenPing content)) =
        framesBytes [MainReply.chicken.frame, MainReply.routes.frame] := rfl
    have handed : handedFrames (outEvents (hostsThenPing content)) =
        [MainReply.chicken.frame, MainReply.routes.frame,
          hostListFrame content, (MainReply.pong 7 []).frame] := rfl
    rw [written, handed] at decodes
    have same := decodes.unique (decodesTo_framesBytes (by decide))
    have lost : (MainReply.pong 7 []).frame ∈
        [MainReply.chicken.frame, MainReply.routes.frame] := by
      rw [← same, List.mem_filter]
      exact ⟨by simp, by decide⟩
    revert lost
    decide

end KubectlSshuttle.Rushtle
