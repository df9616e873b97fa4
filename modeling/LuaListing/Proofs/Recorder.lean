import LuaListing.Cli.Run

/-!
# A recording host, and what writing does to it

To say which bytes an invocation writes where, the command line is run against a host
that keeps every write: standard input and the files it reads are fixed, directories can
always be made and files always opened, each opening is numbered in the order it is made,
and every write is kept with the opening it went through.  The bytes of one opening are
then its writes, in order.

The write buffer in front of the output file never changes the stream: the writes that
reach the file, followed by what the buffer still holds, are always what was written to it.
So a destination has a view, `received`, that grows by exactly the bytes written to it,
whether it is standard output or a file; and sending records to the log and trace files
touches no other opening (`Keeps`).

## Main definitions

* `WriteBuffer.held` — the bytes a buffer holds.
* `Cli.Recorder`, `Cli.Recorder.host`, `Cli.Recorder.written` — the recording host.
* `Cli.Recorder.Keeps` — a step that opens nothing and leaves an opening's bytes alone.
* `Cli.Recorder.received` — what a destination has received.
* `Cli.Recorder.Openable` — an optional file the recording host can open.
* `Cli.Recorder.listingOut` — where the annotated listing of a run went.

## Main results

* `WriteBuffer.write_held`, `WriteBuffer.close_flatten` — buffering keeps the stream.
* `Cli.Recorder.emit_keeps` — records go to the log and trace files only.
* `Cli.Recorder.writeLines_run` — written lines reach their destination, each with a line
  feed.
* `Cli.Recorder.finish_run` — finishing hands over everything a destination received.
-/

namespace LuaListing

/-! ### The write buffer keeps the stream -/

namespace WriteBuffer

/-- The bytes a buffer holds, oldest first: the block, then the gathered text. -/
def held (w : WriteBuffer) : List UInt8 := w.block ++ w.pending

@[simp] theorem held_empty : ({} : WriteBuffer).held = [] := rfl

theorem toBlock_flatten (block data : List UInt8) :
    (toBlock block data).2.flatten ++ (toBlock block data).1 = block ++ data := by
  unfold toBlock
  split
  · simp
  · by_cases h2 : blockSize < data.length <;> cases block <;> simp [h2]

theorem handOn_pending (w : WriteBuffer) : w.handOn.1.pending = [] := by
  unfold handOn
  split
  next h => exact List.isEmpty_iff.mp h
  · rfl

theorem handOn_held (w : WriteBuffer) : w.handOn.2.flatten ++ w.handOn.1.held = w.held := by
  unfold handOn
  split
  · simp
  · simp only [held, List.append_nil]
    exact toBlock_flatten _ _

/-- **Writing keeps the stream**: the writes that reach the file, followed by what the
buffer still holds, are what it held followed by the new piece. -/
theorem write_held (w : WriteBuffer) (piece : List UInt8) :
    (w.write piece).2.flatten ++ (w.write piece).1.held = w.held ++ piece := by
  unfold write
  -- the gathered text may first be handed on, to make room for the piece
  obtain ⟨⟨w1, ws1⟩, h1, hw1⟩ : ∃ p : WriteBuffer × List (List UInt8),
      (if w.pending.length + piece.length > textChunk then w.handOn else (w, [])) = p ∧
        p.2.flatten ++ p.1.held = w.held := by
    refine ⟨_, rfl, ?_⟩
    split
    · exact handOn_held w
    · simp
  rw [h1]
  dsimp only
  have hw2 : ws1.flatten ++ ({ w1 with pending := w1.pending ++ piece } : WriteBuffer).held =
      w.held ++ piece := by
    simp only [held] at hw1 ⊢
    rw [← hw1]
    simp
  split
  · have h3 := handOn_held { w1 with pending := w1.pending ++ piece }
    simp only [List.flatten_append, List.append_assoc] at h3 ⊢
    rw [h3, ← hw2]
  · exact hw2

/-- Closing writes out everything the buffer held. -/
theorem close_flatten (w : WriteBuffer) : w.close.flatten = w.held := by
  unfold close
  have h := handOn_held w
  simp only [held, handOn_pending, List.append_nil] at h
  rw [held, ← h]
  by_cases hb : w.handOn.1.block = []
  · simp [hb]
  · simp [hb]

end WriteBuffer

namespace Cli

/-! ### The recording host -/

/-- A system whose reads are fixed and whose writes are kept in order. -/
structure Recorder where
  /-- The paths opened for writing, in order; an opening is numbered by its place here. -/
  opened : List String := []
  /-- Every write, with the opening it went through. -/
  writes : List (Nat × List UInt8) := []

namespace Recorder

/-- The bytes written through an opening, in order. -/
def written (r : Recorder) (h : Nat) : List UInt8 :=
  ((r.writes.filter fun w => w.1 = h).map (·.2)).flatten

/-- The host over a recorder: standard input and the files read are fixed, directories can
always be made and files always opened, and every write is kept. -/
def host (stdin : List UInt8) (files : String → Except OsError (List UInt8)) :
    Host (StateM Recorder) Nat where
  stdinBytes := pure stdin
  fileBytes p := pure (files p)
  createDirs _ := pure (.ok ())
  openOutput p := modifyGet fun r => (.ok r.opened.length, { r with opened := r.opened ++ [p] })
  putBytes h bs := modify fun r => { r with writes := r.writes ++ [(h, bs)] }

theorem run_bind_eq {α β : Type} (x : StateM Recorder α) (f : α → StateM Recorder β)
    (r : Recorder) : (x >>= f).run r = (f (x.run r).1).run (x.run r).2 := rfl

theorem run_pure_eq {α : Type} (x : α) (r : Recorder) :
    (pure x : StateM Recorder α).run r = (x, r) := rfl

theorem written_put (r : Recorder) (h h' : Nat) (bs : List UInt8) :
    ({ r with writes := r.writes ++ [(h', bs)] } : Recorder).written h =
      if h' = h then r.written h ++ bs else r.written h := by
  by_cases hh : h' = h <;> simp [written, hh]

/-- A step that opens nothing and writes nothing through the opening `h`. -/
def Keeps (h : Nat) (r r' : Recorder) : Prop := r'.opened = r.opened ∧ r'.written h = r.written h

theorem Keeps.refl (h : Nat) (r : Recorder) : Keeps h r r := ⟨rfl, rfl⟩

theorem Keeps.trans {h : Nat} {r r' r'' : Recorder} (h1 : Keeps h r r') (h2 : Keeps h r' r'') :
    Keeps h r r'' := ⟨h2.1.trans h1.1, h2.2.trans h1.2⟩

theorem keeps_put {h h' : Nat} (hh : h' ≠ h) (r : Recorder) (bs : List UInt8) :
    Keeps h r { r with writes := r.writes ++ [(h', bs)] } :=
  ⟨rfl, by rw [written_put, if_neg hh]⟩

/-- Nothing has gone through an opening that is not made yet. -/
theorem written_opened_of_keeps {opened : List String} {r : Recorder}
    (hk : Keeps opened.length { opened := opened } r) : r.written r.opened.length = [] := by
  rw [hk.1, hk.2]
  rfl

section Host

variable (stdin : List UInt8) (files : String → Except OsError (List UInt8))

/-- Sending writes to an opening appends their bytes to it and to nothing else. -/
theorem putAll_run (h : Nat) (ws : List (List UInt8)) (r : Recorder) :
    ((putAll (host stdin files) h ws).run r).2.opened = r.opened ∧
    ∀ h', ((putAll (host stdin files) h ws).run r).2.written h' =
      if h = h' then r.written h' ++ ws.flatten else r.written h' := by
  induction ws generalizing r with
  | nil =>
    refine ⟨rfl, fun h' => ?_⟩
    by_cases hh : h = h' <;> simp only [hh, if_true, if_false, List.flatten_nil, List.append_nil] <;>
      rfl
  | cons w ws ih =>
    have hrun : (putAll (host stdin files) h (w :: ws)).run r =
        (putAll (host stdin files) h ws).run { r with writes := r.writes ++ [(h, w)] } := rfl
    obtain ⟨ho, hw⟩ := ih { r with writes := r.writes ++ [(h, w)] }
    refine ⟨by rw [hrun, ho], fun h' => ?_⟩
    rw [hrun, hw h', written_put]
    by_cases hh : h = h' <;> simp [hh]

/-- **Records go to the log and trace files only.** -/
theorem emit_keeps {s : Sinks Nat} {h : Nat} (hl : s.log ≠ some h) (ht : s.trace ≠ some h)
    (rs : List Record) (r : Recorder) :
    Keeps h r ((s.emit (host stdin files) rs).run r).2 := by
  induction rs generalizing r with
  | nil => exact Keeps.refl h r
  | cons x rs ih =>
    simp only [Sinks.emit]
    -- a record reaches the trace file, the log file or neither; then the rest are sent
    split
    · split
      next h' hh' => exact (keeps_put (fun e : h' = h => ht (e ▸ hh')) r _).trans (ih _)
      next => exact ih r
    · split
      · split
        next h' hh' => exact (keeps_put (fun e : h' = h => hl (e ▸ hh')) r _).trans (ih _)
        next => exact ih r
      · exact ih r

/-- The listing is read from standard input, or from a file whose path holds no NUL. -/
theorem readListing_run {o : Options} {b : List UInt8}
    (hin : match o.input with
      | none => stdin = b
      | some p => Path.hasNul p = false ∧ files p = .ok b) :
    ∃ rec, ∀ r, (readListing (host stdin files) o.input).run r = (.ok (b, rec), r) := by
  cases hi : o.input with
  | none =>
    rw [hi] at hin
    subst hin
    exact ⟨note .debug ("Read " ++ toString stdin.length ++ " bytes from stdin"), fun r => rfl⟩
  | some p =>
    rw [hi] at hin
    obtain ⟨hnul, hf⟩ := hin
    refine ⟨note .debug ("Read " ++ toString b.length ++ " bytes from " ++ p), fun r => ?_⟩
    simp only [readListing, checked, hnul, Bool.false_eq_true, if_false]
    simp only [host, hf]
    rfl

/-- A path without NUL, in a directory without NUL, is opened as the next opening. -/
theorem openWithDirs_run {p : String}
    (hp : Path.hasNul (Path.parent p) = false ∧ Path.hasNul p = false) (r : Recorder) :
    (openWithDirs (host stdin files) p).run r =
      (.ok r.opened.length, { r with opened := r.opened ++ [p] }) := by
  simp only [openWithDirs, checked, hp.1, hp.2, Bool.false_eq_true, if_false]
  rfl

/-- An optional file that can be opened: not asked for, or a path without NUL in a
directory without NUL.  An option given no value is never opened. -/
def Openable : Option (Supplied String) → Prop
  | none => True
  | some .nothing => False
  | some (.value p) => Path.hasNul (Path.parent p) = false ∧ Path.hasNul p = false

/-- An optional file that can be opened is opened, if asked for, as the next opening; the
handle it is given comes before the end of the openings. -/
theorem openOptional_run (a : Action) {x : Option (Supplied String)} (hx : Openable x)
    (r : Recorder) :
    ∃ handle added, (openOptional (host stdin files) a x).run r =
        (.ok handle, { r with opened := r.opened ++ added }) ∧
      ∀ n, handle = some n → n < (r.opened ++ added).length := by
  cases x with
  | none => exact ⟨none, [], by simp only [List.append_nil]; rfl, by simp⟩
  | some v =>
    cases v with
    | nothing => exact (hx : False).elim
    | value p =>
      refine ⟨some r.opened.length, [p], ?_, by simp⟩
      simp only [openOptional, run_bind_eq, openWithDirs_run stdin files hx]
      rfl

/-! ### Destinations -/

/-- What a destination has received: for standard output the pieces written, for a file
the bytes written through its opening and those its buffer still holds. -/
def received (r : Recorder) : Destination Nat → List UInt8
  | .stdout chunks => chunks.reverse.flatten
  | .file h buffer => r.written h ++ buffer.held

/-- The opening a destination writes through, if it is a file. -/
def handle? : Destination Nat → Option Nat
  | .stdout _ => none
  | .file h _ => some h

theorem received_of_keeps {d : Destination Nat} {r r' : Recorder}
    (hk : ∀ h, handle? d = some h → Keeps h r r') : received r' d = received r d := by
  cases d with
  | stdout chunks => rfl
  | file h buffer => simp only [received, (hk h rfl).2]

/-- A piece reaches the destination, and nothing else is written. -/
theorem writePiece_run (d : Destination Nat) (piece : List UInt8) (r : Recorder) :
    let p := (d.writePiece (host stdin files) piece).run r
    received p.2 p.1 = received r d ++ piece ∧ handle? p.1 = handle? d ∧
      ∀ h, handle? d ≠ some h → Keeps h r p.2 := by
  cases d with
  | stdout chunks =>
    have hrun : (Destination.writePiece (host stdin files) (.stdout chunks) piece).run r =
        (.stdout (piece :: chunks), r) := rfl
    rw [hrun]
    exact ⟨by simp [received], rfl, fun h _ => Keeps.refl h r⟩
  | file h buffer =>
    have hrun : (Destination.writePiece (host stdin files) (.file h buffer) piece).run r =
        (.file h (buffer.write piece).1,
          ((putAll (host stdin files) h (buffer.write piece).2).run r).2) := rfl
    obtain ⟨ho, hw⟩ := putAll_run stdin files h (buffer.write piece).2 r
    refine ⟨?_, by rw [hrun]; rfl, fun h' hh' => ?_⟩
    · rw [hrun]
      simp only [received, hw, if_true, List.append_assoc, WriteBuffer.write_held]
    · have hne : h ≠ h' := fun e => hh' (by rw [e]; rfl)
      rw [hrun]
      exact ⟨ho, by rw [hw, if_neg hne]⟩

/-- **Lines reach the destination**, each followed by a line feed. -/
theorem writeLines_run (d : Destination Nat) (ls : List (List Glyph)) (r : Recorder) :
    let p := (d.writeLines (host stdin files) ls).run r
    received p.2 p.1 = received r d ++ ls.flatMap (fun l => Utf8.encode l ++ [10]) ∧
      handle? p.1 = handle? d ∧ ∀ h, handle? d ≠ some h → Keeps h r p.2 := by
  induction ls generalizing d r with
  | nil => exact ⟨by simp; rfl, rfl, fun h _ => Keeps.refl h r⟩
  | cons l ls ih =>
    -- the line, then its line feed, then the other lines
    obtain ⟨hr1, hd1, hk1⟩ := writePiece_run stdin files d (Utf8.encode l) r
    let p1 := (d.writePiece (host stdin files) (Utf8.encode l)).run r
    obtain ⟨hr2, hd2, hk2⟩ := writePiece_run stdin files p1.1 [10] p1.2
    let p2 := (p1.1.writePiece (host stdin files) [10]).run p1.2
    obtain ⟨hr3, hd3, hk3⟩ := ih p2.1 p2.2
    have hrun : (d.writeLines (host stdin files) (l :: ls)).run r =
        (p2.1.writeLines (host stdin files) ls).run p2.2 := rfl
    rw [hrun]
    refine ⟨?_, by rw [hd3, hd2, hd1], fun h hh => ?_⟩
    · rw [hr3, hr2, hr1]
      simp
    · have hh1 : handle? p1.1 ≠ some h := by rw [hd1]; exact hh
      have hh2 : handle? p2.1 ≠ some h := by rw [hd2, hd1]; exact hh
      exact ((hk1 h hh).trans (hk2 h hh1)).trans (hk3 h hh2)

/-- **Finishing hands over everything received**: a file's buffer is emptied into it, and
standard output is returned. -/
theorem finish_run (d : Destination Nat) (r : Recorder) :
    let p := (d.finish (host stdin files)).run r
    (match handle? d with
      | none => p.1
      | some h => p.2.written h) = received r d ∧
      ∀ h, handle? d ≠ some h → Keeps h r p.2 := by
  cases d with
  | stdout chunks => exact ⟨rfl, fun h _ => Keeps.refl h r⟩
  | file h buffer =>
    obtain ⟨ho, hw⟩ := putAll_run stdin files h buffer.close r
    have hrun : ((Destination.file h buffer).finish (host stdin files)).run r =
        ([], ((putAll (host stdin files) h buffer.close).run r).2) := rfl
    rw [hrun]
    refine ⟨?_, fun h' hh' => ⟨ho, ?_⟩⟩
    · simp only [handle?, received, hw, if_true, WriteBuffer.close_flatten]
    · have hne : h ≠ h' := fun e => hh' (by rw [e]; rfl)
      rw [hw, if_neg hne]

end Host

/-- Where the annotated listing of a run went: the bytes written through the opening made
for the output file when there is one, else standard output. -/
def listingOut (o : Options) (start : Recorder) (out : Outcome) (r : Recorder) : List UInt8 :=
  match o.output with
  | some (.value _) => r.written start.opened.length
  | _ => out.stdout

end Recorder

end Cli

end LuaListing
