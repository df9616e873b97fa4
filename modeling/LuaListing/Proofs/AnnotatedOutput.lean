import LuaListing.Proofs.Recorder
import LuaListing.Proofs.RawLines

/-!
# What annotating a listing writes

Run against the recording host, annotating a listing writes its lines back byte for byte.
Cut the bytes read into lines the way `RawLines` does (every `CR LF`, then every other
`CR`, becomes `LF`; one final `LF` opens no empty line).  For each line the annotator reads,
the output gets the line's own bytes, a line feed, and then each annotation line the
annotator gives for the decoded line, encoded, with a line feed after it (`Annotator.echo`).
This holds on standard output and, through the write buffer, in the output file alike.

Reading stops at a numeral with too many digits.  When the first pass meets one nothing is
written at all; when the annotator meets one the output ends before that line, and the run
ends with the failure of the first line that cannot be read (`Token.firstError`) instead of
exit code 0.

A command line that asks to annotate comes to this run once its log and trace files are
open, so all of it holds of the whole command.

## Main definitions

* `Token.firstError` — the failure of the first line that cannot be read.
* `Annotator.echo` — the bytes written for some byte lines.

## Main results

* `Cli.Recorder.annotateSteps_run` — stepping through the lines writes their echo.
* `Cli.Recorder.annotateWith_output_eq_echo` — what a whole run writes, and how it ends.
* `Cli.Recorder.run_eq_annotateWith` — a command line that asks to annotate runs the
  annotator, after opening its log and trace files.
-/

namespace LuaListing

/-! ### The bundled tables can always be selected -/

/-- Loading keeps every version with its table, in order. -/
theorem foldl_load_fst (vs : List LuaVersion)
    (acc : List (LuaVersion × OpcodeTable) × List Record) :
    (vs.foldl (fun acc v => let l := v.load; (acc.1 ++ [(v, l.1)], acc.2 ++ l.2)) acc).1 =
      acc.1 ++ vs.map fun v => (v, v.load.1) := by
  induction vs generalizing acc with
  | nil => simp
  | cons v vs ih => simp [ih]

theorem lookup_map_pair {v : LuaVersion} {vs : List LuaVersion} (hv : v ∈ vs)
    (g : LuaVersion → OpcodeTable) : (vs.map fun w => (w, g w)).lookup v = some (g v) := by
  induction vs with
  | nil => simp at hv
  | cons w vs ih =>
    by_cases hw : v = w
    · subst hw
      simp
    · have hv' : v ∈ vs := by simpa [hw] using hv
      have hb : (v == w) = false := by simpa using hw
      simp [List.lookup_cons, hb, ih hv']

/-- Every bundled version, and the merge of all of them, can be selected.  The tables are
never computed here: the statement is about where they come from. -/
theorem selectTable_ok (v : Option LuaVersion) :
    ∃ recs table, selectTable (v.map LuaVersion.name) = (recs, .ok table) := by
  cases v with
  | none => exact ⟨_, _, rfl⟩
  | some v =>
    have hname : LuaVersion.ofName? v.name = some v := by cases v <;> rfl
    have hload : loadAll.1.lookup v = some v.load.1 := by
      rw [loadAll, foldl_load_fst, List.nil_append]
      exact lookup_map_pair (by cases v <;> simp [LuaVersion.all]) _
    exact ⟨loadAll.2, v.load.1, by simp only [Option.map_some, selectTable, hname, hload]⟩

/-! ### The first line that cannot be read -/

namespace Token

/-- The failure of the first line that cannot be read, when one cannot. -/
def firstError : List (List Glyph) → Option DigitLimitError
  | [] => none
  | l :: ls =>
    match classify l with
    | .error e => some e
    | .ok _ => firstError ls

theorem firstError_cons_of_error {l : List Glyph} {e : DigitLimitError}
    (h : classify l = .error e) (ls : List (List Glyph)) : firstError (l :: ls) = some e := by
  simp [firstError, h]

theorem firstError_cons_of_isOk {l : List Glyph} (h : (classify l).isOk = true)
    (ls : List (List Glyph)) : firstError (l :: ls) = firstError ls := by
  cases hc : classify l with
  | error e => simp [hc, Except.isOk, Except.toBool] at h
  | ok t => simp [firstError, hc]

/-- No line fails exactly when every line can be read. -/
theorem firstError_eq_none_iff (ls : List (List Glyph)) :
    firstError ls = none ↔ ∀ l ∈ ls, (classify l).isOk = true := by
  induction ls with
  | nil => simp [firstError]
  | cons l ls ih =>
    cases hc : classify l with
    | error e =>
      rw [firstError_cons_of_error hc]
      simp [hc, Except.isOk, Except.toBool]
    | ok t =>
      have hok : (classify l).isOk = true := by rw [hc]; rfl
      rw [firstError_cons_of_isOk hok, ih]
      simp [hok]

end Token

/-! ### The echo of some lines -/

namespace Annotator

/-- What is written for byte lines read by an annotator one after another: each line it
reads, a line feed, then its annotation lines encoded, each with a line feed; writing stops
at the first line it cannot read. -/
def echo (a : Annotator) : List (List UInt8) → List UInt8
  | [] => []
  | l :: ls =>
    match a.step (Utf8.decode l) with
    | .ok (a', w) => l ++ 10 :: (w.lines.tail.flatMap fun g => Utf8.encode g ++ [10]) ++ a'.echo ls
    | .error _ => []

/-- A step writes the line it reads first. -/
theorem step_lines {a a' : Annotator} {line : List Glyph} {w : Written}
    (h : a.step line = .ok (a', w)) : w.lines = line :: w.lines.tail := by
  simp only [step] at h
  cases hc : Token.classify line with
  | error e => simp [hc, bind, Except.bind] at h
  | ok tok =>
    simp only [hc, bind, Except.bind] at h
    rcases tok with _ | ⟨_ | _ | _ | _⟩ <;>
      simp only [pure, Except.pure, Except.ok.injEq, Prod.mk.injEq] at h <;>
      obtain ⟨-, rfl⟩ := h <;> rfl

/-- A step fails exactly when the line cannot be read. -/
theorem step_isOk (a : Annotator) (line : List Glyph) :
    (a.step line).isOk = (Token.classify line).isOk := by
  simp only [step]
  cases Token.classify line with
  | error e => rfl
  | ok tok => rcases tok with _ | ⟨_ | _ | _ | _⟩ <;> rfl

/-- A step that fails fails with the failure of reading its line. -/
theorem step_eq_error {a : Annotator} {line : List Glyph} {e : DigitLimitError}
    (h : a.step line = .error e) : Token.classify line = .error e := by
  simp only [step] at h
  cases hc : Token.classify line with
  | error e' =>
    simp only [hc, bind, Except.bind, Except.error.injEq] at h
    rw [h]
  | ok tok =>
    simp only [hc, bind, Except.bind] at h
    rcases tok with _ | ⟨_ | _ | _ | _⟩ <;> simp [pure, Except.pure] at h

end Annotator

namespace Cli

/-- A lone word that is not an option is the listing to read. -/
theorem parseArgs_path {p : String} (hp : p.startsWith "-" = false) :
    parseArgs [p] = .run { input := some (Path.normalize p) } := by
  have hsep : (p == "--") = false := by
    rw [beq_eq_false_iff_ne]
    rintro rfl
    simp at hp
  have hwords : readWords [p] = .ok [.plain p] := by
    simp only [readWords, hsep, readWord, hp]
    simp
    rfl
  -- the word is followed by no separator, so it is taken as the path
  have hread : consume {} [.plain p] = .ok (takePlain {} p) := by
    rw [consume, consume]
    simp
  rw [parseArgs, hwords]
  simp only [hread, takePlain]
  rfl

namespace Recorder

variable (stdin : List UInt8) (files : String → Except OsError (List UInt8))

/-- **Annotating writes the echo**: stepping through decoded byte lines, the destination
receives each line read as its own bytes, then its annotations; the steps stop exactly when
some line cannot be read. -/
theorem annotateSteps_run (s : Sinks Nat) (a : Annotator) (d : Destination Nat)
    (bl : List (List UInt8)) (r : Recorder)
    (hs : ∀ h, handle? d = some h → s.log ≠ some h ∧ s.trace ≠ some h) :
    let p := (annotateSteps (host stdin files) s a d (bl.map Utf8.decode)).run r
    received p.2 p.1.destination = received r d ++ a.echo bl ∧
      handle? p.1.destination = handle? d ∧
      p.1.stopped = Token.firstError (bl.map Utf8.decode) := by
  induction bl generalizing a d r with
  | nil => exact ⟨by simp [Annotator.echo]; rfl, rfl, rfl⟩
  | cons l bl ih =>
    cases hst : a.step (Utf8.decode l) with
    | error e =>
      have hrun : (annotateSteps (host stdin files) s a d ((l :: bl).map Utf8.decode)).run r =
          ({ annotator := a, destination := d, stderr := "", stopped := some e }, r) := by
        simp only [List.map_cons, annotateSteps, hst]
        rfl
      rw [hrun]
      refine ⟨by simp [Annotator.echo, hst], rfl, ?_⟩
      -- the steps stop at the failure of reading the line
      rw [List.map_cons, Token.firstError_cons_of_error (Annotator.step_eq_error hst)]
    | ok aw =>
      obtain ⟨a', w⟩ := aw
      -- the records of the step go out first; they touch no opening of the destination
      let r1 := ((s.emit (host stdin files) w.records).run r).2
      have hk1 : ∀ h, handle? d = some h → Keeps h r r1 := fun h hh =>
        emit_keeps stdin files (hs h hh).1 (hs h hh).2 w.records r
      let p2 := (d.writeLines (host stdin files) w.lines).run r1
      obtain ⟨hr2, hd2, -⟩ := writeLines_run stdin files d w.lines r1
      have hs2 : ∀ h, handle? p2.1 = some h → s.log ≠ some h ∧ s.trace ≠ some h := by
        intro h hh
        exact hs h (hd2 ▸ hh)
      obtain ⟨hr3, hd3, hst3⟩ := ih a' p2.1 p2.2 hs2
      have hrun : (annotateSteps (host stdin files) s a d ((l :: bl).map Utf8.decode)).run r =
          (let p3 := (annotateSteps (host stdin files) s a' p2.1 (bl.map Utf8.decode)).run p2.2
           ({ p3.1 with stderr := ((s.emit (host stdin files) w.records).run r).1 ++ p3.1.stderr },
             p3.2)) := by
        simp only [List.map_cons, annotateSteps, hst]
        rfl
      rw [hrun]
      refine ⟨?_, hd3.trans hd2, ?_⟩
      · dsimp only
        -- the line is written back as its own bytes, since encoding inverts decoding
        rw [hr3, hr2, received_of_keeps hk1, Annotator.step_lines hst, Annotator.echo, hst]
        simp [Utf8.encode_decode]
      · dsimp only
        have hl : (Token.classify (Utf8.decode l)).isOk = true := by
          rw [← Annotator.step_isOk a, hst]
          rfl
        rw [hst3, List.map_cons, Token.firstError_cons_of_isOk hl]

/-- **Annotating, then finishing, writes the echo**: what the destination holds at the end
is what it held before and the echo of the lines. -/
theorem annotateFinish_run (s : Sinks Nat) (a : Annotator) (d : Destination Nat)
    (bl : List (List UInt8)) (r : Recorder)
    (hs : ∀ h, handle? d = some h → s.log ≠ some h ∧ s.trace ≠ some h) :
    let p := (annotateSteps (host stdin files) s a d (bl.map Utf8.decode)).run r
    let q := (p.1.destination.finish (host stdin files)).run p.2
    (match handle? d with
      | none => q.1
      | some h => q.2.written h) = received r d ++ a.echo bl ∧
      p.1.stopped = Token.firstError (bl.map Utf8.decode) := by
  intro p q
  obtain ⟨hrp, hdp, hstp⟩ := annotateSteps_run stdin files s a d bl r hs
  obtain ⟨hrq, -⟩ := finish_run stdin files p.1.destination p.2
  rw [hdp] at hrq
  exact ⟨hrq.trans hrp, hstp⟩

/-- Sinks whose openings all come before `opened` never write through the next opening. -/
theorem sinks_ne_next {s : Sinks Nat} {opened : List String}
    (hs : ∀ h, s.log = some h ∨ s.trace = some h → h < opened.length) :
    s.log ≠ some opened.length ∧ s.trace ≠ some opened.length :=
  ⟨fun h => Nat.lt_irrefl _ (hs _ (.inl h)), fun h => Nat.lt_irrefl _ (hs _ (.inr h))⟩

/-- The records sent before the listing is written never reach the opening made next. -/
theorem emit_keeps_next {s : Sinks Nat} {opened : List String}
    (hs : ∀ h, s.log = some h ∨ s.trace = some h → h < opened.length) (rs : List Record)
    (r : Recorder) : Keeps opened.length r ((s.emit (host stdin files) rs).run r).2 :=
  emit_keeps stdin files (sinks_ne_next hs).1 (sinks_ne_next hs).2 rs r

/-- Steps that stop at the first failure stop at none exactly when every line can be read. -/
theorem stopped_eq_none_iff {stopped : Option DigitLimitError} {bl : List (List UInt8)}
    (h : stopped = Token.firstError (bl.map Utf8.decode)) :
    stopped = none ↔ ∀ l ∈ bl, (Token.classify (Utf8.decode l)).isOk := by
  rw [h, Token.firstError_eq_none_iff, List.forall_mem_map]

/-- When the first pass stops at a numeral, the run stops with it and nothing of the
listing is written. -/
theorem annotateWith_of_collect_error (s : Sinks Nat) (o : Options) (column : Int)
    (opened : List String) {b : List UInt8}
    (hin : match o.input with
      | none => stdin = b
      | some p => Path.hasNul p = false ∧ files p = .ok b)
    (hs : ∀ h, s.log = some h ∨ s.trace = some h → h < opened.length) {e : DigitLimitError}
    (hc : collectSymbols (Lines.split (Lines.normalize (Utf8.decode b))) = .error e) :
    let start : Recorder := { opened := opened }
    let run := (annotateWith (host stdin files) s o column).run start
    run.1.ending = .fault (.digits e) ∧ listingOut o start run.1 run.2 = [] := by
  dsimp only
  obtain ⟨recs, table, hsel⟩ := selectTable_ok o.version
  obtain ⟨rec, hread⟩ := readListing_run stdin files hin
  have hk := emit_keeps_next stdin files hs
  generalize hE1 : (s.emit (host stdin files) recs).run { opened := opened } = E1
  generalize hE2 : (s.emit (host stdin files) [rec]).run E1.2 = E2
  have hk2 : Keeps opened.length { opened := opened } E2.2 :=
    (hE1 ▸ hk recs _).trans (hE2 ▸ hk [rec] _)
  simp only [annotateWith, hsel, run_bind_eq, run_pure_eq, hread, hc, hE1, hE2]
  refine ⟨trivial, ?_⟩
  cases ho : o.output with
  | none => simp only [listingOut, ho]
  | some v =>
    cases v with
    | nothing => simp only [listingOut, ho]
    | value p => simp only [listingOut, ho, hk2.2]; rfl

/-- **What a run writes.**  Against the recording host, with the listing read as the bytes
`b` and an output that can be opened: the table selected is a bundled one or their merge;
if the first pass stops at a numeral, the run stops too and writes nothing; otherwise the
output (standard output, or the bytes written through the opening made for the output
file) is the echo of the byte lines of `b`: each line the annotator reads, as its own
bytes, a line feed, and its annotation lines encoded, each with a line feed.  The run ends
with exit code 0 when the annotator can read every line, and otherwise with the failure
of the first line it cannot read. -/
theorem annotateWith_output_eq_echo (s : Sinks Nat) (o : Options) (column : Int)
    (opened : List String) (b : List UInt8)
    (hin : match o.input with
      | none => stdin = b
      | some p => Path.hasNul p = false ∧ files p = .ok b)
    (hout : Openable o.output)
    (hs : ∀ h, s.log = some h ∨ s.trace = some h → h < opened.length) :
    let start : Recorder := { opened := opened }
    let run := (annotateWith (host stdin files) s o column).run start
    let lines := RawLines.split (RawLines.normalize b)
    ∃ table, (selectTable (o.version.map LuaVersion.name)).2 = .ok table ∧
      match collectSymbols (lines.map Utf8.decode) with
      | .error e => run.1.ending = .fault (.digits e) ∧ listingOut o start run.1 run.2 = []
      | .ok (symbols, _) =>
        let a : Annotator := { opcodes := table, symbols := symbols, layout := { column := column } }
        listingOut o start run.1 run.2 = a.echo lines ∧
          run.1.ending = (match Token.firstError (lines.map Utf8.decode) with
            | none => .exit 0
            | some e => .fault (.digits e)) ∧
          (run.1.ending = .exit 0 ↔ ∀ l ∈ lines, (Token.classify (Utf8.decode l)).isOk) := by
  dsimp only
  obtain ⟨recs, table, hsel⟩ := selectTable_ok o.version
  refine ⟨table, by rw [hsel], ?_⟩
  have hlines := RawLines.lines_decode b
  cases hc : collectSymbols ((RawLines.split (RawLines.normalize b)).map Utf8.decode) with
  | error e => exact annotateWith_of_collect_error stdin files s o column opened hin hs (hlines ▸ hc)
  | ok sr =>
    obtain ⟨symbols, symbolRecords⟩ := sr
    obtain ⟨rec, hread⟩ := readListing_run stdin files hin
    have hk := emit_keeps_next stdin files hs
    -- the records sent before the listing: of the tables, of reading, of the first pass
    generalize hE1 : (s.emit (host stdin files) recs).run { opened := opened } = E1
    generalize hE2 : (s.emit (host stdin files) [rec]).run E1.2 = E2
    generalize hE3 : (s.emit (host stdin files) symbolRecords).run E2.2 = E3
    have hk3 : Keeps opened.length { opened := opened } E3.2 :=
      ((hE1 ▸ hk recs _).trans (hE2 ▸ hk [rec] _)).trans (hE3 ▸ hk symbolRecords _)
    let a : Annotator := { opcodes := table, symbols := symbols, layout := { column := column } }
    cases ho : o.output with
    | none =>
      simp only [annotateWith, hsel, run_bind_eq, run_pure_eq, hread, hlines, hc, ho, hE1, hE2, hE3]
      obtain ⟨hecho, hstP⟩ := annotateFinish_run stdin files s a (Destination.stdout [])
        (RawLines.split (RawLines.normalize b)) E3.2 (fun h hh => by simp [handle?] at hh)
      generalize (annotateSteps (host stdin files) s a (Destination.stdout [])
        ((RawLines.split (RawLines.normalize b)).map Utf8.decode)).run E3.2 = P at hecho hstP ⊢
      generalize (P.1.destination.finish (host stdin files)).run P.2 = F at hecho ⊢
      -- standard output received nothing before the listing
      simp only [handle?, received, List.reverse_nil, List.flatten_nil, List.nil_append] at hecho
      have hall := stopped_eq_none_iff hstP
      rw [← hstP]
      cases hstop : P.1.stopped with
      | some e =>
        simp only [run_pure_eq, listingOut, ho, hecho, reduceCtorEq, false_iff]
        exact ⟨rfl, trivial, fun h => absurd (hall.mpr h) (by simp [hstop])⟩
      | none =>
        simp only [run_bind_eq, run_pure_eq, listingOut, ho, hecho, true_iff]
        exact ⟨rfl, trivial, hall.mp hstop⟩
    | some v =>
      cases v with
      | nothing => simp [ho, Openable] at hout
      | value p =>
        rw [ho] at hout
        simp only [annotateWith, hsel, run_bind_eq, run_pure_eq, hread, hlines, hc, ho, hE1, hE2,
          hE3, openWithDirs_run stdin files hout]
        -- the output file is the next opening, so the records never reach it
        have hlen : E3.2.opened.length = opened.length := by rw [hk3.1]
        have hw0 : ({ E3.2 with opened := E3.2.opened ++ [p] } : Recorder).written
            opened.length = [] := by
          rw [← hlen]
          exact written_opened_of_keeps hk3
        obtain ⟨hecho, hstP⟩ := annotateFinish_run stdin files s a
          (Destination.file E3.2.opened.length {}) (RawLines.split (RawLines.normalize b))
          { E3.2 with opened := E3.2.opened ++ [p] }
          (fun h hh => by
            simp only [handle?, Option.some.injEq] at hh
            rw [← hh, hlen]
            exact sinks_ne_next hs)
        generalize (annotateSteps (host stdin files) s a (Destination.file E3.2.opened.length {})
          ((RawLines.split (RawLines.normalize b)).map Utf8.decode)).run
            { E3.2 with opened := E3.2.opened ++ [p] } = P at hecho hstP ⊢
        generalize (P.1.destination.finish (host stdin files)).run P.2 = F at hecho ⊢
        simp only [handle?, received, hlen, hw0, WriteBuffer.held_empty, List.append_nil,
          List.nil_append] at hecho
        have hall := stopped_eq_none_iff hstP
        rw [← hstP]
        cases hstop : P.1.stopped with
        | some e =>
          simp only [run_pure_eq, listingOut, ho, hecho, reduceCtorEq, false_iff]
          exact ⟨rfl, trivial, fun h => absurd (hall.mpr h) (by simp [hstop])⟩
        | none =>
          simp only [run_bind_eq, run_pure_eq, listingOut, ho, true_iff]
          refine ⟨?_, trivial, hall.mp hstop⟩
          rw [(hk _ F.2).2, hecho]

/-- The run on a one-line listing read from a file, annotated to standard output. -/
theorem annotateWith_output_eq_echo_from_file :
    let files : String → Except OsError (List UInt8) := fun p =>
      if p = "x.lst" then .ok [0x78, 10] else .error ⟨.noEntry, p⟩
    let o : Options := { input := some "x.lst" }
    (Path.hasNul "x.lst" = false ∧ files "x.lst" = .ok [0x78, 10]) ∧
    (∀ h, ({} : Sinks Nat).log = some h ∨ ({} : Sinks Nat).trace = some h →
      h < ([] : List String).length) ∧
    let start : Recorder := { opened := [] }
    let run := (annotateWith (host [] files) {} o 24).run start
    let lines := RawLines.split (RawLines.normalize [0x78, 10])
    ∃ table, (selectTable (o.version.map LuaVersion.name)).2 = .ok table ∧
      match collectSymbols (lines.map Utf8.decode) with
      | .error e => run.1.ending = .fault (.digits e) ∧ listingOut o start run.1 run.2 = []
      | .ok (symbols, _) =>
        let a : Annotator := { opcodes := table, symbols := symbols, layout := { column := 24 } }
        listingOut o start run.1 run.2 = a.echo lines ∧
          run.1.ending = (match Token.firstError (lines.map Utf8.decode) with
            | none => .exit 0
            | some e => .fault (.digits e)) ∧
          (run.1.ending = .exit 0 ↔ ∀ l ∈ lines, (Token.classify (Utf8.decode l)).isOk) := by
  intro files o
  have hin : Path.hasNul "x.lst" = false ∧ files "x.lst" = .ok [0x78, 10] :=
    ⟨by simp [Path.hasNul], rfl⟩
  have hs : ∀ h, ({} : Sinks Nat).log = some h ∨ ({} : Sinks Nat).trace = some h →
      h < ([] : List String).length := by
    simp
  exact ⟨hin, hs, annotateWith_output_eq_echo [] files {} o 24 [] [0x78, 10] hin trivial hs⟩

set_option maxRecDepth 20000 in
/-- A listing whose one line reads as a section header with a count of 4301 digits: the
first pass stops, the run ends with the failure, and nothing at all is written. -/
theorem annotateWith_writes_nothing_for_long_count :
    let b : List UInt8 := [0x78, 0x20, 0x28] ++ List.replicate 4301 0x39 ++
      [0x29, 0x20, 0x66, 0x6F, 0x72, 0x20, 0x30, 0x78, 0x31, 0x3A, 10]
    ∃ e : DigitLimitError,
      let start : Recorder := { opened := [] }
      let run := (annotateWith (host b fun p => .error ⟨.noEntry, p⟩) {} {} 24).run start
      run.1.ending = .fault (.digits e) ∧ listingOut {} start run.1 run.2 = [] := by
  intro b
  have hascii : ∀ a ∈ b, a.toNat < 0x80 := by
    simp only [b, List.forall_mem_append, List.forall_mem_cons, List.mem_replicate]
    simp
  have hfail : (collectSymbols (Lines.split (Lines.normalize (Utf8.decode b)))).isOk = false := by
    rw [Utf8.decode_ascii b hascii]
    decide +kernel
  -- name the failure first: a case split on the pass inside the goal is slow to check
  obtain ⟨e, hc⟩ : ∃ e, collectSymbols (Lines.split (Lines.normalize (Utf8.decode b))) = .error e := by
    cases hx : collectSymbols (Lines.split (Lines.normalize (Utf8.decode b))) with
    | error e => exact ⟨e, rfl⟩
    | ok r => simp [hx, Except.isOk, Except.toBool] at hfail
  exact ⟨e, annotateWith_of_collect_error b _ {} {} 24 [] rfl (fun h hh => by simp at hh) hc⟩

/-! ### From the command line -/

/-- **The command line reaches the annotator.**  A command line read as a run, with a
column that is not negative, no listing of the table, and log and trace files that can be
opened, opens those files and then runs `annotateWith` from the openings it made, with sinks
that write only through them: what is proved above of such a run of `annotateWith` holds
of the whole command. -/
theorem run_eq_annotateWith (argv : List String) (o : Options) (column : Int)
    (opened : List String) (hparse : parseArgs argv = .run o) (hcol : o.column = .value column)
    (h0 : 0 ≤ column) (hl : o.listOpcodes = false) (hlog : Openable o.logFile)
    (htrace : Openable o.trace) :
    ∃ (s : Sinks Nat) (opened' : List String),
      (∀ h, s.log = some h ∨ s.trace = some h → h < opened'.length) ∧
      (Cli.run (host stdin files) argv).run { opened := opened } =
        (annotateWith (host stdin files) s o column).run { opened := opened' } := by
  obtain ⟨log, l1, hrun1, hlt1⟩ := openOptional_run stdin files .logFile hlog { opened := opened }
  obtain ⟨trace, l2, hrun2, hlt2⟩ :=
    openOptional_run stdin files .trace htrace { opened := opened ++ l1 }
  refine ⟨{ verbose := o.verbose, log := log, trace := trace }, opened ++ l1 ++ l2, ?_, ?_⟩
  · -- the log file was opened before the trace file
    rintro h (hh | hh)
    · have := hlt1 h hh
      simp only [List.length_append] at this ⊢
      omega
    · exact hlt2 h hh
  · have hneg : ¬ column < 0 := Int.not_lt.mpr h0
    simp only [Cli.run, hparse, run_bind_eq, hrun1, hcol, hneg, if_false, hl, Bool.false_eq_true,
      hrun2]

/-- A command line of one path, with no log or trace file, reaches the annotator. -/
theorem run_eq_annotateWith_path :
    let files : String → Except OsError (List UInt8) := fun p => .error ⟨.noEntry, p⟩
    let o : Options := { input := some (Path.normalize "x.lst") }
    parseArgs ["x.lst"] = .run o ∧ o.column = .value 24 ∧ (0 : Int) ≤ 24 ∧
      o.listOpcodes = false ∧ Openable o.logFile ∧ Openable o.trace ∧
    ∃ (s : Sinks Nat) (opened' : List String),
      (∀ h, s.log = some h ∨ s.trace = some h → h < opened'.length) ∧
      (Cli.run (host [] files) ["x.lst"]).run { opened := [] } =
        (annotateWith (host [] files) s o 24).run { opened := opened' } := by
  intro files o
  have hparse : parseArgs ["x.lst"] = .run o := parseArgs_path (by simp)
  exact ⟨hparse, rfl, by decide, rfl, trivial, trivial,
    run_eq_annotateWith [] files ["x.lst"] o 24 [] hparse rfl (by decide) rfl trivial trivial⟩

end Recorder

end Cli

end LuaListing
