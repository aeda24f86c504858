import HttpMock.Log.TestWriter
/-! Lines in a test's log do not depend on how the octets were cut into writes. -/
namespace HttpMock.Log.TestWriter

/-- The octets a writer has been given: each logged line with its newline, then the pending ones. -/
def stream (w : TestWriter) : Bytes := w.logged.flatMap (· ++ [0x0A]) ++ w.pending

/-- No logged line and no pending octet holds a newline. -/
def Clean (w : TestWriter) : Prop := (∀ l ∈ w.logged, 0x0A ∉ l) ∧ 0x0A ∉ w.pending

/-- The lines of a text, each with its newline, then its tail, give the text back; no line and
not the tail holds a newline. -/
theorem splitLines_spec (buf : Bytes) :
    buf = (splitLines buf).1.flatMap (· ++ [0x0A]) ++ (splitLines buf).2 ∧
      (∀ l ∈ (splitLines buf).1, 0x0A ∉ l) ∧ 0x0A ∉ (splitLines buf).2 := by
  fun_induction splitLines buf with
  | case1 buf line rest h _ lines tail hsplit ih =>
    obtain ⟨hbuf, hline⟩ := Bytes.eq_of_cut_eq_some h
    rw [hsplit] at ih
    obtain ⟨hrest, hlines, htail⟩ := ih
    refine ⟨?_, ?_, htail⟩
    · rw [hbuf, hrest]
      simp
    · rintro l (_ | ⟨_, hl⟩)
      · exact hline
      · exact hlines l hl
  | case2 buf front h => exact ⟨by simp, by simp, (Bytes.not_mem_of_cut_eq_none h).1⟩

/-- A write: its count, and the lines it completes appended to the log. -/
theorem write_eq (w : TestWriter) (p : Bytes) :
    w.write p =
      (p.length, ⟨w.logged ++ (splitLines (w.pending ++ p)).1, (splitLines (w.pending ++ p)).2⟩) :=
  rfl

/-- A write appends its octets to the stream. -/
theorem stream_write (w : TestWriter) (p : Bytes) : (w.write p).2.stream = w.stream ++ p := by
  obtain ⟨hbuf, -, -⟩ := splitLines_spec (w.pending ++ p)
  rw [write_eq, stream, stream, List.flatMap_append, List.append_assoc, ← hbuf, List.append_assoc]

/-- A write keeps every held line free of newlines. -/
theorem Clean.write {w : TestWriter} (h : w.Clean) (p : Bytes) : (w.write p).2.Clean := by
  obtain ⟨-, hlines, htail⟩ := splitLines_spec (w.pending ++ p)
  refine ⟨fun l hl => ?_, htail⟩
  rcases List.mem_append.mp hl with hl | hl
  · exact h.1 l hl
  · exact hlines l hl

theorem writeAll_cons (w : TestWriter) (p : Bytes) (ps : List Bytes) :
    w.writeAll (p :: ps) = ((w.write p).1 :: ((w.write p).2.writeAll ps).1, ((w.write p).2.writeAll ps).2) :=
  rfl

/-- A run of writes appends all their octets to the stream. -/
theorem stream_writeAll (w : TestWriter) (ps : List Bytes) :
    (w.writeAll ps).2.stream = w.stream ++ ps.flatten := by
  induction ps generalizing w with
  | nil => simp [writeAll]
  | cons p ps ih => rw [writeAll_cons, ih, stream_write, List.flatten_cons, List.append_assoc]

/-- A run of writes keeps every held line free of newlines. -/
theorem Clean.writeAll {w : TestWriter} (h : w.Clean) (ps : List Bytes) : (w.writeAll ps).2.Clean := by
  induction ps generalizing w with
  | nil => exact h
  | cons p ps ih => exact ih (h.write p)

/-- Every write of a run reports all its octets written. -/
theorem counts_writeAll (w : TestWriter) (ps : List Bytes) : (w.writeAll ps).1 = ps.map List.length := by
  induction ps generalizing w with
  | nil => rfl
  | cons p ps ih => rw [writeAll_cons, ih, List.map_cons]; rfl

/-- Lines free of newlines, each followed by one, then a tail free of newlines: splitting at
newlines gives the lines and the tail back. -/
theorem splitOn_lines {ls : List Bytes} {t : Bytes} (hls : ∀ l ∈ ls, 0x0A ∉ l) (ht : 0x0A ∉ t) :
    (ls.flatMap (· ++ [0x0A]) ++ t).splitOn 0x0A = ls ++ [t] := by
  induction ls with
  | nil => simp [List.splitOn_eq_singleton ht]
  | cons l ls ih =>
    have hl : 0x0A ∉ l := hls l List.mem_cons_self
    rw [List.flatMap_cons, List.append_assoc, List.append_assoc, List.singleton_append,
      List.splitOn_append_cons_self_of_not_mem hl, ih (fun l' h' => hls l' (List.mem_cons_of_mem _ h')),
      List.cons_append]

/-- A clean writer's lines and pending octets are the newline-separated segments of its stream. -/
theorem Clean.segments {w : TestWriter} (h : w.Clean) : w.logged ++ [w.pending] = w.stream.splitOn 0x0A :=
  (splitOn_lines h.1 h.2).symm

theorem clean_empty : Clean {} := ⟨fun _ h => (nomatch h), fun h => (nomatch h)⟩

/-- A writer is determined by its lines followed by its pending octets. -/
theorem eq_of_segments {w w' : TestWriter} (h : w.logged ++ [w.pending] = w'.logged ++ [w'.pending]) :
    w = w' := by
  obtain ⟨hlogged, hpending⟩ := List.append_inj' h rfl
  cases w
  cases w'
  simp_all

/-- However a stream of octets is cut into writes to a fresh writer, the test's log receives its
newline-terminated segments in order, without their newlines, and the writer keeps the
unterminated tail; so both depend only on the stream. Every write reports all its octets. -/
theorem writeAll_logs_segments (ps : List Bytes) :
    (writeAll {} ps).2.logged ++ [(writeAll {} ps).2.pending] = ps.flatten.splitOn 0x0A ∧
      (∀ qs : List Bytes, qs.flatten = ps.flatten → (writeAll {} qs).2 = (writeAll {} ps).2) ∧
      (writeAll {} ps).1 = ps.map List.length := by
  -- every run from the fresh writer is clean and holds the whole stream
  have hsegments : ∀ qs : List Bytes,
      (writeAll {} qs).2.logged ++ [(writeAll {} qs).2.pending] = qs.flatten.splitOn 0x0A := by
    intro qs
    rw [(clean_empty.writeAll qs).segments, stream_writeAll]
    rfl
  refine ⟨hsegments ps, fun qs hqs => eq_of_segments ?_, counts_writeAll {} ps⟩
  rw [hsegments, hsegments, hqs]

/-- One stream cut into writes two ways, a line split across writes in each. -/
theorem writeAll_logs_segments_regrouped :
    ([[0x61], [0x62, 0x0A, 0x63], [0x0A, 0x0A, 0x64]] : List Bytes).flatten =
        ([[0x61, 0x62, 0x0A], [0x63, 0x0A], [0x0A, 0x64]] : List Bytes).flatten ∧
      (writeAll {} [[0x61], [0x62, 0x0A, 0x63], [0x0A, 0x0A, 0x64]]).2 =
        (writeAll {} [[0x61, 0x62, 0x0A], [0x63, 0x0A], [0x0A, 0x64]]).2 :=
  ⟨rfl, (writeAll_logs_segments _).2.1 _ rfl⟩

end HttpMock.Log.TestWriter
