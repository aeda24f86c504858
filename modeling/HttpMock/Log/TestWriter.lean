import HttpMock.Log.Record
/-! Writing to a test's log one line at a time. -/
namespace HttpMock.Log

/-- A writer into a test's log, with what the log has received. -/
structure TestWriter where
  /-- The lines handed to the test's log, first to last. -/
  logged : List Bytes := []
  /-- The octets written since the last newline. -/
  pending : Bytes := []
  deriving DecidableEq, Repr, Inhabited

namespace TestWriter

/-- The complete lines of `buf`, first to last and each without its newline, and the octets after
the last newline: the text up to the first newline is taken off, again and again. -/
def splitLines (buf : Bytes) : List Bytes × Bytes :=
  match h : buf.cut 0x0A with
  | (line, some rest) =>
    have : rest.length < buf.length := by
      rw [(Bytes.eq_of_cut_eq_some h).1]
      simp only [List.length_append, List.length_cons]
      omega
    let (lines, tail) := splitLines rest
    (line :: lines, tail)
  | (_, none) => ([], buf)
termination_by buf.length

/-- Writes `p`: appends it to the pending octets, hands every line now complete to the log, and
reports all of `p` written. -/
def write (w : TestWriter) (p : Bytes) : Nat × TestWriter :=
  let (lines, rest) := splitLines (w.pending ++ p)
  (p.length, { logged := w.logged ++ lines, pending := rest })

/-- Writes each chunk in turn: the counts the writes report, and the writer after the last. -/
def writeAll (w : TestWriter) : List Bytes → List Nat × TestWriter
  | [] => ([], w)
  | p :: ps =>
    let (n, w) := w.write p
    let (ns, w) := w.writeAll ps
    (n :: ns, w)

end TestWriter

/-- The lines a test's log receives from text records written to a fresh writer, each record as
its line and a newline. -/
def testLog (rs : List Record) : List Bytes :=
  ((TestWriter.writeAll {} (rs.map fun r => r.line ++ [0x0A])).2).logged

end HttpMock.Log
