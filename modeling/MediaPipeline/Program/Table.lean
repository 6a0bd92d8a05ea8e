import MediaPipeline.Program.Accounts
import MediaPipeline.Program.Amounts
import MediaPipeline.Program.Arranging
import MediaPipeline.Program.Checksum
import MediaPipeline.Program.Columns
import MediaPipeline.Program.Copying
import MediaPipeline.Program.Dates
import MediaPipeline.Program.Dump
import MediaPipeline.Program.Editing
import MediaPipeline.Program.Exchange
import MediaPipeline.Program.Filling
import MediaPipeline.Program.Inspection
import MediaPipeline.Program.Lines
import MediaPipeline.Program.Matching
import MediaPipeline.Program.Numbering
import MediaPipeline.Program.Numbers
import MediaPipeline.Program.OptionWords
import MediaPipeline.Program.Pairing
import MediaPipeline.Program.Pieces
import MediaPipeline.Program.Repetition
import MediaPipeline.Program.Sections
import MediaPipeline.Program.Sorting
import MediaPipeline.Program.Transfer
import MediaPipeline.Program.Tree
import MediaPipeline.Program.Words

/-!
The programs by their names.
-/

namespace MediaPipeline.Program

def singles : List (String × Program) := [
  ("tr", Exchange.tr), ("nl", Numbering.nl), ("date", date), ("dd", Transfer.dd),
  ("split", Pieces.split), ("csplit", Sections.csplit), ("tsort", Arranging.tsort),
  ("shuf", Arranging.shuf), ("numfmt", Amounts.numfmt), ("fmt", Filling.fmt),
  ("getopt", OptionWords.getopt), ("uniq", Repetition.uniq), ("comm", Pairing.comm),
  ("join", Pairing.join)]

def table : List (String × Program) :=
  [("cat", cat), ("head", head), ("tail", tail), ("wc", wc), ("tac", tac), ("rev", rev),
    ("fold", fold), ("sort", sort), ("seq", seq), ("expr", expr),
    ("factor", factor)] ++
  singles ++ words ++ columns ++ Checksum.programs ++ Accounts.programs ++ dumps ++ modes ++
  changes ++ copies ++ inspections ++ Matching.programs ++ Edit.programs

/-- What a program says where its output cannot be written, and its status then. -/
def writeFault (program : String) (name : Octets) (closed : Bool) (fault : String) :
    Octets × Nat :=
  let line (text : String) : Octets := name ++ ": ".toList ++ text.toList ++ ['\n']
  let usual := line ("write error: " ++ fault)
  match program with
  | "cat" => (if closed then line ("standard output: " ++ fault) else usual, 1)
  | "yes" => (line ("standard output: " ++ fault), 1)
  | "cmp" | "diff" => (line ("standard output: " ++ fault), 2)
  | "sed" => (line ((if closed then "couldn't close stdout: " else "couldn't flush stdout: ") ++ fault), 4)
  | "sort" =>
    (line ("fflush failed: 'standard output': " ++ fault) ++
      (if closed then usual else line "write error"), 2)
  | "wc" => (if closed then usual else line "write error", 1)
  | "find" =>
    (line ("'standard output': " ++ fault) ++ (if closed then usual else line "write error"), 1)
  | "tee" => (line ("'standard output': " ++ fault), 1)
  | "awk" => (line ("close failed on file \"/dev/stdout\" (" ++ fault ++ ")"), 2)
  | "rev" => if closed then ([], 0) else (usual, 1)
  | "grep" | "ls" => (usual, 2)
  | "expr" => (usual, 3)
  | "env" => (usual, 125)
  | _ => (usual, 1)

end MediaPipeline.Program
