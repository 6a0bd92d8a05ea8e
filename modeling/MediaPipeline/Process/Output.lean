import MediaPipeline.Text.Utf8

/-!
What is left of an external process after it has ended, and why one may not start at all.
-/

namespace MediaPipeline

/-- Why the operating system refused a request. -/
inductive IoFailure where
  | notFound
  | permissionDenied
  | nulByte
  | invalidUtf8
  | other (text : String)
  deriving DecidableEq

def IoFailure.message : IoFailure → String
  | notFound => "No such file or directory (os error 2)"
  | permissionDenied => "Permission denied (os error 13)"
  | nulByte => "nul byte found in provided data"
  | invalidUtf8 => "stream did not contain valid UTF-8"
  | other text => text

/-- Captured result of one external process. The streams are captured apart, so how their lines
alternated is not known. -/
structure ProcessOutput where
  stdout : List UInt8
  stderr : List UInt8
  code : Option Int32
  success : Bool
  deriving DecidableEq

namespace ProcessOutput

def combined (o : ProcessOutput) : List UInt8 :=
  o.stdout ++ o.stderr

def stdoutText (o : ProcessOutput) : String :=
  Utf8.decodeLossy o.stdout

def stderrText (o : ProcessOutput) : String :=
  Utf8.decodeLossy o.stderr

end ProcessOutput

end MediaPipeline
