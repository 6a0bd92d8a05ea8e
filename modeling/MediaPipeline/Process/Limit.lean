import MediaPipeline.Text.Octets

/-!
Limits on what a process may use. Each has a bound that counts, and one up to which the process may
raise it.
-/

namespace MediaPipeline

structure Limit where
  letter : Char
  description : String
  unit : String := ""
  size : Nat := 1
  bound : Option Nat := none
  highest : Option Nat := none
  fixed : Bool := false

namespace Limit

def all : List Limit := [
  { letter := 'R', description := "real-time non-blocking time", unit := "microseconds" },
  { letter := 'c', description := "core file size", unit := "blocks", size := 1024
    bound := some 0 },
  { letter := 'd', description := "data seg size", unit := "kbytes", size := 1024 },
  { letter := 'e', description := "scheduling priority", bound := some 0, highest := some 0 },
  { letter := 'f', description := "file size", unit := "blocks", size := 1024 },
  { letter := 'i', description := "pending signals", bound := some 128620
    highest := some 128620 },
  { letter := 'l', description := "max locked memory", unit := "kbytes", size := 1024
    bound := some 8388608, highest := some 8388608 },
  { letter := 'm', description := "max memory size", unit := "kbytes", size := 1024 },
  { letter := 'n', description := "open files", bound := some 20000, highest := some 20000 },
  { letter := 'p', description := "pipe size", unit := "512 bytes", size := 512
    bound := some 4096, highest := some 4096, fixed := true },
  { letter := 'q', description := "POSIX message queues", unit := "bytes"
    bound := some 819200, highest := some 819200 },
  { letter := 'r', description := "real-time priority", bound := some 0, highest := some 0 },
  { letter := 's', description := "stack size", unit := "kbytes", size := 1024
    bound := some 8388608 },
  { letter := 't', description := "cpu time", unit := "seconds" },
  { letter := 'u', description := "max user processes", bound := some 128620
    highest := some 128620 },
  { letter := 'v', description := "virtual memory", unit := "kbytes", size := 1024 },
  { letter := 'x', description := "file locks" }]

def exceeds : Option Nat → Option Nat → Bool
  | _, none => false
  | none, some _ => true
  | some a, some b => b < a

/-- Sets the bound, the highest one, or both. It fails where the highest one would be raised, or where
the bound would lie above it. -/
def set? (l : Limit) (low high : Bool) (value : Option Nat) : Option Limit :=
  let bound := if low then value else l.bound
  let highest := if high then value else l.highest
  if l.fixed || exceeds highest l.highest || exceeds bound highest then none
  else some { l with bound, highest }

end Limit

end MediaPipeline
