import Mathlib.Algebra.Ring.Nat
import MediaPipeline.Graph.Presets
import MediaPipeline.Proofs.Pipeline.Requests

/-!
Where generated labels come from. A building call that succeeds takes from the generator the labels
of the pads that the caller did not name, and puts them into its node in the order in which they
were drawn; nothing else moves the generator. So the labels that a pipeline has generated are the
first ones of its generator, and their number can be counted from the calls.
-/

namespace MediaPipeline

namespace LabelGenerator

@[simp] theorem take_zero (g : LabelGenerator) : g.take 0 = ([], g) := rfl

theorem take_succ (g : LabelGenerator) (n : Nat) :
    g.take (n + 1) = (g.next.1 :: (g.next.2.take n).1, (g.next.2.take n).2) := by
  simp only [take]

/-- Taking goes on where it stopped. -/
theorem take_add (g : LabelGenerator) (m n : Nat) :
    g.take (m + n) = ((g.take m).1 ++ ((g.take m).2.take n).1, ((g.take m).2.take n).2) := by
  induction m generalizing g with
  | zero => simp
  | succ m ih => rw [Nat.succ_add, take_succ, ih, take_succ, List.cons_append]

@[simp] theorem length_take (g : LabelGenerator) (n : Nat) : (g.take n).1.length = n := by
  induction n generalizing g with
  | zero => rfl
  | succ n ih => rw [take_succ, List.length_cons, ih]

/-- The labels after the first `m`. -/
theorem drop_take_add (g : LabelGenerator) (m n : Nat) :
    (g.take (m + n)).1.drop m = ((g.take m).2.take n).1 := by
  rw [take_add, List.drop_append_of_le_length (by simp), List.drop_of_length_le (by simp),
    List.nil_append]

end LabelGenerator

/-! ### One call -/

/-- The labels of a node that its call did not name, in the order of the pads. -/
def BuildCall.generated : BuildCall → Node → List Label
  | filter _ spec, .filter n => if spec.output.isNone then [n.output] else []
  | global _ spec, .global n => if spec.outputs.isEmpty then n.outputs else []
  | _, _ => []

theorem BuildCall.Stores.generated_eq {call : BuildCall} {p : Pipeline} {n : Node}
    (h : call.Stores p n) : call.generated n = (p.labels.take call.reserved).1 := by
  cases h with
  | input _ | option _ _ | output _ _ _ => rfl
  | @filter _ spec _ _ _ _ _ =>
      cases ho : spec.output <;>
        simp [generated, reserved, ho, Pipeline.outputLabel, LabelGenerator.take_succ]
  | @global _ spec _ _ _ =>
      cases ho : spec.outputs <;>
        simp [generated, reserved, ho, Pipeline.outputLabels, Nat.max_comm]

/-- A concatenation takes one label for each stream of its result, and one where it has none. -/
theorem BuildCall.reserved_concat (caller : List Link) (segments video audio : Nat) :
    (global caller (.concat segments video audio)).reserved = max 1 (video + audio) := by
  simp only [reserved, GlobalSpec.concat, GlobalSpec.reserve, List.isEmpty_nil, if_true]
  omega

namespace Transition

/-- The generated labels of the node that a request added: it is read off the pipeline by the handle
that was returned. -/
def generated (t : Transition) : List Label :=
  match t.request, t.reply with
  | .build call, .built (some (.ok h)) => (t.after.get? h).elim [] call.generated
  | _, _ => []

/-- Number of labels that a request takes. -/
def labelsDrawn (t : Transition) : Nat :=
  match t.request, t.reply with
  | .build call, .built (some (.ok _)) => call.reserved
  | _, _ => 0

end Transition

/-- A request takes its labels from the front of the generator, and none unless it is a building
call that succeeds. -/
theorem Request.generated_on (p : Pipeline) (r : Request) :
    (r.on p).generated = (p.labels.take (r.on p).labelsDrawn).1 ∧
      (r.on p).after.labels = (p.labels.take (r.on p).labelsDrawn).2 := by
  cases r with
  | reset owner => exact ⟨rfl, rfl⟩
  | query q => exact ⟨rfl, rfl⟩
  | build call =>
      obtain ⟨e, he⟩ | ⟨n, hstores, hn⟩ := call.fails_or_stores p
      · simp [on, Transition.generated, Transition.labelsDrawn, he]
      · have hget := (call.added_result p n).get?
        have hlabels : (call.result p n).labels = (p.labels.take call.reserved).2 := rfl
        simp [on, Transition.generated, Transition.labelsDrawn, hn, hget, hlabels,
          hstores.generated_eq]

/-! ### Sequences of requests -/

namespace Pipeline

/-- All labels that some requests take, in the order in which they are taken. -/
def generated (p : Pipeline) (rs : List Request) : List Label :=
  (p.trace rs).flatMap Transition.generated

/-- Number of labels that some requests take. -/
def labelsDrawn (p : Pipeline) (rs : List Request) : Nat :=
  ((p.trace rs).map Transition.labelsDrawn).sum

theorem labelsDrawn_append (p : Pipeline) (rs ss : List Request) :
    p.labelsDrawn (rs ++ ss) = p.labelsDrawn rs + (p.after rs).labelsDrawn ss := by
  rw [labelsDrawn, trace_append, List.map_append, List.sum_append]
  rfl

/-- The labels that requests take are the next ones of the generator, each once, and the generator
goes on behind them. -/
theorem generated_eq_take (p : Pipeline) (rs : List Request) :
    p.generated rs = (p.labels.take (p.labelsDrawn rs)).1 ∧
      (p.after rs).labels = (p.labels.take (p.labelsDrawn rs)).2 := by
  induction rs generalizing p with
  | nil => exact ⟨rfl, rfl⟩
  | cons r rs ih =>
      obtain ⟨hone, hnext⟩ := Request.generated_on p r
      obtain ⟨hrest, hlast⟩ := ih (r.on p).after
      have hdrawn : p.labelsDrawn (r :: rs) =
          (r.on p).labelsDrawn + (r.on p).after.labelsDrawn rs := rfl
      rw [hnext] at hrest hlast
      constructor
      · rw [hdrawn, LabelGenerator.take_add, ← hone, ← hrest]
        rfl
      · rw [hdrawn, LabelGenerator.take_add, ← hlast]
        rfl

end Pipeline

end MediaPipeline
