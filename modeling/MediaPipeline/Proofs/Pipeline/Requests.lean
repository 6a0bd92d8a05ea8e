import MediaPipeline.Proofs.Pipeline.Building

/-!
Requests to one pipeline, one after the other: building calls, resets and questions. A trace notes
for each request the pipeline it met, the reply, and the pipeline it left. Failed building calls and
questions leave no trace: the requests that remain without them meet and leave the same pipelines
and get the same replies.
-/

namespace MediaPipeline

/-! ### Requests and replies -/

/-- A question to a pipeline. `execute` is what the process of a run comes to. -/
inductive Query where
  | get (handle : Handle)
  | resolve (link : Link)
  | graph
  | command (root : Handle)
  | run (root : Handle) (execute : String → Except IoFailure ProcessOutput)

inductive Answer where
  | node (found : Option Node)
  | label (outcome : Except GraphError Label)
  | nodes (all : List Node)
  | command (outcome : Except GraphError String)
  | output (outcome : Except GraphError ProcessOutput)

def Query.answer (p : Pipeline) : Query → Answer
  | get h => .node (p.get? h)
  | resolve link => .label (p.resolve link)
  | graph => .nodes p.nodes
  | command root => .command (p.command root)
  | run root execute => .output (Id.run (p.run execute root))

/-- What the client gets back. Nothing is answered where there is no pipeline. -/
inductive Reply where
  | done
  | built (outcome : Option (Except GraphError Handle))
  | answered (answer : Option Answer)

/-- One thing a client asks of a pipeline; a reset comes with the stamp it takes. -/
inductive Request where
  | reset (owner : UInt64)
  | build (call : BuildCall)
  | query (query : Query)

/-- A request with what it met and what came of it. -/
structure Transition where
  before : Pipeline
  request : Request
  reply : Reply
  after : Pipeline

/-- What a request does to `p`. -/
def Request.on (p : Pipeline) (r : Request) : Transition :=
  match r with
  | reset owner => ⟨p, r, .done, p.reset owner⟩
  | build call => ⟨p, r, .built (some (call.perform p).1), (call.perform p).2⟩
  | query q => ⟨p, r, .answered (some (q.answer p)), p⟩

namespace Pipeline

/-- The pipeline after some requests. -/
def after (p : Pipeline) (rs : List Request) : Pipeline :=
  rs.foldl (fun p r => (r.on p).after) p

/-- What happens at each of some requests. -/
def trace (p : Pipeline) : List Request → List Transition
  | [] => []
  | r :: rs => r.on p :: (r.on p).after.trace rs

@[simp] theorem after_nil (p : Pipeline) : p.after [] = p := rfl

@[simp] theorem after_cons (p : Pipeline) (r : Request) (rs : List Request) :
    p.after (r :: rs) = (r.on p).after.after rs := rfl

@[simp] theorem after_append (p : Pipeline) (rs ss : List Request) :
    p.after (rs ++ ss) = (p.after rs).after ss :=
  List.foldl_append

@[simp] theorem trace_nil (p : Pipeline) : p.trace [] = [] := rfl

@[simp] theorem trace_cons (p : Pipeline) (r : Request) (rs : List Request) :
    p.trace (r :: rs) = r.on p :: (r.on p).after.trace rs := rfl

theorem trace_append (p : Pipeline) (rs ss : List Request) :
    p.trace (rs ++ ss) = p.trace rs ++ (p.after rs).trace ss := by
  induction rs generalizing p with
  | nil => rfl
  | cons r rs ih => rw [List.cons_append, trace_cons, ih, trace_cons, after_cons, List.cons_append]

end Pipeline

/-! ### Requests without effect -/

/-- A transition counts unless it is a building call that failed or a question. -/
def Transition.effective (t : Transition) : Bool :=
  match t.reply with
  | .done => true
  | .built (some (.ok _)) => true
  | _ => false

/-- The requests that remain when failed building calls and questions are left out. -/
def Pipeline.effective (p : Pipeline) (rs : List Request) : List Request :=
  ((p.trace rs).filter Transition.effective).map Transition.request

theorem BuildCall.perform_eq_of_error {call : BuildCall} {p : Pipeline} {e : GraphError}
    (h : (call.perform p).1 = .error e) : call.perform p = (.error e, p) := by
  obtain ⟨e', he⟩ | ⟨n, -, hn⟩ := call.fails_or_stores p
  · rw [he] at h ⊢
    cases h
    rfl
  · rw [hn] at h
    cases h

namespace Request

variable {p : Pipeline} {r : Request}

theorem on_request (p : Pipeline) (r : Request) : (r.on p).request = r := by
  cases r <;> rfl

theorem after_of_not_effective (h : (r.on p).effective = false) : (r.on p).after = p := by
  cases r with
  | reset owner => cases h
  | query q => rfl
  | build call =>
      cases ho : (call.perform p).1 with
      | error e =>
          have hp := BuildCall.perform_eq_of_error ho
          simp only [on, hp]
      | ok handle => simp [on, Transition.effective, ho] at h

end Request

namespace Pipeline

variable {p : Pipeline} {r : Request}

theorem effective_cons (h : (r.on p).effective = true) (rs : List Request) :
    p.effective (r :: rs) = r :: (r.on p).after.effective rs := by
  simp only [effective, trace_cons, List.filter_cons_of_pos h, List.map_cons, r.on_request]

theorem effective_cons_of_not (h : (r.on p).effective = false) (rs : List Request) :
    p.effective (r :: rs) = p.effective rs := by
  have hne : ¬ (r.on p).effective = true := by simp [h]
  simp only [effective, trace_cons, List.filter_cons_of_neg hne, Request.after_of_not_effective h]

theorem after_effective (p : Pipeline) (rs : List Request) :
    p.after (p.effective rs) = p.after rs := by
  induction rs generalizing p with
  | nil => rfl
  | cons r rs ih =>
      cases h : (r.on p).effective with
      | true => rw [effective_cons h, after_cons, ih, after_cons]
      | false => rw [effective_cons_of_not h, ih, after_cons, Request.after_of_not_effective h]

theorem trace_effective (p : Pipeline) (rs : List Request) :
    p.trace (p.effective rs) = (p.trace rs).filter Transition.effective := by
  -- A request without effect hands on the pipeline it met, so that what follows meets the same one.
  induction rs generalizing p with
  | nil => rfl
  | cons r rs ih =>
      cases h : (r.on p).effective with
      | true => rw [effective_cons h, trace_cons, ih, trace_cons, List.filter_cons_of_pos h]
      | false =>
          have hne : ¬ (r.on p).effective = true := by simp [h]
          rw [effective_cons_of_not h, ih, trace_cons, List.filter_cons_of_neg hne,
            Request.after_of_not_effective h]

end Pipeline

/-- Failed building calls and questions leave no trace: without them the pipeline ends up the same,
and each of the other requests meets the same pipeline, gets the same reply and leaves the same
pipeline. A building call that returns no handle takes nothing, no index, no position and no
label. -/
theorem failures_leave_no_trace (p : Pipeline) (rs : List Request) :
    p.after (p.effective rs) = p.after rs ∧
      p.trace (p.effective rs) = (p.trace rs).filter Transition.effective ∧
      ∀ call : BuildCall, (∃ h, (call.perform p).1 = .ok h) ∨ (call.perform p).2 = p := by
  refine ⟨p.after_effective rs, p.trace_effective rs, fun call => ?_⟩
  obtain ⟨e, he⟩ | ⟨n, -, hn⟩ := call.fails_or_stores p
  · exact .inr (by rw [he])
  · exact .inl ⟨_, by rw [hn]⟩

example :
    (Pipeline.create 0 (.seeded 0) {}).effective
      [.build (.input ""), .build (.input "a.mp4"), .query .graph, .build (.output [] "out.mp4"),
        .reset 1, .build (.output [.node ⟨0, 0, .input⟩] "out.mp4")] =
      [.build (.input "a.mp4"), .reset 1] :=
  rfl

end MediaPipeline
