import MediaPipeline.Proofs.Pipeline.Labels
import MediaPipeline.Proofs.Workspace.Runs

/-!
The life of a pipeline: how it was created and which requests were made to it since, where a copy
takes over the life of the pipeline it was taken from. Pipelines do not touch each other, so that a
pipeline is what the requests of its life have made of it, and its labels are those that its own
generator gives, whatever is done to the pipeline it was copied from.
-/

namespace MediaPipeline

/-- What an action asks of pipeline `t`, when `owner` is the next stamp. -/
def Action.request? (owner : UInt64) (t : Nat) : Action → Option Request
  | reset k => if k = t then some (.reset owner) else none
  | build k call => if k = t then some (.build call) else none
  | query k q => if k = t then some (.query q) else none
  | create _ _ | copy _ => none

namespace Workspace

/-- The requests that some actions make to pipeline `t`. -/
def requests (w : Workspace) (t : Nat) : List Action → List Request
  | [] => []
  | a :: as => (a.request? w.nextOwner t).toList ++ (w.next a).requests t as

variable {w : Workspace} {t : Nat} {p : Pipeline}

/-- An action does to a pipeline what it asks of it, and nothing to the others. -/
theorem getElem?_next (hp : w.pipelines[t]? = some p) (a : Action) :
    (w.next a).pipelines[t]? = some (p.after (a.request? w.nextOwner t).toList) := by
  have hkept : a.target? ≠ some t → (w.next a).pipelines[t]? = some p := fun ha =>
    (Became.kept hp ha).getElem?_next
  cases a with
  | create labels config => exact hkept (by simp [Action.target?])
  | copy k => exact hkept (by simp [Action.target?])
  | reset k =>
      by_cases hk : k = t
      · subst hk
        simpa [Action.request?, Request.on] using (Became.emptied hp).getElem?_next
      · simpa [Action.request?, hk] using hkept fun h => hk (Option.some.inj h)
  | build k call =>
      by_cases hk : k = t
      · subst hk
        simpa [Action.request?, Request.on] using (Became.built call hp).getElem?_next
      · simpa [Action.request?, hk] using hkept fun h => hk (Option.some.inj h)
  | query k q =>
      by_cases hk : k = t
      · simpa [Action.request?, hk, Request.on] using hkept (by simp [Action.target?])
      · simpa [Action.request?, hk] using hkept (by simp [Action.target?])

/-- What becomes of a pipeline is a matter of the requests made to it alone. -/
theorem getElem?_after (hp : w.pipelines[t]? = some p) (as : List Action) :
    (w.after as).pipelines[t]? = some (p.after (w.requests t as)) := by
  induction as generalizing w p with
  | nil => exact hp
  | cons a as ih => rw [after_cons, ih (getElem?_next hp a), requests, Pipeline.after_append]

end Workspace

/-! ### Lives -/

/-- Pipeline `t` of the run goes back to `start`, which was created, and `rs` are all requests to it
since then; for a copy, also those to the pipeline it was taken from, up to that moment. -/
inductive Life : List Action → Nat → Pipeline → List Request → Prop
  | created (past : List Action) (labels : LabelGenerator) (config : PipelineConfig) :
    Life (past ++ [.create labels config]) (run past).pipelines.length
      (.create (run past).nextOwner labels config) []
  | copied {as : List Action} {t : Nat} {start : Pipeline} {rs : List Request} :
    Life as t start rs → Life (as ++ [.copy t]) (run as).pipelines.length start rs
  | kept {as : List Action} {t : Nat} {start : Pipeline} {rs : List Request} (a : Action) :
    Life as t start rs →
    Life (as ++ [a]) t start (rs ++ (a.request? (run as).nextOwner t).toList)

namespace Life

variable {as : List Action} {t : Nat} {start : Pipeline} {rs : List Request}

/-- A pipeline is what the requests of its life have made of it. -/
theorem getElem? (h : Life as t start rs) : (run as).pipelines[t]? = some (start.after rs) := by
  induction h with
  | created past labels config =>
      rw [run_concat]
      exact (Became.created labels config).getElem?_next
  | copied _ ih =>
      rw [run_concat]
      exact (Became.copied ih).getElem?_next
  | kept a _ ih => rw [run_concat, Workspace.getElem?_next ih a, Pipeline.after_append]

theorem later (h : Life as t start rs) (since : List Action) :
    Life (as ++ since) t start (rs ++ (run as).requests t since) := by
  -- A life grows at its end and `since` is read from its front: `as` takes over each action.
  induction since generalizing as rs with
  | nil => simpa [Workspace.requests] using h
  | cons a since ih =>
      have hlife := ih (h.kept a)
      rwa [run_concat, List.append_assoc, List.append_assoc] at hlife

theorem lt_length (h : Life as t start rs) : t < (run as).pipelines.length :=
  (List.getElem?_eq_some_iff.mp h.getElem?).1

/-- What the last action of a run has to do with the life of a pipeline. -/
theorem concat_cases {a : Action} (h : Life (as ++ [a]) t start rs) :
    (∃ labels config, a = .create labels config ∧ t = (run as).pipelines.length ∧
      start = .create (run as).nextOwner labels config ∧ rs = []) ∨
    (∃ k, a = .copy k ∧ t = (run as).pipelines.length ∧ Life as k start rs) ∨
    ∃ rs', Life as t start rs' ∧ rs = rs' ++ (a.request? (run as).nextOwner t).toList := by
  generalize hrun : as ++ [a] = bs at h
  cases h with
  | created past labels config =>
      obtain ⟨rfl, rfl⟩ := List.append_singleton_inj.mp hrun
      exact .inl ⟨labels, config, rfl, rfl, rfl, rfl⟩
  | @copied _ k _ _ hlife =>
      obtain ⟨rfl, rfl⟩ := List.append_singleton_inj.mp hrun
      exact .inr (.inl ⟨k, rfl, rfl, hlife⟩)
  | kept b hlife =>
      obtain ⟨rfl, rfl⟩ := List.append_singleton_inj.mp hrun
      exact .inr (.inr ⟨_, hlife, rfl⟩)

/-- A pipeline has one life. -/
theorem unique {start' : Pipeline} {rs' : List Request} (h : Life as t start rs)
    (h' : Life as t start' rs') : start = start' ∧ rs = rs' := by
  induction h generalizing start' rs' with
  | created past labels config =>
      obtain ⟨labels', config', ha, -, hstart, hrs⟩ | ⟨k, ha, -⟩ | ⟨_, hlife, -⟩ := h'.concat_cases
      · cases ha
        exact ⟨hstart.symm, hrs.symm⟩
      · cases ha
      · exact absurd hlife.lt_length (Nat.lt_irrefl _)
  | copied _ ih =>
      obtain ⟨labels', config', ha, -⟩ | ⟨k, ha, -, hlife⟩ | ⟨_, hlife, -⟩ := h'.concat_cases
      · cases ha
      · cases ha
        exact ih hlife
      · exact absurd hlife.lt_length (Nat.lt_irrefl _)
  | kept a hlife ih =>
      -- A number that is in use is not given to a new pipeline.
      obtain ⟨_, _, -, rfl, -⟩ | ⟨_, -, rfl, -⟩ | ⟨_, hlife', rfl⟩ := h'.concat_cases
      · exact absurd hlife.lt_length (Nat.lt_irrefl _)
      · exact absurd hlife.lt_length (Nat.lt_irrefl _)
      · obtain ⟨rfl, rfl⟩ := ih hlife'
        exact ⟨rfl, rfl⟩

end Life

/-- Every pipeline of a run has a life. -/
theorem exists_life {as : List Action} {t : Nat} {p : Pipeline}
    (hp : (run as).pipelines[t]? = some p) :
    ∃ owner labels config rs, Life as t (.create owner labels config) rs := by
  induction as using List.reverseRecOn generalizing t p with
  | nil => simp [run, Workspace.empty] at hp
  | append_singleton as a ih =>
      have hkept : ∀ {q : Pipeline}, (run as).pipelines[t]? = some q →
          ∃ owner labels config rs, Life (as ++ [a]) t (.create owner labels config) rs := by
        intro q hq
        obtain ⟨owner, labels, config, rs, hlife⟩ := ih hq
        exact ⟨owner, labels, config, _, hlife.kept a⟩
      rw [run_concat] at hp
      cases Workspace.became_of_next hp with
      | created labels config => exact ⟨_, labels, config, _, .created as labels config⟩
      | copied hk =>
          obtain ⟨owner, labels, config, rs, hlife⟩ := ih hk
          exact ⟨owner, labels, config, rs, hlife.copied⟩
      | emptied ht => exact hkept ht
      | built call ht => exact hkept ht
      | kept ht _ => exact hkept ht

/-! ### Labels -/

/-- Every pipeline of a run has one life. The labels that a pipeline of a seed has generated, with
those of the pipelines it was copied from, are the first ones of the seed, as many as its successful
calls without named outputs ask for, and its generator stands behind them. A copy goes on with the
label that comes next, whatever is asked of other pipelines. -/
theorem generated_labels_of_seed :
    (∀ (as : List Action) (t : Nat) (p : Pipeline), (run as).pipelines[t]? = some p →
      (∃ owner labels config rs, Life as t (.create owner labels config) rs ∧
        ∀ start' rs', Life as t start' rs' → start' = .create owner labels config ∧ rs' = rs) ∧
      ∀ start rs seed, Life as t start rs → start.labels = .seeded seed →
        p = start.after rs ∧
        start.generated rs = ((LabelGenerator.seeded seed).take (start.labelsDrawn rs)).1 ∧
        p.labels = ((LabelGenerator.seeded seed).take (start.labelsDrawn rs)).2 ∧
        ∀ since u own, u = (run as).pipelines.length →
          own = (run (as ++ [.copy t])).requests u since →
          Life (as ++ .copy t :: since) u start (rs ++ own) ∧
          p.generated own = ((LabelGenerator.seeded seed).take
            (start.labelsDrawn (rs ++ own))).1.drop (start.labelsDrawn rs)) ∧
    ∀ caller segments video audio,
      (BuildCall.global caller (.concat segments video audio)).reserved =
        max 1 (video + audio) := by
  refine ⟨fun as t p hp => ⟨?_, fun start rs seed h hseed => ?_⟩, BuildCall.reserved_concat⟩
  · obtain ⟨owner, labels, config, rs, h⟩ := exists_life hp
    exact ⟨owner, labels, config, rs, h, fun _ _ h' => h'.unique h⟩
  · obtain rfl : p = start.after rs := Option.some.inj (hp.symm.trans h.getElem?)
    obtain ⟨hgenerated, hlabels⟩ := start.generated_eq_take rs
    rw [hseed] at hgenerated hlabels
    refine ⟨rfl, hgenerated, hlabels, ?_⟩
    rintro since u own rfl rfl
    constructor
    · have hcopy := h.copied.later since
      rwa [List.append_assoc] at hcopy
    · obtain ⟨hown, -⟩ := (start.after rs).generated_eq_take
        ((run (as ++ [.copy t])).requests (run as).pipelines.length since)
      rw [hown, hlabels, start.labelsDrawn_append, LabelGenerator.drop_take_add]

/-- A call that fails, a concatenation of one segment with video and audio, a question and a
reset. -/
def seededRequests : List Request :=
  [.build (.input "a.mp4"), .build (.global [] (.concat 1 1 1)),
    .build (.global [.node ⟨0, 0, .input⟩, .stream ⟨0, 0, .input⟩ .audio] (.concat 1 1 1)),
    .query .graph, .reset 1, .build (.input "b.mp4")]

def seededRun : List Action :=
  .create (.seeded 7) {} :: seededRequests.map fun
    | .reset _ => .reset 0
    | .build call => .build 0 call
    | .query q => .query 0 q

/-- A step that the original takes after the copy was taken, and then the copy. -/
def forkedStep : BuildCall :=
  .filter [.node ⟨1, 0, .input⟩] { name := "scale", params := [("w", "640")] }

theorem generated_labels_of_seed_seededRun :
    ∃ start, start.labels = .seeded 7 ∧ Life seededRun 0 start seededRequests ∧
      start.generated seededRequests = [⟨"tbhpd"⟩, ⟨"gYBFo"⟩] ∧
      Life (seededRun ++ [.copy 0, .build 0 forkedStep, .build 1 forkedStep]) 1 start
        (seededRequests ++ [.build forkedStep]) ∧
      (start.after seededRequests).generated [.build forkedStep] = [⟨"JUDiM"⟩] := by
  have h : Life seededRun 0 (.create 0 (.seeded 7) {}) seededRequests :=
    (Life.created [] (.seeded 7) {}).later seededRun.tail
  obtain ⟨hlives, -⟩ := generated_labels_of_seed
  obtain ⟨-, hseeded⟩ := hlives seededRun 0 _ h.getElem?
  obtain ⟨-, hgenerated, -, hcopy⟩ := hseeded _ _ 7 h rfl
  obtain ⟨hlife, hown⟩ :=
    hcopy [.build 0 forkedStep, .build 1 forkedStep] 1 [.build forkedStep] rfl rfl
  refine ⟨_, rfl, h, hgenerated.trans ?_, hlife, hown.trans ?_⟩
  · decide +kernel
  · decide +kernel

end MediaPipeline
