import Mathlib.Data.List.Induction
import MediaPipeline.Graph.Workspace
import MediaPipeline.Proofs.Pipeline.Requests

/-!
Runs of a client over a workspace. An action creates, copies or empties a pipeline, makes a building
call on one or asks one something, and a run is any sequence of actions. What one action does to
each pipeline is said once, by `Became`: a building call adds a node or changes nothing, an emptied
pipeline starts over under the next stamp, and all others stay as they are.
-/

namespace MediaPipeline

/-! ### Actions and runs -/

/-- One thing a client does. Pipelines are given by number. -/
inductive Action where
  | create (labels : LabelGenerator) (config : PipelineConfig)
  | copy (number : Nat)
  | reset (number : Nat)
  | build (number : Nat) (call : BuildCall)
  | query (number : Nat) (query : Query)

namespace Action

/-- The pipeline whose nodes an action may change. -/
def target? : Action → Option Nat
  | reset k => some k
  | build k _ => some k
  | _ => none

/-- Whether an action takes an owner stamp. -/
def drawsStamp : Action → Bool
  | create _ _ => true
  | reset _ => true
  | _ => false

end Action

/-- Number of owner stamps that a run takes. -/
def stampsDrawn (as : List Action) : Nat :=
  as.countP Action.drawsStamp

namespace Workspace

/-- The answer of pipeline `t`. -/
def ask (w : Workspace) (t : Nat) (q : Query) : Option Answer :=
  w.pipelines[t]?.map fun p => q.answer p

def step (w : Workspace) : Action → Reply × Workspace
  | .create labels config => (.done, w.create labels config)
  | .copy k => (.done, w.copy k)
  | .reset k => (.done, w.reset k)
  | .build k call =>
    let (outcome, w) := w.build k fun p => call.perform p
    (.built outcome, w)
  | .query k q => (.answered (w.ask k q), w)

/-- The workspace after an action. -/
def next (w : Workspace) (a : Action) : Workspace :=
  (w.step a).2

def after (w : Workspace) (as : List Action) : Workspace :=
  as.foldl next w

@[simp] theorem after_nil (w : Workspace) : w.after [] = w := rfl

@[simp] theorem after_cons (w : Workspace) (a : Action) (as : List Action) :
    w.after (a :: as) = (w.next a).after as := rfl

@[simp] theorem after_append (w : Workspace) (as bs : List Action) :
    w.after (as ++ bs) = (w.after as).after bs :=
  List.foldl_append

end Workspace

/-- The workspace after a run from the beginning. -/
def run (as : List Action) : Workspace :=
  Workspace.empty.after as

@[simp] theorem run_append (as bs : List Action) : run (as ++ bs) = (run as).after bs :=
  Workspace.after_append ..

theorem run_concat (as : List Action) (a : Action) : run (as ++ [a]) = (run as).next a := by
  rw [run_append, Workspace.after_cons, Workspace.after_nil]

/-! ### One step -/

theorem getElem?_concat_cases {α : Type} {xs : List α} {x y : α} {i : Nat}
    (h : (xs ++ [x])[i]? = some y) : xs[i]? = some y ∨ i = xs.length ∧ y = x := by
  rw [List.getElem?_append] at h
  split at h
  · exact .inl h
  · obtain ⟨hi, hy⟩ := List.getElem?_eq_some_iff.mp h
    rw [List.length_singleton] at hi
    rw [List.getElem_singleton] at hy
    exact .inr ⟨by omega, hy.symm⟩

/-- How pipeline `t` comes to be `q` when action `a` is done in `w`. -/
inductive Became (w : Workspace) : Action → Nat → Pipeline → Prop
  | created (labels : LabelGenerator) (config : PipelineConfig) :
    Became w (.create labels config) w.pipelines.length (.create w.nextOwner labels config)
  | copied {k : Nat} {p : Pipeline} : w.pipelines[k]? = some p →
    Became w (.copy k) w.pipelines.length p
  | emptied {t : Nat} {p : Pipeline} : w.pipelines[t]? = some p →
    Became w (.reset t) t (p.reset w.nextOwner)
  | built {t : Nat} {p : Pipeline} (call : BuildCall) : w.pipelines[t]? = some p →
    Became w (.build t call) t (call.perform p).2
  | kept {a : Action} {t : Nat} {p : Pipeline} : w.pipelines[t]? = some p → a.target? ≠ some t →
    Became w a t p

theorem getElem?_modify_cases {α : Type} {xs : List α} {f : α → α} {k i : Nat} {y : α}
    (h : (xs.modify k f)[i]? = some y) :
    (k = i ∧ ∃ x, xs[i]? = some x ∧ f x = y) ∨ (k ≠ i ∧ xs[i]? = some y) := by
  by_cases hk : k = i
  · subst hk
    rw [List.getElem?_modify_eq] at h
    exact .inl ⟨rfl, Option.map_eq_some_iff.mp h⟩
  · rw [List.getElem?_modify_ne _ _ hk] at h
    exact .inr ⟨hk, h⟩

namespace Workspace

variable {w : Workspace} {a : Action} {t : Nat} {q : Pipeline}

theorem next_create (w : Workspace) (labels : LabelGenerator) (config : PipelineConfig) :
    (w.next (.create labels config)).pipelines =
      w.pipelines ++ [.create w.nextOwner labels config] := rfl

theorem next_copy_of_some {k : Nat} {p : Pipeline} (hk : w.pipelines[k]? = some p) :
    (w.next (.copy k)).pipelines = w.pipelines ++ [p] := by
  simp only [next, step, copy, hk, Option.toList_some]

theorem next_copy_of_none {k : Nat} (hk : w.pipelines[k]? = none) :
    (w.next (.copy k)).pipelines = w.pipelines := by
  simp only [next, step, copy, hk, Option.toList_none, List.append_nil]

theorem next_reset (w : Workspace) (k : Nat) :
    (w.next (.reset k)).pipelines = w.pipelines.modify k fun p => p.reset w.nextOwner := rfl

theorem next_build (w : Workspace) (k : Nat) (call : BuildCall) :
    (w.next (.build k call)).pipelines = w.pipelines.modify k fun p => (call.perform p).2 := by
  cases hk : w.pipelines[k]? with
  | none =>
      have hlen : w.pipelines.length ≤ k := List.getElem?_eq_none_iff.mp hk
      simp only [next, step, build, hk, List.modify_eq_self hlen]
  | some p =>
      obtain ⟨hlt, rfl⟩ := List.getElem?_eq_some_iff.mp hk
      refine List.ext_getElem? fun t => ?_
      simp only [next, step, build, hk, List.getElem?_modify]
      by_cases ht : k = t
      · subst ht
        simp [hlt]
      · simp [ht]

/-- `Became` tells all that a step can do to a pipeline. -/
theorem became_of_next (h : (w.next a).pipelines[t]? = some q) : Became w a t q := by
  cases a with
  | create labels config =>
      obtain h | ⟨rfl, rfl⟩ := getElem?_concat_cases h
      · exact .kept h nofun
      · exact .created labels config
  | copy k =>
      cases hk : w.pipelines[k]? with
      | none =>
          rw [next_copy_of_none hk] at h
          exact .kept h nofun
      | some p =>
          rw [next_copy_of_some hk] at h
          obtain h | ⟨rfl, rfl⟩ := getElem?_concat_cases h
          · exact .kept h nofun
          · exact .copied hk
  | reset k =>
      rw [next_reset] at h
      obtain ⟨rfl, p, hp, rfl⟩ | ⟨hk, h⟩ := getElem?_modify_cases h
      · exact .emptied hp
      · exact .kept h fun ht => hk (Option.some.inj ht)
  | build k call =>
      rw [next_build] at h
      obtain ⟨rfl, p, hp, rfl⟩ | ⟨hk, h⟩ := getElem?_modify_cases h
      · exact .built call hp
      · exact .kept h fun ht => hk (Option.some.inj ht)
  | query k q => exact .kept h nofun

end Workspace

theorem Became.getElem?_next {w : Workspace} {a : Action} {t : Nat} {q : Pipeline}
    (h : Became w a t q) : (w.next a).pipelines[t]? = some q := by
  cases h with
  | created labels config => rw [Workspace.next_create, List.getElem?_concat_length]
  | copied hk => rw [Workspace.next_copy_of_some hk, List.getElem?_concat_length]
  | emptied ht => rw [Workspace.next_reset, List.getElem?_modify_eq, ht]; rfl
  | built call ht => rw [Workspace.next_build, List.getElem?_modify_eq, ht]; rfl
  | kept ht hne =>
      obtain ⟨hlt, rfl⟩ := List.getElem?_eq_some_iff.mp ht
      cases a with
      | create labels config => rw [Workspace.next_create, List.getElem?_append_left hlt, ht]
      | copy k =>
          cases hk : w.pipelines[k]? with
          | none => rw [Workspace.next_copy_of_none hk, ht]
          | some p => rw [Workspace.next_copy_of_some hk, List.getElem?_append_left hlt, ht]
      | reset k =>
          have hk : k ≠ t := fun hk => hne (congrArg some hk)
          rw [Workspace.next_reset, List.getElem?_modify_ne _ _ hk, ht]
      | build k call =>
          have hk : k ≠ t := fun hk => hne (congrArg some hk)
          rw [Workspace.next_build, List.getElem?_modify_ne _ _ hk, ht]
      | query k q => exact ht

/-- What new pipelines have, and resets and building calls keep, every pipeline of a run has. -/
theorem forall_run {P : Pipeline → Prop}
    (hcreate : ∀ owner labels config, P (.create owner labels config))
    (hreset : ∀ p owner, P p → P (p.reset owner))
    (hcall : ∀ p call n, P p → BuildCall.Stores p call n → P (call.result p n))
    {as : List Action} {t : Nat} {p : Pipeline} (hp : (run as).pipelines[t]? = some p) : P p := by
  induction as using List.reverseRecOn generalizing t p with
  | nil => simp [run, Workspace.empty] at hp
  | append_singleton as a ih =>
      rw [run_concat] at hp
      cases Workspace.became_of_next hp with
      | created labels config => exact hcreate _ labels config
      | copied hk => exact ih hk
      | emptied ht => exact hreset _ _ (ih ht)
      | @built _ p call ht =>
          obtain ⟨e, he⟩ | ⟨n, hstores, hn⟩ := call.fails_or_stores p
          · rw [he]
            exact ih ht
          · rw [hn]
            exact hcall p call n (ih ht) hstores
      | kept ht _ => exact ih ht

end MediaPipeline
