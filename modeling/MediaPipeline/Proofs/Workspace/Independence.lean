import Mathlib.Data.Set.Function
import MediaPipeline.Proofs.Pipeline.Dependence
import MediaPipeline.Proofs.Workspace.Handles
import MediaPipeline.Proofs.Workspace.Lives

/-!
Pipelines that were created apart do not interfere. What a pipeline replies is a matter of the
requests made to it and of the generator it was created with; the stamps it happens to get show only
in the handles it returns. So the requests of a run to one pipeline, made to a pipeline that is alone
in its workspace, get the same replies, with the stamps counted from zero.
-/

namespace MediaPipeline

/-! ### Requests under other stamps -/

def Query.restamp (σ : UInt64 → UInt64) : Query → Query
  | get h => .get (h.restamp σ)
  | resolve link => .resolve (link.restamp σ)
  | graph => .graph
  | command root => .command (root.restamp σ)
  | run root execute => .run (root.restamp σ) execute

/-- The request with all stamps replaced. -/
def Request.restamp (σ : UInt64 → UInt64) : Request → Request
  | reset owner => .reset (σ owner)
  | build call => .build (call.restamp σ)
  | query q => .query (q.restamp σ)

/-- The reply with its stamp replaced; only the reply to a building call has one. -/
def Reply.restamp (σ : UInt64 → UInt64) : Reply → Reply
  | done => .done
  | built outcome => .built (outcome.map fun o => o.map (Handle.restamp σ))
  | answered answer => .answered answer

/-- All handles among the arguments of a question. -/
def Query.handles : Query → List Handle
  | get h => [h]
  | resolve link => link.handle?.toList
  | graph => []
  | command root => [root]
  | run root _ => [root]

def Request.handles : Request → List Handle
  | reset _ => []
  | build call => call.handles
  | query q => q.handles

/-- The stamp that comes with a request. -/
def Request.stamp? : Request → Option UInt64
  | reset owner => some owner
  | _ => none

/-- `q` is `p` under the stamp that stands for that of `p`. The generators may differ. -/
structure Pipeline.Twin (σ : UInt64 → UInt64) (p q : Pipeline) : Prop where
  owner : q.owner = σ p.owner
  nodes : q.nodes = p.nodes
  inputCount : q.inputCount = p.inputCount
  config : q.config = p.config

section

variable {σ : UInt64 → UInt64} {stamps : Set UInt64} {p q : Pipeline}

/-- Twins find the same by a handle if no two stamps are taken for one. -/
theorem Pipeline.Twin.get? (ht : p.Twin σ q) (hσ : Set.InjOn σ stamps) (hp : p.owner ∈ stamps)
    {h : Handle} (hh : h.owner ∈ stamps) : q.get? (h.restamp σ) = p.get? h := by
  have howner : σ h.owner = q.owner ↔ h.owner = p.owner := by
    rw [ht.owner]
    exact hσ.eq_iff hh hp
  unfold Pipeline.get? Handle.restamp
  exact if_congr howner (by rw [ht.nodes]) rfl

theorem Pipeline.Twin.answer (ht : p.Twin σ q) (hσ : Set.InjOn σ stamps) (hp : p.owner ∈ stamps)
    {query : Query} (hh : ∀ h ∈ query.handles, h.owner ∈ stamps) :
    (query.restamp σ).answer q = query.answer p := by
  have hcommand : ∀ root : Handle, root.owner ∈ stamps →
      q.command (root.restamp σ) = p.command root := by
    intro root hroot
    simp only [Pipeline.command, ht.get? hσ hp hroot, ht.nodes, ht.config]
  cases query with
  | get h => simp only [Query.restamp, Query.answer, ht.get? hσ hp (hh h (List.mem_singleton_self h))]
  | resolve link =>
      have hlink : q.resolve (link.restamp σ) = p.resolve link :=
        Pipeline.resolve_restamp fun r hr => ht.get? hσ hp (hh r (by simp [Query.handles, hr]))
      simp only [Query.restamp, Query.answer, hlink]
  | graph => simp only [Query.restamp, Query.answer, ht.nodes]
  | command root =>
      simp only [Query.restamp, Query.answer, hcommand root (hh root (List.mem_singleton_self root))]
  | run root execute =>
      simp only [Query.restamp, Query.answer, Pipeline.run,
        hcommand root (hh root (List.mem_singleton_self root))]
      cases p.command root with
      | error e => rfl
      | ok command =>
          have houtcome : q.outcome = p.outcome := by
            funext o
            cases o <;> simp only [Pipeline.outcome, ht.config]
          simp only [houtcome]

/-- A call does to twins the same and returns the same, under their stamps. -/
theorem Pipeline.Twin.perform (ht : p.Twin σ q) (hσ : Set.InjOn σ stamps) (hp : p.owner ∈ stamps)
    {call : BuildCall} (hh : ∀ h ∈ call.handles, h.owner ∈ stamps)
    (hlabels : q.labels = p.labels ∨ call.reserved = 0) :
    ((call.restamp σ).perform q).1 = (call.perform p).1.map (Handle.restamp σ) ∧
      (call.perform p).2.Twin σ ((call.restamp σ).perform q).2 ∧
      (q.labels = p.labels → ((call.restamp σ).perform q).2.labels = (call.perform p).2.labels) := by
  have hchecks : (call.restamp σ).checks q = call.checks p :=
    BuildCall.checks_restamp fun r hr => ht.get? hσ hp (hh r hr)
  have hnode : ∀ resolved, (call.restamp σ).node q resolved = call.node p resolved := fun _ =>
    BuildCall.node_restamp (fun _ => ht.inputCount) fun hr => hlabels.resolve_right hr
  rw [BuildCall.perform_eq, BuildCall.perform_eq, hchecks]
  cases call.checks p with
  | error e => exact ⟨rfl, ht, fun h => h⟩
  | ok resolved =>
      simp only [hnode, BuildCall.kind_restamp, ht.owner, ht.nodes]
      refine ⟨rfl, ⟨ht.owner, ?_, ?_, ht.config⟩, fun h => ?_⟩
      · simp only [BuildCall.result, Pipeline.add, ht.nodes]
      · simp only [BuildCall.result, Pipeline.add, ht.inputCount]
      · simp only [BuildCall.result, Pipeline.add, BuildCall.reserved_restamp, h]

/-- Twins give the same replies, under their stamps, to the same requests. -/
theorem Pipeline.Twin.trace (ht : p.Twin σ q) (hσ : Set.InjOn σ stamps) (hp : p.owner ∈ stamps)
    {rs : List Request} (hh : ∀ r ∈ rs, ∀ h ∈ r.handles, h.owner ∈ stamps)
    (hstamps : ∀ s ∈ rs.filterMap Request.stamp?, s ∈ stamps)
    (hlabels : q.labels = p.labels ∨ ∀ call, .build call ∈ rs → call.reserved = 0) :
    (q.trace (rs.map (Request.restamp σ))).map Transition.reply =
        ((p.trace rs).map Transition.reply).map (Reply.restamp σ) ∧
      (p.after rs).Twin σ (q.after (rs.map (Request.restamp σ))) := by
  induction rs generalizing p q with
  | nil => exact ⟨rfl, ht⟩
  | cons r rs ih =>
      have hh' : ∀ r' ∈ rs, ∀ h ∈ r'.handles, h.owner ∈ stamps := fun r' hr' =>
        hh r' (List.mem_cons_of_mem _ hr')
      have hlater : (∀ call, .build call ∈ r :: rs → call.reserved = 0) →
          ∀ call, .build call ∈ rs → call.reserved = 0 := fun hl call hcall =>
        hl call (List.mem_cons_of_mem _ hcall)
      simp only [List.map_cons, trace_cons, after_cons, List.cons.injEq]
      cases r with
      | reset owner =>
          have htwin : (p.reset owner).Twin σ (q.reset (σ owner)) :=
            ⟨rfl, rfl, rfl, ht.config⟩
          obtain ⟨hreplies, hafter⟩ := ih htwin (hstamps owner (by simp [Request.stamp?])) hh'
            (fun s hs => hstamps s (by simp [Request.stamp?, hs])) (hlabels.imp id hlater)
          exact ⟨⟨rfl, hreplies⟩, hafter⟩
      | build call =>
          obtain ⟨hreply, htwin, hsame⟩ := ht.perform hσ hp (hh (.build call) List.mem_cons_self)
            (hlabels.imp id fun hl => hl call List.mem_cons_self)
          obtain ⟨hreplies, hafter⟩ := ih htwin ((call.grew p).owner ▸ hp) hh'
            (fun s hs => hstamps s (by simpa [Request.stamp?] using hs)) (hlabels.imp hsame hlater)
          refine ⟨⟨?_, hreplies⟩, hafter⟩
          simp only [Request.restamp, Request.on, Reply.restamp, hreply, Option.map_some]
      | query query =>
          have hanswer := ht.answer hσ hp (hh (.query query) List.mem_cons_self)
          obtain ⟨hreplies, hafter⟩ := ih ht hp hh'
            (fun s hs => hstamps s (by simpa [Request.stamp?] using hs)) (hlabels.imp id hlater)
          refine ⟨⟨?_, hreplies⟩, hafter⟩
          simp only [Request.restamp, Request.on, Reply.restamp, hanswer]

end

/-! ### Stamps of a pipeline -/

/-- The stamps that a pipeline has over some requests, one after the other. -/
def Pipeline.stamps (p : Pipeline) (rs : List Request) : List UInt64 :=
  p.owner :: rs.filterMap Request.stamp?

/-- The place of a stamp among those of the pipeline: the number of resets before it. -/
def Pipeline.epoch (p : Pipeline) (rs : List Request) (s : UInt64) : UInt64 :=
  .ofNat ((p.stamps rs).idxOf s)

/-- A handle that is returned has one of the stamps of the pipeline. -/
theorem Pipeline.owner_mem_stamps {p : Pipeline} {rs : List Request} {h : Handle}
    (hh : .built (some (.ok h)) ∈ (p.trace rs).map Transition.reply) : h.owner ∈ p.stamps rs := by
  induction rs generalizing p with
  | nil => simp at hh
  | cons r rs ih =>
      rw [trace_cons, List.map_cons, List.mem_cons] at hh
      obtain hh | hh := hh
      · cases r with
        | reset owner => cases hh
        | query q => cases hh
        | build call =>
            obtain ⟨e, he⟩ | ⟨n, q, hq, -⟩ := call.perform_cases p
            · simp [Request.on, he] at hh
            · simp only [Request.on, hq, Reply.built.injEq, Option.some.injEq, Except.ok.injEq] at hh
              exact hh ▸ List.mem_cons_self
      · have hmem := ih hh
        cases r with
        | reset owner => exact List.mem_cons_of_mem _ hmem
        | query q => exact hmem
        | build call =>
            rwa [Request.on, stamps, (call.grew p).owner] at hmem

namespace Workspace

variable {w : Workspace} {t : Nat}

/-- The replies of pipeline `t` to the requests that some actions make to it. -/
def replies (w : Workspace) (t : Nat) : List Action → List Reply
  | [] => []
  | a :: as =>
    (if (a.request? w.nextOwner t).isSome then [(w.step a).1] else []) ++ (w.next a).replies t as

/-- What a pipeline replies is a matter of the requests made to it alone. -/
theorem replies_eq {p : Pipeline} (hp : w.pipelines[t]? = some p) (as : List Action) :
    w.replies t as = (p.trace (w.requests t as)).map Transition.reply := by
  induction as generalizing w p with
  | nil => rfl
  | cons a as ih =>
      have hnext := getElem?_next hp a
      rw [replies, requests, ih hnext, Pipeline.trace_append, List.map_append]
      congr 1
      cases a with
      | create labels config | copy k => rfl
      | reset k =>
          by_cases hk : k = t
          · subst hk
            simp [Action.request?, step, Request.on]
          · simp [Action.request?, hk]
      | build k call =>
          by_cases hk : k = t
          · subst hk
            simp [Action.request?, step_build_fst hp, Request.on]
          · simp [Action.request?, hk]
      | query k q =>
          by_cases hk : k = t
          · subst hk
            simp [Action.request?, step, ask, hp, Request.on]
          · simp [Action.request?, hk]

/-- The stamps that requests come with are taken one after the other, from the next one on, and are
no more than all that are taken. -/
theorem pairwise_stamps {d : Nat} {as : List Action} (hw : w.nextOwner.toNat = d)
    (hd : d + stampsDrawn as < 2 ^ 64) :
    ((w.requests t as).filterMap Request.stamp?).Pairwise (fun a b => a.toNat < b.toNat) ∧
      (∀ s ∈ (w.requests t as).filterMap Request.stamp?, d ≤ s.toNat) ∧
      ((w.requests t as).filterMap Request.stamp?).length ≤ stampsDrawn as := by
  induction as generalizing w d with
  | nil => exact ⟨.nil, by simp [requests], Nat.zero_le _⟩
  | cons a as ih =>
      have hdraws : stampsDrawn (a :: as) = stampsDrawn [a] + stampsDrawn as :=
        stampsDrawn_append [a] as
      have hone : stampsDrawn [a] < UInt64.size :=
        Nat.lt_of_le_of_lt List.countP_le_length (show 1 < UInt64.size by decide)
      have hnext : (w.next a).nextOwner.toNat = d + stampsDrawn [a] := by
        rw [nextOwner_next, UInt64.toNat_add, hw, UInt64.toNat_ofNat_of_lt' hone]
        exact Nat.mod_eq_of_lt (by omega)
      obtain ⟨hrest, hge, hlength⟩ := ih hnext (by omega)
      rw [requests, List.filterMap_append]
      by_cases ha : a = .reset t
      · subst ha
        have hreset : stampsDrawn [.reset t] = 1 := rfl
        have hstamp : ((Action.reset t).request? w.nextOwner t).toList.filterMap Request.stamp? =
            [w.nextOwner] := by simp [Action.request?, Request.stamp?]
        rw [hstamp, List.singleton_append, List.pairwise_cons, List.forall_mem_cons,
          List.length_cons]
        refine ⟨⟨fun s hs => ?_, hrest⟩, ⟨Nat.le_of_eq hw.symm, fun s hs => ?_⟩, by omega⟩
        · have hs := hge s hs
          omega
        · have hs := hge s hs
          omega
      · have hnone : (a.request? w.nextOwner t).toList.filterMap Request.stamp? = [] := by
          cases a with
          | reset k =>
              have hk : k ≠ t := fun hk => ha (hk ▸ rfl)
              simp [Action.request?, hk]
          | create labels config | copy k => rfl
          | build k call | query k q =>
              by_cases hk : k = t <;> simp [Action.request?, hk, Request.stamp?]
        rw [hnone, List.nil_append]
        exact ⟨hrest, fun s hs => Nat.le_trans (Nat.le_add_right ..) (hge s hs), by omega⟩

end Workspace

namespace Pipeline

variable {p : Pipeline} {rs : List Request}

theorem epoch_injOn (h : (p.stamps rs).length ≤ UInt64.size) :
    Set.InjOn (p.epoch rs) {s | s ∈ p.stamps rs} := by
  intro a ha b hb hab
  have hidx : ∀ s ∈ p.stamps rs, (p.stamps rs).idxOf s < UInt64.size := fun s hs =>
    Nat.lt_of_lt_of_le (List.idxOf_lt_length_iff.mpr hs) h
  have heq := congrArg UInt64.toNat hab
  rw [epoch, epoch, UInt64.toNat_ofNat_of_lt' (hidx a ha),
    UInt64.toNat_ofNat_of_lt' (hidx b hb)] at heq
  exact (List.idxOf_inj ha).mp heq

theorem epoch_eq (h : (p.stamps rs).Nodup) {j : Nat} {s : UInt64}
    (hs : (p.stamps rs)[j]? = some s) : p.epoch rs s = .ofNat j := by
  obtain ⟨hj, rfl⟩ := List.getElem?_eq_some_iff.mp hs
  rw [epoch, h.idxOf_getElem]

end Pipeline

/-! ### Alone -/

/-- The request as it is made to a pipeline that is alone in its workspace. -/
def Request.alone (σ : UInt64 → UInt64) : Request → Action
  | reset _ => .reset 0
  | build call => .build 0 (call.restamp σ)
  | query q => .query 0 (q.restamp σ)

/-- Alone, resets take one stamp after the other. -/
theorem requests_alone {σ : UInt64 → UInt64} {w : Workspace} {rs : List Request}
    (hσ : ∀ (j : Nat) s, (rs.filterMap Request.stamp?)[j]? = some s →
      σ s = w.nextOwner + .ofNat j) :
    w.requests 0 (rs.map (Request.alone σ)) = rs.map (Request.restamp σ) := by
  induction rs generalizing w with
  | nil => rfl
  | cons r rs ih =>
      rw [List.map_cons, Workspace.requests, List.map_cons]
      cases r with
      | reset owner =>
          have howner : σ owner = w.nextOwner := by
            rw [hσ 0 owner rfl]
            exact UInt64.add_zero _
          rw [ih fun j s hs => ?_]
          · simp [Request.alone, Action.request?, Request.restamp, howner]
          · rw [hσ (j + 1) s hs, UInt64.ofNat_add, UInt64.add_comm (.ofNat j), ← UInt64.add_assoc]
            rfl
      | build call =>
          rw [ih fun j s hs => ?_]
          · simp [Request.alone, Action.request?, Request.restamp]
          · rw [Workspace.nextOwner_next, hσ j s hs]
            exact congrArg (· + _) (UInt64.add_zero _).symm
      | query q =>
          rw [ih fun j s hs => ?_]
          · simp [Request.alone, Action.request?, Request.restamp]
          · exact hσ j s hs

/-- The stamps of a pipeline that was created are all different. -/
theorem stamps_nodup {past since : List Action} {labels : LabelGenerator} {config : PipelineConfig}
    {t : Nat} {start : Pipeline} {rs : List Request}
    (hd : stampsDrawn (past ++ .create labels config :: since) < 2 ^ 64)
    (hstart : start = .create (run past).nextOwner labels config)
    (hrs : rs = (run (past ++ [.create labels config])).requests t since) :
    (start.stamps rs).Nodup ∧ (start.stamps rs).length ≤ UInt64.size := by
  have hlast : stampsDrawn past + 1 + stampsDrawn since < UInt64.size := by
    rwa [List.append_cons, stampsDrawn_append, stampsDrawn_concat rfl] at hd
  have howner : start.owner.toNat = stampsDrawn past := by
    rw [hstart, show (Pipeline.create _ labels config).owner = _ from nextOwner_run past]
    exact UInt64.toNat_ofNat_of_lt' (by omega)
  have hnext : (run (past ++ [.create labels config])).nextOwner.toNat = stampsDrawn past + 1 := by
    rw [nextOwner_run, stampsDrawn_concat rfl]
    exact UInt64.toNat_ofNat_of_lt' (by omega)
  obtain ⟨hpairwise, hge, hlength⟩ := Workspace.pairwise_stamps (t := t) hnext hlast
  rw [← hrs] at hpairwise hge hlength
  constructor
  · refine List.nodup_cons.mpr ⟨fun hmem => ?_, hpairwise.imp fun hlt heq => ?_⟩
    · have hle := hge _ hmem
      omega
    · exact Nat.lt_irrefl _ (heq ▸ hlt)
  · rw [Pipeline.stamps, List.length_cons]
    omega

/-- Whatever is done to other pipelines, and in whatever order, a pipeline that was created on its
own and is asked with handles that it returned gives the replies that it gives alone, up to the
stamps in the handles, and it comes to hold the same nodes. The generator may be another one if no
label is taken from it. -/
theorem pipelines_do_not_interfere {past since : List Action} {labels labels' : LabelGenerator}
    {config : PipelineConfig} {t : Nat} {w : Workspace} {rs : List Request}
    {σ : UInt64 → UInt64} (hd : stampsDrawn (past ++ .create labels config :: since) < 2 ^ 64)
    (ht : t = (run past).pipelines.length) (hw : w = run (past ++ [.create labels config]))
    (hrs : rs = w.requests t since)
    (hσ : σ = (Pipeline.create (run past).nextOwner labels config).epoch rs)
    (hown : ∀ r ∈ rs, ∀ h ∈ r.handles, .built (some (.ok h)) ∈ w.replies t since)
    (hlabels : labels' = labels ∨ ∀ call, .build call ∈ rs → call.reserved = 0) :
    (run [.create labels' config]).replies 0 (rs.map (Request.alone σ)) =
        (w.replies t since).map (Reply.restamp σ) ∧
      ∃ p q, (w.after since).pipelines[t]? = some p ∧
        (run (.create labels' config :: rs.map (Request.alone σ))).pipelines[0]? = some q ∧
        q.nodes = p.nodes ∧ q.inputCount = p.inputCount ∧ q.config = p.config := by
  let start := Pipeline.create (run past).nextOwner labels config
  have hstart : w.pipelines[t]? = some start := by
    rw [hw, ht, run_concat]
    exact (Became.created labels config).getElem?_next
  have halone : (run [.create labels' config]).pipelines[0]? =
      some (.create 0 labels' config) := rfl
  have hstamps : (start.stamps rs).Nodup ∧ (start.stamps rs).length ≤ UInt64.size :=
    stamps_nodup hd rfl (hw ▸ hrs)
  obtain ⟨hnodup, hlength⟩ := hstamps
  have hinj : Set.InjOn σ {s | s ∈ start.stamps rs} := hσ ▸ Pipeline.epoch_injOn hlength
  -- Alone, a pipeline has the stamp 0, and its resets take the next ones without a gap.
  have hrequests : (run [.create labels' config]).requests 0 (rs.map (Request.alone σ)) =
      rs.map (Request.restamp σ) := by
    refine requests_alone fun j s hs => ?_
    rw [hσ, Pipeline.epoch_eq (j := j + 1) hnodup hs, UInt64.ofNat_add, UInt64.add_comm]
    rfl
  have htwin : start.Twin σ (.create 0 labels' config) := by
    refine ⟨?_, rfl, rfl, rfl⟩
    rw [hσ, Pipeline.epoch_eq (j := 0) hnodup rfl]
    rfl
  have hreplies := Workspace.replies_eq hstart since
  rw [← hrs] at hreplies
  obtain ⟨htrace, hafter⟩ := htwin.trace hinj List.mem_cons_self
    (fun r hr h hh => Pipeline.owner_mem_stamps (hreplies ▸ hown r hr h hh))
    (fun s hs => List.mem_cons_of_mem _ hs) hlabels
  refine ⟨?_, _, _, Workspace.getElem?_after hstart since,
    Workspace.getElem?_after halone (rs.map (Request.alone σ)), ?_⟩
  · rw [Workspace.replies_eq halone, hrequests, htrace, hreplies]
  · rw [hrequests, ← hrs]
    exact ⟨hafter.nodes, hafter.inputCount, hafter.config⟩

/-- What is done after pipeline 1 was created: to it, with a handle from before its reset among the
rest, and in between to pipeline 0 and to one more. -/
def interleavedActions : List Action :=
  [.build 1 (.input "a.mp4"), .build 0 (.input "x.mp4"), .reset 0, .reset 1,
    .build 1 (.output [.node ⟨1, 0, .input⟩] "old.mp4"), .create (.seeded 3) {},
    .build 1 (.input "b.mp4"), .build 2 (.input "y.mp4"),
    .build 1 (.output [.node ⟨3, 0, .input⟩] "out.mp4"), .query 1 (.command ⟨3, 1, .output⟩)]

/-- What pipeline 1 replies to them. -/
def interleavedReplies : List Reply :=
  [.built (some (.ok ⟨1, 0, .input⟩)), .done,
    .built (some (.error (.invalidCaller .output (.foreign 0)))),
    .built (some (.ok ⟨3, 0, .input⟩)), .built (some (.ok ⟨3, 1, .output⟩)),
    .answered (some (.command (.ok "ffmpeg -y -i b.mp4  out.mp4 ")))]

theorem pipelines_do_not_interfere_interleavedActions :
    stampsDrawn (.create (.seeded 1) {} :: .create (.seeded 7) {} :: interleavedActions) < 2 ^ 64 ∧
    (run [.create (.seeded 1) {}, .create (.seeded 7) {}]).replies 1 interleavedActions =
      interleavedReplies ∧
    (run [.create (.seeded 2) {}]).replies 0
      [.build 0 (.input "a.mp4"), .reset 0, .build 0 (.output [.node ⟨0, 0, .input⟩] "old.mp4"),
        .build 0 (.input "b.mp4"), .build 0 (.output [.node ⟨1, 0, .input⟩] "out.mp4"),
        .query 0 (.command ⟨1, 1, .output⟩)] =
      [.built (some (.ok ⟨0, 0, .input⟩)), .done,
        .built (some (.error (.invalidCaller .output (.foreign 0)))),
        .built (some (.ok ⟨1, 0, .input⟩)), .built (some (.ok ⟨1, 1, .output⟩)),
        .answered (some (.command (.ok "ffmpeg -y -i b.mp4  out.mp4 ")))] := by
  have hd : stampsDrawn ([.create (.seeded 1) {}] ++ .create (.seeded 7) {} :: interleavedActions) <
      2 ^ 64 := by decide
  have hreplies : (run [.create (.seeded 1) {}, .create (.seeded 7) {}]).replies 1
      interleavedActions = interleavedReplies := rfl
  have hrequests : [.build (.input "a.mp4"), .reset 3,
      .build (.output [.node ⟨1, 0, .input⟩] "old.mp4"), .build (.input "b.mp4"),
      .build (.output [.node ⟨3, 0, .input⟩] "out.mp4"), .query (.command ⟨3, 1, .output⟩)] =
      (run [.create (.seeded 1) {}, .create (.seeded 7) {}]).requests 1 interleavedActions := rfl
  have hown : ∀ r ∈ (run [.create (.seeded 1) {}, .create (.seeded 7) {}]).requests 1
      interleavedActions, ∀ h ∈ r.handles, .built (some (.ok h)) ∈ interleavedReplies := by
    rw [← hrequests]
    simp [interleavedReplies, Request.handles, BuildCall.handles, handlesOf, Link.handle?,
      Query.handles]
  have hreserved : ∀ call, .build call ∈ (run [.create (.seeded 1) {},
      .create (.seeded 7) {}]).requests 1 interleavedActions → call.reserved = 0 := by
    rw [← hrequests]
    simp [BuildCall.reserved]
  obtain ⟨halone, -⟩ := @pipelines_do_not_interfere [.create (.seeded 1) {}] interleavedActions
    (.seeded 7) (.seeded 2) {} 1 _ _ _ hd rfl rfl rfl rfl hown (.inr hreserved)
  exact ⟨hd, hreplies, halone.trans (congrArg (List.map _) hreplies)⟩

end MediaPipeline
