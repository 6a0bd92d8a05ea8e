import MediaPipeline.Graph.Command

/-!
The filter graph as a list of clauses. A clause is what one filter or global node says: its sources,
its body and its sinks. The command line writes each clause as a statement that ends in a semicolon
and takes the last semicolon off again; what stands between the quotes is the texts of the clauses
with one semicolon between any two.
-/

namespace MediaPipeline

/-- What one statement of the filter graph says. -/
structure Clause where
  inputs : List Label
  body : String
  outputs : List Label
  deriving DecidableEq

def Clause.text (k : Clause) : String :=
  Label.bracketAll k.inputs ++ " " ++ k.body ++ " " ++ Label.bracketAll k.outputs

def FilterNode.clause (n : FilterNode) : Clause :=
  ⟨n.inputs, n.body, [n.output]⟩

def GlobalNode.clause (n : GlobalNode) : Clause :=
  ⟨n.inputs, n.args, n.outputs⟩

/-- The clauses of a node list in the order in which they are written: all filter nodes but the
last, then the global nodes, then the last filter node. -/
def clauses (nodes : List Node) : List Clause :=
  ((nodes.filterMap Node.filter?).map FilterNode.clause).dropLast ++
    (nodes.filterMap Node.global?).map GlobalNode.clause ++
    ((nodes.filterMap Node.filter?).map FilterNode.clause).getLast?.toList

/-- The texts of the clauses with a semicolon between any two. -/
def graphText (nodes : List Node) : String :=
  String.intercalate ";" ((clauses nodes).map Clause.text)

/-! ### Terminated statements -/

theorem FilterNode.statement_eq (n : FilterNode) : n.statement = n.clause.text ++ ";" := rfl

@[simp] theorem unterminated_append_semicolon (s : String) : unterminated (s ++ ";") = s := by
  simp [unterminated]

/-- Terminated texts in front of one that is not are the texts with semicolons between them. -/
theorem join_terminated {α : Type} (f : α → String) (xs : List α) (t : String) :
    String.join (xs.map fun x => f x ++ ";") ++ t = String.intercalate ";" (xs.map f ++ [t]) := by
  induction xs with
  | nil => simp
  | cons x xs ih =>
      have hne : xs.map f ++ [t] ≠ [] := by simp
      rw [List.map_cons, List.map_cons, List.cons_append, String.intercalate_cons_of_ne_nil hne,
        ← ih]
      simp [String.append_assoc]

theorem clauses_eq {nodes : List Node} {last : FilterNode}
    (hlast : (nodes.filterMap Node.filter?).getLast? = some last) :
    clauses nodes =
      (nodes.filterMap Node.filter?).dropLast.map FilterNode.clause ++
        (nodes.filterMap Node.global?).map GlobalNode.clause ++ [last.clause] := by
  simp [clauses, List.getLast?_map, hlast, List.map_dropLast]

theorem filterGraph_ofNodes {nodes : List Node} {last : FilterNode}
    (hlast : (nodes.filterMap Node.filter?).getLast? = some last) :
    (Partition.ofNodes nodes).filterGraph last = graphText nodes := by
  have hjoin := join_terminated Clause.text
    ((nodes.filterMap Node.filter?).dropLast.map FilterNode.clause ++
      (nodes.filterMap Node.global?).map GlobalNode.clause) last.clause.text
  rw [graphText, clauses_eq hlast, List.map_append, List.map_singleton, ← hjoin,
    Partition.ofNodes_eq, Partition.filterGraph, last.statement_eq, unterminated_append_semicolon]
  simp only [List.map_append, List.map_map, String.join_append]
  rfl

/-! ### The two shapes of a command line -/

theorem compile_of_no_filter {nodes : List Node} (program : String)
    (hnone : nodes.filterMap Node.filter? = []) :
    compile nodes program =
      program ++ " -y" ++ String.join ((nodes.filterMap Node.input?).map InputNode.segment) ++
        String.join ((nodes.filterMap Node.output?).map OutputNode.segment) := by
  simp [compile, Partition.ofNodes_eq, hnone, Partition.directCommand]

/-- What a command line with filters says before its filter graph. -/
def graphPrelude (nodes : List Node) (program : String) : String :=
  program ++ String.join ((nodes.filterMap Node.input?).map InputNode.segment) ++
    String.join ((nodes.filterMap Node.option?).map OptionNode.segment) ++ " -y -filter_complex "

theorem compile_of_filter {nodes : List Node} (program : String)
    (hsome : nodes.filterMap Node.filter? ≠ []) :
    compile nodes program =
      graphPrelude nodes program ++ "\"" ++ graphText nodes ++ "\"" ++
        String.join ((nodes.filterMap Node.output?).map OutputNode.mappings) := by
  have hlast := List.getLast?_eq_some_getLast hsome
  have hquote : " -y -filter_complex \"" = " -y -filter_complex " ++ "\"" := rfl
  have hgraph := filterGraph_ofNodes hlast
  rw [Partition.ofNodes_eq] at hgraph
  simp only [compile, Partition.ofNodes_eq, hlast, Partition.filterCommand, hgraph, hquote,
    graphPrelude, String.append_assoc]

/-! ### The characters of a clause -/

/-- The clause a filter or global node stands for. -/
def Node.clause? : Node → Option Clause
  | .filter n => some n.clause
  | .global n => some n.clause
  | _ => none

/-- The texts that a node puts into the filter graph. -/
def Node.graphTexts : Node → List String
  | .filter n =>
    n.filter :: n.output.text :: (n.inputs.map Label.text ++ n.params.flatMap fun p => [p.1, p.2])
  | .global n => n.args :: (n.inputs ++ n.outputs).map Label.text
  | _ => []

/-- A character is in no label and not in the body. -/
def Clause.Without (c : Char) (k : Clause) : Prop :=
  (∀ l ∈ k.inputs ++ k.outputs, c ∉ l.text.toList) ∧ c ∉ k.body.toList

theorem exists_node_of_mem_clauses {nodes : List Node} {k : Clause} (hk : k ∈ clauses nodes) :
    ∃ n ∈ nodes, n.clause? = some k := by
  have hfilter (hmem : k ∈ (nodes.filterMap Node.filter?).map FilterNode.clause) :
      ∃ n ∈ nodes, n.clause? = some k := by
    obtain ⟨f, hf, rfl⟩ := List.mem_map.mp hmem
    exact ⟨.filter f, by simpa using hf, rfl⟩
  simp only [clauses, List.mem_append, Option.mem_toList] at hk
  rcases hk with (hk | hk) | hk
  · exact hfilter (List.dropLast_subset _ hk)
  · obtain ⟨g, hg, rfl⟩ := List.mem_map.mp hk
    exact ⟨.global g, by simpa using hg, rfl⟩
  · exact hfilter (List.mem_of_getLast? hk)

theorem mem_dropLast_or_getLast? {α : Type} {xs : List α} {x : α} (h : x ∈ xs) :
    x ∈ xs.dropLast ∨ xs.getLast? = some x := by
  have hne := List.ne_nil_of_mem h
  rw [← List.dropLast_concat_getLast hne, List.mem_append, List.mem_singleton] at h
  obtain h | rfl := h
  · exact .inl h
  · exact .inr (List.getLast?_eq_some_getLast hne)

/-- No clause is lost: the last filter clause only moves behind the global ones. -/
theorem mem_clauses {nodes : List Node} {n : Node} {k : Clause} (hn : n ∈ nodes)
    (hk : n.clause? = some k) : k ∈ clauses nodes := by
  simp only [clauses, List.mem_append, Option.mem_toList]
  cases n with
  | filter f =>
      obtain rfl : f.clause = k := by simpa [Node.clause?] using hk
      have hmem : f.clause ∈ (nodes.filterMap Node.filter?).map FilterNode.clause :=
        List.mem_map_of_mem (List.mem_filterMap.mpr ⟨_, hn, rfl⟩)
      obtain h | h := mem_dropLast_or_getLast? hmem
      · exact .inl (.inl h)
      · exact .inr h
  | global g =>
      obtain rfl : g.clause = k := by simpa [Node.clause?] using hk
      have hmem : g.clause ∈ (nodes.filterMap Node.global?).map GlobalNode.clause :=
        List.mem_map_of_mem (List.mem_filterMap.mpr ⟨_, hn, rfl⟩)
      exact .inl (.inr hmem)
  | input _ | option _ | output _ => simp [Node.clause?] at hk

theorem not_mem_intercalate {c : Char} {sep : String} {ts : List String} (hsep : c ∉ sep.toList)
    (hts : ∀ t ∈ ts, c ∉ t.toList) : c ∉ (sep.intercalate ts).toList := by
  induction ts with
  | nil => simp
  | cons t ts ih =>
      have ht := hts t (by simp)
      have hrest := ih (fun u hu => hts u (by simp [hu]))
      by_cases hne : ts = []
      · simpa [hne] using ht
      · rw [String.intercalate_cons_of_ne_nil hne]
        simp only [String.toList_append, List.mem_append, not_or]
        exact ⟨⟨ht, hsep⟩, hrest⟩

theorem FilterNode.not_mem_body {n : FilterNode} {c : Char} (hc : c ≠ '=' ∧ c ≠ ':')
    (hname : c ∉ n.filter.toList) (hparams : ∀ p ∈ n.params, c ∉ p.1.toList ∧ c ∉ p.2.toList) :
    c ∉ n.body.toList := by
  have hall : c ∉ (String.intercalate ":" (n.params.map parameterText)).toList := by
    apply not_mem_intercalate
    · simp [hc.2]
    · intro t ht
      obtain ⟨p, hp, rfl⟩ := List.mem_map.mp ht
      simp [parameterText, hparams p hp, hc.1]
  simp only [FilterNode.body, String.toList_append, List.mem_append, not_or]
  exact ⟨⟨hname, by simp [hc.1]⟩, hall⟩

/-- What the texts of a node are without, its clause is without; `=` and `:` are written between
the parts of a filter's body. -/
theorem Node.clause_without {n : Node} {k : Clause} {c : Char} (hk : n.clause? = some k)
    (hc : c ≠ '=' ∧ c ≠ ':') (htexts : ∀ t ∈ n.graphTexts, c ∉ t.toList) : k.Without c := by
  cases n with
  | filter f =>
      obtain rfl : f.clause = k := by simpa [Node.clause?] using hk
      simp only [Node.graphTexts, List.mem_cons, List.mem_append, List.mem_map,
        List.mem_flatMap] at htexts
      constructor
      · intro l hl
        simp only [FilterNode.clause, List.mem_append, List.mem_singleton] at hl
        rcases hl with hl | rfl
        · exact htexts _ (.inr (.inr (.inl ⟨l, hl, rfl⟩)))
        · exact htexts _ (.inr (.inl rfl))
      · refine FilterNode.not_mem_body hc (htexts _ (.inl rfl)) ?_
        intro p hp
        exact ⟨htexts _ (.inr (.inr (.inr ⟨p, hp, by simp⟩))),
          htexts _ (.inr (.inr (.inr ⟨p, hp, by simp⟩)))⟩
  | global g =>
      obtain rfl : g.clause = k := by simpa [Node.clause?] using hk
      simp only [Node.graphTexts, List.mem_cons, List.mem_map] at htexts
      exact ⟨fun l hl => htexts _ (.inr ⟨l, hl, rfl⟩), htexts _ (.inl rfl)⟩
  | input _ | option _ | output _ => simp [Node.clause?] at hk

theorem Label.not_mem_bracketAll {ls : List Label} {c : Char} (hc : c ≠ '[' ∧ c ≠ ']')
    (hls : ∀ l ∈ ls, c ∉ l.text.toList) : c ∉ (Label.bracketAll ls).toList := by
  simp only [Label.bracketAll, String.toList_join, List.mem_flatMap, List.mem_map]
  rintro ⟨_, ⟨l, hl, rfl⟩, hmem⟩
  simp [Label.bracketed, hc, hls l hl] at hmem

/-- The text of a clause has no further characters than brackets and spaces. -/
theorem Clause.not_mem_text {k : Clause} {c : Char} (hk : k.Without c)
    (hc : c ≠ '[' ∧ c ≠ ']' ∧ c ≠ ' ') : c ∉ k.text.toList := by
  have hinputs := Label.not_mem_bracketAll ⟨hc.1, hc.2.1⟩
    (fun l hl => hk.1 l (List.mem_append_left _ hl))
  have houtputs := Label.not_mem_bracketAll ⟨hc.1, hc.2.1⟩
    (fun l hl => hk.1 l (List.mem_append_right _ hl))
  simp [Clause.text, hinputs, houtputs, hk.2, hc.2.2]

theorem not_mem_graphText {nodes : List Node} {c : Char} (hc : c ∉ ['[', ']', ' ', '=', ':', ';'])
    (htexts : ∀ n ∈ nodes, ∀ t ∈ n.graphTexts, c ∉ t.toList) : c ∉ (graphText nodes).toList := by
  simp only [List.mem_cons, List.not_mem_nil, or_false, not_or] at hc
  obtain ⟨hopen, hclose, hspace, hequals, hcolon, hsemicolon⟩ := hc
  apply not_mem_intercalate
  · simpa using hsemicolon
  · intro t ht
    obtain ⟨k, hk, rfl⟩ := List.mem_map.mp ht
    obtain ⟨n, hn, hclause⟩ := exists_node_of_mem_clauses hk
    have hwithout := Node.clause_without hclause ⟨hequals, hcolon⟩ (htexts n hn)
    exact Clause.not_mem_text hwithout ⟨hopen, hclose, hspace⟩

end MediaPipeline
